import MessageFlow.Text.CaseTable
import MessageFlow.Text.Classes

/-!
Full lower-casing: a capital I with a dot becomes two characters, and a capital sigma that ends a
word becomes a final sigma.
-/

namespace MessageFlow.Text

def isCased (c : Char) : Bool := inRanges casedRanges c.toNat

def isCaseIgnorable (c : Char) : Bool := inRanges caseIgnorableRanges c.toNat

/-- The lower case of one character, without regard to its neighbours. -/
def lowerChar (c : Char) : Char :=
  if c.toNat < 0x80 then c.toLower
  else
    match lowerRuns.find? fun (first, last, step, _) =>
        first ≤ c.toNat && c.toNat ≤ last && (c.toNat - first) % step == 0 with
    | some (_, _, _, shift) => Char.ofNat ((c.toNat : Int) + shift).toNat
    | none => c

/-- Whether the nearest character that is not case-ignorable is cased. -/
def meetsCased (s : List Char) : Bool :=
  match s.dropWhile isCaseIgnorable with
  | [] => false
  | c :: _ => isCased c

/-- Lowers the text after `before`, which is held last character first. -/
def lowerFrom : List Char → List Char → List Char
  | _, [] => []
  | before, c :: rest =>
    let lowered :=
      if c = 'İ' then ['i', '\u0307']
      else if c = 'Σ' then [if meetsCased before && !meetsCased rest then 'ς' else 'σ']
      else [lowerChar c]
    lowered ++ lowerFrom (c :: before) rest

def lower (s : String) : String := String.ofList (lowerFrom [] s.toList)

end MessageFlow.Text
