import MessageFlow.Web.Domain.MarkTable

/-!
The composed form of labels: marks on one character stand in the order of their classes, and a
character with a mark is one character where there is one for it.
-/

namespace MessageFlow.Domain

/-- The class of a mark, 0 for other characters and for marks that keep their place. -/
def markClass (c : Char) : Nat :=
  ((markRanges.find? fun (first, last, _) => first ≤ c.toNat && c.toNat ≤ last).map
    fun (_, _, value) => value).getD 0

/-- The base and the mark for which a character stands. -/
def parts? (c : Char) : Option (Char × Char) :=
  (composites.find? fun (whole, _, _) => whole == c.toNat).map
    fun (_, base, mark) => (Char.ofNat base, Char.ofNat mark)

/-- The character that stands for a base with a mark. -/
def composite? (base mark : Char) : Option Char :=
  (composites.find? fun (_, b, m) => b == base.toNat && m == mark.toNat).map
    fun (whole, _, _) => Char.ofNat whole

/-- The most marks for which one character stands. -/
def maxMarks : Nat := 3

/-- A character with up to `depth` of its marks apart. -/
def expand : (depth : Nat) → Char → List Char
  | 0, c => [c]
  | depth + 1, c => match parts? c with
    | some (base, mark) => expand depth base ++ [mark]
    | none => [c]

/-- Puts a character in front, behind the marks of lower classes when it is a mark itself. -/
def insertMark (c : Char) : List Char → List Char
  | [] => [c]
  | d :: rest =>
    if 0 < markClass d ∧ markClass d < markClass c then d :: insertMark c rest else c :: d :: rest

/-- The characters with all marks apart and in order. -/
def decomposed (s : List Char) : List Char := (s.flatMap (expand maxMarks)).foldr insertMark []

/-- Composes what follows a base; `held` are the marks after it that did not compose, and `before`
is the class of the last one. A mark behind one of the same or a higher class does not compose. -/
def composeFrom (base : Char) (held : List Char) (before : Nat) : List Char → List Char
  | [] => base :: held
  | c :: rest =>
    let reaches := held.isEmpty || before < markClass c
    match if reaches then composite? base c else none with
    | some whole => composeFrom whole held before rest
    | none =>
      if markClass c = 0 then base :: held ++ composeFrom c [] 0 rest
      else composeFrom base (held ++ [c]) (markClass c) rest

def composed (s : List Char) : List Char :=
  match decomposed s with
  | [] => []
  | c :: rest => composeFrom c [] 0 rest

end MessageFlow.Domain
