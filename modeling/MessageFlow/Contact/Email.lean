import MessageFlow.Text.Lower

/-!
The first email address in a text: one or more local characters, an at sign, a domain and a final
label of at least two letters. Of the addresses that start leftmost the longest is taken.
-/

namespace MessageFlow.Email

def isLetter (c : Char) : Bool := ('a' ≤ c && c ≤ 'z') || ('A' ≤ c && c ≤ 'Z')

def isDomainChar (c : Char) : Bool := isLetter c || ('0' ≤ c && c ≤ '9') || c == '.' || c == '-'

def isLocalChar (c : Char) : Bool := isDomainChar c || c == '_' || c == '%' || c == '+'

/-- The final label that starts the text, if it has two letters. -/
def finalLabel? (s : List Char) : Option (List Char) :=
  let letters := s.takeWhile isLetter
  if 2 ≤ letters.length then some letters else none

/-- The longest beginning of a stretch of domain characters that ends in a point and a final label;
`started` tells whether a domain character has come before. -/
def domain? : Bool → List Char → Option (List Char)
  | _, [] => none
  | started, c :: rest =>
    match domain? true rest with
    | some found => some (c :: found)
    | none =>
      if started && c == '.' then (finalLabel? rest).map ('.' :: ·) else none

/-- The first address; stretches of local characters are tried one after the other, within a budget
of at least the length of the text. -/
def search : Nat → List Char → Option (List Char)
  | 0, _ => none
  | _, [] => none
  | budget + 1, c :: rest =>
    let s := c :: rest
    let name := s.takeWhile isLocalChar
    if name.isEmpty then search budget rest
    else
      match s.drop name.length with
      | '@' :: after =>
        match domain? false (after.takeWhile isDomainChar) with
        | some domain => some (name ++ '@' :: domain)
        | none => search budget ('@' :: after)
      | after => search budget after

/-- The first address in the text, in lower case. -/
def extract (s : String) : Option String :=
  (search (s.length + 1) s.toList).map fun found => Text.lower (String.ofList found)

end MessageFlow.Email
