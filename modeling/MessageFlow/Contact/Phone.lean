import MessageFlow.Text.Classes

/-!
The first phone number in a text: an optional country digit with an optional plus sign, then 7 to 14
digits with separators among them. Matches with fewer than ten digits are passed over.
-/

namespace MessageFlow.Phone

def isSeparator (c : Char) : Bool :=
  Text.isBlank c || c == '-' || c == '.' || c == '(' || c == ')'

def minDigits : Nat := 10

/-- Takes at most `limit` digits with the separators around them; gives the digits and what
follows. -/
def takeDigits : Nat → List Char → List Char × List Char
  | _, [] => ([], [])
  | 0, c :: rest => if isSeparator c then takeDigits 0 rest else ([], c :: rest)
  | limit + 1, c :: rest =>
    if isSeparator c then takeDigits (limit + 1) rest
    else if Text.isDigit c then
      let (digits, after) := takeDigits limit rest
      (c :: digits, after)
    else ([], c :: rest)

/-- The digits of a number without its country digit. -/
def body? (s : List Char) : Option (List Char × List Char) :=
  let (digits, after) := takeDigits 14 s
  if 7 ≤ digits.length then some (digits, after) else none

def isCountryDigit (c : Char) : Bool := '1' ≤ c && c ≤ '9'

/-- The country digit that starts the text, with its plus sign. -/
def country? : List Char → Option (List Char × List Char)
  | '+' :: c :: rest => if isCountryDigit c then some (['+', c], rest) else none
  | c :: rest => if isCountryDigit c then some ([c], rest) else none
  | [] => none

/-- The number that starts here, with a country digit if that leaves enough digits. -/
def matchHere (s : List Char) : Option (List Char × List Char) :=
  let withCountry := do
    let (country, rest) ← country? s
    let (digits, after) ← body? rest
    some (country ++ digits, after)
  withCountry <|> body? s

/-- The first match with enough digits, within a budget of at least the length of the text. -/
def search : Nat → List Char → Option (List Char)
  | 0, _ => none
  | _, [] => none
  | budget + 1, c :: rest =>
    match matchHere (c :: rest) with
    | some (number, after) =>
      if minDigits ≤ (number.filter Text.isDigit).length then some number else search budget after
    | none => search budget rest

/-- The first number with at least ten digits, without its separators. -/
def extract (s : String) : Option String :=
  (search (s.length + 1) s.toList).map String.ofList

end MessageFlow.Phone
