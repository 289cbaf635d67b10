import MessageFlow.Json.Basic

/-!
Reading JSON text. A number with a point or an exponent is a binary number, any other an integer;
of two members with one name the later value stands at the earlier place. The words for infinity and
for no number are read as well.
-/

namespace MessageFlow.Json

def isSpace (c : Char) : Bool := c == ' ' || c == '\t' || c == '\n' || c == '\r'

def skipSpace (s : List Char) : List Char := s.dropWhile isSpace

def isAsciiDigit (c : Char) : Bool := '0' ≤ c && c ≤ '9'

def naturalOf (digits : List Char) : Nat := digits.foldl (fun n c => n * 10 + (c.toNat - 48)) 0

/-- The longest run of digits and what follows it. -/
def spanDigits (s : List Char) : List Char × List Char :=
  (s.takeWhile isAsciiDigit, s.dropWhile isAsciiDigit)

/-- An exponent part, none when there is none or it has no digits. -/
def readExponent (s : List Char) : Option (Int × List Char) :=
  match s with
  | 'e' :: s | 'E' :: s =>
    let (negative, s) := match s with
      | '-' :: rest => (true, rest)
      | '+' :: rest => (false, rest)
      | _ => (false, s)
    let (digits, rest) := spanDigits s
    if digits.isEmpty then none
    else some (if negative then -(naturalOf digits : Int) else naturalOf digits, rest)
  | _ => none

def readFractionDigits (s : List Char) : Option (List Char × List Char) :=
  match s with
  | '.' :: s =>
    let (digits, rest) := spanDigits s
    if digits.isEmpty then none else some (digits, rest)
  | _ => none

def readNumber (s : List Char) : Option (Json × List Char) :=
  let (negative, s) := match s with
    | '-' :: rest => (true, rest)
    | _ => (false, s)
  let (whole, rest) := spanDigits s
  if whole.isEmpty then none
  else
    let fraction := readFractionDigits rest
    let rest := (fraction.map (·.2)).getD rest
    let exponent := readExponent rest
    let rest := (exponent.map (·.2)).getD rest
    match fraction, exponent with
    | none, none =>
      let n : Int := naturalOf whole
      some (.int (if negative then -n else n), rest)
    | _, _ =>
      let places := (fraction.map (·.1)).getD []
      let power := (exponent.map (·.1)).getD 0
      some (.real (.ofDecimal negative (naturalOf (whole ++ places)) (power - places.length)), rest)

def hexValue? (c : Char) : Option Nat :=
  if '0' ≤ c ∧ c ≤ '9' then some (c.toNat - 48)
  else if 'a' ≤ c ∧ c ≤ 'f' then some (c.toNat - 87)
  else if 'A' ≤ c ∧ c ≤ 'F' then some (c.toNat - 55)
  else none

def readHex4 : List Char → Option (Nat × List Char)
  | a :: b :: c :: d :: rest => do
    some ((((← hexValue? a) * 16 + (← hexValue? b)) * 16 + (← hexValue? c)) * 16 + (← hexValue? d),
      rest)
  | _ => none

/-- The character of an escape after the backslash; two halves of a pair make one character. -/
def readEscape : List Char → Option (Char × List Char)
  | '"' :: rest => some ('"', rest)
  | '\\' :: rest => some ('\\', rest)
  | '/' :: rest => some ('/', rest)
  | 'b' :: rest => some ('\x08', rest)
  | 'f' :: rest => some ('\x0c', rest)
  | 'n' :: rest => some ('\n', rest)
  | 'r' :: rest => some ('\r', rest)
  | 't' :: rest => some ('\t', rest)
  | 'u' :: rest => do
    let (unit, rest) ← readHex4 rest
    if 0xd800 ≤ unit ∧ unit < 0xdc00 then
      match rest with
      | '\\' :: 'u' :: more =>
        let (low, more) ← readHex4 more
        some (Char.ofNat (0x10000 + (unit - 0xd800) * 0x400 + (low - 0xdc00)), more)
      | _ => none
    else some (Char.ofNat unit, rest)
  | _ => none

/-- The rest of a text after its opening quote; `seen` holds its characters, last first. -/
def readText : Nat → List Char → List Char → Option (String × List Char)
  | 0, _, _ => none
  | _ + 1, seen, '"' :: rest => some (String.ofList seen.reverse, rest)
  | fuel + 1, seen, '\\' :: rest => do
    let (c, rest) ← readEscape rest
    readText fuel (c :: seen) rest
  | fuel + 1, seen, c :: rest => readText fuel (c :: seen) rest
  | _ + 1, _, [] => none

mutual

def readValue : Nat → List Char → Option (Json × List Char)
  | 0, _ => none
  | fuel + 1, s =>
    match skipSpace s with
    | 'n' :: 'u' :: 'l' :: 'l' :: rest => some (.null, rest)
    | 't' :: 'r' :: 'u' :: 'e' :: rest => some (.bool true, rest)
    | 'f' :: 'a' :: 'l' :: 's' :: 'e' :: rest => some (.bool false, rest)
    | 'N' :: 'a' :: 'N' :: rest => some (.real .nan, rest)
    | '-' :: 'I' :: 'n' :: 'f' :: 'i' :: 'n' :: 'i' :: 't' :: 'y' :: rest =>
      some (.real (.infinite true), rest)
    | 'I' :: 'n' :: 'f' :: 'i' :: 'n' :: 'i' :: 't' :: 'y' :: rest =>
      some (.real (.infinite false), rest)
    | '"' :: rest => (readText (rest.length + 1) [] rest).map fun (t, rest) => (.text t, rest)
    | '[' :: rest =>
      match skipSpace rest with
      | ']' :: rest => some (.list [], rest)
      | rest => readItems fuel [] rest
    | '{' :: rest =>
      match skipSpace rest with
      | '}' :: rest => some (.record [], rest)
      | rest => readMembers fuel [] rest
    | rest => readNumber rest

/-- Items up to the closing bracket; `seen` holds the earlier ones, last first. -/
def readItems : Nat → List Json → List Char → Option (Json × List Char)
  | 0, _, _ => none
  | fuel + 1, seen, s => do
    let (item, rest) ← readValue fuel s
    match skipSpace rest with
    | ',' :: rest => readItems fuel (item :: seen) rest
    | ']' :: rest => some (.list (item :: seen).reverse, rest)
    | _ => none

/-- Members up to the closing brace, added to the earlier ones. -/
def readMembers : Nat → Row → List Char → Option (Json × List Char)
  | 0, _, _ => none
  | fuel + 1, seen, s =>
    match skipSpace s with
    | '"' :: rest => do
      let (key, rest) ← readText (rest.length + 1) [] rest
      match skipSpace rest with
      | ':' :: rest =>
        let (value, rest) ← readValue fuel rest
        let seen := Entries.set seen key value
        match skipSpace rest with
        | ',' :: rest => readMembers fuel seen rest
        | '}' :: rest => some (.record seen, rest)
        | _ => none
      | _ => none
    | _ => none

end

/-- Reads a text that holds one value and nothing else. -/
def read? (s : String) : Option Json :=
  let chars := s.toList
  match readValue (2 * chars.length + 2) chars with
  | some (value, rest) => if (skipSpace rest).isEmpty then some value else none
  | none => none

end MessageFlow.Json
