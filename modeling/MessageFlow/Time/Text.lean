import MessageFlow.Time.Timestamp

/-!
The written form of timestamps. Documents mark UTC with `Z`, columns written by themselves with
`+00:00`; reading accepts both, a bare date, and a count of seconds since 1970.
-/

namespace MessageFlow
namespace Timestamp

/-- The number in decimal, padded with zeros on the left. -/
def padded (width n : Nat) : List Char :=
  let digits := Nat.toDigits 10 n
  List.replicate (width - digits.length) '0' ++ digits

/-- The offset in hours and minutes. -/
def offsetText (minutes : Int) : List Char :=
  (if minutes < 0 then '-' else '+') ::
    padded 2 (minutes.natAbs / 60) ++ ':' :: padded 2 (minutes.natAbs % 60)

def civilText (t : CivilTime) : List Char :=
  padded 4 t.year ++ '-' :: padded 2 t.month ++ '-' :: padded 2 t.day ++
    'T' :: padded 2 t.hour ++ ':' :: padded 2 t.minute ++ ':' :: padded 2 t.second ++
    (if t.microsecond = 0 then [] else '.' :: padded 6 t.microsecond)

/-- The form used inside documents. -/
def text (t : Timestamp) : String :=
  let zone := match t.offset with
    | none => []
    | some minutes => if minutes = 0 then ['Z'] else offsetText minutes
  String.ofList (civilText t.toCivilTime ++ zone)

/-- The form used for columns that are written one by one. -/
def columnText (t : Timestamp) : String :=
  String.ofList (civilText t.toCivilTime ++ (t.offset.map offsetText).getD [])

def asciiDigit? (c : Char) : Option Nat :=
  if '0' ≤ c ∧ c ≤ '9' then some (c.toNat - 48) else none

/-- Reads exactly `count` digits. -/
def readDigits : Nat → Nat → List Char → Option (Nat × List Char)
  | 0, value, s => some (value, s)
  | count + 1, value, c :: s => do readDigits count (value * 10 + (← asciiDigit? c)) s
  | _ + 1, _, [] => none

def readChar (allowed : List Char) : List Char → Option (List Char)
  | c :: s => if allowed.contains c then some s else none
  | [] => none

/-- The first six digits of a fraction as microseconds; further digits are dropped. -/
def readFraction (s : List Char) : Option (Nat × List Char) :=
  let digits := s.takeWhile fun c => (asciiDigit? c).isSome
  if digits.isEmpty then none
  else
    let kept := (digits ++ List.replicate 6 '0').take 6
    some (kept.foldl (fun n c => n * 10 + (c.toNat - 48)) 0, s.drop digits.length)

/-- Seconds and microseconds; both may be left out. -/
def readSeconds : List Char → Option (Nat × Nat × List Char)
  | ':' :: s => do
    let (second, s) ← readDigits 2 0 s
    match s with
    | '.' :: s | ',' :: s =>
      let (microsecond, s) ← readFraction s
      some (second, microsecond, s)
    | _ => some (second, 0, s)
  | s => some (0, 0, s)

/-- The offset that ends the text. -/
def readOffset : List Char → Option (Option Int)
  | [] => some none
  | ['Z'] | ['z'] => some (some 0)
  | sign :: s => do
    let negative ← if sign = '+' then some false
      else if sign = '-' ∨ sign = '\u2212' then some true else none
    let (hours, s) ← readDigits 2 0 s
    let s := match s with
      | ':' :: rest => rest
      | _ => s
    let (minutes, s) ← readDigits 2 0 s
    if s.isEmpty ∧ minutes < 60 then
      let total : Int := hours * 60 + minutes
      some (some (if negative then -total else total))
    else none

def readDate (s : List Char) : Option ((Nat × Nat × Nat) × List Char) := do
  let (year, s) ← readDigits 4 0 s
  let (month, s) ← readDigits 2 0 (← readChar ['-'] s)
  let (day, s) ← readDigits 2 0 (← readChar ['-'] s)
  some ((year, month, day), s)

/-- A date, alone or followed by a time. -/
def readCivil (s : List Char) : Option CivilTime := do
  let ((year, month, day), s) ← readDate s
  if s.isEmpty then
    some {
      year, month, day
      hour := 0
      minute := 0
      second := 0
      microsecond := 0
      offset := none }
  else
    let (hour, s) ← readDigits 2 0 (← readChar ['T', 't', ' ', '_'] s)
    let (minute, s) ← readDigits 2 0 (← readChar [':'] s)
    let (second, microsecond, s) ← readSeconds s
    let offset ← readOffset s
    some { year, month, day, hour, minute, second, microsecond, offset }

/-- A count of seconds: a sign and digits. -/
def readEpoch (s : List Char) : Option Timestamp :=
  let (negative, digits) := match s with
    | '-' :: rest => (true, rest)
    | '+' :: rest => (false, rest)
    | _ => (false, s)
  if digits.isEmpty ∨ digits.any fun c => (asciiDigit? c).isNone then none
  else
    let count : Nat := digits.foldl (fun n c => n * 10 + (c.toNat - 48)) 0
    ofEpoch? (if negative then -(count : Int) else count)

/-- Reads a written timestamp; one that names no existing time is refused. -/
def read? (s : String) : Option Timestamp :=
  match readCivil s.toList with
  | some civil => ofCivil? civil
  | none => readEpoch s.toList

end Timestamp
end MessageFlow
