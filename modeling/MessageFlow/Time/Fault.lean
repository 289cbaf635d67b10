import MessageFlow.Time.Calendar

/-!
Why a text or a number is no date.
-/

namespace MessageFlow

inductive TimeFault where
  | tooShort
  | yearCharacter
  | monthCharacter
  | dayCharacter
  | dateSeparator
  | month
  | day
  | extraCharacters
  | beforeCalendar
  | afterCalendar
  | undefined
  deriving DecidableEq, Repr

namespace TimeFault

def text : TimeFault → String
  | .tooShort => "input is too short"
  | .yearCharacter => "invalid character in year"
  | .monthCharacter => "invalid character in month"
  | .dayCharacter => "invalid character in day"
  | .dateSeparator => "invalid date separator, expected `-`"
  | .month => "month value is outside expected range of 1-12"
  | .day => "day value is outside expected range"
  | .extraCharacters => "unexpected extra characters at the end of the input"
  | .beforeCalendar => "dates before 0000 are not supported as unix timestamps"
  | .afterCalendar => "dates after 9999 are not supported as unix timestamps"
  | .undefined => "NaN values not permitted"

/-- A number of seconds too far from 1970. -/
def ofSign (negative : Bool) : TimeFault := if negative then .beforeCalendar else .afterCalendar

def digitByte? (byte : UInt8) : Option Nat :=
  if 48 ≤ byte.toNat ∧ byte.toNat ≤ 57 then some (byte.toNat - 48) else none

/-- The number written by two bytes, or the fault of one that is no digit. -/
def twoDigits (fault : TimeFault) (a b : UInt8) : Except TimeFault Nat :=
  match digitByte? a, digitByte? b with
  | some tens, some ones => .ok (tens * 10 + ones)
  | _, _ => .error fault

def separator (byte : UInt8) : Except TimeFault Unit :=
  if byte.toNat = 45 then .ok () else .error .dateSeparator

/-- What is wrong with the first ten bytes of a date, or with there being more. -/
def ofBytes : List UInt8 → TimeFault
  | y₁ :: y₂ :: y₃ :: y₄ :: s₁ :: m₁ :: m₂ :: s₂ :: d₁ :: d₂ :: _ =>
    let checked : Except TimeFault TimeFault := do
      let century ← twoDigits .yearCharacter y₁ y₂
      let year ← twoDigits .yearCharacter y₃ y₄
      separator s₁
      let month ← twoDigits .monthCharacter m₁ m₂
      separator s₂
      let day ← twoDigits .dayCharacter d₁ d₂
      if month < 1 ∨ 12 < month then .error .month
      else if day < 1 ∨ Calendar.daysInMonth (century * 100 + year) month < day then .error .day
      else .ok .extraCharacters
    match checked with
    | .ok fault => fault
    | .error fault => fault
  | _ => .tooShort

/-- A text of a sign and digits, as the sign and the number. -/
def signedDigits? (s : List UInt8) : Option (Bool × Nat) :=
  let (negative, digits) := match s with
    | byte :: rest =>
      if byte.toNat = 45 then (true, rest) else if byte.toNat = 43 then (false, rest)
      else (false, s)
    | [] => (false, [])
  if digits.isEmpty then none
  else (digits.mapM digitByte?).map fun values =>
    (negative, values.foldl (fun n digit => n * 10 + digit) 0)

/-- Why a text is no date: a count of seconds is too far from 1970, anything else is malformed. -/
def ofText (s : String) : TimeFault :=
  let bytes := s.toUTF8.toList
  match signedDigits? bytes with
  | some (negative, count) =>
    if count ≤ 0x7fffffffffffffff then ofSign negative else ofBytes bytes
  | none => ofBytes bytes

end TimeFault
end MessageFlow
