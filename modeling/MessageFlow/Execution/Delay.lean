import MessageFlow.Flow.Kind
import MessageFlow.Json.Basic
import MessageFlow.Text.Classes
import MessageFlow.Text.Quoted
import MessageFlow.Time.Timestamp

/-!
Delays: an amount and a unit become milliseconds, and milliseconds from now become a time. Amounts
that are no numbers and times that cannot be written are refused.
-/

namespace MessageFlow

inductive DelayError where
  | missingAmount
  | recordAmount
  | listAmount
  /-- A text amount; the excerpt is the beginning of its quoted repetition. -/
  | notNumeral (excerpt : String)
  | tooManyDigits (count : Nat)
  | infiniteAmount
  | undefinedAmount
  | unusableUnit (kind : String)
  | tooLarge
  | tooManyDays (days : Int)
  | outOfCalendar
  deriving DecidableEq, Repr

namespace DelayError

def message : DelayError → String
  | .missingAmount => "unsupported operand type(s) for *: 'NoneType' and 'int'"
  | .recordAmount => "unsupported operand type(s) for *: 'dict' and 'int'"
  | .listAmount =>
    "int() argument must be a string, a bytes-like object or a real number, not 'list'"
  | .notNumeral excerpt => "invalid literal for int() with base 10: " ++ excerpt
  | .tooManyDigits count =>
    "Exceeds the limit (4300 digits) for integer string conversion: value has " ++ toString count ++
      " digits; use sys.set_int_max_str_digits() to increase the limit"
  | .infiniteAmount => "cannot convert float infinity to integer"
  | .undefinedAmount => "cannot convert float NaN to integer"
  | .unusableUnit kind => "unhashable type: '" ++ kind ++ "'"
  | .tooLarge => "Python int too large to convert to C int"
  | .tooManyDays days => "days=" ++ toString days ++ "; must have magnitude <= 999999999"
  | .outOfCalendar => "date value out of range"

end DelayError

namespace Delay

/-- The unit that a value names; one that names none stands for minutes. -/
def unitOf : Json → Except DelayError DelayUnit
  | .text word => .ok ((DelayUnit.ofText? word).getD .minutes)
  | .list _ => .error (.unusableUnit "list")
  | .record _ => .error (.unusableUnit "dict")
  | _ => .ok .minutes

def excerptLength : Nat := 200

/-- The beginning of the quoted repetition of a text. -/
def excerpt (s : List Char) : String :=
  let piece := Text.escaped s
  let copies := (List.replicate (excerptLength / piece.length + 1) piece).flatten
  String.ofList ((Text.quoteFor s :: copies).take excerptLength)

/-- Why a text, repeated `factor` times, is no integer: it is no numeral, or has too many digits. -/
def textError (s : List Char) (factor : Nat) : DelayError :=
  if s.isEmpty then .notNumeral (Text.quoted "")
  else if Text.isGrouped s then .tooManyDigits ((s.filter Text.isDigit).length * factor)
  else
    let unsigned := match Text.dropBlanks s with
      | '+' :: rest | '-' :: rest => rest
      | rest => rest
    let run := unsigned.takeWhile fun c => Text.isDigit c || c == '_'
    let digits := (run.filter Text.isDigit).length
    if Text.isGrouped run ∧ Text.maxNumeralDigits < digits then .tooManyDigits digits
    else .notNumeral (excerpt s)

/-- The delay in milliseconds, rounded toward zero. -/
def milliseconds (amount unit : Json) : Except DelayError Int := do
  let factor := (← unitOf unit).milliseconds
  match amount with
  | .int value => .ok (value * factor)
  | .bool value => .ok (if value then factor else 0)
  | .real value => match value.scale factor with
    | .infinite _ => .error .infiniteAmount
    | .nan => .error .undefinedAmount
    | product => .ok (product.truncate.getD 0)
  | .text value => .error (textError value.toList factor)
  | .null => .error .missingAmount
  | .record _ => .error .recordAmount
  | .list _ => .error .listAmount

def maxDays : Int := 999999999

/-- The time that many microseconds after `now`. -/
def timeAfter (now : Timestamp) (microseconds : Int) : Except DelayError Timestamp :=
  let days := microseconds / 86400000000
  if days < -2147483648 ∨ 2147483647 < days then .error .tooLarge
  else if days < -maxDays ∨ maxDays < days then .error (.tooManyDays days)
  else
    match now.addMicroseconds? microseconds with
    | some t => .ok t
    | none => .error .outOfCalendar

/-- The time that many milliseconds after `now`. -/
def wakeTime (now : Timestamp) (amount : Int) : Except DelayError Timestamp :=
  timeAfter now (amount * 1000)

/-- A number of seconds in microseconds. -/
def microseconds (seconds : Number) : Except DelayError Int :=
  match seconds.millionths? with
  | some amount => .ok amount
  | none => .error (if seconds = .real .nan then .undefinedAmount else .infiniteAmount)

end Delay
end MessageFlow
