import MessageFlow.Document.Validated
import MessageFlow.Json.Reader
import MessageFlow.Text.Classes
import MessageFlow.Time.Text

/-!
Readers of single values. Numbers, truth values and times are also read from text.
-/

namespace MessageFlow

/-- Reads a value, or refuses it with issues located relative to it. -/
abbrev ValueReader (α : Type) := Json → Validated α

namespace Document

def asJson : ValueReader Json := .valid

def asText : ValueReader String
  | .text value => .valid value
  | value => .refuse .textType value

def nullable (read : ValueReader α) : ValueReader (Option α)
  | .null => .valid none
  | value => (read value).map some

def trueWords : List String := ["1", "on", "t", "true", "y", "yes"]
def falseWords : List String := ["0", "off", "f", "false", "n", "no"]

/-- Whether an integer fits 64 bits. -/
def isWord (n : Int) : Bool := -0x8000000000000000 ≤ n && n < 0x8000000000000000

/-- The integer that a binary number stands for; the bounds of 64 bits are out of its range. -/
def intOfReal (value : Binary64) : Except IssueKind Int :=
  match value, value.toInt? with
  | .finite .., some n =>
    if -0x8000000000000000 < n ∧ n < 0x8000000000000000 then .ok n else .error .intParsingSize
  | .finite .., none => .error .intFromReal
  | _, _ => .error .finiteNumber

def boolOfInt (n : Int) (input : Json) : Validated Bool :=
  if n = 0 then .valid false
  else if n = 1 then .valid true
  else .refuse .boolParsing input

def asBool : ValueReader Bool
  | .bool value => .valid value
  | .int n => if isWord n then boolOfInt n (.int n) else .refuse .boolType (.int n)
  | .real value => match intOfReal value with
    | .ok n => boolOfInt n (.real value)
    | .error _ => .refuse .boolType (.real value)
  | .text value =>
    let word := String.ofList (value.toList.map Char.toLower)
    if trueWords.contains word then .valid true
    else if falseWords.contains word then .valid false
    else .refuse .boolParsing (.text value)
  | value => .refuse .boolType value

/-- White space around a numeral: a blank other than an information separator. -/
def isNumeralSpace (c : Char) : Bool := Text.isBlank c && !(0x1c ≤ c.toNat && c.toNat ≤ 0x1f)

def trimNumeral (s : String) : List Char :=
  (s.toList.dropWhile isNumeralSpace).reverse.dropWhile isNumeralSpace |>.reverse

/-- Whether underscores stand one by one within the text. -/
def groupsDigits : List Char → Bool
  | [] => false
  | [c] => c != '_'
  | c :: d :: rest => !(c == '_' && d == '_') && groupsDigits (d :: rest)

/-- The text without its underscores, if they only group digits. -/
def ungroup (s : List Char) : List Char :=
  if s.head? != some '_' && groupsDigits s then s.filter (· != '_') else s

/-- The text without the zeros that lead it, among which underscores may stand; none if it does not
start with a digit. The last zero stays when no other digit follows. -/
def dropLeadingZeros : List Char → Option (List Char)
  | '0' :: rest =>
    let zeros := rest.takeWhile fun c => c == '0' || c == '_'
    let last := zeros.getLast?.getD '0'
    match rest.drop zeros.length with
    | [] => some [last]
    | '.' :: fraction => some (last :: '.' :: fraction)
    | c :: digits => if Json.isAsciiDigit c then some (c :: digits) else none
  | c :: rest => if Json.isAsciiDigit c then some (c :: rest) else none
  | [] => none

/-- The text without a decimal point and the zeros, at least one, that follow it to the end. -/
def dropZeroFraction (s : List Char) : List Char :=
  let whole := s.takeWhile (· != '.')
  match s.drop whole.length with
  | '.' :: '0' :: zeros => if zeros.all (· == '0') then whole else s
  | _ => s

/-- Whether the text is a number in digits that begins with zero only if it is zero. -/
def isPlainNumeral : List Char → Bool
  | [] => false
  | ['0'] => true
  | c :: digits => c != '0' && (c :: digits).all Json.isAsciiDigit

/-- A text after its sign, and whether that is a minus. -/
def splitSign : List Char → Bool × List Char
  | '-' :: rest => (true, rest)
  | '+' :: rest => (false, rest)
  | rest => (false, rest)

/-- The digits of a written integer and whether it is negative. -/
def numeral? (s : String) : Option (Bool × List Char) := do
  let (negative, unsigned) := splitSign (trimNumeral s)
  let digits := ungroup (dropZeroFraction (← dropLeadingZeros unsigned))
  if isPlainNumeral digits then some (negative, digits) else none

def maxNumeralDigits : Nat := 4300

def asInt : ValueReader Int
  | .int value => .valid value
  | .bool value => .valid (if value then 1 else 0)
  | .real value => match intOfReal value with
    | .ok n => .valid n
    | .error kind => .refuse kind (.real value)
  | .text value => match numeral? value with
    | none => .refuse .intParsing (.text value)
    | some (negative, digits) =>
      if maxNumeralDigits < digits.length then .refuse .intParsingSize (.text value)
      else
        let n : Int := Json.naturalOf digits
        .valid (if negative then -n else n)
  | value => .refuse .intType value

/-- A number in digits: digits before or after a point or both, and an exponent that may be left
out. -/
def decimalOfChars (negative : Bool) (s : List Char) : Option Binary64 :=
  let (whole, rest) := Json.spanDigits s
  let (places, rest) := match rest with
    | '.' :: rest => Json.spanDigits rest
    | _ => ([], rest)
  if whole.isEmpty ∧ places.isEmpty then none
  else
    let digits := Json.naturalOf (whole ++ places)
    match rest with
    | [] => some (.ofDecimal negative digits (-places.length))
    | _ => match Json.readExponent rest with
      | some (power, []) => some (.ofDecimal negative digits (power - places.length))
      | _ => none

/-- A number written with digits, or by the word for infinity or for no number. -/
def realOfChars (s : List Char) : Option Binary64 :=
  let (negative, body) := splitSign s
  let word := String.ofList (body.map Char.toLower)
  if word = "inf" ∨ word = "infinity" then some (.infinite negative)
  else if word = "nan" then some .nan
  else decimalOfChars negative body

/-- A number written in a text; one whose digits are grouped stands without blanks. -/
def realOfText (s : String) : Option Binary64 :=
  (realOfChars (trimNumeral s)).or (realOfChars (ungroup s.toList))

def asReal : ValueReader Binary64
  | .real value => .valid value
  | .int value => match Binary64.ofInt value with
    | .infinite _ => .refuse .realType (.int value)
    | nearest => .valid nearest
  | .bool value => .valid (.ofInt (if value then 1 else 0))
  | .text value => match realOfText value with
    | some x => .valid x
    | none => .refuse .realParsing (.text value)
  | value => .refuse .realType value

/-- A count of seconds that begins with a sign, digits and a point, as a binary number. -/
def countOfText (s : String) : Option Binary64 :=
  let (negative, body) := splitSign s.toList
  match body.dropWhile Json.isAsciiDigit with
  | '.' :: _ => decimalOfChars negative body
  | _ => none

/-- The time of a written date, or of a written count of seconds. -/
def timeOfText (s : String) : Option Timestamp :=
  (Timestamp.read? s).or ((countOfText s).bind Timestamp.ofEpochReal?)

def asTime : ValueReader Timestamp
  | .text value => match timeOfText value with
    | some t => .valid t
    | none => .refuse (.timeFromDateParsing (.ofText value)) (.text value)
  | .int value => match Timestamp.ofEpoch? value with
    | some t => .valid t
    | none => match Binary64.ofInt value with
      | .infinite _ => .refuse .timeType (.int value)
      | _ => .refuse (.timeParsing (.ofSign (value < 0))) (.int value)
  | .real value => match Timestamp.ofEpochReal? value with
    | some t => .valid t
    | none =>
      let fault := if value = .nan then .undefined else .ofSign value.isNegative
      .refuse (.timeParsing fault) (.real value)
  | value => .refuse .timeType value

def listOf (read : ValueReader α) : ValueReader (List α)
  | .list values => Validated.items read 0 values
  | value => .refuse .listType value

def asRecord : ValueReader Row
  | .record fields => .valid fields
  | value => .refuse .recordType value

/-- One of the allowed words. -/
def oneOf (allowed : List String) (ofText? : String → Option α) : ValueReader α
  | .text value => match ofText? value with
    | some a => .valid a
    | none => .refuse (.choice allowed) (.text value)
  | value => .refuse (.choice allowed) value

end Document
end MessageFlow
