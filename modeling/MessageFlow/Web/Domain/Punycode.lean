/-!
Punycode: a text as its ASCII characters followed by a numeral for every other character, in the
order of their code points. A numeral is the distance from the insertion before it, in base 36 with
the lowest digit first; a digit below the threshold of its place ends it, and the thresholds adapt
to the distances seen.
-/

namespace MessageFlow.Punycode

/-- The digits are the letters, for 0 to 25, and then the decimal digits. -/
def digitChar (value : Nat) : Char :=
  Char.ofNat (if value < 26 then 0x61 + value else 0x30 + (value - 26))

def digitValue? (c : Char) : Option Nat :=
  if 'a' ≤ c ∧ c ≤ 'z' then some (c.toNat - 0x61)
  else if 'A' ≤ c ∧ c ≤ 'Z' then some (c.toNat - 0x41)
  else if '0' ≤ c ∧ c ≤ '9' then some (c.toNat - 0x30 + 26)
  else none

theorem digitValue?_digitChar {value : Nat} (isDigit : value < 36) :
    digitValue? (digitChar value) = some value := by
  have all : ∀ value < 36, digitValue? (digitChar value) = some value := by decide
  exact all value isDigit

/-- The threshold of a place; places are 36, 72 and so on. -/
def threshold (bias place : Nat) : Nat := min (max (place - bias) 1) 26

theorem threshold_pos (bias place : Nat) : 0 < threshold bias place := by
  unfold threshold; omega

theorem threshold_le (bias place : Nat) : threshold bias place ≤ 26 := by
  unfold threshold; omega

def initialBias : Nat := 72

/-- The bias for a distance, with 36 for every division by 35 before. -/
def biasOf (distance : Nat) (shift : Nat) : Nat :=
  if 455 < distance then biasOf (distance / 35) (shift + 36)
  else shift + 36 * distance / (distance + 38)
termination_by distance
decreasing_by omega

/-- The bias after an insertion that leaves `length` characters. -/
def adapt (distance length : Nat) (isFirst : Bool) : Nat :=
  let damped := distance / (if isFirst then 700 else 2)
  biasOf (damped + damped / length) 0

def numeral (bias place value : Nat) : List Char :=
  let t := threshold bias place
  if value < t then [digitChar value]
  else
    digitChar (t + (value - t) % (36 - t)) :: numeral bias (place + 36) ((value - t) / (36 - t))
termination_by value
decreasing_by
  have := threshold_pos bias place
  have := Nat.div_le_self (value - threshold bias place) (36 - threshold bias place)
  omega

/-- What is written so far, the distance since the last insertion, and the characters inserted. -/
structure Writer where
  written : List Char
  distance : Nat
  bias : Nat
  length : Nat
  isFirst : Bool

/-- Passes over a lower character or inserts one with the code point `point`. -/
def Writer.pass (point : Nat) (writer : Writer) (c : Char) : Writer :=
  if c.toNat < point then { writer with distance := writer.distance + 1 }
  else if c.toNat = point then {
    written := writer.written ++ numeral writer.bias 36 writer.distance
    distance := 0
    bias := adapt writer.distance (writer.length + 1) writer.isFirst
    length := writer.length + 1
    isFirst := false }
  else writer

/-- Inserts the characters with the given code points, in ascending order and none below `next`. -/
def writePoints (s : List Char) : (next : Nat) → List Nat → Writer → Writer
  | _, [], writer => writer
  | next, point :: points, writer =>
    let reached :=
      { writer with distance := writer.distance + (point - next) * (writer.length + 1) }
    let passed := s.foldl (Writer.pass point) reached
    writePoints s (point + 1) points { passed with distance := passed.distance + 1 }

def isBasic (c : Char) : Bool := c.toNat < 0x80

def encode (s : List Char) : List Char :=
  let basic := s.filter isBasic
  let points := ((s.filter fun c => !isBasic c).map Char.toNat).eraseDups.mergeSort (· ≤ ·)
  let separator := if basic.isEmpty then [] else ['-']
  let writer := writePoints s 0x80 points ⟨[], 0, initialBias, basic.length, true⟩
  basic ++ separator ++ writer.written

/-- Reads a numeral: its value, in units of `weight` and added to `value`, and what follows it. -/
def readNumeral (bias : Nat) : (place weight value : Nat) → List Char → Option (Nat × List Char)
  | _, _, _, [] => none
  | place, weight, value, c :: rest =>
    match digitValue? c with
    | none => none
    | some digit =>
      let t := threshold bias place
      let sum := value + digit * weight
      if digit < t then some (sum, rest)
      else readNumeral bias (place + 36) (weight * (36 - t)) sum rest

theorem length_readNumeral {bias : Nat} {s rest : List Char} {place weight value sum : Nat}
    (read : readNumeral bias place weight value s = some (sum, rest)) : rest.length < s.length := by
  induction s generalizing place weight value with
  | nil => simp [readNumeral] at read
  | cons c tail ih =>
    unfold readNumeral at read
    split at read
    · cases read
    · dsimp only at read
      split at read
      · cases read; simp
      · exact Nat.lt_succ_of_lt (ih read)

/-- Makes the insertions that the numerals describe, from code point `point` and position on. -/
def insertAll (s : List Char) (point position bias : Nat) (isFirst : Bool) (numerals : List Char) :
    Option (List Char) :=
  if numerals.isEmpty then some s
  else
    match _read : readNumeral bias 36 1 0 numerals with
    | none => none
    | some (distance, rest) =>
      let length := s.length + 1
      let point := point + (position + distance) / length
      let position := (position + distance) % length
      if point.isValidChar then
        insertAll (s.insertIdx position (Char.ofNat point)) point (position + 1)
          (adapt distance length isFirst) false rest
      else none
termination_by numerals.length
decreasing_by exact length_readNumeral _read

/-- The text that is written so; the ASCII characters stand before the last hyphen. -/
def decode? (s : List Char) : Option (List Char) :=
  let numerals := (s.reverse.takeWhile (· != '-')).reverse
  let basic := s.take (s.length - numerals.length - 1)
  insertAll basic 0x80 0 initialBias true numerals

end MessageFlow.Punycode
