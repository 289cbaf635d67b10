import MessageFlow.Number.Binary64
import MessageFlow.Time.Calendar

/-!
Points in time as they are written down: a civil date and time with an optional offset from UTC.
A timestamp without an offset counts as UTC when instants are compared.
-/

namespace MessageFlow

/-- A date and time of day that exist, with an offset of less than a day. -/
structure CivilTime where
  year : Nat
  month : Nat
  day : Nat
  hour : Nat
  minute : Nat
  second : Nat
  microsecond : Nat
  /-- The offset from UTC in minutes. -/
  offset : Option Int
  deriving DecidableEq, Repr

def CivilTime.Valid (t : CivilTime) : Prop :=
  1 ≤ t.year ∧ t.year ≤ 9999 ∧ 1 ≤ t.month ∧ t.month ≤ 12 ∧
  1 ≤ t.day ∧ t.day ≤ Calendar.daysInMonth t.year t.month ∧
  t.hour < 24 ∧ t.minute < 60 ∧ t.second < 60 ∧ t.microsecond < 1000000 ∧
  (t.offset.getD 0).natAbs < 1440

instance (t : CivilTime) : Decidable t.Valid := by unfold CivilTime.Valid; infer_instance

structure Timestamp extends CivilTime where
  valid : toCivilTime.Valid
  deriving DecidableEq

namespace Timestamp

instance : Inhabited Timestamp := ⟨⟨1970, 1, 1, 0, 0, 0, 0, some 0⟩, by decide⟩

def ofCivil? (t : CivilTime) : Option Timestamp :=
  if h : t.Valid then some ⟨t, h⟩ else none

def microsecondsPerDay : Nat := 86400000000

/-- Microseconds of local time since the beginning of day 0. -/
def localMicroseconds (t : Timestamp) : Int :=
  let days := Calendar.dayNumber t.year t.month t.day
  let seconds := ((days * 24 + t.hour) * 60 + t.minute) * 60 + t.second
  seconds * 1000000 + t.microsecond

/-- Microseconds of UTC since the beginning of day 0. -/
def instant (t : Timestamp) : Int :=
  t.localMicroseconds - t.offset.getD 0 * 60000000

/-- The timestamp with the given local time, if its year is from 1 to 9999. -/
def ofLocalMicroseconds (microseconds : Int) (offset : Option Int) : Option Timestamp :=
  let days := microseconds / microsecondsPerDay
  let rest := (microseconds % microsecondsPerDay).toNat
  let (year, month, day) := Calendar.dateOfDay days.toNat
  ofCivil? {
    year, month, day
    hour := rest / 3600000000
    minute := rest / 60000000 % 60
    second := rest / 1000000 % 60
    microsecond := rest % 1000000
    offset }

/-- The timestamp that many microseconds later, at the same offset. -/
def addMicroseconds? (t : Timestamp) (amount : Int) : Option Timestamp :=
  ofLocalMicroseconds (t.localMicroseconds + amount) t.offset

/-- The beginning of 1970 in microseconds. -/
def epoch : Int := Calendar.dayNumber 1970 1 1 * microsecondsPerDay

/-- The size beyond which a count is one of milliseconds. -/
def maxSeconds : Nat := 20000000000

/-- A count of seconds since the beginning of 1970, of milliseconds beyond `maxSeconds`. -/
def ofEpoch? (count : Int) : Option Timestamp :=
  let unit : Int := if maxSeconds < count.natAbs then 1000 else 1000000
  ofLocalMicroseconds (epoch + count * unit) (some 0)

/-- A count with a fraction: its product with the microseconds of the unit is rounded, and then the
nearest integer taken. -/
def ofEpochReal? (count : Binary64) : Option Timestamp := do
  let bound := Binary64.ofInt maxSeconds
  let large := count.compare? bound == some .gt || count.compare? bound.negate == some .lt
  let microseconds ← (count.scale (if large then 1000 else 1000000)).roundAway
  ofLocalMicroseconds (epoch + microseconds) (some 0)

end Timestamp
end MessageFlow
