import Mathlib.Tactic.IntervalCases
import MessageFlow.Execution.Delay
import MessageFlow.Flow.Validation
import MessageFlow.Time.Timestamp

/-!
Every day from 1 January of the year 1 to 31 December of the year 9999 has a date, and so every
instant between them can be written down. A delay that validation accepts ends at such an instant,
unless it is too long.
-/

namespace MessageFlow

namespace Calendar

theorem isLeapYear_iff {year : Nat} :
    isLeapYear year = true ↔ year % 4 = 0 ∧ (year % 100 ≠ 0 ∨ year % 400 = 0) := by
  simp [isLeapYear]

def daysInYear (year : Nat) : Nat := if isLeapYear year then 366 else 365

theorem daysBeforeYear_eq (passed : Nat) :
    daysBeforeYear (passed + 1) = passed * 365 + passed / 4 - passed / 100 + passed / 400 := rfl

/-- A quotient moves on where the divisor is reached. -/
theorem succ_div_eq (n divisor : Nat) :
    (n + 1) / divisor = n / divisor + if (n + 1) % divisor = 0 then 1 else 0 := by
  rw [Nat.succ_div]
  simp only [Nat.dvd_iff_mod_eq_zero]

theorem daysBeforeYear_succ {year : Nat} (positive : 0 < year) :
    daysBeforeYear (year + 1) = daysBeforeYear year + daysInYear year := by
  obtain ⟨passed, rfl⟩ : ∃ passed, year = passed + 1 := ⟨year - 1, by omega⟩
  have centuries : passed / 100 ≤ passed / 4 := Nat.div_le_div_left (by decide) (by decide)
  have ofHundred : (passed + 1) % 100 = 0 → (passed + 1) % 4 = 0 := by omega
  have ofFourHundred : (passed + 1) % 400 = 0 → (passed + 1) % 100 = 0 := by omega
  rw [daysBeforeYear_eq, daysBeforeYear_eq, succ_div_eq passed 4,
    succ_div_eq passed 100, succ_div_eq passed 400, daysInYear]
  simp only [isLeapYear_iff]
  by_cases four : (passed + 1) % 4 = 0
  · by_cases hundred : (passed + 1) % 100 = 0
    · by_cases fourHundred : (passed + 1) % 400 = 0
      · simp only [four, hundred, fourHundred, ne_eq, not_true, false_or, and_self, if_true]
        omega
      · simp only [four, hundred, fourHundred, ne_eq, not_true, false_or, and_false, if_true,
          if_false]
        omega
    · have not400 : ¬ (passed + 1) % 400 = 0 := fun multiple => hundred (ofFourHundred multiple)
      simp only [four, hundred, not400, ne_eq, not_false_eq_true, true_or, and_self, if_true,
        if_false]
      omega
  · have not100 : ¬ (passed + 1) % 100 = 0 := fun multiple => four (ofHundred multiple)
    have not400 : ¬ (passed + 1) % 400 = 0 := fun multiple => not100 (ofFourHundred multiple)
    simp only [four, not100, not400, false_and, if_false]
    omega

theorem daysOfMonths_twelve (year : Nat) : daysOfMonths year 12 = daysInYear year := by
  unfold daysInYear
  by_cases leap : isLeapYear year = true
  · simp [daysOfMonths, daysInMonth, leap]
  · simp [daysOfMonths, daysInMonth, leap]

theorem yearOfDay_eq {number cycles : Nat} (isCycles : number * 400 / 146097 = cycles) :
    yearOfDay number = if daysBeforeYear (cycles + 2) < number then cycles + 2
      else if daysBeforeYear (cycles + 1) < number then cycles + 1 else cycles := by
  unfold yearOfDay
  rw [isCycles]
  by_cases next : daysBeforeYear (cycles + 2) < number
  · simp [next]
  · by_cases same : daysBeforeYear (cycles + 1) < number
    · simp [next, same]
    · simp [next, same]

/-- The year of a day begins before it and ends no earlier. -/
theorem yearOfDay_spec {number : Nat} (positive : 0 < number) :
    0 < yearOfDay number ∧ daysBeforeYear (yearOfDay number) < number ∧
      number ≤ daysBeforeYear (yearOfDay number + 1) := by
  -- 400 years have 146097 days, so the guess is off by one year at most.
  obtain ⟨cycles, isCycles⟩ : ∃ cycles, number * 400 / 146097 = cycles := ⟨_, rfl⟩
  have early : daysBeforeYear cycles < number := by
    simp only [daysBeforeYear]
    omega
  have late : number ≤ daysBeforeYear (cycles + 3) := by
    rw [daysBeforeYear_eq]
    omega
  rw [yearOfDay_eq isCycles]
  split
  · next next => exact ⟨by omega, next, late⟩
  · next notNext =>
    split
    · next same => exact ⟨by omega, same, Nat.le_of_not_lt notNext⟩
    · next notSame =>
      refine ⟨?_, early, by omega⟩
      by_contra none
      have zero : cycles = 0 := by omega
      rw [zero] at notSame
      exact notSame positive

/-- The month of a day of the year, searched from a month on which the day is no later. -/
theorem monthOfDay_spec {year fuel month day : Nat} (months : month + fuel = 12)
    (first : 0 < month) (positive : 0 < day)
    (within : daysOfMonths year (month - 1) + day ≤ daysInYear year) :
    let found := monthOfDay year fuel month day
    0 < found.1 ∧ found.1 ≤ 12 ∧ 0 < found.2 ∧ found.2 ≤ daysInMonth year found.1 ∧
      daysOfMonths year (found.1 - 1) + found.2 = daysOfMonths year (month - 1) + day := by
  induction fuel generalizing month day with
  | zero =>
    have last : month = 12 := by omega
    subst last
    have total : daysOfMonths year 11 + daysInMonth year 12 = daysInYear year :=
      daysOfMonths_twelve year
    exact ⟨first, le_rfl, positive, Nat.le_of_add_le_add_left (within.trans_eq total.symm), rfl⟩
  | succ fuel ih =>
    unfold monthOfDay
    have passed :
        daysOfMonths year month = daysOfMonths year (month - 1) + daysInMonth year month := by
      obtain ⟨earlier, rfl⟩ : ∃ earlier, month = earlier + 1 := ⟨month - 1, by omega⟩
      rfl
    by_cases here : day ≤ daysInMonth year month
    · rw [if_pos here]
      exact ⟨first, by omega, positive, here, rfl⟩
    · rw [if_neg here]
      have later := @ih (month + 1) (day - daysInMonth year month) (by omega) (by omega) (by omega)
        (by rw [Nat.add_sub_cancel, passed]; omega)
      rw [Nat.add_sub_cancel, passed] at later
      obtain ⟨positive', bounded, dayPositive, dayBounded, same⟩ := later
      exact ⟨positive', bounded, dayPositive, dayBounded, by rw [same]; omega⟩

/-- A day number is that of its date. -/
theorem dateOfDay_spec {number : Nat} (positive : 0 < number) :
    let date := dateOfDay number
    0 < date.1 ∧ daysBeforeYear date.1 < number ∧ 0 < date.2.1 ∧ date.2.1 ≤ 12 ∧ 0 < date.2.2 ∧
      date.2.2 ≤ daysInMonth date.1 date.2.1 ∧ dayNumber date.1 date.2.1 date.2.2 = number := by
  obtain ⟨year, isYear⟩ : ∃ year, year = yearOfDay number := ⟨_, rfl⟩
  obtain ⟨yearPositive, begins, ends⟩ := yearOfDay_spec positive
  rw [← isYear] at yearPositive begins ends
  rw [daysBeforeYear_succ yearPositive] at ends
  have found := @monthOfDay_spec year 11 1 (number - daysBeforeYear year) rfl Nat.one_pos (by omega)
    (by simp only [Nat.sub_self, daysOfMonths]; omega)
  simp only [dateOfDay, ← isYear]
  obtain ⟨monthPositive, monthBounded, dayPositive, dayBounded, same⟩ := found
  refine ⟨yearPositive, begins, monthPositive, monthBounded, dayPositive, dayBounded, ?_⟩
  simp only [Nat.sub_self, daysOfMonths] at same
  unfold dayNumber
  omega

/-- The days of the years 1 to 9999. -/
def lastDay : Nat := 3652059

end Calendar

namespace Timestamp

/-- The microseconds of local time that can be written down. -/
def InCalendar (microseconds : Int) : Prop :=
  microsecondsPerDay ≤ microseconds ∧
    microseconds < (Calendar.lastDay + 1) * microsecondsPerDay

theorem ofLocalMicroseconds_of_inCalendar {microseconds : Int} {offset : Option Int}
    (inCalendar : InCalendar microseconds) (small : (offset.getD 0).natAbs < 1440) :
    ∃ t, ofLocalMicroseconds microseconds offset = some t ∧ t.localMicroseconds = microseconds ∧
      t.offset = offset := by
  obtain ⟨early, late⟩ := inCalendar
  have perDay : (microsecondsPerDay : Int) = 86400000000 := rfl
  have lastDay : (Calendar.lastDay : Int) = 3652059 := rfl
  rw [perDay] at early
  rw [perDay, lastDay] at late
  obtain ⟨number, isNumber⟩ : ∃ number : Nat, (number : Int) = microseconds / 86400000000 :=
    ⟨(microseconds / 86400000000).toNat, by omega⟩
  obtain ⟨rest, isRest⟩ : ∃ rest : Nat, (rest : Int) = microseconds % 86400000000 :=
    ⟨(microseconds % 86400000000).toNat, by omega⟩
  have positive : 0 < number := by omega
  obtain ⟨yearPositive, begins, monthPositive, monthBounded, dayPositive, dayBounded, same⟩ :=
    Calendar.dateOfDay_spec positive
  have yearBounded : (Calendar.dateOfDay number).1 ≤ 9999 := by
    by_contra beyond
    simp only [Calendar.daysBeforeYear] at begins
    omega
  unfold ofLocalMicroseconds
  simp only [perDay, ← isNumber, ← isRest, Int.toNat_natCast]
  have hour : rest / 3600000000 < 24 := by omega
  have minute : rest / 60000000 % 60 < 60 := Nat.mod_lt _ (by decide)
  have second : rest / 1000000 % 60 < 60 := Nat.mod_lt _ (by decide)
  have microsecond : rest % 1000000 < 1000000 := Nat.mod_lt _ (by decide)
  have valid : CivilTime.Valid {
      year := (Calendar.dateOfDay number).1
      month := (Calendar.dateOfDay number).2.1
      day := (Calendar.dateOfDay number).2.2
      hour := rest / 3600000000
      minute := rest / 60000000 % 60
      second := rest / 1000000 % 60
      microsecond := rest % 1000000
      offset } :=
    ⟨yearPositive, yearBounded, monthPositive, monthBounded, dayPositive, dayBounded, hour, minute,
      second, microsecond, small⟩
  refine ⟨⟨_, valid⟩, dif_pos valid, ?_, rfl⟩
  unfold localMicroseconds
  simp only [same]
  omega

end Timestamp

/-!
The delays that the validation of flows accepts. Their amounts are positive numbers, and each of
them becomes a time unless it is too great for that.
-/

namespace Binary64

theorem not_negative_of_isPositive {negative : Bool} {significand : Nat} {exponent : Int}
    (positive : isPositive (.finite negative significand exponent) = true) : negative = false := by
  cases negative with
  | false => rfl
  | true =>
    have above : (units false 0 minExponent : Int) < units true significand exponent := by
      simpa [isPositive, compare?, zero, Int.compare_eq_gt] using positive
    simp only [units, signed, if_true, Bool.false_eq_true, if_false] at above
    omega

theorem ofRatio_cases (negative : Bool) (num den : Nat) :
    ofRatio negative num den = .infinite negative ∨
      ∃ significand exponent, ofRatio negative num den = .finite negative significand exponent := by
  obtain ⟨number, isNumber⟩ : ∃ number, number = ofRatio negative num den := ⟨_, rfl⟩
  rw [← isNumber]
  unfold ofRatio at isNumber
  by_cases none : num = 0
  · rw [if_pos none] at isNumber
    exact .inr ⟨_, _, isNumber⟩
  · rw [if_neg none] at isNumber
    -- The powers of two stay behind a name; nothing may compute them.
    extract_lets exponent at isNumber
    generalize scaled num den exponent = quotient at isNumber
    obtain ⟨n, d⟩ := quotient
    simp only at isNumber
    generalize roundDiv n d = rounded at isNumber
    by_cases full : rounded = twoTo significandBits
    · simp only [if_pos full] at isNumber
      split at isNumber
      · exact .inl isNumber
      · split at isNumber
        · exact .inr ⟨_, _, isNumber⟩
        · exact .inr ⟨_, _, isNumber⟩
    · simp only [if_neg full] at isNumber
      split at isNumber
      · exact .inl isNumber
      · split at isNumber
        · exact .inr ⟨_, _, isNumber⟩
        · exact .inr ⟨_, _, isNumber⟩

/-- A positive number times a positive integer is infinite, or has an integer part that is not
negative. -/
theorem scale_of_isPositive {x : Binary64} (positive : x.isPositive = true) (factor : Nat) :
    x.scale factor = .infinite false ∨
      ∃ significand exponent, x.scale factor = .finite false significand exponent := by
  cases x with
  | finite negative significand exponent =>
    rw [not_negative_of_isPositive positive]
    exact ofRatio_cases false _ _
  | infinite negative =>
    cases negative with
    | false => exact .inl rfl
    | true => cases positive
  | nan => cases positive

theorem truncate_finite (significand : Nat) (exponent : Int) :
    ∃ count : Nat, (finite false significand exponent).truncate = some (count : Int) := ⟨_, rfl⟩

end Binary64

namespace Timestamp

theorem perDay_le_localMicroseconds (t : Timestamp) :
    (microsecondsPerDay : Int) ≤ t.localMicroseconds := by
  obtain ⟨_, _, _, _, day, _⟩ := t.valid
  have first : 1 ≤ Calendar.dayNumber t.year t.month t.day := by
    unfold Calendar.dayNumber
    omega
  have perDay : (microsecondsPerDay : Int) = 86400000000 := rfl
  unfold localMicroseconds
  rw [perDay]
  push_cast
  omega

end Timestamp

namespace Delay

/-- A positive number is a number of milliseconds in every unit, unless the product is infinite. -/
theorem milliseconds_of_isPositive {amount : Json} (positive : amount.isPositiveNumber = true)
    (unit : Option String) : milliseconds amount (.ofText? unit) = .error .infiniteAmount ∨
      ∃ count : Int, 0 ≤ count ∧ milliseconds amount (.ofText? unit) = .ok count := by
  obtain ⟨factor, isFactor⟩ : ∃ factor, unitOf (.ofText? unit) = .ok factor := by
    cases unit <;> exact ⟨_, rfl⟩
  unfold milliseconds
  rw [isFactor]
  cases amount with
  | int value =>
    have above : 0 < value := by simpa [Json.isPositiveNumber] using positive
    exact .inr ⟨_, Int.mul_nonneg above.le (Int.natCast_nonneg _), rfl⟩
  | real value =>
    rcases Binary64.scale_of_isPositive positive factor.milliseconds with infinite | finite
    · refine .inl ?_
      simp only [bind, Except.bind, infinite]
    · obtain ⟨significand, exponent, isProduct⟩ := finite
      obtain ⟨count, isCount⟩ := Binary64.truncate_finite significand exponent
      refine .inr ⟨count, Int.natCast_nonneg count, ?_⟩
      simp only [bind, Except.bind, isProduct, isCount, Option.getD_some]
  | null | bool | text | list | record => cases positive

/-- A delay ends at a time that can be written down, if that is a time of the calendar. -/
theorem wakeTime_of_inCalendar (now : Timestamp) {count : Int} (after : 0 ≤ count)
    (inCalendar : Timestamp.InCalendar (now.localMicroseconds + count * 1000)) :
    ∃ t, wakeTime now count = .ok t ∧
      t.localMicroseconds = now.localMicroseconds + count * 1000 ∧ t.offset = now.offset := by
  obtain ⟨t, written, same, offset⟩ :=
    Timestamp.ofLocalMicroseconds_of_inCalendar inCalendar now.valid.2.2.2.2.2.2.2.2.2.2
  have begins := now.perDay_le_localMicroseconds
  have days : count * 1000 / 86400000000 ≤ 3652059 := by
    have late := inCalendar.2
    have perDay : (Timestamp.microsecondsPerDay : Int) = 86400000000 := rfl
    have lastDay : (Calendar.lastDay : Int) = 3652059 := rfl
    rw [perDay] at begins late
    rw [lastDay] at late
    omega
  have nonneg : 0 ≤ count * 1000 / 86400000000 := by omega
  refine ⟨t, ?_, same, offset⟩
  unfold wakeTime timeAfter maxDays
  rw [if_neg (by omega), if_neg (by omega), Timestamp.addMicroseconds?, written]

/-- The amount is positive but too great: its milliseconds are infinitely many, or the delay ends
after the last day of the calendar. -/
def TooLong (now : Timestamp) (amount : Json) (unit : Option String) : Prop :=
  amount.isPositiveNumber = true ∧
    (milliseconds amount (.ofText? unit) = .error .infiniteAmount ∨
      ∃ count, milliseconds amount (.ofText? unit) = .ok count ∧
        ¬ Timestamp.InCalendar (now.localMicroseconds + count * 1000))

/-- The time at which a delay ends. -/
def ending (now : Timestamp) (amount : Json) (unit : Option String) : Except DelayError Timestamp :=
  milliseconds amount (.ofText? unit) >>= wakeTime now

/-- An accepted delay is converted and scheduled, unless it is too long. -/
theorem ending_of_isPositive (now : Timestamp) {amount : Json} {unit : Option String}
    (positive : amount.isPositiveNumber = true) (fits : ¬ TooLong now amount unit) :
    ∃ count t, milliseconds amount (.ofText? unit) = .ok count ∧
      ending now amount unit = .ok t ∧
      t.localMicroseconds = now.localMicroseconds + count * 1000 ∧ t.offset = now.offset := by
  rcases milliseconds_of_isPositive positive unit with infinite | ⟨count, after, converted⟩
  · exact absurd ⟨positive, .inl infinite⟩ fits
  · have inCalendar : Timestamp.InCalendar (now.localMicroseconds + count * 1000) := by
      by_contra beyond
      exact fits ⟨positive, .inr ⟨count, converted, beyond⟩⟩
    obtain ⟨t, ends, same, offset⟩ := wakeTime_of_inCalendar now after inCalendar
    refine ⟨count, t, converted, ?_, same, offset⟩
    rw [ending, converted]
    exact ends

end Delay

end MessageFlow
