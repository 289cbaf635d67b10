import Mathlib.Tactic.IntervalCases
import Mathlib.Tactic.SplitIfs
import MessageFlow.Document.Scalar

/-!
A timestamp is read back from its written form.
-/

namespace MessageFlow.Timestamp

theorem asciiDigit?_digitChar {n : Nat} (small : n < 10) : asciiDigit? n.digitChar = some n := by
  interval_cases n <;> decide

theorem padded_one {n : Nat} (small : n < 10) : padded 1 n = [n.digitChar] := by
  rw [padded, Nat.toDigits_of_lt_base small]
  rfl

theorem padded_succ (width n : Nat) (positive : 0 < width) :
    padded (width + 1) n = padded width (n / 10) ++ [(n % 10).digitChar] := by
  obtain ⟨w, rfl⟩ : ∃ w, width = w + 1 := ⟨width - 1, by omega⟩
  by_cases small : n < 10
  · have zero : n / 10 = 0 := by omega
    have same : n % 10 = n := by omega
    rw [padded, padded, zero, same, Nat.toDigits_of_lt_base small, Nat.toDigits_zero]
    simp [List.replicate_succ']
  · rw [padded, padded, Nat.toDigits_of_base_le (by decide) (by omega)]
    simp

theorem length_padded {width n : Nat} (positive : 0 < width) (fits : n < 10 ^ width) :
    (padded width n).length = width := by
  have short : (Nat.toDigits 10 n).length ≤ width :=
    (Nat.length_toDigits_le_iff (by decide) positive).mpr fits
  simp only [padded, List.length_append, List.length_replicate]
  omega

theorem readDigits_add {a b value read result : Nat} {s rest left : List Char}
    (first : readDigits a value s = some (read, rest))
    (second : readDigits b read rest = some (result, left)) :
    readDigits (a + b) value s = some (result, left) := by
  induction a generalizing value s with
  | zero =>
    cases first
    rw [Nat.zero_add]
    exact second
  | succ a ih =>
    cases s with
    | nil => cases first
    | cons c s =>
      rw [Nat.succ_add]
      simp only [readDigits] at first ⊢
      cases digit : asciiDigit? c with
      | none =>
        rw [digit] at first
        cases first
      | some d =>
        rw [digit] at first
        exact ih first

theorem readDigits_padded (width value n : Nat) (rest : List Char) (positive : 0 < width)
    (fits : n < 10 ^ width) :
    readDigits width value (padded width n ++ rest) = some (value * 10 ^ width + n, rest) := by
  induction width, positive using Nat.le_induction generalizing n rest with
  | base =>
    have small : n < 10 := by simpa using fits
    rw [padded_one small]
    simp [readDigits, asciiDigit?_digitChar small]
  | succ width positive ih =>
    have digit : n % 10 < 10 := Nat.mod_lt n (by decide)
    have fewer : n / 10 < 10 ^ width := by
      rw [Nat.pow_succ] at fits
      omega
    rw [padded_succ width n positive, List.append_assoc]
    apply readDigits_add (ih (n / 10) _ fewer)
    have sum : (value * 10 ^ width + n / 10) * 10 + n % 10 = value * 10 ^ (width + 1) + n := by
      rw [Nat.pow_succ, Nat.add_mul, Nat.mul_assoc]
      omega
    simp [readDigits, asciiDigit?_digitChar digit, sum]

theorem readDigits_two {n : Nat} (rest : List Char) (fits : n < 100) :
    readDigits 2 0 (padded 2 n ++ rest) = some (n, rest) := by
  simpa using readDigits_padded 2 0 n rest (by decide) fits

theorem foldl_padded {width n : Nat} (value : Nat) (positive : 0 < width)
    (fits : n < 10 ^ width) :
    (padded width n).foldl (fun n c => n * 10 + (c.toNat - 48)) value =
      value * 10 ^ width + n := by
  induction width, positive using Nat.le_induction generalizing n with
  | base =>
    have small : n < 10 := by simpa using fits
    rw [padded_one small]
    simp [Nat.toNat_digitChar_sub_48_of_lt_ten small]
  | succ width positive ih =>
    have digit : n % 10 < 10 := Nat.mod_lt n (by decide)
    have fewer : n / 10 < 10 ^ width := by
      rw [Nat.pow_succ] at fits
      omega
    rw [padded_succ width n positive, List.foldl_append, ih fewer]
    simp only [List.foldl_cons, List.foldl_nil, Nat.toNat_digitChar_sub_48_of_lt_ten digit]
    rw [Nat.pow_succ, Nat.add_mul, Nat.mul_assoc]
    omega

theorem isDigit_of_mem_padded {width n : Nat} {c : Char} (present : c ∈ padded width n) :
    (asciiDigit? c).isSome := by
  have digit : c.isDigit = true := by
    rcases List.mem_append.mp present with zero | written
    · rw [List.eq_of_mem_replicate zero]
      rfl
    · exact Nat.isDigit_of_mem_toDigits (by decide) (by decide) written
  simp only [Char.isDigit, Bool.and_eq_true, decide_eq_true_eq] at digit
  have bounds : '0' ≤ c ∧ c ≤ '9' := digit
  rw [asciiDigit?, if_pos bounds]
  rfl

/-- What ends a fraction. -/
def EndsDigits (rest : List Char) : Prop := ∀ c ∈ rest.head?, asciiDigit? c = none

theorem readFraction_padded {n : Nat} {rest : List Char} (fits : n < 1000000)
    (ends : EndsDigits rest) : readFraction (padded 6 n ++ rest) = some (n, rest) := by
  have length : (padded 6 n).length = 6 := length_padded (by decide) fits
  have digits : (padded 6 n ++ rest).takeWhile (fun c => (asciiDigit? c).isSome) = padded 6 n := by
    rw [List.takeWhile_append_of_pos fun c present => isDigit_of_mem_padded present]
    cases rest with
    | nil => simp
    | cons c rest =>
      have none : asciiDigit? c = none := ends c rfl
      simp [none]
  have kept : (padded 6 n ++ List.replicate 6 '0').take 6 = padded 6 n :=
    List.take_left' length
  have filled : (padded 6 n).isEmpty = false := by
    cases written : padded 6 n with
    | nil => simp [written] at length
    | cons c s => rfl
  have value : (padded 6 n).foldl (fun n c => n * 10 + (c.toNat - 48)) 0 = n := by
    simpa using foldl_padded 0 (by decide) fits
  unfold readFraction
  simp only [digits, filled, kept, value, List.drop_left]
  rfl

/-- The marks of an offset that end a text. -/
inductive Zone : Option Int → List Char → Prop
  | none : Zone .none []
  | utc : Zone (some 0) ['Z']
  | offset (minutes : Int) : Zone (some minutes) (offsetText minutes)

theorem offsetText_eq (minutes : Int) :
    offsetText minutes = (if minutes < 0 then '-' else '+') ::
      (padded 2 (minutes.natAbs / 60) ++ ':' :: padded 2 (minutes.natAbs % 60)) := rfl

namespace Zone

variable {offset : Option Int} {mark : List Char}

theorem head (zone : Zone offset mark) {c : Char} (first : c ∈ mark.head?) :
    c = 'Z' ∨ c = '+' ∨ c = '-' := by
  cases zone with
  | none => cases first
  | utc =>
    cases first
    exact .inl rfl
  | offset minutes =>
    rw [offsetText_eq] at first
    by_cases negative : minutes < 0
    · rw [if_pos negative] at first
      cases first
      exact .inr (.inr rfl)
    · rw [if_neg negative] at first
      cases first
      exact .inr (.inl rfl)

theorem endsDigits (zone : Zone offset mark) : EndsDigits mark := by
  intro c first
  rcases zone.head first with rfl | rfl | rfl
  · rfl
  · rfl
  · rfl

end Zone

theorem readOffset_signed (negative : Bool) {hours minutes : Nat} (hoursFit : hours < 100)
    (minutesFit : minutes < 60) :
    readOffset ((if negative then '-' else '+') ::
      (padded 2 hours ++ ':' :: padded 2 minutes)) =
        some (some (if negative then -(hours * 60 + minutes : Int) else hours * 60 + minutes)) := by
  have first (after : List Char) : readDigits 2 0 (padded 2 hours ++ after) = some (hours, after) :=
    readDigits_two after hoursFit
  have second : readDigits 2 0 (padded 2 minutes) = some (minutes, []) := by
    simpa using readDigits_two (n := minutes) [] (by omega)
  cases negative with
  | false =>
    simp only [Bool.false_eq_true, if_false]
    rw [readOffset]
    · simp [first, second, minutesFit]
    · intro marked
      cases marked
    · intro marked
      cases marked
  | true =>
    simp only [if_true]
    rw [readOffset]
    · simp [first, second, minutesFit]
    · intro marked
      cases marked
    · intro marked
      cases marked

theorem Zone.readOffset {offset : Option Int} {mark : List Char} (zone : Zone offset mark)
    (small : (offset.getD 0).natAbs < 1440) : Timestamp.readOffset mark = some offset := by
  cases zone with
  | none => rfl
  | utc => rfl
  | offset minutes =>
    simp only [Option.getD_some] at small
    have hoursFit : minutes.natAbs / 60 < 100 := by omega
    have minutesFit : minutes.natAbs % 60 < 60 := Nat.mod_lt _ (by decide)
    have total := readOffset_signed (decide (minutes < 0)) hoursFit minutesFit
    simp only [decide_eq_true_eq] at total
    have same : (if minutes < 0 then
        -((minutes.natAbs / 60 : Nat) * 60 + (minutes.natAbs % 60 : Nat) : Int) else
        (minutes.natAbs / 60 : Nat) * 60 + (minutes.natAbs % 60 : Nat)) = minutes := by
      split <;> omega
    rw [offsetText_eq, total, same]

theorem readSeconds_written {second microsecond : Nat} {offset : Option Int} {mark : List Char}
    (zone : Zone offset mark) (secondFits : second < 100)
    (microsecondFits : microsecond < 1000000) :
    readSeconds (':' :: (padded 2 second ++
      ((if microsecond = 0 then [] else '.' :: padded 6 microsecond) ++ mark))) =
        some (second, microsecond, mark) := by
  have first (after : List Char) :
      readDigits 2 0 (padded 2 second ++ after) = some (second, after) :=
    readDigits_two after secondFits
  by_cases none : microsecond = 0
  · rw [if_pos none, none, List.nil_append, readSeconds, first]
    simp only [Option.bind_eq_bind, Option.bind_some]
    split
    · exact absurd (zone.head rfl) (by decide)
    · exact absurd (zone.head rfl) (by decide)
    · rfl
  · have fraction := readFraction_padded microsecondFits zone.endsDigits
    rw [if_neg none, List.cons_append, readSeconds, first]
    simp [fraction]

theorem readDate_written {year month day : Nat} (after : List Char) (yearFits : year < 10000)
    (monthFits : month < 100) (dayFits : day < 100) :
    readDate (padded 4 year ++ '-' :: (padded 2 month ++ '-' :: (padded 2 day ++ after))) =
      some ((year, month, day), after) := by
  have first (rest : List Char) : readDigits 4 0 (padded 4 year ++ rest) = some (year, rest) := by
    simpa using readDigits_padded 4 0 year rest (by decide) yearFits
  simp [readDate, first, readChar, readDigits_two _ monthFits, readDigits_two _ dayFits]

theorem readCivil_written (t : Timestamp) {mark : List Char} (zone : Zone t.offset mark) :
    readCivil (civilText t.toCivilTime ++ mark) = some t.toCivilTime := by
  obtain ⟨_, yearFits, _, monthFits, _, dayFits, hourFits, minuteFits, secondFits,
    microsecondFits, offsetFits⟩ := t.valid
  have daysFit : t.day < 100 := by
    have most : Calendar.daysInMonth t.year t.month ≤ 31 := by
      unfold Calendar.daysInMonth
      split_ifs <;> decide
    omega
  have written : civilText t.toCivilTime ++ mark =
      padded 4 t.year ++ '-' :: (padded 2 t.month ++ '-' :: (padded 2 t.day ++
        ('T' :: (padded 2 t.hour ++ ':' :: (padded 2 t.minute ++ ':' :: (padded 2 t.second ++
          ((if t.microsecond = 0 then [] else '.' :: padded 6 t.microsecond) ++ mark))))))) := by
    simp only [civilText, List.append_assoc, List.cons_append]
  rw [written, readCivil, readDate_written _ (by omega) (by omega) daysFit]
  simp [readChar, readDigits_two _ (show t.hour < 100 by omega),
    readDigits_two _ (show t.minute < 100 by omega),
    readSeconds_written zone (show t.second < 100 by omega) microsecondFits,
    zone.readOffset offsetFits]

theorem read?_written (t : Timestamp) {mark : List Char} (zone : Zone t.offset mark) :
    read? (String.ofList (civilText t.toCivilTime ++ mark)) = some t := by
  rw [read?, String.toList_ofList, readCivil_written t zone]
  simp [ofCivil?, t.valid]

/-- What is written is read back. -/
theorem read?_text (t : Timestamp) : read? t.text = some t := by
  apply read?_written
  cases t.offset with
  | none => exact .none
  | some minutes =>
    by_cases zero : minutes = 0
    · simp only [zero, if_true]
      exact .utc
    · simp only [if_neg zero]
      exact .offset minutes

theorem read?_columnText (t : Timestamp) : read? t.columnText = some t := by
  apply read?_written
  cases t.offset with
  | none => exact .none
  | some minutes => exact .offset minutes

end MessageFlow.Timestamp
