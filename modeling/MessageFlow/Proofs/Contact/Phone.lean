import MessageFlow.Contact.Phone
import MessageFlow.Execution.Condition
import MessageFlow.Proofs.Text.Classes

/-!
The first phone number in a text, told by runs: the stretches of digits and separators. Main
statement: the number is taken from the first run with at least ten digits, and there is none when
no run has so many.
-/

namespace MessageFlow.Phone

/-- What a run consists of. -/
def isNumberChar (c : Char) : Bool := isSeparator c || Text.isDigit c

def digits (s : List Char) : List Char := s.filter Text.isDigit

abbrev IsRun : (text before run after : List Char) → Prop := IsStretch isNumberChar

/-- The first run with enough digits. -/
structure IsFirstNumber (text before run after : List Char) : Prop where
  found : IsRun text before run after
  enough : minDigits ≤ (digits run).length
  first : ∀ before' run' after', IsRun text before' run' after' → before'.length < before.length →
    (digits run').length < minDigits

/-- The digits of a run that a number keeps: with a country digit that one and 14 more. -/
def kept (run : List Char) : List Char :=
  if run.head?.any isCountryDigit then (digits run).take 15 else (digits run).take 14

/-- The number in a run: what is kept of its digits, after the plus sign that the run follows if it
starts with a country digit. -/
def number (before run : List Char) : List Char :=
  (if run.head?.any isCountryDigit && before.getLast? == some '+' then ['+'] else []) ++ kept run

section Classes

variable {c : Char}

/-- No separator is a digit: none of its ranges meets the ten code points of a script. -/
theorem isDigit_of_isSeparator (separates : isSeparator c = true) : Text.isDigit c = false := by
  have apart : ∀ range ∈ Text.blankRanges, ∀ first ∈ Text.zeroDigits,
      range.2 < first ∨ first + 10 ≤ range.1 := by decide
  have beyond : ∀ first ∈ Text.zeroDigits, 0x2e < first := by decide
  rw [Text.isDigit, Text.digitValue?, Option.isSome_map, Bool.eq_false_iff, Ne, List.find?_isSome]
  rintro ⟨first, listed, within⟩
  simp only [Bool.and_eq_true, decide_eq_true_eq] at within
  simp only [isSeparator, Text.isBlank, Text.inRanges, Bool.or_eq_true, List.any_eq_true,
    Bool.and_eq_true, decide_eq_true_eq, beq_iff_eq] at separates
  obtain (((⟨range, ranged, between⟩ | rfl) | rfl) | rfl) | rfl := separates
  · have := apart range ranged first listed
    omega
  all_goals
    have := beyond first listed
    simp at within
    omega

/-- A country digit is a digit of the first script. -/
theorem isDigit_of_isCountryDigit (country : isCountryDigit c = true) : Text.isDigit c = true := by
  simp only [isCountryDigit, Bool.and_eq_true, decide_eq_true_eq, Char.le_def,
    UInt32.le_iff_toNat_le] at country
  have low : 0x31 ≤ c.toNat := country.1
  have high : c.toNat ≤ 0x39 := country.2
  rw [Text.isDigit, Text.digitValue?, Option.isSome_map, List.find?_isSome]
  refine ⟨0x30, by decide, ?_⟩
  simp only [Bool.and_eq_true, decide_eq_true_eq]
  omega

end Classes

section Digits

variable {c : Char} {run rest after : List Char}

theorem digits_cons_digit (digit : Text.isDigit c = true) : digits (c :: rest) = c :: digits rest :=
  List.filter_cons_of_pos digit

theorem digits_cons_separator (separates : isSeparator c = true) :
    digits (c :: rest) = digits rest :=
  List.filter_cons_of_neg (by rw [isDigit_of_isSeparator separates]; decide)

theorem takeDigits_separator (separates : isSeparator c = true) (limit : Nat) :
    takeDigits limit (c :: rest) = takeDigits limit rest := by
  cases limit <;> rw [takeDigits, if_pos separates]

theorem takeDigits_stops (stops : Stops isNumberChar rest) (limit : Nat) :
    takeDigits limit rest = ([], rest) := by
  cases rest with
  | nil => cases limit <;> rfl
  | cons c rest =>
    have outside := stops c rfl
    rw [isNumberChar, Bool.or_eq_false_iff] at outside
    cases limit <;> simp [takeDigits, outside]

/-- What is taken of a run is its first digits; the whole run is passed if it has no more. -/
theorem takeDigits_run (inside : ∀ c ∈ run, isNumberChar c = true)
    (stops : Stops isNumberChar after) (limit : Nat) :
    (takeDigits limit (run ++ after)).1 = (digits run).take limit ∧
      ((digits run).length ≤ limit → (takeDigits limit (run ++ after)).2 = after) := by
  induction run generalizing limit with
  | nil => simp [takeDigits_stops stops, digits]
  | cons c run ih =>
    have ih := ih fun d present => inside d (List.mem_cons_of_mem _ present)
    by_cases separates : isSeparator c = true
    · rw [digits_cons_separator separates, List.cons_append, takeDigits_separator separates]
      exact ih limit
    · have digit : Text.isDigit c = true := by
        simpa [isNumberChar, separates] using inside c List.mem_cons_self
      rw [digits_cons_digit digit]
      cases limit with
      | zero => simp [takeDigits, separates]
      | succ limit => simpa [takeDigits, separates, digit] using ih limit

end Digits

section Matches

variable {c : Char} {s run rest after : List Char} {country body : List Char}

/-- The body of a number takes its digits from the run that the text starts with. -/
theorem body?_run (inside : ∀ c ∈ run, isNumberChar c = true) (stops : Stops isNumberChar after)
    (enough : 7 ≤ (digits run).length) :
    ∃ rest, body? (run ++ after) = some ((digits run).take 14, rest) ∧
      ((digits run).length ≤ 14 → rest = after) := by
  obtain ⟨taken, passed⟩ := takeDigits_run inside stops 14
  refine ⟨(takeDigits 14 (run ++ after)).2, ?_, passed⟩
  rw [body?]
  simp only [taken, List.length_take]
  rw [if_pos (by omega)]

theorem body?_eq_none (inside : ∀ c ∈ run, isNumberChar c = true) (stops : Stops isNumberChar after)
    (few : (digits run).length < 7) : body? (run ++ after) = none := by
  obtain ⟨taken, -⟩ := takeDigits_run inside stops 14
  rw [body?]
  simp only [taken, List.length_take]
  rw [if_neg (by omega)]

theorem matchHere_country (starts : country? s = some (country, rest))
    (goes : body? rest = some (body, after)) : matchHere s = some (country ++ body, after) := by
  simp [matchHere, starts, goes]

/-- Without a country digit that leaves enough digits a number is its body. -/
theorem matchHere_body (unled : ∀ country rest, country? s = some (country, rest) →
    body? rest = none) : matchHere s = body? s := by
  cases starts : country? s with
  | none => simp [matchHere, starts]
  | some found => simp [matchHere, starts, unled found.1 found.2 starts]

theorem country?_of_ne_plus (plain : c ≠ '+') :
    country? (c :: rest) = if isCountryDigit c then some ([c], rest) else none := by
  rw [ country?]
  rintro - - rfl
  exact absurd rfl plain

theorem country?_plus (starts : country? ('+' :: s) = some (country, rest)) :
    ∃ d, s = d :: rest ∧ isCountryDigit d = true := by
  cases s with
  | nil => cases starts
  | cons d s =>
    rw [ country?] at starts
    split at starts
    case isTrue leads =>
      obtain ⟨-, rfl⟩ := Prod.mk.inj (Option.some.inj starts)
      exact ⟨d, rfl, leads⟩
    case isFalse => cases starts

theorem ne_plus (number : isNumberChar c = true) : c ≠ '+' := by
  rintro rfl
  exact absurd number (by decide)

theorem isNumberChar_of_isCountryDigit (country : isCountryDigit c = true) :
    isNumberChar c = true := by
  rw [isNumberChar, isDigit_of_isCountryDigit country, Bool.or_true]

theorem kept_country (country : isCountryDigit c = true) :
    kept (c :: run) = c :: (digits run).take 14 := by
  rw [kept, digits_cons_digit (isDigit_of_isCountryDigit country)]
  simp [country]

theorem kept_plain (plain : isCountryDigit c = false) :
    kept (c :: run) = (digits (c :: run)).take 14 := by
  simp [kept, plain]

theorem kept_of_few (few : (digits run).length ≤ 14) : kept run = digits run := by
  rw [kept]
  split
  · exact List.take_of_length_le (by omega)
  · exact List.take_of_length_le few

/-- A run with seven digits is a match, which passes it if it is rejected. -/
theorem matchHere_many (inside : ∀ d ∈ c :: run, isNumberChar d = true)
    (stops : Stops isNumberChar after) (enough : 7 ≤ (digits (c :: run)).length) :
    ∃ rest, matchHere (c :: run ++ after) = some (kept (c :: run), rest) ∧
      ((digits (c :: run)).length < minDigits → rest = after) := by
  have starts : country? (c :: (run ++ after)) = _ :=
    country?_of_ne_plus (ne_plus (inside c List.mem_cons_self))
  have within : ∀ d ∈ run, isNumberChar d = true := fun d present =>
    inside d (List.mem_cons_of_mem _ present)
  obtain ⟨rest, whole, passed⟩ := body?_run inside stops enough
  cases country : isCountryDigit c with
  | false =>
    refine ⟨rest, ?_, fun few => passed (few.le.trans (by decide))⟩
    rw [kept_plain country, ← whole]
    exact matchHere_body fun _ _ found => by simp [starts, country] at found
  | true =>
    have count : (digits (c :: run)).length = (digits run).length + 1 := by
      rw [digits_cons_digit (isDigit_of_isCountryDigit country), List.length_cons]
    rw [country, if_pos rfl] at starts
    rcases Nat.lt_or_ge (digits run).length 7 with few | many
    · -- the country digit is needed for the body
      refine ⟨rest, ?_, fun few => passed (few.le.trans (by decide))⟩
      have all : (digits (c :: run)).take 14 = digits (c :: run) :=
        List.take_of_length_le (by omega)
      rw [kept_of_few (by omega), ← all, ← whole]
      refine matchHere_body fun _ _ found => ?_
      obtain ⟨-, rfl⟩ := Prod.mk.inj (Option.some.inj (starts.symm.trans found))
      exact body?_eq_none within stops few
    · obtain ⟨rest, goes, passed⟩ := body?_run within stops many
      refine ⟨rest, ?_, fun few => passed ?_⟩
      · rw [kept_country country]
        exact matchHere_country starts goes
      · rw [minDigits] at few
        omega

theorem matchHere_few (inside : ∀ d ∈ c :: run, isNumberChar d = true)
    (stops : Stops isNumberChar after) (few : (digits (c :: run)).length < 7) :
    matchHere (c :: run ++ after) = none := by
  rw [← body?_eq_none inside stops few]
  refine matchHere_body fun _ _ found => ?_
  rw [List.cons_append, country?_of_ne_plus (ne_plus (inside c List.mem_cons_self))] at found
  split at found
  · obtain ⟨-, rfl⟩ := Prod.mk.inj (Option.some.inj found)
    refine body?_eq_none (fun d present => inside d (List.mem_cons_of_mem _ present)) stops
      (Nat.lt_of_le_of_lt ?_ few)
    exact ((List.sublist_cons_self c run).filter _).length_le
  · cases found

/-- A plus sign leads the run after it if that starts with a country digit and has eight digits. -/
theorem matchHere_plus (inside : ∀ d ∈ c :: run, isNumberChar d = true)
    (stops : Stops isNumberChar after) (country : isCountryDigit c = true)
    (enough : 8 ≤ (digits (c :: run)).length) :
    ∃ rest, matchHere ('+' :: (c :: run ++ after)) = some ('+' :: kept (c :: run), rest) ∧
      ((digits (c :: run)).length < minDigits → rest = after) := by
  rw [digits_cons_digit (isDigit_of_isCountryDigit country), List.length_cons] at enough ⊢
  have within (d) (present : d ∈ run) : isNumberChar d = true :=
    inside d (List.mem_cons_of_mem _ present)
  obtain ⟨rest, goes, passed⟩ := body?_run within stops (by omega)
  refine ⟨rest, ?_, fun few => passed ?_⟩
  · have starts : country? ('+' :: (c :: run ++ after)) = some (['+', c], run ++ after) := by
      rw [List.cons_append, country?, if_pos country]
    rw [kept_country country]
    exact matchHere_country starts goes
  · rw [minDigits] at few
    omega

/-- Nothing else outside of a run starts a match. -/
theorem matchHere_outside (outside : isNumberChar c = false)
    (inside : ∀ d ∈ run, isNumberChar d = true) (stops : Stops isNumberChar after)
    (unled : c = '+' → run.head?.any isCountryDigit = true → (digits run).length < 8) :
    matchHere (c :: (run ++ after)) = none := by
  have stop : Stops isNumberChar (c :: (run ++ after)) := by simpa [Stops] using outside
  have bare : body? ([] ++ c :: (run ++ after)) = none :=
    body?_eq_none (List.forall_mem_nil _) stop (by decide)
  rw [List.nil_append] at bare
  rw [← bare]
  refine matchHere_body fun country rest starts => ?_
  by_cases plus : c = '+'
  · subst plus
    obtain ⟨d, same, leads⟩ := country?_plus starts
    obtain ⟨rfl, rfl⟩ | ⟨run, rfl, rfl⟩ := List.append_eq_cons_iff.1 same
    · have outside := stops d rfl
      rw [isNumberChar_of_isCountryDigit leads] at outside
      cases outside
    · have few := unled rfl (by simpa using leads)
      rw [digits_cons_digit (isDigit_of_isCountryDigit leads), List.length_cons] at few
      exact body?_eq_none (fun d present => inside d (List.mem_cons_of_mem _ present)) stops
        (by omega)
  · rw [country?_of_ne_plus plus] at starts
    split at starts
    case isTrue leads =>
      rw [isNumberChar_of_isCountryDigit leads] at outside
      cases outside
    case isFalse => cases starts

end Matches

section FirstNumbers

variable {c : Char} {text rest before run lead after before' run' after' : List Char}

/-- A text has one first number. -/
theorem IsFirstNumber.unique (found : IsFirstNumber text before run after)
    (found' : IsFirstNumber text before' run' after') : before = before' ∧ run = run' := by
  have same : before.length = before'.length := by
    rcases Nat.lt_trichotomy before.length before'.length with earlier | same | later
    · exact absurd found.enough (Nat.not_le.2 (found'.first _ _ _ found.found earlier))
    · exact same
    · exact absurd found'.enough (Nat.not_le.2 (found.first _ _ _ found'.found later))
  obtain ⟨befores, runs, -⟩ := found.found.unique found'.found same
  exact ⟨befores, runs⟩

theorem IsFirstNumber.of_append (inside : ∀ c ∈ run, isNumberChar c = true)
    (nonempty : run ≠ []) (stops : Stops isNumberChar after)
    (enough : minDigits ≤ (digits run).length) : IsFirstNumber (run ++ after) [] run after where
  found := .of_append inside nonempty stops
  enough := enough
  first _ _ _ _ earlier := absurd earlier (Nat.not_lt_zero _)

theorem IsFirstNumber.cons (outside : isNumberChar c = false)
    (found : IsFirstNumber rest before run after) :
    IsFirstNumber (c :: rest) (c :: before) run after where
  found := (IsStretch.cons_iff outside).2 ⟨before, rfl, found.found⟩
  enough := found.enough
  first := by
    intro before' run' after' run_of earlier
    obtain ⟨front, rfl, later⟩ := (IsStretch.cons_iff outside).1 run_of
    exact found.first _ _ _ later (Nat.lt_of_succ_lt_succ earlier)

/-- A run with too few digits stands before the first number as anything else does. -/
theorem IsFirstNumber.append (nonempty : lead ≠ []) (inside : ∀ c ∈ lead, isNumberChar c = true)
    (stops : Stops isNumberChar rest) (few : (digits lead).length < minDigits)
    (found : IsFirstNumber rest before run after) :
    IsFirstNumber (lead ++ rest) (lead ++ before) run after where
  found := (IsStretch.append_iff nonempty inside stops).2 (.inr ⟨before, rfl, found.found⟩)
  enough := found.enough
  first := by
    intro before' run' after' run_of earlier
    obtain ⟨-, rfl, -⟩ | ⟨front, rfl, later⟩ :=
      (IsStretch.append_iff nonempty inside stops).1 run_of
    · exact few
    · rw [List.length_append, List.length_append] at earlier
      exact found.first _ _ _ later (Nat.lt_of_add_lt_add_left earlier)

/-- What is right to answer on a text. -/
def Answers (text : List Char) : Option (List Char) → Prop
  | none => ∀ before run after, IsRun text before run after → (digits run).length < minDigits
  | some found =>
    ∃ before run after, IsFirstNumber text before run after ∧ found = number before run

theorem Answers.cons {result : Option (List Char)} (outside : isNumberChar c = false)
    (unled : ∀ run after, IsFirstNumber rest [] run after → c = '+' →
      run.head?.any isCountryDigit = false)
    (answers : Answers rest result) : Answers (c :: rest) result := by
  cases result with
  | none =>
    intro before run after found
    obtain ⟨front, rfl, later⟩ := (IsStretch.cons_iff outside).1 found
    exact answers _ _ _ later
  | some number =>
    obtain ⟨before, run, after, found, rfl⟩ := answers
    refine ⟨c :: before, run, after, found.cons outside, ?_⟩
    rcases eq_or_ne before [] with rfl | elsewhere
    · by_cases plus : c = '+'
      · simp [number, unled run after found plus]
      · simp [number, plus]
    · rw [number, number, ← List.getLast?_append_of_ne_nil [c] elsewhere, List.singleton_append]

theorem Answers.append {result : Option (List Char)} (nonempty : lead ≠ [])
    (inside : ∀ c ∈ lead, isNumberChar c = true) (stops : Stops isNumberChar rest)
    (few : (digits lead).length < minDigits) (answers : Answers rest result) :
    Answers (lead ++ rest) result := by
  cases result with
  | none =>
    intro before run after found
    obtain ⟨-, rfl, -⟩ | ⟨front, rfl, later⟩ :=
      (IsStretch.append_iff nonempty inside stops).1 found
    · exact few
    · exact answers _ _ _ later
  | some number =>
    obtain ⟨before, run, after, found, rfl⟩ := answers
    refine ⟨lead ++ before, run, after, found.append nonempty inside stops few, ?_⟩
    rcases eq_or_ne before [] with rfl | elsewhere
    · exact absurd stops found.found.not_stops
    · rw [number, number, List.getLast?_append_of_ne_nil lead elsewhere]

end FirstNumbers

section Search

variable {c : Char} {budget : Nat} {s run rest after found : List Char}

theorem length_kept : (kept run).length = min (digits run).length
    (if run.head?.any isCountryDigit then 15 else 14) := by
  rw [kept]
  split <;> rw [List.length_take, Nat.min_comm]

theorem digits_kept : digits (kept run) = kept run := by
  refine List.filter_eq_self.2 fun c present => ?_
  have listed : c ∈ digits run := by
    rw [kept] at present
    split at present <;> exact List.mem_of_mem_take present
  exact (List.mem_filter.1 listed).2

/-- Enough digits are kept of a run if and only if it has enough. -/
theorem enough_kept_iff :
    minDigits ≤ (digits (kept run)).length ↔ minDigits ≤ (digits run).length := by
  rw [digits_kept, length_kept, minDigits]
  split <;> omega

theorem search_none (unmatched : matchHere (c :: rest) = none) :
    search (budget + 1) (c :: rest) = search budget rest := by
  rw [search, unmatched]

theorem search_rejected (matched : matchHere (c :: s) = some (found, rest))
    (few : (digits found).length < minDigits) :
    search (budget + 1) (c :: s) = search budget rest := by
  rw [search, matched]
  exact if_neg (Nat.not_le.2 few)

theorem search_found (matched : matchHere (c :: s) = some (found, rest))
    (enough : minDigits ≤ (digits found).length) :
    search (budget + 1) (c :: s) = some found := by
  rw [search, matched]
  exact if_pos enough

/-- A run with fewer than seven digits is left character by character. -/
theorem search_few (inside : ∀ c ∈ run, isNumberChar c = true) (stops : Stops isNumberChar after)
    (few : (digits run).length < 7) :
    search (budget + run.length) (run ++ after) = search budget after := by
  induction run with
  | nil => rfl
  | cons c run ih =>
    rw [List.length_cons, ← Nat.add_assoc]
    have within (d) (present : d ∈ run) : isNumberChar d = true :=
      inside d (List.mem_cons_of_mem _ present)
    refine (search_none (matchHere_few inside stops few)).trans (ih within ?_)
    exact Nat.lt_of_le_of_lt ((List.sublist_cons_self c run).filter _).length_le few

/-- What a step of the search does: it answers, or goes on with a shorter text whose answer is right
for the whole. -/
def Steps (budget : Nat) (text : List Char) : Prop :=
  Answers text (search budget text) ∨
    ∃ budget' shorter, shorter.length < text.length ∧ shorter.length < budget' ∧
      search budget text = search budget' shorter ∧
      ∀ result, Answers shorter result → Answers text result

theorem steps_outside (outside : isNumberChar c = false) (enough : rest.length < budget) :
    Steps (budget + 1) (c :: rest) := by
  obtain ⟨run, after, rfl, inside, stops⟩ := exists_stretch isNumberChar rest
  have leads {run' after' : List Char} (found : IsFirstNumber (run ++ after) [] run' after') :
      run' = run :=
    (found.found.right.unique stops found.found.inside inside found.found.text_eq.symm).1
  by_cases led : c = '+' ∧ run.head?.any isCountryDigit = true ∧ 8 ≤ (digits run).length
  · obtain ⟨rfl, country, many⟩ := led
    obtain ⟨d, run, rfl⟩ := List.exists_cons_of_ne_nil (l := run) (by rintro rfl; cases country)
    obtain ⟨rest, matched, passed⟩ := matchHere_plus inside stops (by simpa using country) many
    have same : digits ('+' :: kept (d :: run)) = digits (kept (d :: run)) :=
      List.filter_cons_of_neg (by decide)
    rcases Nat.lt_or_ge (digits (d :: run)).length minDigits with few | whole
    · obtain rfl := passed few
      simp only [List.length_append, List.length_cons] at enough
      refine .inr ⟨budget, rest, ?_, by omega, search_rejected matched ?_,
        fun result answers => ?_⟩
      · simp only [List.length_append, List.length_cons]
        omega
      · rw [same]
        exact Nat.not_le.1 fun whole => absurd (enough_kept_iff.1 whole) (Nat.not_le.2 few)
      · refine (answers.append (by simp) inside stops few).cons outside fun run' after' found => ?_
        obtain rfl := leads found
        exact absurd found.enough (Nat.not_le.2 few)
    · left
      rw [search_found matched (same ▸ enough_kept_iff.2 whole)]
      refine ⟨['+'], d :: run, after,
        (IsFirstNumber.of_append inside (by simp) stops whole).cons outside, ?_⟩
      rw [number, country]
      rfl
  · have unmatched := matchHere_outside outside inside stops fun plus country =>
      Nat.not_le.1 fun many => led ⟨plus, country, many⟩
    refine .inr ⟨budget, run ++ after, by simp, enough, search_none unmatched,
      fun result answers => answers.cons outside fun run' after' found plus => ?_⟩
    obtain rfl := leads found
    by_contra country
    exact led ⟨plus, by simpa using country, Nat.le_trans (by decide) found.enough⟩

theorem steps_run (inside : ∀ d ∈ c :: run, isNumberChar d = true)
    (stops : Stops isNumberChar after)
    (enough : (c :: run ++ after).length < budget + 1) : Steps (budget + 1) (c :: run ++ after) := by
  have shorter : after.length < (c :: run ++ after).length := by
    simp only [List.length_append, List.length_cons]
    omega
  rcases Nat.lt_or_ge (digits (c :: run)).length 7 with few | many
  · simp only [List.length_append, List.length_cons] at enough
    refine .inr ⟨budget - run.length, after, shorter, by omega, ?_, fun result answers =>
      answers.append (by simp) inside stops (few.trans (by decide))⟩
    rw [← search_few inside stops few, List.length_cons, ← Nat.add_assoc,
      Nat.sub_add_cancel (by omega)]
  · obtain ⟨rest, matched, passed⟩ := matchHere_many inside stops many
    rcases Nat.lt_or_ge (digits (c :: run)).length minDigits with few | whole
    · obtain rfl := passed few
      refine .inr ⟨budget, rest, shorter, by omega, search_rejected matched ?_,
        fun result answers => answers.append (by simp) inside stops few⟩
      exact Nat.not_le.1 fun whole => absurd (enough_kept_iff.1 whole) (Nat.not_le.2 few)
    · left
      have answer : search (budget + 1) (c :: run ++ after) = some (kept (c :: run)) :=
        search_found matched (enough_kept_iff.2 whole)
      rw [answer]
      exact ⟨[], c :: run, after, .of_append inside (by simp) stops whole, by simp [number]⟩

/-- The search is right on every text: it passes one run, or one character outside of the runs,
after the other. -/
theorem search_answers (text : List Char) (enough : text.length < budget) :
    Answers text (search budget text) := by
  induction length : text.length using Nat.strong_induction_on generalizing text budget with
  | _ n ih =>
  subst length
  obtain ⟨budget, rfl⟩ := Nat.exists_eq_add_one_of_ne_zero (Nat.ne_zero_of_lt enough)
  cases text with
  | nil =>
    intro before run after found
    exact absurd (List.append_eq_nil_iff.1 (List.append_eq_nil_iff.1 found.text_eq.symm).1).2
      found.ne_nil
  | cons c rest =>
    have steps : Steps (budget + 1) (c :: rest) := by
      cases within : isNumberChar c with
      | false => exact steps_outside within (Nat.lt_of_succ_lt_succ enough)
      | true =>
        obtain ⟨run, after, rfl, inside, stops⟩ := exists_stretch isNumberChar rest
        exact steps_run (List.forall_mem_cons.2 ⟨within, inside⟩) stops enough
    obtain answers | ⟨budget', shorter, less, enough', same, back⟩ := steps
    · exact answers
    · rw [same]
      exact back _ (ih _ less shorter enough' rfl)

end Search

section Main

variable {before run : List Char}

theorem digits_number : digits (number before run) = kept run := by
  rw [number, digits, List.filter_append, ← digits, ← digits, digits_kept]
  split <;> rfl

theorem extract_answers (text : String) :
    Answers text.toList ((extract text).map String.toList) := by
  rw [extract, Option.map_map]
  have answers := search_answers text.toList (Nat.lt_succ_self _)
  rw [String.length_toList] at answers
  simpa [Function.comp_def] using answers

theorem extract_eq_some_iff {text phone : String} :
    extract text = some phone ↔ ∃ before run after, IsFirstNumber text.toList before run after ∧
      phone = String.ofList (number before run) := by
  have answers := extract_answers text
  constructor
  · intro extracted
    rw [extracted] at answers
    obtain ⟨before, run, after, found, same⟩ := answers
    exact ⟨before, run, after, found, by rw [← same, String.ofList_toList]⟩
  · rintro ⟨before, run, after, found, rfl⟩
    cases extracted : extract text with
    | none =>
      rw [extracted] at answers
      exact absurd found.enough (Nat.not_le.2 (answers _ _ _ found.found))
    | some phone =>
      rw [extracted] at answers
      obtain ⟨before', run', after', found', same⟩ := answers
      obtain ⟨rfl, rfl⟩ := found.unique found'
      rw [← same, String.ofList_toList]

theorem extract_eq_none_iff {text : String} :
    extract text = none ↔
      ∀ before run after, IsRun text.toList before run after → (digits run).length < minDigits := by
  have answers := extract_answers text
  constructor
  · intro extracted
    rw [extracted] at answers
    exact answers
  · intro few
    by_contra extracted
    obtain ⟨phone, extracted⟩ := Option.ne_none_iff_exists'.1 extracted
    obtain ⟨before, run, after, found, -⟩ := extract_eq_some_iff.1 extracted
    exact absurd found.enough (Nat.not_le.2 (few _ _ _ found.found))

/-- What is extracted has ten to fifteen digits. -/
theorem digits_of_extract {text phone : String} (extracted : extract text = some phone) :
    10 ≤ (digits phone.toList).length ∧ (digits phone.toList).length ≤ 15 := by
  obtain ⟨before, run, after, found, rfl⟩ := extract_eq_some_iff.1 extracted
  have enough := found.enough
  rw [minDigits] at enough
  rw [String.toList_ofList, digits_number, length_kept]
  split <;> omega

/-- The number in a text is that of its first run of digits and separators with at least ten digits:
its first digits, 15 after a country digit and else 14, with the plus sign before that country digit.
Without such a run there is none. So a number has ten to fifteen digits, and a run that has
collected it knows a phone number. -/
theorem extract_eq_first_number (text : String) :
    (extract text = none ↔
      ∀ before run after, IsRun text.toList before run after → (digits run).length < minDigits) ∧
    (∀ phone, extract text = some phone ↔
      ∃ before run after, IsFirstNumber text.toList before run after ∧
        phone = String.ofList (number before run)) ∧
    ∀ phone, extract text = some phone →
      10 ≤ (digits phone.toList).length ∧ (digits phone.toList).length ≤ 15 ∧
        ∀ context : Context, context.phone = some phone → context.hasPhone = true := by
  refine ⟨extract_eq_none_iff, fun _ => extract_eq_some_iff, fun phone extracted => ?_⟩
  obtain ⟨ten, fifteen⟩ := digits_of_extract extracted
  refine ⟨ten, fifteen, fun context known => ?_⟩
  have long : (digits phone.toList).length ≤ phone.toList.length := List.length_filter_le _ _
  rw [String.length_toList] at long
  rw [Context.hasPhone, known, Option.getD_some, Context.minPhoneLength]
  exact decide_eq_true (ten.trans long)

/-- A number with a country digit, written with all kinds of separators. -/
theorem extract_eq_first_number_separated :
    extract "call +1 (555) 123-4567" = some "+15551234567" ∧
      ∀ context : Context, context.phone = some "+15551234567" → context.hasPhone = true := by
  have extracted : extract "call +1 (555) 123-4567" = some "+15551234567" := by decide +kernel
  exact ⟨extracted, ((extract_eq_first_number _).2.2 _ extracted).2.2⟩

end Main

end MessageFlow.Phone
