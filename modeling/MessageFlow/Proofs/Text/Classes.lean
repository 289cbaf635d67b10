import Mathlib.Data.List.Basic
import Mathlib.Data.List.DropRight
import Mathlib.Data.List.TakeWhile
import MessageFlow.Text.Classes

/-!
Classes of characters in texts: what trimming leaves of a text that is not made of blanks alone, and
the maximal stretches of a class.
-/

namespace MessageFlow.Text

/-- A text that is not made of blanks alone. -/
def HasWord (s : String) : Prop := ∃ c ∈ s.toList, isBlank c = false

theorem toList_trim (s : String) :
    (trim s).toList = (s.toList.dropWhile isBlank).rdropWhile isBlank := String.toList_ofList

/-- Trimming leaves a first character that is no blank, if the text has one. -/
theorem toList_trim_eq_cons {s : String} (hasWord : HasWord s) :
    ∃ c rest, isBlank c = false ∧ (trim s).toList = c :: rest := by
  obtain ⟨letter, present, notBlank⟩ := hasWord
  cases kept : s.toList.dropWhile isBlank with
  | nil =>
    have blank := List.dropWhile_eq_nil_iff.mp kept letter present
    rw [notBlank] at blank
    cases blank
  | cons c rest =>
    have isFirst : isBlank c = false := by
      have head := List.head?_dropWhile_not isBlank s.toList
      rw [kept] at head
      simpa using head
    rw [toList_trim, kept]
    cases trimmed : (c :: rest).rdropWhile isBlank with
    | nil =>
      have blank := List.rdropWhile_eq_nil_iff.mp trimmed c List.mem_cons_self
      rw [isFirst] at blank
      cases blank
    | cons first others =>
      have starts := List.rdropWhile_prefix isBlank (c :: rest)
      rw [trimmed, List.cons_prefix_cons] at starts
      exact ⟨first, others, starts.1 ▸ isFirst, rfl⟩

theorem hasWord_of_trim {s : String} (left : (trim s).toList ≠ []) : HasWord s := by
  by_contra none
  have blank : ∀ c ∈ s.toList, isBlank c = true := fun c present => by
    cases isClass : isBlank c with
    | true => rfl
    | false => exact absurd ⟨c, present, isClass⟩ none
  rw [toList_trim, List.dropWhile_eq_nil_iff.mpr blank] at left
  exact left rfl

theorem trim_eq_empty_iff {s : String} : trim s = "" ↔ ¬ HasWord s := by
  constructor
  · rintro none hasWord
    obtain ⟨c, rest, -, trimmed⟩ := toList_trim_eq_cons hasWord
    rw [none] at trimmed
    cases trimmed
  · intro blank
    by_contra left
    exact blank (hasWord_of_trim fun none => left (String.toList_eq_nil_iff.mp none))

end MessageFlow.Text

/-!
The stretches of a class of characters in a text: the maximal ones, which neither neighbour
prolongs. They are told apart by where they begin, and a text that starts with one has no other
that overlaps it.
-/

namespace MessageFlow

/-- The text does not go on with the class. -/
def Stops (within : Char → Bool) (text : List Char) : Prop := ∀ c ∈ text.head?, within c = false

/-- A stretch of a class of characters in a text that neither neighbour prolongs. -/
structure IsStretch (within : Char → Bool) (text before run after : List Char) : Prop where
  text_eq : text = before ++ run ++ after
  ne_nil : run ≠ []
  inside : ∀ c ∈ run, within c = true
  left : ∀ c ∈ before.getLast?, within c = false
  right : Stops within after

section Stretches

variable {within : Char → Bool} {text before run after rest : List Char}

theorem Stops.takeWhile_append (inside : ∀ c ∈ run, within c = true) (stops : Stops within after) :
    (run ++ after).takeWhile within = run := by
  rw [List.takeWhile_append_of_pos inside]
  cases after with
  | nil => simp
  | cons c rest => simp [stops c rfl]

theorem stops_dropWhile (within : Char → Bool) (text : List Char) :
    Stops within (text.dropWhile within) := fun _ head =>
  List.head?_dropWhile_not within text |> fun h => by simpa [Option.mem_def.1 head] using h

/-- Where the class ends is the only place to cut a text in a stretch and what follows. -/
theorem Stops.unique {run' after' : List Char} (stops : Stops within after)
    (stops' : Stops within after') (inside : ∀ c ∈ run, within c = true)
    (inside' : ∀ c ∈ run', within c = true) (same : run ++ after = run' ++ after') :
    run = run' ∧ after = after' := by
  have runs : run = run' := by
    rw [← stops.takeWhile_append inside, same, stops'.takeWhile_append inside']
  exact ⟨runs, List.append_cancel_left (runs ▸ same)⟩

/-- A text is the stretch it begins with, which may be empty, and what follows. -/
theorem exists_stretch (within : Char → Bool) (text : List Char) :
    ∃ run after, text = run ++ after ∧ (∀ c ∈ run, within c = true) ∧ Stops within after :=
  ⟨text.takeWhile within, text.dropWhile within, List.takeWhile_append_dropWhile.symm,
    fun _ present => List.mem_takeWhile_imp present, stops_dropWhile within text⟩

namespace IsStretch

theorem of_append (inside : ∀ c ∈ run, within c = true) (nonempty : run ≠ [])
    (stops : Stops within after) : IsStretch within (run ++ after) [] run after where
  text_eq := rfl
  ne_nil := nonempty
  inside := inside
  left := by simp
  right := stops

/-- The first character of a stretch belongs to the class. -/
theorem not_stops (found : IsStretch within text [] run after) : ¬Stops within text := by
  intro stops
  obtain ⟨c, rest, rfl⟩ := List.exists_cons_of_ne_nil found.ne_nil
  have outside := stops c (by rw [found.text_eq]; rfl)
  rw [found.inside c List.mem_cons_self] at outside
  cases outside

/-- Two stretches that begin at one place are the same. -/
theorem unique {before' run' after' : List Char} (found : IsStretch within text before run after)
    (found' : IsStretch within text before' run' after') (same : before.length = before'.length) :
    before = before' ∧ run = run' ∧ after = after' := by
  have both := found.text_eq.symm.trans found'.text_eq
  rw [List.append_assoc, List.append_assoc] at both
  obtain ⟨rfl, tails⟩ := List.append_inj both same
  exact ⟨rfl, found.right.unique found'.right found.inside found'.inside tails⟩

/-- After a character outside of the class the stretches are those of the rest. -/
theorem cons_iff {c : Char} (outside : within c = false) :
    IsStretch within (c :: rest) before run after ↔
      ∃ before', before = c :: before' ∧ IsStretch within rest before' run after := by
  constructor
  · intro found
    cases before with
    | nil => exact absurd (by simpa [Stops] using outside) found.not_stops
    | cons d before' =>
      obtain ⟨rfl, tails⟩ := List.cons.inj (by simpa using found.text_eq)
      refine ⟨before', rfl, by simpa using tails, found.ne_nil, found.inside, ?_, found.right⟩
      rcases eq_or_ne before' [] with rfl | elsewhere
      · simp
      · rw [← List.getLast?_append_of_ne_nil [c] elsewhere]
        exact found.left
  · rintro ⟨before', rfl, found⟩
    refine ⟨by simp [found.text_eq], found.ne_nil, found.inside, ?_, found.right⟩
    rcases eq_or_ne before' [] with rfl | elsewhere
    · simpa using outside
    · exact List.getLast?_append_of_ne_nil [c] elsewhere ▸ found.left

/-- A text that begins with a stretch has that one and the stretches of the rest. -/
theorem append_iff {lead : List Char} (nonempty : lead ≠ []) (inside : ∀ c ∈ lead, within c = true)
    (stops : Stops within rest) :
    IsStretch within (lead ++ rest) before run after ↔
      (before = [] ∧ run = lead ∧ after = rest) ∨
        ∃ before', before = lead ++ before' ∧ IsStretch within rest before' run after := by
  constructor
  · intro found
    have cut := found.text_eq
    rw [List.append_assoc] at cut
    obtain ⟨before', rfl, tail⟩ | ⟨others, rfl, tail⟩ := List.append_eq_append_iff.1 cut
    · refine .inr ⟨before', rfl, by rw [tail, List.append_assoc], found.ne_nil, found.inside, ?_,
        found.right⟩
      rcases eq_or_ne before' [] with rfl | elsewhere
      · simp
      · exact List.getLast?_append_of_ne_nil lead elsewhere ▸ found.left
    · cases hlast : before.getLast? with
      | none =>
        obtain rfl := List.getLast?_eq_none_iff.1 hlast
        obtain ⟨runs, afters⟩ := found.right.unique stops found.inside inside tail
        exact .inl ⟨rfl, runs, afters⟩
      | some c =>
        -- the character before the run would belong to the class
        have outside := found.left c hlast
        rw [inside c (List.mem_append_left _ (List.mem_of_getLast? hlast))] at outside
        cases outside
  · rintro (⟨rfl, rfl, rfl⟩ | ⟨before', rfl, found⟩)
    · exact of_append inside nonempty stops
    · refine ⟨by simp [found.text_eq], found.ne_nil, found.inside, ?_, found.right⟩
      rcases eq_or_ne before' [] with rfl | elsewhere
      · exact absurd stops found.not_stops
      · exact List.getLast?_append_of_ne_nil lead elsewhere ▸ found.left

end IsStretch

end Stretches

end MessageFlow
