import Mathlib.Data.List.Infix
import Mathlib.Data.List.Nodup
import MessageFlow.Message.Template
import MessageFlow.Proofs.Text.Classes

/-!
Substitution in one pass: the names that a text has are replaced by their values, and nothing that
was inserted is looked at again. Names are words in braces, so that their occurrences in a text never
overlap.
-/

namespace MessageFlow.Template

/-- Names with their values. -/
abbrev Bindings := List (List Char × List Char)

/-- One pass over a text; `skip` characters of the name under way are still to be passed over. -/
def substituteFrom (bindings : Bindings) : Nat → List Char → List Char
  | _, [] => []
  | skip + 1, _ :: rest => substituteFrom bindings skip rest
  | 0, c :: rest =>
    match bindings.find? fun (name, _) => name.isPrefixOf (c :: rest) with
    | some (name, value) => value ++ substituteFrom bindings (name.length - 1) rest
    | none => c :: substituteFrom bindings 0 rest

/-- The text with the names that it has replaced by their values, all at once. -/
def substitute (bindings : Bindings) (text : List Char) : List Char :=
  substituteFrom bindings 0 text

/-- A word in braces. -/
def IsName (name : List Char) : Prop :=
  ∃ word, name = '{' :: (word ++ ['}']) ∧ '{' ∉ word ∧ '}' ∉ word

/-- Each binding has a name of its own. -/
structure WellNamed (bindings : Bindings) : Prop where
  names : ∀ binding ∈ bindings, IsName binding.1
  distinct : (bindings.map Prod.fst).Nodup

/-- An occurrence of the name lies across the border between two texts. -/
def Crosses (name before after : List Char) : Prop :=
  ∃ start rest, name = start ++ rest ∧ start ≠ [] ∧ rest ≠ [] ∧ start <:+ before ∧ rest <+: after

section Names

variable {name name' start rest before after : List Char}

theorem IsName.ne_nil (isName : IsName name) : name ≠ [] := by
  obtain ⟨word, rfl, -⟩ := isName
  simp

/-- No name begins another. -/
theorem IsName.eq_of_append (isName : IsName name) (isName' : IsName name')
    (same : name ++ before = name' ++ after) : name = name' := by
  obtain ⟨word, rfl, -, unclosed⟩ := isName
  obtain ⟨word', rfl, -, unclosed'⟩ := isName'
  have stops (text : List Char) : Stops (· != '}') ('}' :: text) := by simp [Stops]
  obtain ⟨rfl, -⟩ := (stops before).unique (stops after)
    (fun c present => by simpa using ne_of_mem_of_not_mem present unclosed)
    (fun c present => by simpa using ne_of_mem_of_not_mem present unclosed') (by simpa using same)
  rfl

/-- The end of a name has no brace to open it. -/
theorem IsName.not_mem_rest (isName : IsName (start ++ rest)) (nonempty : start ≠ []) :
    '{' ∉ rest := by
  obtain ⟨word, same, unopened, -⟩ := isName
  obtain ⟨c, start, rfl⟩ := List.exists_cons_of_ne_nil nonempty
  obtain ⟨-, same⟩ := List.cons.inj same
  intro present
  have present : '{' ∈ word ++ ['}'] := same ▸ List.mem_append_right start present
  simp [unopened] at present

/-- The beginning of a name has no brace to close it. -/
theorem IsName.not_mem_start (isName : IsName (start ++ rest)) (nonempty : rest ≠ []) :
    '}' ∉ start := by
  obtain ⟨word, same, -, unclosed⟩ := isName
  obtain ⟨front, c, rfl⟩ := (List.eq_nil_or_concat' rest).resolve_left nonempty
  rw [← List.append_assoc, ← List.cons_append] at same
  obtain ⟨same, -⟩ := List.append_inj' same rfl
  intro present
  have present : '}' ∈ '{' :: word := same ▸ List.mem_append_left front present
  simp [unclosed] at present

theorem IsName.mem_start (isName : IsName (start ++ rest)) (nonempty : start ≠ []) :
    '{' ∈ start := by
  obtain ⟨word, same, -⟩ := isName
  obtain ⟨c, start, rfl⟩ := List.exists_cons_of_ne_nil nonempty
  obtain ⟨rfl, -⟩ := List.cons.inj same
  exact List.mem_cons_self

/-- A text is closed before it opens again. -/
theorem closes_first {word : List Char} (unopened : '{' ∉ word)
    (same : word ++ '}' :: after = before ++ '{' :: rest) : '}' ∈ before := by
  obtain ⟨later, rfl, tails⟩ | ⟨later, rfl, tails⟩ := List.append_eq_append_iff.1 same
  · cases later with
    | nil => cases tails
    | cons d later =>
      obtain ⟨rfl, -⟩ := List.cons.inj tails
      simp
  · cases later with
    | nil => cases tails
    | cons d later =>
      obtain ⟨rfl, -⟩ := List.cons.inj tails
      simp at unopened

/-- In a name that is set between a beginning and an end without the braces they lack, no other name
occurs. -/
theorem IsName.eq_of_occurs_between (isName : IsName name) (isName' : IsName name')
    (unclosed : '}' ∉ before) (unopened : '{' ∉ after) (occurs : name <:+: before ++ name' ++ after) :
    name = name' := by
  obtain ⟨front, back, same⟩ := occurs
  rw [List.append_assoc, List.append_assoc] at same
  obtain ⟨inner, rfl, cut⟩ | ⟨inner, rfl, cut⟩ := List.append_eq_append_iff.1 same
  · rcases eq_or_ne inner [] with rfl | nonempty
    · exact isName.eq_of_append isName' cut
    · -- what is before would have to close the name before the other one opens
      obtain ⟨c, inner, rfl⟩ := List.exists_cons_of_ne_nil nonempty
      obtain ⟨word, rfl, unopened', -⟩ := isName
      obtain ⟨word', rfl, -⟩ := isName'
      simp only [List.cons_append, List.append_assoc, List.nil_append] at cut
      have closed := closes_first unopened' (List.cons.inj cut).2
      exact absurd (List.mem_append_right front (List.mem_cons_of_mem c closed)) unclosed
  · rcases eq_or_ne inner [] with rfl | nonempty
    · exact (isName'.eq_of_append isName cut).symm
    · -- no brace opens after the first character of the other name
      obtain ⟨c, inner, rfl⟩ := List.exists_cons_of_ne_nil nonempty
      obtain ⟨word, rfl, -⟩ := isName
      obtain ⟨word', rfl, unopened', -⟩ := isName'
      simp only [List.cons_append] at cut
      have present : '{' ∈ word' ++ ['}'] ++ after := by
        rw [(List.cons.inj cut).2]
        simp
      simp [unopened', unopened] at present

theorem IsName.eq_of_occurs (isName : IsName name) (isName' : IsName name')
    (occurs : name <:+: name') : name = name' := by
  have between : name <:+: [] ++ name' ++ [] := by simpa using occurs
  exact isName.eq_of_occurs_between isName' List.not_mem_nil List.not_mem_nil between

end Names

section Crossings

variable {name before after : List Char}

/-- No name lies across the beginning of another. -/
theorem IsName.not_crosses_open (isName : IsName name) : ¬Crosses name before ('{' :: after) := by
  rintro ⟨start, rest, rfl, nonempty, more, -, begins⟩
  obtain ⟨c, rest, rfl⟩ := List.exists_cons_of_ne_nil more
  obtain ⟨rfl, -⟩ := List.cons_prefix_cons.1 begins
  exact isName.not_mem_rest nonempty List.mem_cons_self

theorem IsName.not_crosses_name {name' : List Char} (isName : IsName name)
    (isName' : IsName name') : ¬Crosses name before (name' ++ after) := by
  obtain ⟨word, rfl, -⟩ := isName'
  exact isName.not_crosses_open

theorem IsName.not_crosses_of_unopened (isName : IsName name) (unopened : '{' ∉ before) :
    ¬Crosses name before after := by
  rintro ⟨start, rest, rfl, nonempty, -, ends, -⟩
  exact unopened (ends.subset (isName.mem_start nonempty))

/-- No name lies across the end of another. -/
theorem IsName.not_crosses_close {name' : List Char} (isName : IsName name)
    (isName' : IsName name') : ¬Crosses name (before ++ name') after := by
  rintro ⟨start, rest, rfl, nonempty, more, ⟨front, same⟩, -⟩
  obtain ⟨word, rfl, -⟩ := isName'
  obtain ⟨start, c, rfl⟩ := (List.eq_nil_or_concat' start).resolve_left nonempty
  have ends : (front ++ start) ++ [c] = (before ++ '{' :: word) ++ ['}'] := by simpa using same
  obtain ⟨rfl⟩ := (List.append_inj' ends rfl).2
  exact isName.not_mem_start more (by simp)

theorem IsName.not_crosses_end {name' : List Char} (isName : IsName name)
    (isName' : IsName name') : ¬Crosses name name' after := by
  rw [← List.nil_append name']
  exact isName.not_crosses_close isName'

end Crossings

section Pass

variable {bindings : Bindings} {name value text rest before after : List Char} {c : Char}

theorem substituteFrom_skip (part rest : List Char) :
    substituteFrom bindings part.length (part ++ rest) = substitute bindings rest := by
  induction part with
  | nil => rfl
  | cons c part ih => exact ih

theorem substitute_cons (absent : ∀ binding ∈ bindings, ¬binding.1 <+: c :: rest) :
    substitute bindings (c :: rest) = c :: substitute bindings rest := by
  have none_begins : bindings.find? (fun (name, _) => name.isPrefixOf (c :: rest)) = none :=
    List.find?_eq_none.2 fun binding present begins =>
      absent binding present (List.isPrefixOf_iff_prefix.1 begins)
  rw [substitute, substituteFrom, none_begins]
  rfl

namespace WellNamed

theorem find? (well : WellNamed bindings) (present : (name, value) ∈ bindings)
    (begins : name <+: text) :
    bindings.find? (fun (name, _) => name.isPrefixOf text) = some (name, value) := by
  have found : (bindings.find? fun (name, _) => name.isPrefixOf text).isSome = true :=
    List.find?_isSome.2 ⟨_, present, List.isPrefixOf_iff_prefix.2 begins⟩
  obtain ⟨⟨name', value'⟩, found⟩ := Option.isSome_iff_exists.1 found
  have present' := List.mem_of_find?_eq_some found
  obtain ⟨after, rfl⟩ := begins
  have begins' : name'.isPrefixOf (name ++ after) = true := by simpa using List.find?_some found
  obtain ⟨after', same⟩ := List.isPrefixOf_iff_prefix.1 begins'
  have names := (well.names _ present').eq_of_append (well.names _ present) same
  rw [found, List.inj_on_of_nodup_map well.distinct present' present names]

theorem substitute_name (well : WellNamed bindings) (present : (name, value) ∈ bindings) :
    substitute bindings (name ++ rest) = value ++ substitute bindings rest := by
  have found := well.find? present (List.prefix_append name rest)
  obtain ⟨c, tail, rfl⟩ := List.exists_cons_of_ne_nil (well.names _ present).ne_nil
  rw [List.cons_append] at found ⊢
  rw [substitute, substituteFrom, found]
  exact congrArg (value ++ ·) (substituteFrom_skip tail rest)

/-- Induction along a pass: a text begins with a name or with a character that is kept. -/
@[elab_as_elim]
theorem pass {motive : List Char → Prop} (well : WellNamed bindings) (nil : motive [])
    (named : ∀ name value rest, (name, value) ∈ bindings → motive rest → motive (name ++ rest))
    (kept : ∀ c rest, (∀ binding ∈ bindings, ¬binding.1 <+: c :: rest) → motive rest →
      motive (c :: rest)) (text : List Char) : motive text := by
  induction length : text.length using Nat.strong_induction_on generalizing text with
  | _ n ih =>
  subst length
  cases text with
  | nil => exact nil
  | cons c rest =>
    by_cases begins : ∃ binding ∈ bindings, binding.1 <+: c :: rest
    · obtain ⟨⟨name, value⟩, present, after, same⟩ := begins
      have longer := List.length_pos_iff.2 (well.names _ present).ne_nil
      rw [← same, List.length_append] at ih
      rw [← same]
      exact named name value after present (ih _ (Nat.lt_add_of_pos_left longer) after rfl)
    · exact kept c rest (fun binding present found => begins ⟨binding, present, found⟩)
        (ih _ (Nat.lt_succ_self _) rest rfl)

/-- Two texts are substituted apart if no name lies across the border. -/
theorem substitute_append (well : WellNamed bindings)
    (apart : ∀ binding ∈ bindings, ¬Crosses binding.1 before after) :
    substitute bindings (before ++ after) = substitute bindings before ++
      substitute bindings after := by
  induction before using well.pass with
  | nil => rfl
  | named name value rest present ih =>
    rw [List.append_assoc, well.substitute_name present, well.substitute_name present,
      List.append_assoc, ih]
    rintro binding listed ⟨start, tail, same, nonempty, more, ends, begins⟩
    exact apart binding listed
      ⟨start, tail, same, nonempty, more, ends.trans (List.suffix_append _ _), begins⟩
  | kept c rest absent ih =>
    rw [List.cons_append, substitute_cons absent, substitute_cons, List.cons_append, ih]
    · rintro binding listed ⟨start, tail, same, nonempty, more, ends, begins⟩
      exact apart binding listed
        ⟨start, tail, same, nonempty, more, ends.trans (List.suffix_cons _ _), begins⟩
    · intro binding listed begins
      obtain short | ⟨tail, same⟩ := List.prefix_or_prefix_of_prefix begins
        (List.prefix_append (c :: rest) after)
      · exact absent binding listed short
      · rcases eq_or_ne tail [] with rfl | more
        · exact absent binding listed ⟨[], by simp [← same]⟩
        · refine apart binding listed
            ⟨c :: rest, tail, same.symm, by simp, more, List.suffix_rfl, ?_⟩
          rw [← same] at begins
          exact (List.prefix_append_right_inj _).1 begins

end WellNamed

theorem substitute_of_absent (absent : ∀ binding ∈ bindings, ¬binding.1 <:+: text) :
    substitute bindings text = text := by
  induction text with
  | nil => rfl
  | cons c rest ih =>
    rw [substitute_cons fun binding present begins => absent binding present begins.isInfix]
    rw [ih fun binding present occurs => absent binding present
      (occurs.trans (List.suffix_cons c rest).isInfix)]

theorem WellNamed.substitute_of_unopened (well : WellNamed bindings) (unopened : '{' ∉ text) :
    substitute bindings text = text :=
  substitute_of_absent fun binding present occurs => by
    obtain ⟨word, same, -⟩ := well.names binding present
    exact unopened (occurs.subset (same ▸ List.mem_cons_self))

theorem WellNamed.substitute_of_unclosed (well : WellNamed bindings) (unclosed : '}' ∉ text) :
    substitute bindings text = text :=
  substitute_of_absent fun binding present occurs => by
    obtain ⟨word, same, -⟩ := well.names binding present
    exact unclosed (occurs.subset (by simp [same]))

/-- A name that is set between a beginning and an end without the braces they lack is all that is
replaced. -/
theorem WellNamed.substitute_between (well : WellNamed bindings) (present : (name, value) ∈ bindings)
    (unclosed : '}' ∉ before) (unopened : '{' ∉ after) :
    substitute bindings (before ++ name ++ after) = before ++ value ++ after := by
  have isName := well.names _ present
  have apart (binding) (listed : binding ∈ bindings) :
      ¬Crosses binding.1 before (name ++ after) :=
    (well.names binding listed).not_crosses_name isName
  rw [List.append_assoc, well.substitute_append apart, well.substitute_of_unclosed unclosed,
    well.substitute_name present, well.substitute_of_unopened unopened, List.append_assoc]

/-- Replacing one text by another is a pass with one binding. -/
theorem replaceFrom_eq (skip : Nat) :
    Text.replaceFrom name value skip text = substituteFrom [(name, value)] skip text := by
  induction text generalizing skip with
  | nil => cases skip <;> rfl
  | cons c rest ih =>
    cases skip with
    | succ skip => exact ih skip
    | zero =>
      rw [Text.replaceFrom, substituteFrom, ih, ih]
      cases begins : name.isPrefixOf (c :: rest) <;> simp [begins]

end Pass

end MessageFlow.Template
