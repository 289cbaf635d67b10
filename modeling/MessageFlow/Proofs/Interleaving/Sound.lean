import Mathlib.Data.List.Nodup
import Mathlib.Logic.Function.Basic
import MessageFlow.Proofs.Interleaving.Desk
import MessageFlow.Proofs.Interleaving.Rows

/-!
The relation between the stored executions and the standings of all clients. It is kept by
everything that clients may do: to rest, to take copies, to reserve an id, to write over a copy, to
store a new execution, and to begin a traversal.
-/

namespace MessageFlow
open Standing

/-- The row was written since the copy was taken. -/
def Outdates (row : Row) (v : Execution) : Prop := ∃ n, row.get "revision" = .int n ∧ v.revision < n

/-- The copy is of an id that is known, and shows the stored row unless that was written since. -/
structure View.Backs (view : View) (rows : List Row) (issued : List String) (v : Execution) :
    Prop where
  known : v.id ∈ issued ∨ ∃ row ∈ rows, row.get "id" = .text v.id
  current : ∀ row ∈ rows, row.get "id" = .text v.id → view.shows row v ∨ Outdates row v

structure Sound (view : View) (rows : List Row) (issued : List String)
    (standing : Nat → Standing) : Prop where
  unique : (rows.map fun row => row.get "id").Nodup
  formed : ∀ row ∈ rows, view.form row
  backs : ∀ i, ∀ v ∈ (standing i).held, view.Backs rows issued v
  /-- A reserved id was given out, but nobody else has it. -/
  reserves : ∀ i id, (standing i).reserved = some id → id ∈ issued ∧
    (∀ row ∈ rows, row.get "id" ≠ .text id) ∧ (∀ j, ∀ v ∈ (standing j).held, v.id ≠ id) ∧
    ∀ j, (standing j).reserved = some id → j = i
  active : ∀ i v, (standing i).walking = some v → v.status = .active
  /-- An execution under traversal cannot be claimed. -/
  claimed : ∀ i v, (standing i).walking = some v →
    ∀ row ∈ rows, row.get "id" = .text v.id → row.status? ≠ some .waiting
  /-- Two clients never traverse the same execution. -/
  alone : ∀ i j v w, (standing i).walking = some v → (standing j).walking = some w →
    v.id = w.id → i = j

namespace Sound

variable {view : View} {rows : List Row} {issued : List String} {standing : Nat → Standing}
  {i : Nat} {v e : Execution}

theorem eq_of_id (sound : Sound view rows issued standing) {row other : Row} (present : row ∈ rows)
    (otherPresent : other ∈ rows) (same : row.get "id" = other.get "id") : row = other :=
  List.inj_on_of_nodup_map sound.unique present otherPresent same

theorem backs_of_read (sound : Sound view rows issued standing) {row : Row} (present : row ∈ rows)
    (reads : Execution.read (.record row) = .valid v) : view.Backs rows issued v := by
  have shown : view.shows row v := view.reads (sound.formed row present) reads
  have id : row.get "id" = .text v.id := (view.heads shown).id
  refine ⟨.inr ⟨row, present, id⟩, ?_⟩
  intro other otherPresent same
  rw [← sound.eq_of_id present otherPresent (id.trans same.symm)]
  exact .inl shown

/-- Before any client has begun. -/
theorem start (unique : (rows.map fun row => row.get "id").Nodup)
    (formed : ∀ row ∈ rows, view.form row) :
    Sound view rows issued fun _ => holding ∅ where
  unique := unique
  formed := formed
  backs _ v none := absurd none (Set.notMem_empty v)
  reserves _ _ reserved := by cases reserved
  active _ _ walking := by cases walking
  claimed _ _ walking := by cases walking
  alone _ _ _ _ walking := by cases walking

/-- One client's standing may be replaced by one that fits the others. -/
theorem update (sound : Sound view rows issued standing) {s : Standing}
    (backs : ∀ v ∈ s.held, view.Backs rows issued v)
    (free : ∀ j id, j ≠ i → (standing j).reserved = some id →
      s.reserved ≠ some id ∧ ∀ v ∈ s.held, v.id ≠ id)
    (reserves : ∀ id, s.reserved = some id → id ∈ issued ∧
      (∀ row ∈ rows, row.get "id" ≠ .text id) ∧ (∀ v ∈ s.held, v.id ≠ id) ∧
      ∀ j, j ≠ i → ∀ v ∈ (standing j).held, v.id ≠ id)
    (walks : ∀ v, s.walking = some v → v.status = .active ∧
      (∀ row ∈ rows, row.get "id" = .text v.id → row.status? ≠ some .waiting) ∧
      ∀ j w, j ≠ i → (standing j).walking = some w → v.id ≠ w.id) :
    Sound view rows issued (Function.update standing i s) where
  unique := sound.unique
  formed := sound.formed
  backs := (Function.forall_update_iff standing fun _ s =>
      ∀ v ∈ s.held, view.Backs rows issued v).mpr ⟨backs, fun j _ => sound.backs j⟩
  reserves := by
    have kept (id : String) (mine : ∀ v ∈ s.held, v.id ≠ id)
        (others : ∀ j, j ≠ i → ∀ v ∈ (standing j).held, v.id ≠ id) :
        ∀ j, ∀ v ∈ (Function.update standing i s j).held, v.id ≠ id :=
      (Function.forall_update_iff standing fun _ s => ∀ v ∈ s.held, v.id ≠ id).mpr ⟨mine, others⟩
    have only (id : String) (k : Nat) (mine : s.reserved = some id → i = k)
        (others : ∀ j, j ≠ i → (standing j).reserved = some id → j = k) :
        ∀ j, (Function.update standing i s j).reserved = some id → j = k :=
      (Function.forall_update_iff standing fun j s => s.reserved = some id → j = k).mpr
        ⟨mine, others⟩
    intro j id reserved
    by_cases mine : j = i
    · rw [mine, Function.update_self] at reserved
      obtain ⟨given, noRow, notMine, notOthers⟩ := reserves id reserved
      refine ⟨given, noRow, kept id notMine notOthers, only id j (fun _ => mine.symm) ?_⟩
      intro k other drawn
      exact absurd reserved (free k id other drawn).1
    · rw [Function.update_of_ne mine] at reserved
      obtain ⟨given, noRow, noCopy, onlyOne⟩ := sound.reserves j id reserved
      obtain ⟨notMine, notHeld⟩ := free j id mine reserved
      refine ⟨given, noRow, kept id notHeld fun k _ => noCopy k, only id j ?_ ?_⟩
      · intro drawn
        exact absurd drawn notMine
      · intro k _ drawn
        exact onlyOne k drawn
  active := (Function.forall_update_iff standing fun _ s =>
      ∀ v, s.walking = some v → v.status = .active).mpr
    ⟨fun v walking => (walks v walking).1, fun j _ => sound.active j⟩
  claimed := (Function.forall_update_iff standing fun _ s => ∀ v, s.walking = some v →
      ∀ row ∈ rows, row.get "id" = .text v.id → row.status? ≠ some .waiting).mpr
    ⟨fun v walking => (walks v walking).2.1, fun j _ => sound.claimed j⟩
  alone j k w x first second same := by
    by_cases mine : j = i
    · by_cases also : k = i
      · rw [mine, also]
      · rw [mine, Function.update_self] at first
        rw [Function.update_of_ne also] at second
        exact absurd same ((walks w first).2.2 k x also second)
    · rw [Function.update_of_ne mine] at first
      by_cases also : k = i
      · rw [also, Function.update_self] at second
        exact absurd same.symm ((walks x second).2.2 j w mine first)
      · rw [Function.update_of_ne also] at second
        exact sound.alone j k w x first second same

theorem rest (sound : Sound view rows issued standing) (i : Nat) :
    Sound view rows issued (Function.update standing i (standing i).rest) := by
  refine sound.update (sound.backs i) ?_ ?_ ?_
  · intro j id _ reserved
    exact ⟨nofun, (sound.reserves j id reserved).2.2.1 i⟩
  · intro id reserved
    cases reserved
  · intro v walking
    cases walking

theorem see (sound : Sound view rows issued standing) {found : List Row}
    (stored : ∀ row ∈ found, row ∈ rows) :
    Sound view rows issued (Function.update standing i ((standing i).see found)) := by
  have free {id : String} (noRow : ∀ row ∈ rows, row.get "id" ≠ .text id)
      (noCopy : ∀ v ∈ (standing i).held, v.id ≠ id) :
      ∀ v ∈ ((standing i).see found).held, v.id ≠ id := by
    intro v copy
    rcases copy with held | ⟨row, isFound, reads⟩
    · exact noCopy v held
    · intro same
      subst same
      exact noRow row (stored row isFound) (Row.heads_of_read reads).id
  apply sound.update
  · intro v copy
    rcases copy with held | ⟨row, isFound, reads⟩
    · exact sound.backs i v held
    · exact sound.backs_of_read (stored row isFound) reads
  · intro j id other reserved
    obtain ⟨_, noRow, noCopy, only⟩ := sound.reserves j id reserved
    exact ⟨fun mine => other (only i mine).symm, free noRow (noCopy i)⟩
  · intro id reserved
    obtain ⟨given, noRow, noCopy, _⟩ := sound.reserves i id reserved
    exact ⟨given, noRow, free noRow (noCopy i), fun j _ => noCopy j⟩
  · intro v walking
    exact ⟨sound.active i v walking, sound.claimed i v walking, fun j w other walks same =>
      other (sound.alone i j v w walking walks same).symm⟩

theorem begin (sound : Sound view rows issued standing) {s : Set Execution}
    (read : ∀ v ∈ s, ∃ row ∈ rows, Execution.read (.record row) = .valid v) :
    Sound view rows issued (Function.update standing i (holding s)) := by
  apply sound.update
  · intro v given
    obtain ⟨row, present, reads⟩ := read v given
    exact sound.backs_of_read present reads
  · intro j id _ reserved
    refine ⟨nofun, ?_⟩
    intro v given same
    subst same
    obtain ⟨row, present, reads⟩ := read v given
    exact (sound.reserves j v.id reserved).2.1 row present (Row.heads_of_read reads).id
  · intro id reserved
    cases reserved
  · intro v walking
    cases walking

theorem issue (sound : Sound view rows issued standing) (id : String) :
    Sound view rows (id :: issued) standing where
  unique := sound.unique
  formed := sound.formed
  backs i v held := by
    obtain ⟨known, current⟩ := sound.backs i v held
    exact ⟨known.imp_left (List.mem_cons_of_mem id), current⟩
  reserves i other reserved := by
    obtain ⟨given, rest⟩ := sound.reserves i other reserved
    exact ⟨List.mem_cons_of_mem id given, rest⟩
  active := sound.active
  claimed := sound.claimed
  alone := sound.alone

theorem reserve (sound : Sound view rows issued standing) {id : String} (unissued : id ∉ issued)
    (noRow : ∀ row ∈ rows, row.get "id" ≠ .text id) :
    Sound view rows (id :: issued) (Function.update standing i ((standing i).reserve id)) := by
  have noCopy (j : Nat) : ∀ v ∈ (standing j).held, v.id ≠ id := by
    intro v held same
    subst same
    rcases (sound.backs j v held).known with known | ⟨row, present, same⟩
    · exact unissued known
    · exact noRow row present same
  have issued' := sound.issue id
  refine issued'.update (issued'.backs i) ?_ ?_ ?_
  · intro j other different reserved
    obtain ⟨given, _, notHeld, _⟩ := sound.reserves j other reserved
    refine ⟨?_, notHeld i⟩
    intro same
    cases same
    exact unissued given
  · intro other reserved
    cases reserved
    exact ⟨.head issued, noRow, noCopy i, fun j _ => noCopy j⟩
  · intro v walking
    exact ⟨sound.active i v walking, sound.claimed i v walking, fun j w other walks same =>
      other (sound.alone i j v w walking walks same).symm⟩

/-- A write goes over the version that the copy shows, or over nothing. -/
theorem overwrite_cases (sound : Sound view rows issued standing) (held : v ∈ (standing i).held)
    (keeps : v.Keeps e) {row : Row} (present : row ∈ rows) :
    (e.isWrittenOver row = false ∧ e.overwrite row = row) ∨
      (e.isWrittenOver row = true ∧ view.shows row v ∧ view.form (e.overwrite row) ∧
        view.shows (e.overwrite row) e.saved ∧
        (e.overwrite row).get "revision" = .int (v.revision + 1)) := by
  cases meant : e.isWrittenOver row with
  | false => exact .inl ⟨rfl, by rw [Execution.overwrite, meant]; rfl⟩
  | true =>
    obtain ⟨id, revision⟩ := Execution.isWrittenOver_iff.mp meant
    rw [keeps.id] at id
    rw [keeps.revision] at revision
    have shown : view.shows row v := by
      rcases (sound.backs i v held).current row present id with shown | ⟨n, stored, later⟩
      · exact shown
      · rw [stored] at revision
        exact absurd (Json.same_int.mp revision) (ne_of_gt later)
    obtain ⟨form, shows⟩ := view.writes (sound.formed row present) shown keeps
    have written : e.overwrite row = e.writeOver row := by
      rw [Execution.overwrite, meant]
      rfl
    rw [written, e.get_revision_writeOver, keeps.revision]
    exact .inr ⟨rfl, shown, form, shows, rfl⟩

theorem get_id_overwrite (sound : Sound view rows issued standing) (held : v ∈ (standing i).held)
    (keeps : v.Keeps e) {row : Row} (present : row ∈ rows) :
    (e.overwrite row).get "id" = row.get "id" := by
  rcases sound.overwrite_cases held keeps present with ⟨_, same⟩ | ⟨meant, _, _, shown, _⟩
  · rw [same]
  · rw [(view.heads shown).id, (Execution.isWrittenOver_iff.mp meant).1]
    rfl

/-- What is left of the claim on a row by a copy when another copy is written over it. -/
theorem current_overwrite (sound : Sound view rows issued standing)
    (held : v ∈ (standing i).held) (keeps : v.Keeps e) {w : Execution} {row : Row}
    (present : row ∈ rows) (current : view.shows row w ∨ Outdates row w) :
    view.shows (e.overwrite row) w ∨ Outdates (e.overwrite row) w := by
  rcases sound.overwrite_cases held keeps present with ⟨_, same⟩ | ⟨_, shown, _, _, revision⟩
  · rw [same]
    exact current
  · have stored := (view.heads shown).revision
    refine .inr ⟨v.revision + 1, revision, ?_⟩
    rcases current with alike | ⟨n, written, later⟩
    · have read := (view.heads alike).revision
      rw [stored] at read
      have same : v.revision = w.revision := Option.some.inj read
      omega
    · have read := Row.revision?_of_get? (Row.get?_of_get written (by simp))
      rw [stored] at read
      have same : v.revision = n := Option.some.inj read
      omega

/-- A write over a copy; no execution under traversal comes to wait by it. -/
theorem overwrite (sound : Sound view rows issued standing) (held : v ∈ (standing i).held)
    (keeps : v.Keeps e)
    (calm : ∀ j w, (standing j).walking = some w → w.id = v.id → v.status ≠ .waiting →
      e.status ≠ .waiting) : Sound view (rows.map e.overwrite) issued standing where
  unique := by
    have same : (rows.map e.overwrite).map (fun row => row.get "id") =
        rows.map fun row => row.get "id" := by
      rw [List.map_map]
      exact List.map_congr_left fun row present => sound.get_id_overwrite held keeps present
    rw [same]
    exact sound.unique
  formed row' present' := by
    obtain ⟨row, present, rfl⟩ := List.mem_map.mp present'
    rcases sound.overwrite_cases held keeps present with ⟨_, same⟩ | ⟨_, _, form, _⟩
    · rw [same]
      exact sound.formed row present
    · exact form
  backs j w heldBy := by
    obtain ⟨known, current⟩ := sound.backs j w heldBy
    constructor
    · apply known.imp_right
      intro stored
      obtain ⟨row, present, same⟩ := stored
      refine ⟨e.overwrite row, List.mem_map_of_mem present, ?_⟩
      rw [sound.get_id_overwrite held keeps present, same]
    · intro row' present' same
      obtain ⟨row, present, rfl⟩ := List.mem_map.mp present'
      rw [sound.get_id_overwrite held keeps present] at same
      exact sound.current_overwrite held keeps present (current row present same)
  reserves j id reserved := by
    obtain ⟨given, noRow, rest⟩ := sound.reserves j id reserved
    refine ⟨given, ?_, rest⟩
    intro row' present'
    obtain ⟨row, present, rfl⟩ := List.mem_map.mp present'
    rw [sound.get_id_overwrite held keeps present]
    exact noRow row present
  active := sound.active
  claimed j w walking row' present' same := by
    obtain ⟨row, present, rfl⟩ := List.mem_map.mp present'
    rw [sound.get_id_overwrite held keeps present] at same
    have before := sound.claimed j w walking row present same
    rcases sound.overwrite_cases held keeps present with ⟨_, kept⟩ | ⟨_, shown, _, written, _⟩
    · rw [kept]
      exact before
    · rw [(view.heads shown).status] at before
      rw [(view.heads shown).id] at same
      rw [(view.heads written).status]
      intro waits
      refine calm j w walking (Json.text.inj same).symm ?_ (Option.some.inj waits)
      intro waited
      exact before (congrArg some waited)
  alone := sound.alone

/-- A new execution with a free id. -/
theorem append (sound : Sound view rows issued standing) (isNew : e.IsNew)
    (noRow : ∀ row ∈ rows, row.get "id" ≠ .text e.id)
    (noCopy : ∀ j, ∀ v ∈ (standing j).held, v.id ≠ e.id)
    (unreserved : ∀ j, (standing j).reserved ≠ some e.id) :
    Sound view (rows ++ [e.row]) issued standing where
  unique := by
    refine nodup_ids_append sound.unique fun other present => ?_
    rw [(view.heads (view.creates isNew).2).id]
    exact noRow other present
  formed row present := by
    rcases List.mem_append.mp present with old | new
    · exact sound.formed row old
    · rw [List.mem_singleton.mp new]
      exact (view.creates isNew).1
  backs j v held := by
    obtain ⟨known, current⟩ := sound.backs j v held
    constructor
    · apply known.imp_right
      intro stored
      obtain ⟨row, present, same⟩ := stored
      exact ⟨row, List.mem_append_left _ present, same⟩
    · intro row present same
      rcases List.mem_append.mp present with old | new
      · exact current row old same
      · rw [List.mem_singleton.mp new, (view.heads (view.creates isNew).2).id] at same
        exact absurd (Json.text.inj same).symm (noCopy j v held)
  reserves j id reserved := by
    obtain ⟨given, free, rest⟩ := sound.reserves j id reserved
    refine ⟨given, ?_, rest⟩
    intro row present same
    rcases List.mem_append.mp present with old | new
    · exact free row old same
    · rw [List.mem_singleton.mp new, (view.heads (view.creates isNew).2).id] at same
      rw [← Json.text.inj same] at reserved
      exact unreserved j reserved
  active := sound.active
  claimed j w walking row present same := by
    rcases List.mem_append.mp present with old | new
    · exact sound.claimed j w walking row old same
    · rw [List.mem_singleton.mp new, (view.heads (view.creates isNew).2).id] at same
      exact absurd (Json.text.inj same).symm
        (noCopy j w ((standing j).walkingHeld w walking))
  alone := sound.alone

/-- A client begins to traverse what nobody else traverses. -/
theorem walk (sound : Sound view rows issued standing) (active : v.status = .active)
    (backs : view.Backs rows issued v)
    (busy : ∀ row ∈ rows, row.get "id" = .text v.id → row.status? ≠ some .waiting)
    (alone : ∀ j w, j ≠ i → (standing j).walking = some w → v.id ≠ w.id)
    (unreserved : ∀ j, j ≠ i → (standing j).reserved ≠ some v.id) :
    Sound view rows issued (Function.update standing i ((standing i).walk v)) := by
  apply sound.update
  · intro w copy
    rcases copy with rfl | held
    · exact backs
    · exact sound.backs i w held
  · intro j id other reserved
    refine ⟨nofun, ?_⟩
    intro w copy
    rcases copy with rfl | held
    · intro same
      subst same
      exact unreserved j other reserved
    · exact (sound.reserves j id reserved).2.2.1 i w held
  · intro id reserved
    cases reserved
  · intro w walking
    cases walking
    exact ⟨active, busy, alone⟩

end Sound
end MessageFlow
