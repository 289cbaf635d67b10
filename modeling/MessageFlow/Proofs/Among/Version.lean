import MessageFlow.Proofs.Among.Run
import MessageFlow.Proofs.Interleaving.Writes

/-!
The stored version of one execution, what other clients may make of it, and what becomes of a write
over a copy of it.
-/

namespace MessageFlow

/-- The version of the execution with that id, in the form in which the program writes it. -/
structure Tables.Has (tables : Tables) (id : String) (version : Option Execution) : Prop
    extends tables.Holds id version where
  unique : tables.UniqueIds
  writable : ∀ v ∈ version, DocumentType.isWritable v = true

/-- A version is the same, or a later one, or was removed. -/
inductive Grows : Option Execution → Option Execution → Prop
  | same (version : Option Execution) : Grows version version
  | removed (v : Execution) : Grows (some v) none
  | later (v w : Execution) (revision : v.revision < w.revision) : Grows (some v) (some w)

/-- A client that may write the execution raises its revision, or removes it. -/
def Tables.Rewrites (id : String) (before after : Tables) : Prop :=
  ∀ version, before.Has id version → ∃ version', after.Has id version' ∧ Grows version version'

namespace Happening

/-- The stored execution with that id is another one afterwards. -/
def touches (id : String) (h : Happening) : Bool :=
  h.after.executionRow? id ≠ h.before.executionRow? id

/-- Another client wrote the execution. -/
def intrudes (id : String) (h : Happening) : Bool := h.isOther && h.touches id

/-- The program wrote the execution, and not for a traversal. -/
def writes (id : String) : Happening → Bool
  | .own none query before => touches id (.own none query before)
  | _ => false

/-- A write of an execution that met no row, and was not one of a traversal. -/
def misses : Happening → Bool
  | .own none (.update .executions filters changes) before =>
    ((Query.update .executions filters changes).run before).1.isEmpty
  | _ => false

variable {id : String} {h : Happening}

theorem touches_eq_false : h.touches id = false ↔
    h.after.executionRow? id = h.before.executionRow? id := by
  simp [touches]

theorem not_writes_of_isOther (other : h.isOther = true) : h.writes id = false := by
  cases h with
  | other => rfl
  | own => cases other

theorem not_writes_of_within {execution : String} (within : h.Within execution) :
    h.writes id = false := by
  cases h with
  | other => rfl
  | own traversed query before =>
    cases within
    rfl

theorem not_misses_of_isOther (other : h.isOther = true) : h.misses = false := by
  cases h with
  | other => rfl
  | own => cases other

theorem not_misses_of_within {execution : String} (within : h.Within execution) :
    h.misses = false := by
  cases h with
  | other => rfl
  | own traversed query before =>
    cases within
    rfl

theorem not_touches_of_same (same : h.after.executionRows = h.before.executionRows) :
    h.touches id = false := by
  rw [touches_eq_false, Tables.executionRow?, same]
  rfl

theorem not_writes_of_isAside (aside : h.IsAside) : h.writes id = false := by
  cases h with
  | other => rfl
  | own traversed query before =>
    obtain ⟨rfl, same⟩ := aside
    exact not_touches_of_same (h := .own none query before) same

/-- What happened up to the first write of the program, or everything if there is none. -/
def upToWrite (id : String) (history : List Happening) : List Happening :=
  history.takeWhile fun h => !h.writes id

/-- How often other clients wrote the execution. -/
def intrusions (id : String) (history : List Happening) : Nat :=
  (history.filter (·.intrudes id)).length

variable {front later : List Happening}

theorem filter_eq_nil {P : Happening → Bool} (never : ∀ h ∈ front, P h = false) :
    front.filter P = [] :=
  List.filter_eq_nil_iff.mpr fun h present => Bool.eq_false_iff.mp (never h present)

theorem upToWrite_append (unwritten : ∀ h ∈ front, h.writes id = false) (later : List Happening) :
    upToWrite id (front ++ later) = front ++ upToWrite id later :=
  List.takeWhile_append_of_pos fun h present => by rw [unwritten h present]; rfl

theorem upToWrite_eq (unwritten : ∀ h ∈ front, h.writes id = false) :
    upToWrite id front = front := by
  have whole := upToWrite_append unwritten []
  rwa [List.append_nil, upToWrite, upToWrite, List.takeWhile_nil, List.append_nil] at whole

theorem upToWrite_append_cons (unwritten : ∀ h ∈ front, h.writes id = false)
    (writes : h.writes id = true) (later : List Happening) :
    upToWrite id (front ++ h :: later) = front := by
  rw [upToWrite_append unwritten, upToWrite, List.takeWhile_cons_of_neg (by rw [writes]; decide),
    List.append_nil]

theorem intrusions_append (front later : List Happening) :
    intrusions id (front ++ later) = intrusions id front + intrusions id later := by
  rw [intrusions, List.filter_append, List.length_append]
  rfl

theorem intrusions_pos (intruded : ∃ h ∈ front, h.intrudes id = true) :
    0 < intrusions id front := by
  obtain ⟨h, present, intrudes⟩ := intruded
  exact List.length_pos_of_mem (List.mem_filter.mpr ⟨present, intrudes⟩)

end Happening

/-- A copy of a version that was stored once. -/
structure Execution.IsCopy (v : Execution) (id : String) (version : Option Execution) : Prop where
  named : v.id = id
  regular : v.Regular
  writable : DocumentType.isWritable v = true
  grows : Grows (some v) version

variable {tables mid : Tables} {id : String} {version version' : Option Execution}
  {v w e : Execution} {others : List Happening}

theorem Grows.trans {other : Option Execution} (first : Grows version version')
    (second : Grows version' other) : Grows version other := by
  cases first with
  | same => exact second
  | removed v =>
    cases second
    exact .removed v
  | later v w raised =>
    cases second with
    | same => exact .later v w raised
    | removed => exact .removed v
    | later _ u raisedAgain => exact .later v u (raised.trans raisedAgain)

namespace Tables.Has

theorem named (has : tables.Has id (some v)) : v.id = id := has.toHolds.stores.2

theorem stores (has : tables.Has id (some v)) : tables.Stores v := has.toHolds.stores.1

theorem isRegular (has : tables.Has id (some v)) : v.Regular := has.regular v rfl

theorem isWritable (has : tables.Has id (some v)) : DocumentType.isWritable v = true :=
  has.writable v rfl

/-- The row tells the version. -/
theorem eq_of_row (has : tables.Has id version) (also : mid.Has id version')
    (row : tables.executionRow? id = mid.executionRow? id) : version = version' := by
  have same : version.map (·.row) = version'.map (·.row) :=
    has.stored.symm.trans (row.trans also.stored)
  cases version with
  | none =>
    cases version' with
    | none => rfl
    | some w => cases same
  | some v =>
    cases version' with
    | none => cases same
    | some w =>
      exact congrArg some
        (Execution.row_injective has.isRegular also.isRegular (Option.some.inj same))

/-- There is only one version. -/
theorem eq (has : tables.Has id version) (also : tables.Has id version') : version = version' :=
  has.eq_of_row also rfl

theorem of_same (has : tables.Has id version) (same : mid.executionRows = tables.executionRows) :
    mid.Has id version where
  stored := by
    rw [executionRow?, same]
    exact has.stored
  regular := has.regular
  unique := by
    rw [UniqueIds, same]
    exact has.unique
  writable := has.writable

theorem isCopy (has : tables.Has id (some v)) : v.IsCopy id (some v) :=
  ⟨has.named, has.isRegular, has.isWritable, .same _⟩

/-- A write is meant for the copy itself, or for no row. -/
theorem eq_of_isWrittenOver (has : tables.Has id version) (copy : v.IsCopy id version)
    (keeps : v.Keeps e) {row : Row} (present : row ∈ tables.executionRows)
    (meant : e.isWrittenOver row = true) : version = some v := by
  obtain ⟨isId, revision⟩ := Execution.isWrittenOver_iff.mp meant
  rw [keeps.id, copy.named] at isId
  have found := tables.executionRow?_eq_some has.unique present isId
  rw [has.stored] at found
  obtain ⟨u, rfl, rfl⟩ := Option.map_eq_some_iff.mp found
  have shown := Execution.get?_revision has.isRegular.plain
  rw [Row.get, shown] at revision
  have same : u.revision = e.revision := Json.same_int.mp revision
  rw [keeps.revision] at same
  cases copy.grows with
  | same => rfl
  | later _ _ raised => omega

theorem isWrittenOver (has : tables.Has id (some v)) (keeps : v.Keeps e) :
    e.isWrittenOver v.row = true := by
  have heads := Execution.heads_row has.isRegular.plain
  refine Execution.isWrittenOver_iff.mpr ⟨heads.id.trans (congrArg Json.text keeps.id.symm), ?_⟩
  rw [Row.get, Execution.get?_revision has.isRegular.plain, keeps.revision]
  exact Json.same_int.mpr rfl

/-- A write over a copy that is stored becomes the next version. -/
theorem save_hit (has : tables.Has id (some v)) (keeps : v.Keeps e) :
    ((Store.saveQuery e).run tables).1 ≠ [] ∧
      ((Store.saveQuery e).run tables).2.Has id (some e.saved) := by
  have regular : e.Regular := has.isRegular.keeps keeps
  have meant := has.isWrittenOver keeps
  have ids : ∀ row ∈ tables.executionRows, (e.overwrite row).get "id" = row.get "id" :=
    fun row _ => Execution.get_id_overwrite regular.plain row
  have rows := e.executionRows_run_save tables
  constructor
  · rw [Execution.run_save]
    intro none
    have missing := List.filter_eq_nil_iff.mp (List.map_eq_nil_iff.mp none) v.row
    exact missing has.stores.present meant
  · refine ⟨⟨?_, ?_⟩, ?_, ?_⟩
    · rw [executionRow?_map rows ids, has.stored]
      change some (e.overwrite v.row) = some e.saved.row
      rw [Execution.overwrite, if_pos meant]
      exact congrArg some (Execution.update_row has.isRegular keeps)
    · intro _ same
      cases same
      exact regular.saved
    · rw [UniqueIds, rows, List.map_map]
      have same : tables.executionRows.map ((fun row => row.get "id") ∘ e.overwrite) =
          tables.executionRows.map fun row => row.get "id" := List.map_congr_left ids
      rw [same]
      exact has.unique
    · intro _ same
      cases same
      exact keeps.isWritable.trans has.isWritable

/-- A write over a copy that is stored no more changes nothing. -/
theorem save_miss (has : tables.Has id version) (copy : v.IsCopy id version) (keeps : v.Keeps e)
    (gone : version ≠ some v) :
    ((Store.saveQuery e).run tables).1 = [] ∧
      ((Store.saveQuery e).run tables).2.executionRows = tables.executionRows := by
  have none : ∀ row ∈ tables.executionRows, ¬ e.isWrittenOver row = true :=
    fun row present meant => gone (has.eq_of_isWrittenOver copy keeps present meant)
  constructor
  · rw [Execution.run_save, List.filter_eq_nil_iff.mpr none]
    rfl
  · rw [Execution.executionRows_run_save]
    conv_rhs => rw [← List.map_id tables.executionRows]
    exact List.map_congr_left fun row present => if_neg (none row present)

/-- The version is touched where there is another one afterwards. -/
theorem touches_iff {h : Happening} (before : h.before.Has id version)
    (after : h.after.Has id version') : h.touches id = true ↔ version' ≠ version := by
  rw [Happening.touches, decide_eq_true_iff, ne_eq, ne_eq, not_iff_not]
  refine ⟨after.eq_of_row before, fun same => ?_⟩
  · rw [after.stored, before.stored, same]

end Tables.Has

/-- The row of one version was replaced by that of a later one. -/
theorem Tables.Has.rewrites {before after : Tables} (has : tables.Has id (some v))
    (row : before.executionRow? id = some v.row) (hasLater : after.Has id (some w))
    (later : v.revision < w.revision) : before.Rewrites id after := by
  intro version hasBefore
  have same : version = some v := hasBefore.eq_of_row has (row.trans has.stored.symm)
  exact ⟨some w, hasLater, same ▸ .later _ _ later⟩

/-- What becomes of a version that the program leaves alone. -/
theorem Tables.Has.after {h : Happening} (has : h.before.Has id version)
    (rewrites : h.isOther = true → h.before.Rewrites id h.after) (aside : h.IsAside) :
    ∃ next, h.after.Has id next ∧ Grows version next ∧
      (next ≠ version ↔ h.intrudes id = true) := by
  cases other : h.isOther with
  | true =>
    obtain ⟨next, hasNext, grows⟩ := rewrites other version has
    refine ⟨next, hasNext, grows, ?_⟩
    rw [Happening.intrudes, other, Bool.true_and]
    exact (has.touches_iff hasNext).symm
  | false =>
    refine ⟨version, has.of_same (aside.same other), .same version, ?_⟩
    rw [Happening.intrudes, other, Bool.false_and]
    exact ⟨fun changed => absurd rfl changed, nofun⟩

/-- It is another one only where others wrote it. -/
theorem Leads.grows {history : List Happening} (leads : Leads tables history mid)
    (rewrites : ∀ h ∈ history, h.isOther = true → h.before.Rewrites id h.after)
    (aside : ∀ h ∈ history, h.IsAside) (has : tables.Has id version) :
    ∃ version', mid.Has id version' ∧ Grows version version' ∧
      (version' ≠ version → ∃ h ∈ history, h.intrudes id = true) := by
  induction leads generalizing version with
  | nil => exact ⟨version, has, .same version, fun changed => absurd rfl changed⟩
  | @cons h history after rest ih =>
    obtain ⟨rewritesFirst, rewritesLater⟩ := List.forall_mem_cons.mp rewrites
    obtain ⟨asideFirst, asideLater⟩ := List.forall_mem_cons.mp aside
    obtain ⟨next, hasNext, grows, intrudes⟩ := has.after rewritesFirst asideFirst
    obtain ⟨last, hasLast, growsLater, intruded⟩ := ih rewritesLater asideLater hasNext
    refine ⟨last, hasLast, grows.trans growsLater, fun changed => ?_⟩
    by_cases same : next = version
    · obtain ⟨other, present, intrudes⟩ := intruded (same ▸ changed)
      exact ⟨other, .tail h present, intrudes⟩
    · exact ⟨h, .head history, intrudes.mp same⟩

/-- A write over a copy, after what the program left alone: it meets the row only where that is
still the copy. -/
theorem Leads.hit {history : List Happening} (leads : Leads tables history mid)
    (rewrites : ∀ h ∈ history, h.isOther = true → h.before.Rewrites id h.after)
    (aside : ∀ h ∈ history, h.IsAside) (has : tables.Has id version) (copy : v.IsCopy id version)
    (keeps : v.Keeps e) (met : ((Store.saveQuery e).run mid).1 ≠ []) :
    mid.Has id (some v) ∧ ((Store.saveQuery e).run mid).2.Has id (some e.saved) := by
  obtain ⟨version', stored, grows, _⟩ := leads.grows rewrites aside has
  have still : v.IsCopy id version' := { copy with grows := copy.grows.trans grows }
  have same : version' = some v := by
    by_contra gone
    exact met (stored.save_miss still keeps gone).1
  subst same
  exact ⟨stored, (stored.save_hit keeps).2⟩

theorem Leads.miss {history : List Happening} (leads : Leads tables history mid)
    (rewrites : ∀ h ∈ history, h.isOther = true → h.before.Rewrites id h.after)
    (aside : ∀ h ∈ history, h.IsAside) (has : tables.Has id version) (copy : v.IsCopy id version)
    (keeps : v.Keeps e) (unmet : ((Store.saveQuery e).run mid).1 = []) :
    (∃ version', mid.Has id version') ∧
      ((Store.saveQuery e).run mid).2.executionRows = mid.executionRows ∧
      (version = some v → ∃ h ∈ history, h.intrudes id = true) := by
  obtain ⟨version', stored, grows, intruded⟩ := leads.grows rewrites aside has
  have still : v.IsCopy id version' := { copy with grows := copy.grows.trans grows }
  have gone : version' ≠ some v := by
    rintro rfl
    exact (stored.save_hit keeps).1 unmet
  refine ⟨⟨version', stored⟩, (stored.save_miss still keeps gone).2, fun same => intruded ?_⟩
  rw [same]
  exact gone

/-- Where others leave what they write open, it is open. -/
theorem Meanwhile.isOpen (meanwhile : Meanwhile tables others mid)
    (rewrites : ∀ h ∈ others, h.isOther = true → h.before.Rewrites id h.after)
    (leaves : ∀ h ∈ others, h.intrudes id = true →
      ∃ w, h.after.Has id (some w) ∧ w.isTerminal = false)
    (has : tables.Has id (some v)) (isOpen : v.isTerminal = false) :
    ∃ w, mid.Has id (some w) ∧ w.isTerminal = false := by
  induction meanwhile generalizing v with
  | nil => exact ⟨v, has, isOpen⟩
  | cons rest ih =>
    obtain ⟨rewritesFirst, rewritesLater⟩ := List.forall_mem_cons.mp rewrites
    obtain ⟨leavesFirst, leavesLater⟩ := List.forall_mem_cons.mp leaves
    obtain ⟨next, hasNext, _⟩ := rewritesFirst rfl _ has
    by_cases same : next = some v
    · subst same
      exact ih rewritesLater leavesLater hasNext isOpen
    · have touched := (Tables.Has.touches_iff (h := .other _ _) has hasNext).mpr same
      obtain ⟨w, hasW, isOpenW⟩ := leavesFirst touched
      exact ih rewritesLater leavesLater hasW isOpenW

end MessageFlow
