import MessageFlow.Proofs.Deletion.Withdrawal
import MessageFlow.Proofs.Interleaving.Writes

/-!
The deletion of a flow by a program that has the store to itself, query by query. Each query is
served or refused; after a refused one nothing more is asked.
-/

namespace MessageFlow
open Operation

variable {setting : Setting} {tables : Tables} {flowId : String} {v : Execution}

/-- The rows of executions are in the form in which the program writes them. -/
def Tables.Formed (tables : Tables) : Prop :=
  ∀ row ∈ tables.executionRows, ∃ v : Execution,
    (v.Regular ∧ DocumentType.isWritable v = true) ∧ row = v.row

/-- The write that withdraws the execution. -/
def withdrawal (v : Execution) (time : Timestamp) : Query :=
  Store.saveQuery ((v.failed Run.flowDeleted).stamped time)

section withdrawal

theorem keeps_withdrawal (v : Execution) (time : Timestamp) :
    v.Keeps ((v.failed Run.flowDeleted).stamped time) := .of_same_context rfl rfl rfl rfl

/-- The withdrawal of a stored execution is meant for its row. -/
theorem isWrittenOver_withdrawal (time : Timestamp) (unique : tables.UniqueIds)
    (stores : tables.Stores v) {row : Row}
    (present : row ∈ tables.executionRows) :
    ((v.failed Run.flowDeleted).stamped time).isWrittenOver row = true ↔ row = v.row := by
  rw [Execution.isWrittenOver_iff]
  constructor
  · intro meant
    exact List.inj_on_of_nodup_map unique present stores.present
      (meant.1.trans stores.get_id.symm)
  · rintro rfl
    refine ⟨stores.get_id, ?_⟩
    have revision : Row.get v.row "revision" = .int v.revision := by
      rw [Row.get, Execution.get?_revision stores.regular.plain]
      rfl
    rw [revision]
    exact Json.same_int.mpr rfl

theorem writeOver_withdrawal (time : Timestamp) (regular : v.Regular) :
    ((v.failed Run.flowDeleted).stamped time).writeOver v.row = (v.withdrawn time).row :=
  Execution.update_row regular (keeps_withdrawal v time)

theorem executionRows_withdrawal (time : Timestamp) (unique : tables.UniqueIds)
    (stores : tables.Stores v) :
    ((withdrawal v time).run tables).2.executionRows =
      tables.executionRows.map fun row => if row = v.row then (v.withdrawn time).row else row := by
  rw [withdrawal, Execution.executionRows_run_save]
  refine List.map_congr_left fun row present => ?_
  have meant := isWrittenOver_withdrawal time unique stores present
  by_cases same : row = v.row
  · rw [if_pos same, Execution.overwrite, if_pos (meant.mpr same), same,
      writeOver_withdrawal time stores.regular]
  · rw [if_neg same, Execution.overwrite, if_neg fun isMeant => same (meant.mp isMeant)]

/-- The answer to a withdrawal holds rows of that execution, and no others. -/
theorem answer_withdrawal (time : Timestamp) (unique : tables.UniqueIds)
    (stores : tables.Stores v) :
    ((withdrawal v time).run tables).1 ≠ [] ∧
      ∀ row ∈ ((withdrawal v time).run tables).1, row = (v.withdrawn time).row := by
  rw [withdrawal, Execution.run_save]
  have meant {row : Row} (present : row ∈ tables.executionRows) :=
    isWrittenOver_withdrawal time unique stores present
  constructor
  · have written : v.row ∈ tables.executionRows.filter
        ((v.failed Run.flowDeleted).stamped time).isWrittenOver :=
      List.mem_filter.mpr ⟨stores.present, (meant stores.present).mpr rfl⟩
    exact List.ne_nil_of_mem (List.mem_map_of_mem written)
  · intro row answered
    obtain ⟨earlier, selected, rfl⟩ := List.mem_map.mp answered
    obtain ⟨present, isMeant⟩ := List.mem_filter.mp selected
    rw [(meant present).mp isMeant, writeOver_withdrawal time stores.regular]

/-- A withdrawal that is served writes that execution once. -/
theorem writesOf_withdrawal (time : Timestamp) (unique : tables.UniqueIds)
    (stores : tables.Stores v) (id : String) :
    writesOf [⟨withdrawal v time, .ok ((withdrawal v time).run tables).1⟩] id =
      if id = v.id then 1 else 0 := by
  obtain ⟨answered, only⟩ := answer_withdrawal time unique stores
  obtain ⟨row, rows, found⟩ := List.exists_cons_of_ne_nil answered
  have named : Row.get (v.withdrawn time).row "id" = .text v.id := stores.regular.withdrawn.get_id
  by_cases same : id = v.id
  · have isRow := only row (found ▸ .head rows)
    have writes : Asked.writes ⟨withdrawal v time, .ok ((withdrawal v time).run tables).1⟩ id =
        true := by
      rw [found, isRow, same]
      simp [Asked.writes, withdrawal, Store.saveQuery, Query.table, Query.verb, Except.toOption,
        named]
    rw [writesOf, List.countP_singleton, writes, if_pos same]
    rfl
  · have writes : Asked.writes ⟨withdrawal v time, .ok ((withdrawal v time).run tables).1⟩ id =
        false := by
      have none : (((withdrawal v time).run tables).1.any fun row => row.get "id" = .text id) =
          false := by
        rw [List.any_eq_false]
        intro row present
        rw [only row present, named]
        simpa using Ne.symm same
      simp [Asked.writes, Except.toOption, none]
    rw [writesOf, List.countP_singleton, writes, if_neg same]
    rfl

theorem withdraws_withdrawal (time : Timestamp) (unique : tables.UniqueIds)
    (stores : tables.Stores v)
    (isOpen : Row.IsOpenOf v.row flowId) :
    tables.Withdraws flowId
      [⟨withdrawal v time, .ok ((withdrawal v time).run tables).1⟩]
      ((withdrawal v time).run tables).2 where
  executions := by
    rw [executionRows_withdrawal time unique stores, List.forall₂_map_right_iff, List.forall₂_same]
    intro row present
    have counted := writesOf_withdrawal time unique stores
    by_cases same : row = v.row
    · rw [if_pos same, same]
      refine .failed v stores.regular isOpen time ?_
      rw [counted, if_pos rfl]
    · rw [if_neg same]
      refine .kept row fun id isId => ?_
      rw [counted, if_neg]
      rintro rfl
      exact same (List.inj_on_of_nodup_map unique present stores.present
        (isId.trans stores.get_id.symm))
  tickets := by
    have same : ((withdrawal v time).run tables).2.ticketRows = tables.ticketRows :=
      Query.rows_run_of_ne nofun
    rw [same, List.forall₂_same]
    exact fun row _ => .kept
  flows := .inl (Query.rows_run_of_ne nofun)
  others table notExecutions _ _ := Query.rows_run_of_ne (Ne.symm notExecutions)

end withdrawal

/-- Nothing was asked that changed the tables. -/
theorem Tables.withdraws_self (tables : Tables) (flowId : String) {log : List Asked}
    (unwritten : ∀ id, writesOf log id = 0) :
    tables.Withdraws flowId log tables where
  executions := List.forall₂_same.mpr fun row _ => .kept row fun id _ => unwritten id
  tickets := List.forall₂_same.mpr fun _ _ => .kept
  flows := .inl rfl
  others _ _ _ _ := rfl

theorem writesOf_error (query : Query) (failure : Failure) (id : String) :
    writesOf [⟨query, .error failure⟩] id = 0 := by
  simp [writesOf, Asked.writes, Except.toOption]

theorem writesOf_elsewhere {query : Query} (elsewhere : query.table ≠ .executions)
    (answer : Except Failure (List Row)) (id : String) : writesOf [⟨query, answer⟩] id = 0 := by
  simp [writesOf, Asked.writes, elsewhere]

theorem writesOf_select (table : Table) (filters : List Filter) (order : Option SortOrder)
    (limit : Option Int) (answer : Except Failure (List Row)) (id : String) :
    writesOf [⟨.select table filters order limit, answer⟩] id = 0 := by
  simp [writesOf, Asked.writes, Query.verb]

namespace Tables.Withdraws

variable {log : List Asked} {before after : Tables}

theorem uniqueIds (withdraws : Withdraws flowId log before after) (unique : before.UniqueIds) :
    after.UniqueIds := by
  have same : after.executionRows.map (fun row => row.get "id") =
      before.executionRows.map fun row => row.get "id" := by
    have ids : List.Forall₂ (fun row next => row.get "id" = next.get "id") before.executionRows
        after.executionRows := withdraws.executions.imp fun _ _ becomes => becomes.get_id.symm
    have both := List.forall₂_map_left_iff.mpr (List.forall₂_map_right_iff.mpr ids)
    exact (List.forall₂_eq_eq_eq ▸ both : _ = _).symm
  rw [UniqueIds, same]
  exact unique

/-- A stored execution was written once and withdrawn, or it is stored as before. -/
theorem cases (withdraws : Withdraws flowId log before after) (stores : before.Stores v) :
    writesOf log v.id = 1 ∨ (writesOf log v.id = 0 ∧ after.Stores v) := by
  obtain ⟨next, present, becomes⟩ :=
    exists_left_of_forall₂ withdraws.executions.flip stores.present
  have named := stores.get_id
  have regular := stores.regular
  generalize same : v.row = row at becomes named
  cases becomes with
  | kept _ unwritten => exact .inr ⟨unwritten v.id named, regular, same ▸ present⟩
  | failed w alsoRegular isOpen time once =>
    rw [Execution.row_injective regular alsoRegular same]
    exact .inl once

/-- What was not written is stored as before. -/
theorem stores (withdraws : Withdraws flowId log before after) (stores : before.Stores v)
    (unwritten : writesOf log v.id = 0) : after.Stores v := by
  rcases withdraws.cases stores with once | ⟨_, still⟩
  · rw [unwritten] at once
    cases once
  · exact still

/-- Where every open execution was written, none is open. -/
theorem none_open (withdraws : Withdraws flowId log before after) (formed : before.Formed)
    (written : ∀ v, before.Stores v → Row.IsOpenOf v.row flowId → writesOf log v.id = 1) :
    ∀ row ∈ after.executionRows, ¬ row.IsOpenOf flowId := by
  intro next present isOpen
  obtain ⟨row, earlier, becomes⟩ := exists_left_of_forall₂ withdraws.executions present
  cases becomes with
  | kept _ unwritten =>
    obtain ⟨v, ⟨regular, _⟩, rfl⟩ := formed next earlier
    have once := written v ⟨regular, earlier⟩ isOpen
    rw [unwritten v.id regular.get_id] at once
    cases once
  | failed v regular => exact regular.not_isOpenOf_withdrawn isOpen

end Tables.Withdraws

namespace Run

/-- What a withdrawal of the execution leaves that was served, or refused. -/
structure Withdrew (setting : Setting) (flowId : String) (before : Tables) (v : Execution)
    (failure? : Option Failure) (after : Tables) (log : List Asked) : Prop where
  tables : before.Withdraws flowId log after
  confined : ∀ id, id ≠ v.id → writesOf log id = 0
  served : failure? = none → writesOf log v.id = 1
  refused : ∀ failure ∈ failure?, setting.Refuses failure

theorem leaves_fail (unique : tables.UniqueIds) (stores : tables.Stores v)
    (isOpen : Row.IsOpenOf v.row flowId) (writable : DocumentType.isWritable v = true) :
    (Run.on v (fail flowDeleted)).Leaves setting tables fun
      | .ok _, after, log => Withdrew setting flowId tables v none after log
      | .error failure, after, log =>
        Withdrew setting flowId tables v (some failure) after log := by
  unfold fail save Store.saveExecution
  refine leaves_on (leaves_bind (leaves_modify ?_))
  refine leaves_bind (leaves_lift (leaves_now fun time => ?_))
  refine leaves_bind (leaves_modify ?_)
  refine leaves_bind (leaves_get ?_)
  have fits : DocumentType.isWritable ((v.failed flowDeleted).stamped time) = true :=
    (keeps_withdrawal v time).isWritable.trans writable
  unfold ensureWritable
  refine leaves_bind (leaves_lift ?_)
  change (if DocumentType.isWritable ((v.failed flowDeleted).stamped time) = true then pure ()
    else throw .nestedTooDeep : Operation Unit).Leaves setting tables _
  rw [if_pos fits]
  apply Operation.leaves_pure
  refine leaves_bind (leaves_lift (leaves_query ?_ fun failure refuses => ?_))
  · have answered := (answer_withdrawal time unique stores).1
    have served := List.isEmpty_eq_false_iff.mpr answered
    change (if ((withdrawal v time).run tables).1.isEmpty = true then throw _ else set _ :
      Run Unit).Leaves setting _ _ _
    rw [if_neg (by rw [served]; decide)]
    apply leaves_set
    have counted := writesOf_withdrawal time unique stores
    refine ⟨withdraws_withdrawal time unique stores isOpen, ?_, ?_, ?_⟩
    · intro id other
      exact (counted id).trans (if_neg other)
    · intro _
      exact (counted v.id).trans (if_pos rfl)
    · intro failure none
      cases none
  · have unwritten := writesOf_error (withdrawal v time) failure
    refine ⟨Tables.withdraws_self _ _ unwritten, fun id _ => unwritten id, nofun, ?_⟩
    intro other same
    cases same
    exact refuses

/-- An open execution is withdrawn at the first attempt, unless the store refuses a query. -/
theorem leaves_forceFail (unique : tables.UniqueIds) (stores : tables.Stores v)
    (isOpen : Row.IsOpenOf v.row flowId) (writable : DocumentType.isWritable v = true) :
    (forceFail flowDeleted forceFailAttempts v).Leaves setting tables fun
      | .ok failed, after, log => failed = true ∧ Withdrew setting flowId tables v none after log
      | .error failure, after, log =>
        Withdrew setting flowId tables v (some failure) after log := by
  have status := (stores.regular.isOpenOf_iff.mp isOpen).2
  have notTerminal : v.isTerminal = false := by
    rw [Execution.isTerminal]
    revert status
    cases v.status <;> decide
  unfold forceFailAttempts forceFail
  rw [notTerminal, if_neg (by decide)]
  refine Operation.leaves_bind (Operation.leaves_attempt ?_)
  refine Operation.leaves_mono (leaves_fail unique stores isOpen writable) ?_
  intro outcome after log withdrew
  cases outcome with
  | ok =>
    apply Operation.leaves_pure
    rw [List.append_nil]
    exact ⟨rfl, withdrew⟩
  | error failure =>
    have refuses := withdrew.refused failure rfl
    simp only [refuses.noConflict]
    apply Operation.leaves_throw
    rw [List.append_nil]
    exact withdrew

/-- Copies of different stored executions that are open. -/
structure Copied (flowId : String) (tables : Tables) (copies : List Execution) : Prop where
  distinct : (copies.map (·.id)).Nodup
  stored : ∀ v ∈ copies, tables.Stores v
  isOpen : ∀ v ∈ copies, Row.IsOpenOf v.row flowId
  writable : ∀ v ∈ copies, DocumentType.isWritable v = true

/-- Every copy is withdrawn once, unless the store refuses a query. -/
theorem leaves_forceFailAll {copies : List Execution} (unique : tables.UniqueIds)
    (copied : Copied flowId tables copies) :
    (forceFailAll flowDeleted copies).Leaves setting tables fun outcome after log =>
      tables.Withdraws flowId log after ∧ match outcome with
        | .ok count => count = copies.length ∧ ∀ v ∈ copies, writesOf log v.id = 1
        | .error failure => setting.Refuses failure := by
  induction copies generalizing tables with
  | nil =>
    apply Operation.leaves_pure
    exact ⟨Tables.withdraws_self _ _ fun _ => rfl, rfl, fun v none => absurd none List.not_mem_nil⟩
  | cons v copies ih =>
    obtain ⟨distinct, stored, isOpen, writable⟩ := copied
    obtain ⟨notAmong, distinct⟩ := List.nodup_cons.mp distinct
    have different : ∀ other ∈ copies, other.id ≠ v.id := by
      intro other present same
      exact notAmong (List.mem_map.mpr ⟨other, present, same⟩)
    rw [forceFailAll]
    refine Operation.leaves_bind (Operation.leaves_mono (leaves_forceFail unique
      (stored v (.head _)) (isOpen v (.head _)) (writable v (.head _))) ?_)
    intro outcome mid log withdrew
    cases outcome with
    | error failure => exact ⟨withdrew.tables, withdrew.refused failure rfl⟩
    | ok failed =>
      obtain ⟨rfl, withdrew⟩ := withdrew
      have still : Copied flowId mid copies := ⟨distinct,
        fun other present => withdrew.tables.stores (stored other (.tail _ present))
          (withdrew.confined other.id (different other present)),
        fun other present => isOpen other (.tail _ present),
        fun other present => writable other (.tail _ present)⟩
      refine Operation.leaves_bind (Operation.leaves_mono
        (ih (withdrew.tables.uniqueIds unique) still) ?_)
      intro outcome after later others
      cases outcome with
      | error failure => exact ⟨withdrew.tables.trans others.1, others.2⟩
      | ok count =>
        obtain ⟨withdraws, rfl, once⟩ := others
        apply Operation.leaves_pure
        rw [List.append_nil]
        have both := withdrew.tables.trans withdraws
        refine ⟨both, rfl, ?_⟩
        intro other present
        rcases both.cases (stored other present) with written | ⟨unwritten, _⟩
        · exact written
        · rw [writesOf_append] at unwritten ⊢
          rcases List.mem_cons.mp present with rfl | among
          · have written := withdrew.served rfl
            omega
          · have written := once other among
            omega

end Run

end MessageFlow
