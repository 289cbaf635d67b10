import MessageFlow.Proofs.Alone.Store
import MessageFlow.Proofs.Errand.Frame
import MessageFlow.Sweep

/-!
The turn of one ticket in a sweep that has the store to itself, where no query is refused. The
ticket is finished whatever becomes of its execution, and completed exactly when that was still
parked on it and all that it needs could be loaded.
-/

namespace MessageFlow
open Operation Store

/-- No two executions share an id, and those that can be read are in the form in which the program
writes them. -/
structure Tables.Orderly (tables : Tables) : Prop where
  unique : tables.UniqueIds
  written : ∀ row ∈ tables.executionRows, ∀ v, Execution.read (.record row) = .valid v →
    v.Regular ∧ v.row = row ∧ DocumentType.isWritable v = true

variable {setting : Setting} {tables mid after : Tables} {ids : Set String} {v e : Execution}
  {front back : List Row}

namespace Tables.Orderly

theorem of_same (orderly : tables.Orderly) (same : mid.executionRows = tables.executionRows) :
    mid.Orderly where
  unique := by
    rw [UniqueIds, same]
    exact orderly.unique
  written := by
    rw [same]
    exact orderly.written

/-- An execution that can be loaded stands between other rows. -/
theorem stands (orderly : tables.Orderly) {id : String}
    (loads : tables.first? (executionQuery id) = some v) :
    ∃ front back, tables.Stands front back v := by
  obtain ⟨row, rows, found, reads⟩ := Tables.first?_eq_some.mp loads
  have isFirst : row ∈ ((executionQuery id).run tables).1 := found ▸ List.mem_cons_self
  have present : row ∈ tables.executionRows := Query.mem_of_mem_select isFirst
  obtain ⟨regular, rfl, writable⟩ := orderly.written row present v reads
  obtain ⟨front, back, split⟩ := List.append_of_mem present
  refine ⟨front, back, split, fun other among isId => ?_, regular, writable⟩
  have unique := orderly.unique
  rw [UniqueIds, split, List.map_append, List.map_cons, List.nodup_middle, List.nodup_cons,
    ← List.map_append] at unique
  refine unique.1 (List.mem_map.mpr ⟨other, among, ?_⟩)
  rw [isId, regular.get_id]

end Tables.Orderly

/-- Another version in the place of a stored one. -/
theorem Tables.Stands.orderly (stands : tables.Stands front back v) (orderly : tables.Orderly)
    (later : mid.Stands front back e) (same : e.id = v.id) : mid.Orderly where
  unique := by
    have unique := orderly.unique
    rw [UniqueIds, stands.rows, List.map_append, List.map_cons, stands.regular.get_id] at unique
    rw [UniqueIds, later.rows, List.map_append, List.map_cons, later.regular.get_id, same]
    exact unique
  written row present w reads := by
    rw [later.rows] at present
    rcases List.mem_append.mp present with among | among
    · exact orderly.written row (stands.rows ▸ List.mem_append_left _ among) w reads
    · rcases List.mem_cons.mp among with rfl | among
      · cases (Execution.read_row later.regular).symm.trans reads
        exact ⟨later.regular, rfl, later.writable⟩
      · exact orderly.written row
          (stands.rows ▸ List.mem_append_right _ (.tail _ among)) w reads

namespace Sweep

/-- The status of a ticket that is finished. -/
def verdict (completed : Bool) : TicketStatus := if completed then .completed else .failed

/-- A ticket was finished, after what the traversal of its execution left. -/
def Finishes (ids : Set String) (ticket : Ticket) (completed : Bool) (before after : Tables) :
    Prop :=
  ∃ mid time error, Tables.Files ids before mid ∧ mid.Orderly ∧
    after = ((finishQuery ticket.id (verdict completed) time error).run mid).2

/-- How the work on a claimed ticket ends: the ticket is finished, or there is a failure to be
recorded. -/
def Concludes (ids : Set String) (ticket : Ticket) (ready : Bool) (before : Tables) :
    Except Failure Bool → Tables → Prop
  | .ok completed, after => completed = ready ∧ Finishes ids ticket completed before after
  | .error _, after => ready = false ∧ Tables.Files ids before after ∧ after.Orderly

variable {deployment : Deployment} {ticket : Ticket} {attempts : Nat} {account : Account}

theorem finish_alone (faultless : setting.IsFaultless) (ticket : Ticket) (status : TicketStatus)
    (error : Option String) : (finish ticket status error).Leaves setting tables
      fun outcome after _ => outcome = .ok () ∧
        ∃ time, after = ((finishQuery ticket.id status time error).run tables).2 := by
  unfold finish finishTicket
  refine leaves_bind (leaves_now fun time => ?_)
  refine leaves_bind (leaves_attempt (leaves_bind (leaves_query ?_ fun failure refuses => ?_)))
  · exact leaves_pure (leaves_pure ⟨rfl, time, rfl⟩)
  · exact absurd refuses faultless.not_refuses

theorem failTicket_alone (faultless : setting.IsFaultless) (files : Tables.Files ids tables mid)
    (orderly : mid.Orderly) (reason : String) : (failTicket ticket reason).Leaves setting mid
      fun outcome after _ => outcome = .ok false ∧ Finishes ids ticket false tables after := by
  unfold failTicket
  refine leaves_bind (leaves_mono (finish_alone faultless ticket .failed (some reason)) ?_)
  rintro _ after _ ⟨rfl, time, rfl⟩
  exact leaves_pure ⟨rfl, mid, time, some reason, files, orderly, rfl⟩

theorem failTicket_concludes (faultless : setting.IsFaultless)
    (files : Tables.Files ids tables mid) (orderly : mid.Orderly) (reason : String) :
    (failTicket ticket reason).Leaves setting mid fun outcome after _ =>
      Concludes ids ticket false tables outcome after := by
  refine leaves_mono (failTicket_alone faultless files orderly reason) ?_
  rintro _ after _ ⟨rfl, finishes⟩
  exact ⟨rfl, finishes⟩

/-- An execution is woken and traversed. -/
theorem wake_alone (faultless : setting.IsFaultless) (draws : setting.Draws ids)
    (orderly : tables.Orderly) (stands : tables.Stands front back v) {flow : Flow}
    (isFlow : flow.id = v.flowId) (now : Timestamp) :
    (Run.on (wake v ticket now) do
      match ← Run.attempt saveExecution with
      | .ok () =>
        Run.resume deployment account (some flow)
        pure true
      | .error failure => if failure.isConflict then pure false else throw failure).Leaves
        setting tables fun outcome after _ =>
          outcome = .ok true ∧ Tables.Files ids tables after ∧ after.Orderly := by
  let custody := Custody.between front back
  let errand : Errand := ⟨v.flowId, {v.id}, v.extras, ids⟩
  have holds : custody.Holds v tables := stands
  have inStep : saveExecution.InStep errand := inStep_saveExecution
  have saves : saveExecution.Leaves setting (wake v ticket now) tables fun outcome e after _ =>
      (∃ a, outcome = .ok a ∧ e = (wake v ticket now).saved ∧ custody.Holds e after) ∧
        Tables.Files ids tables after ∧ errand.Carries e :=
    Program.leaves_and
      (Run.saveExecution_succeeds faultless holds (.of_same_context rfl rfl rfl rfl))
      (inStep.files draws ⟨rfl, rfl, rfl⟩)
  refine Run.leaves_on (Run.leaves_bind (Run.leaves_attempt (Program.leaves_mono saves ?_)))
  rintro ⟨_, _⟩ mid _ ⟨⟨⟨⟩, rfl, rfl, stored⟩, files, _⟩
  refine Run.leaves_bind (Program.leaves_mono
    (Run.resume_traverses deployment account faultless draws stored rfl isFlow) ?_)
  rintro ⟨_, e⟩ after _ traverses
  cases traverses.succeeds
  refine fun _ => ⟨rfl, files.trans traverses.files, stands.orderly orderly traverses.stored ?_⟩
  exact traverses.id

/-- An execution without a flow is failed. -/
theorem fail_alone (faultless : setting.IsFaultless) (draws : setting.Draws ids)
    (orderly : tables.Orderly) (stands : tables.Stands front back v) (error : String) :
    (Run.on v (Run.fail error)).Leaves setting tables fun outcome after _ =>
      outcome = .ok () ∧ Tables.Files ids tables after ∧ after.Orderly := by
  let custody := Custody.between front back
  let errand : Errand := ⟨v.flowId, {v.id}, v.extras, ids⟩
  have holds : custody.Holds v tables := stands
  have inStep : (Run.fail error).InStep errand := Run.inStep_fail error
  have fails : (Run.fail error).Leaves setting v tables fun outcome e after _ =>
      (∃ a, outcome = .ok a ∧ (∃ now, e = ((v.failed error).stamped now).saved) ∧
        custody.Holds e after) ∧ Tables.Files ids tables after ∧ errand.Carries e :=
    Program.leaves_and
      (Run.fail_succeeds faultless holds (.of_same_context rfl rfl rfl rfl) error)
      (inStep.files draws ⟨rfl, rfl, rfl⟩)
  refine Run.leaves_on (Program.leaves_mono fails ?_)
  rintro ⟨_, _⟩ after _ ⟨⟨⟨⟩, rfl, ⟨now, rfl⟩, stored⟩, files, _⟩
  exact ⟨rfl, files, stands.orderly orderly stored rfl⟩

/-- A loaded execution is continued, if it is parked on the ticket and its flow can be loaded. -/
theorem resumeExecution_alone (faultless : setting.IsFaultless) (draws : setting.Draws ids)
    (orderly : tables.Orderly) (stands : tables.Stands front back v) (tries : 0 < attempts) :
    (resumeExecution deployment account ticket attempts none v).Leaves setting tables
      fun outcome after _ => Concludes ids ticket
        (isParkedOn v ticket && (tables.first? (α := Flow) (flowQuery v.flowId)).isSome)
        tables outcome after := by
  obtain ⟨attempts, rfl⟩ := Nat.exists_eq_succ_of_ne_zero tries.ne'
  have files := Tables.Files.refl ids tables
  cases parked : isParkedOn v ticket with
  | false =>
    simp only [resumeExecution, parked]
    exact failTicket_concludes faultless files orderly notWaiting
  | true =>
    simp only [resumeExecution, parked, if_true, Bool.true_and]
    refine leaves_of_leavesAt fun asked => ?_
    rw [flowOr, getFlow_eq_first]
    refine first_then faultless rfl (fun flow isFirst => ?_) (fun missing => ?_)
      fun missing failure => ?_
    · rw [isFirst]
      have isFlow := Tables.id_of_first?_flow isFirst
      refine leavesAt_of_leaves (leaves_bind (leaves_now fun now => ?_))
      refine leaves_bind (leaves_mono (wake_alone faultless draws orderly stands isFlow now) ?_)
      rintro _ mid _ ⟨rfl, files, orderly⟩
      refine leaves_bind (leaves_mono (finish_alone faultless ticket .completed none) ?_)
      rintro _ after _ ⟨rfl, time, rfl⟩
      exact leaves_pure ⟨rfl, mid, time, none, files, orderly, rfl⟩
    · rw [missing]
      refine leavesAt_of_leaves (leaves_bind (leaves_mono
        (fail_alone faultless draws orderly stands Run.flowNotFound) ?_))
      rintro _ mid _ ⟨rfl, files, orderly⟩
      exact failTicket_concludes faultless files orderly Run.flowNotFound
    · rw [missing]
      exact ⟨rfl, files, orderly⟩

/-- A turn in a sweep: the tables at its begin, and how many requests were asked before it. -/
structure Turn where
  ticket : Ticket
  tables : Tables
  asked : Nat

/-- Whether the execution is parked on the ticket at its turn, and the account and the flow of it
can be loaded. The account is looked up after the claim and after the execution. -/
def Turn.isReady (setting : Setting) (turn : Turn) : Bool :=
  (turn.tables.first? (executionQuery turn.ticket.executionId)).any fun execution =>
    isParkedOn execution turn.ticket &&
      (setting.account? (turn.asked + 2) turn.tables turn.ticket.accountId).isSome &&
      (turn.tables.first? (α := Flow) (flowQuery execution.flowId)).isSome

/-- The claim of the ticket makes no difference. -/
theorem Turn.isReady_claim (tables : Tables) (asked : Nat) :
    isReady setting ⟨ticket, ((claimQuery ticket.id).run tables).2, asked⟩ =
      isReady setting ⟨ticket, tables, asked⟩ := by
  have same (table : Table) (other : Table.tickets ≠ table) :
      ((claimQuery ticket.id).run tables).2.rows table = tables.rows table :=
    Query.rows_run_of_ne other
  unfold isReady executionQuery flowQuery
  simp only [Setting.account?_congr (same .accounts nofun),
    Tables.first?_congr (same .executions nofun), Tables.first?_congr (same .flows nofun)]

theorem resume_alone (faultless : setting.IsFaultless) (draws : setting.Draws ids)
    (orderly : tables.Orderly) (tries : 0 < attempts) (asked : Nat) :
    (resume deployment attempts ticket).LeavesAt setting tables (asked + 1)
      (Concludes ids ticket (Turn.isReady setting ⟨ticket, tables, asked⟩) tables) := by
  have files := Tables.Files.refl ids tables
  unfold Turn.isReady resume
  rw [getExecution_eq_first]
  refine first_then faultless rfl (fun v loads => ?_) (fun missing => ?_)
    fun missing failure => ?_
  · rw [loads, Option.any_some]
    obtain ⟨front, back, stands⟩ := orderly.stands loads
    refine getAccount_then faultless (fun account found => ?_) (fun none => ?_)
      fun none failure => ?_
    · rw [found, Option.isSome_some, Bool.and_true]
      exact resumeExecution_alone faultless draws orderly stands tries
    · rw [none, Option.isSome_none, Bool.and_false, Bool.false_and]
      exact failTicket_concludes faultless files orderly accountNotFound
    · rw [none, Option.isSome_none, Bool.and_false, Bool.false_and]
      exact ⟨rfl, files, orderly⟩
  · rw [missing]
    exact leavesAt_of_leaves (failTicket_concludes faultless files orderly executionNotFound)
  · rw [missing]
    exact ⟨rfl, files, orderly⟩

variable (deployment) in
theorem claimAndResume_alone (faultless : setting.IsFaultless) (draws : setting.Draws ids)
    (orderly : tables.Orderly) (tries : 0 < attempts)
    (pending : ∃ row ∈ tables.ticketRows, row.get "id" = .text ticket.id ∧ row.IsPending)
    (asked : Nat) :
    (claimAndResume deployment attempts ticket).LeavesAt setting tables asked
      (Concludes ids ticket (Turn.isReady setting ⟨ticket, tables, asked⟩)
        ((claimQuery ticket.id).run tables).2) := by
  have granted : ((claimQuery ticket.id).run tables).1.isEmpty = false := by
    obtain ⟨row, present, isId, isPending⟩ := pending
    rw [(claimQuery_marks ticket.id).run_fst, List.isEmpty_map, List.isEmpty_eq_false_iff]
    exact List.ne_nil_of_mem (List.mem_filter.mpr ⟨present, selects_claim.mpr ⟨isId, isPending⟩⟩)
  have claimed : ((claimQuery ticket.id).run tables).2.Orderly :=
    orderly.of_same (Query.rows_run_of_ne nofun)
  unfold claimAndResume claimTicket
  rw [bind_assoc]
  refine query_then faultless ?_
  simp only [pure_bind, granted, Bool.not_false, if_true]
  rw [← Turn.isReady_claim]
  exact resume_alone faultless draws claimed tries asked

variable (deployment) in
/-- A turn finishes its ticket, and completes it if it was ready. -/
theorem processOne_alone (faultless : setting.IsFaultless) (draws : setting.Draws ids)
    (orderly : tables.Orderly) (tries : 0 < attempts)
    (pending : ∃ row ∈ tables.ticketRows, row.get "id" = .text ticket.id ∧ row.IsPending)
    (asked : Nat) :
    (processOne deployment attempts ticket).LeavesAt setting tables asked fun outcome after =>
      outcome = .ok (Turn.isReady setting ⟨ticket, tables, asked⟩) ∧
        Finishes ids ticket (Turn.isReady setting ⟨ticket, tables, asked⟩)
          ((claimQuery ticket.id).run tables).2 after := by
  have concludes := claimAndResume_alone deployment faultless draws orderly tries pending asked
  unfold processOne
  refine attempt_then ?_
  unfold LeavesAt at concludes
  generalize (claimAndResume deployment attempts ticket).run.alone setting tables asked = run
    at concludes ⊢
  cases outcome : run.value with
  | ok completed =>
    rw [outcome] at concludes
    obtain ⟨rfl, finishes⟩ := concludes
    exact leavesAt_of_leaves (leaves_pure ⟨rfl, finishes⟩)
  | error failure =>
    rw [outcome] at concludes
    obtain ⟨notReady, files, after⟩ := concludes
    rw [notReady]
    exact leavesAt_of_leaves (failTicket_alone faultless files after failure.record)

end Sweep
end MessageFlow
