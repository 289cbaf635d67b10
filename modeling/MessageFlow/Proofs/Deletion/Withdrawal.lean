import Mathlib.Data.List.Forall2
import MessageFlow.Proofs.Alone.Run
import MessageFlow.Proofs.Interleaving.Rows
import MessageFlow.Proofs.Tickets.Rows

/-!
What the deletion of a flow does to the tables, step by step: an open execution of the flow is
failed once, or not yet; a pending ticket of the flow is failed, or not yet. Two deletions in
sequence do together what one of them does.
-/

namespace MessageFlow

/-- The execution as the deletion of its flow stores it. -/
def Execution.withdrawn (v : Execution) (time : Timestamp) : Execution :=
  ((v.failed Run.flowDeleted).stamped time).saved

namespace Row

/-- An active or waiting execution of the flow. -/
def IsOpenOf (row : Row) (flowId : String) : Prop :=
  row.get "flow_id" = .text flowId ∧
    (row.get "status" = .text Status.active.text ∨ row.get "status" = .text Status.waiting.text)

/-- A pending ticket of the flow. -/
def IsPendingOf (row : Row) (flowId : String) : Prop :=
  row.get "flow_id" = .text flowId ∧ row.IsPending

instance (row : Row) (flowId : String) : Decidable (row.IsOpenOf flowId) :=
  inferInstanceAs (Decidable (_ ∧ _))

instance (row : Row) : Decidable row.IsPending := inferInstanceAs (Decidable (_ = _))

instance (row : Row) (flowId : String) : Decidable (row.IsPendingOf flowId) :=
  inferInstanceAs (Decidable (_ ∧ _))

/-- The ticket as the deletion of its flow marks it. -/
def expired (row : Row) (time : Timestamp) : Row :=
  Entries.update row
    [("status", .text TicketStatus.failed.text), ("processed_at", .text time.columnText),
      ("error", .text Run.flowDeleted)]

end Row

/-- The query wrote the row with that id. -/
def Asked.writes (asked : Asked) (id : String) : Bool :=
  asked.query.table == .executions && asked.query.verb != .select &&
    asked.answer.toOption.any fun rows => rows.any fun row => row.get "id" = .text id

/-- How often the row with that id was written. -/
def writesOf (log : List Asked) (id : String) : Nat := log.countP (·.writes id)

theorem writesOf_append (first later : List Asked) (id : String) :
    writesOf (first ++ later) id = writesOf first id + writesOf later id := by
  simp [writesOf]

/-- What becomes of the row of an execution, and how often it was written. -/
inductive Row.Withdraws (flowId : String) (log : List Asked) : Row → Row → Prop
  | kept (row : Row) (unwritten : ∀ id, row.get "id" = .text id → writesOf log id = 0) :
    Withdraws flowId log row row
  | failed (v : Execution) (regular : v.Regular) (isOpen : Row.IsOpenOf v.row flowId)
    (time : Timestamp) (once : writesOf log v.id = 1) :
    Withdraws flowId log v.row (v.withdrawn time).row

/-- What becomes of a ticket. -/
inductive Row.Expires (flowId : String) (row : Row) : Row → Prop
  | kept : Expires flowId row row
  | failed (pending : row.IsPendingOf flowId) (time : Timestamp) :
    Expires flowId row (row.expired time)

/-- What a deletion of the flow that has asked these queries makes of the tables. -/
structure Tables.Withdraws (flowId : String) (log : List Asked) (before after : Tables) :
    Prop where
  executions :
    List.Forall₂ (Row.Withdraws flowId log) before.executionRows after.executionRows
  tickets : List.Forall₂ (Row.Expires flowId) before.ticketRows after.ticketRows
  flows : after.rows .flows = before.rows .flows ∨
    after.rows .flows = (before.rows .flows).filter fun row => row.get "id" ≠ .text flowId
  others : ∀ table, table ≠ .executions → table ≠ .tickets → table ≠ .flows →
    after.rows table = before.rows table

/-- Nothing that a deletion of the flow would still have to change. -/
structure Tables.Rid (flowId : String) (tables : Tables) : Prop where
  executions : ∀ row ∈ tables.executionRows, ¬ row.IsOpenOf flowId
  tickets : ∀ row ∈ tables.ticketRows, ¬ row.IsPendingOf flowId
  flows : ∀ row ∈ tables.rows .flows, row.get "id" ≠ .text flowId

section steps

variable {flowId : String} {log later : List Asked} {row next last : Row} {v : Execution}
  {time : Timestamp}

namespace Execution

theorem Regular.withdrawn (regular : v.Regular) : (v.withdrawn time).Regular :=
  ⟨regular.extras, regular.contextExtras⟩

theorem Regular.get_flowId (regular : v.Regular) : Row.get v.row "flow_id" = .text v.flowId := by
  rw [Row.get, get?_flowId (regular.extras.column _ (by decide))]
  rfl

theorem Regular.get_status (regular : v.Regular) :
    Row.get v.row "status" = .text v.status.text := by
  rw [Row.get, get?_status regular.plain]
  rfl

end Execution

theorem Execution.Regular.isOpenOf_iff (regular : v.Regular) :
    Row.IsOpenOf v.row flowId ↔ v.flowId = flowId ∧ v.status.isOpen = true := by
  rw [Row.IsOpenOf, regular.get_flowId, regular.get_status]
  cases v.status <;> simp [Status.isOpen, Status.text]

/-- What was failed is open no more. -/
theorem Execution.Regular.not_isOpenOf_withdrawn (regular : v.Regular) :
    ¬ Row.IsOpenOf (v.withdrawn time).row flowId := by
  rw [regular.withdrawn.isOpenOf_iff]
  intro isOpen
  exact absurd isOpen.2 (by decide : ¬ Status.failed.isOpen = true)

theorem Row.get_status_expired (row : Row) (time : Timestamp) :
    (row.expired time).get "status" = .text TicketStatus.failed.text := by
  have given : Entries.get? (row.expired time) "status" = some (.text TicketStatus.failed.text) :=
    Entries.get?_update_of_get? (by simp) rfl
  rw [Row.get, given]
  rfl

theorem Row.not_isPendingOf_expired : ¬ (row.expired time).IsPendingOf flowId := by
  intro pending
  exact Row.not_isPending_of_status (row.get_status_expired time) (by decide) pending.2

namespace Row

theorem Withdraws.get_id (withdraws : Withdraws flowId log row next) :
    next.get "id" = row.get "id" := by
  cases withdraws with
  | kept => rfl
  | failed v regular isOpen time once =>
    rw [regular.get_id]
    exact regular.withdrawn.get_id

theorem Withdraws.trans (first : Withdraws flowId log row next)
    (second : Withdraws flowId later next last) : Withdraws flowId (log ++ later) row last := by
  cases first with
  | kept _ unwritten =>
    cases second with
    | kept _ alsoUnwritten =>
      refine .kept row fun id isId => ?_
      rw [writesOf_append, unwritten id isId, alsoUnwritten id isId]
    | failed v regular isOpen time once =>
      refine .failed v regular isOpen time ?_
      rw [writesOf_append, unwritten v.id regular.get_id, once]
  | failed v regular isOpen time once =>
    generalize same : (v.withdrawn time).row = mid at second
    cases second with
    | kept _ unwritten =>
      subst same
      refine .failed v regular isOpen time ?_
      rw [writesOf_append, once, unwritten v.id regular.withdrawn.get_id]
    | failed w _ alsoOpen =>
      rw [← same] at alsoOpen
      exact absurd alsoOpen regular.not_isOpenOf_withdrawn

theorem Expires.trans (first : Expires flowId row next) (second : Expires flowId next last) :
    Expires flowId row last := by
  cases first with
  | kept => exact second
  | failed pending time =>
    cases second with
    | kept => exact .failed pending time
    | failed alsoPending => exact absurd alsoPending not_isPendingOf_expired

end Row

end steps

theorem forall₂_trans {α : Type} {first second both : α → α → Prop}
    (joins : ∀ a b c, first a b → second b c → both a c) {as bs cs : List α}
    (begins : List.Forall₂ first as bs) (goes : List.Forall₂ second bs cs) :
    List.Forall₂ both as cs := by
  induction begins generalizing cs with
  | nil =>
    cases goes
    exact .nil
  | cons related _ ih =>
    cases goes with
    | cons next rest => exact .cons (joins _ _ _ related next) (ih rest)

namespace Tables.Withdraws

variable {flowId : String} {log later : List Asked} {before mid after : Tables}

theorem trans (first : Withdraws flowId log before mid)
    (second : Withdraws flowId later mid after) :
    Withdraws flowId (log ++ later) before after where
  executions := forall₂_trans (fun _ _ _ begins goes => begins.trans goes) first.executions
    second.executions
  tickets := forall₂_trans (fun _ _ _ begins goes => begins.trans goes) first.tickets second.tickets
  flows := by
    rcases first.flows with same | gone
    · rw [← same]
      exact second.flows
    · right
      rcases second.flows with stays | again
      · exact stays.trans gone
      · rw [again, gone, List.filter_filter]
        simp
  others table notExecutions notTickets notFlows :=
    (second.others table notExecutions notTickets notFlows).trans
      (first.others table notExecutions notTickets notFlows)

end Tables.Withdraws

end MessageFlow
