import MessageFlow.Proofs.Deletion.Flow
import MessageFlow.Proofs.Interleaving.Shelved

/-!
The deletion of a flow fails what is open and pending of it, leaves everything else as it is, and is
final: no execution that it failed is ever traversed again. It can be repeated when the store has
interrupted it.
-/

namespace MessageFlow

section once

/-- What the deletion of a flow is to do: each open execution of the flow is failed, and each
pending ticket; the flow goes, and everything else stays. -/
structure Tables.Deleted (flowId : String) (before after : Tables) : Prop where
  executions : List.Forall₂ (fun row next =>
      if row.IsOpenOf flowId then
        ∃ (v : Execution) (time : Timestamp), row = v.row ∧ next = (v.withdrawn time).row
      else next = row) before.executionRows after.executionRows
  tickets : List.Forall₂ (fun row next =>
      if row.IsPendingOf flowId then ∃ time, next = row.expired time else next = row)
    before.ticketRows after.ticketRows
  flows : after.rows .flows = (before.rows .flows).filter fun row => row.get "id" ≠ .text flowId
  others : ∀ table, table ≠ .executions → table ≠ .tickets → table ≠ .flows →
    after.rows table = before.rows table

theorem forall₂_of_mem_right {α β : Type} {related strong : α → β → Prop} {as : List α}
    {bs : List β} (all : List.Forall₂ related as bs)
    (implies : ∀ a, ∀ b ∈ bs, related a b → strong a b) : List.Forall₂ strong as bs := by
  induction all with
  | nil => exact .nil
  | cons relates rest ih =>
    exact .cons (implies _ _ (.head _) relates)
      (ih fun a b present => implies a b (.tail _ present))

variable {setting : Setting} {before after : Tables} {flowId : String} {log : List Asked}

/-- A deletion that leaves nothing to change has done everything. -/
theorem Tables.Withdraws.deleted (withdraws : before.Withdraws flowId log after)
    (rid : after.Rid flowId) : before.Deleted flowId after where
  executions := by
    refine forall₂_of_mem_right withdraws.executions fun row next present becomes => ?_
    cases becomes with
    | kept => rw [if_neg (rid.executions row present)]
    | failed v regular isOpen time once =>
      rw [if_pos isOpen]
      exact ⟨v, time, rfl, rfl⟩
  tickets := by
    refine forall₂_of_mem_right withdraws.tickets fun row next present becomes => ?_
    cases becomes with
    | kept => rw [if_neg (rid.tickets row present)]
    | failed pending time =>
      rw [if_pos pending]
      exact ⟨time, rfl⟩
  flows := by
    rcases withdraws.flows with same | gone
    · have none : (before.rows .flows).filter (fun row => row.get "id" ≠ .text flowId) =
          before.rows .flows :=
        List.filter_eq_self.mpr fun row present => by
          simpa using rid.flows row (same ▸ present)
      rw [none, same]
    · exact gone
  others := withdraws.others

/-- An execution that was open at the deletion is stored as failed after it. -/
theorem Tables.Withdraws.finished (withdraws : before.Withdraws flowId log after)
    (rid : after.Rid flowId) {row : Row} (present : row ∈ before.executionRows)
    (isOpen : row.IsOpenOf flowId) :
    ∃ next ∈ after.executionRows, next.get "id" = row.get "id" ∧
      next.status? = some Status.failed := by
  obtain ⟨next, isNext, becomes⟩ := exists_left_of_forall₂ withdraws.executions.flip present
  refine ⟨next, isNext, Row.Withdraws.get_id becomes, ?_⟩
  cases becomes with
  | kept => exact absurd isOpen (rid.executions row isNext)
  | failed v regular alsoOpen time once =>
    exact (Execution.heads_row regular.withdrawn.plain).status

/-- A deletion without faults and other writers returns the number of open executions of the flow.
Afterwards each of them is failed, and each pending ticket of the flow; the flow is gone, and
everything else is as before. Whatever clients do later, in any interleaving, they never traverse an
execution that was failed in this way. -/
theorem flow_deletion_is_final {tables : Tables} (named : flowId ≠ "") (formed : tables.Formed)
    (unique : tables.UniqueIds) (faultless : setting.IsFaultless) (asked : Nat) :
    let ran := Program.alone setting (Run.deleteFlow flowId).run tables asked
    ran.value = .ok (tables.executionRows.countP fun row => row.IsOpenOf flowId) ∧
      tables.Deleted flowId ran.tables ∧
      ∀ (events : List Event) (last : System), System.Runs (.start ran.tables) events last →
        ∀ (row : Row) (id : String), row ∈ tables.executionRows → row.IsOpenOf flowId →
          row.get "id" = .text id → ∀ client ∈ last.clients, client.traverses? ≠ some id := by
  intro ran
  obtain ⟨returns, withdraws, rid⟩ := Run.deleteFlow_alone named formed unique faultless asked
  refine ⟨returns, withdraws.deleted rid, ?_⟩
  intro events last runs row id present isOpen isId
  obtain ⟨next, isNext, same, failed⟩ := withdraws.finished rid present isOpen
  exact runs.not_traversed (withdraws.uniqueIds unique) isNext (same.trans isId) failed rfl

namespace Example

/-- An execution that waits for its delay to end. -/
def dozing : Execution where
  id := "execution"
  flowId := "flow"
  userId := none
  accountId := "account"
  senderId := "sender"
  senderUsername := none
  currentNodeId := "wait"
  previousNodeIds := ["begin"]
  status := .waiting
  scheduledAt := some anHour
  scheduledNodeId := some "wait"
  revision := 1

/-- The same sender's earlier execution of that flow. -/
def handled : Execution := { dozing with id := "earlier", status := .completed }

def alarm : Ticket where
  id := "ticket"
  executionId := "execution"
  flowId := "flow"
  nodeId := "wait"
  accountId := "account"
  senderId := "sender"
  executeAt := anHour

def dozingTables : Tables where
  flows := ⟨[reminder], 0⟩
  executions := ⟨[handled.row, dozing.row], 0⟩
  tickets := ⟨[alarm.row], 0⟩

/-- The clock stands still, and nothing is refused. -/
def calm : Setting where
  told _ := { client := 0 : Move }.reply

theorem dozingTables_formed : dozingTables.Formed := by
  intro row present
  have noExtras (v : Execution) (ofContext : v.context.extras = []) (extras : v.extras = []) :
      v.Regular ∧ DocumentType.isWritable v = true := by
    refine ⟨⟨?_, ?_⟩, Run.isWritable_of_noExtras ofContext extras⟩
    · rw [extras]
      exact Document.clean_nil _
    · rw [ofContext]
      exact Document.clean_nil _
  rcases List.mem_pair.mp present with rfl | rfl
  · exact ⟨handled, noExtras handled rfl rfl, rfl⟩
  · exact ⟨dozing, noExtras dozing rfl rfl, rfl⟩

theorem dozingTables_unique : dozingTables.UniqueIds := by
  unfold Tables.UniqueIds
  decide +kernel

end Example

/-- One execution that waits and one that is completed. -/
theorem flow_deletion_is_final_reminder :
    let ran := Program.alone Example.calm (Run.deleteFlow "flow").run Example.dozingTables 0
    ran.value = .ok 1 ∧ Example.dozingTables.Deleted "flow" ran.tables ∧
      ∀ (events : List Event) (last : System), System.Runs (.start ran.tables) events last →
        ∀ client ∈ last.clients, client.traverses? ≠ some "execution" := by
  intro ran
  obtain ⟨returns, deleted, final⟩ := flow_deletion_is_final (by decide : "flow" ≠ "")
    Example.dozingTables_formed Example.dozingTables_unique
    (fun _ => rfl : Example.calm.IsFaultless) 0
  have counted :
      (Example.dozingTables.executionRows.countP fun row => row.IsOpenOf "flow") = 1 := by
    decide +kernel
  have isOpen : Row.IsOpenOf Example.dozing.row "flow" := by decide +kernel
  refine ⟨?_, deleted, ?_⟩
  · rw [← counted]
    exact returns
  · intro events last runs
    exact final events last runs Example.dozing.row "execution" (.tail _ (.head _)) isOpen rfl

end once

/-!
A deletion that the store has interrupted can be repeated: both runs together do what one run does
that is not interrupted.
-/

open Document

/-- A column that holds the time of the last change. -/
def isStamp (column : String) : Bool := column == "updated_at" || column == "processed_at"

/-- The row without the times of its last change. -/
def Row.unstamped (row : Row) : Row := row.filter fun entry => !isStamp entry.1

section unstamped

variable {v : Execution}

theorem unstamped_withdrawn (regular : v.Regular) (time time' : Timestamp) :
    Row.unstamped (v.withdrawn time).row = Row.unstamped (v.withdrawn time').row := by
  have rows (time : Timestamp) : (v.withdrawn time).row =
      labelled .columns ((v.withdrawn time).fields .columns) ++ v.extras :=
    Execution.row_eq regular.withdrawn
  have stamp : isStamp (Field.updatedAt.under .columns) = true := by decide
  rw [rows, rows, Row.unstamped, Row.unstamped, List.filter_append, List.filter_append]
  simp [labelled, Execution.fields, List.filter_cons, stamp, Execution.withdrawn, Execution.saved,
    Execution.stamped, Execution.failed]

theorem unstamped_set_stamp (row : Row) {name : String} (stamp : isStamp name = true)
    (value : Json) : Row.unstamped (Entries.set row name value) = row.unstamped := by
  induction row with
  | nil => simp [Entries.set, Row.unstamped, stamp]
  | cons entry rest ih =>
    obtain ⟨other, earlier⟩ := entry
    by_cases same : other = name
    · simp [Entries.set, Row.unstamped, same, stamp]
    · simp only [Entries.set, if_neg same, Row.unstamped, List.filter_cons] at ih ⊢
      rw [ih]

theorem unstamped_set (row : Row) {name : String} (plain : isStamp name = false) (value : Json) :
    Row.unstamped (Entries.set row name value) = Entries.set row.unstamped name value := by
  induction row with
  | nil => simp [Entries.set, Row.unstamped, plain]
  | cons entry rest ih =>
    obtain ⟨other, earlier⟩ := entry
    by_cases same : other = name
    · simp [Entries.set, Row.unstamped, same, plain]
    · simp only [Entries.set, if_neg same, Row.unstamped, List.filter_cons] at ih ⊢
      by_cases kept : isStamp other = true
      · simp [kept, ih]
      · simp [kept, ih, Entries.set, same]

theorem unstamped_expired (row : Row) (time time' : Timestamp) :
    (row.expired time).unstamped = (row.expired time').unstamped := by
  have stamp : isStamp "processed_at" = true := by decide
  have error : isStamp "error" = false := by decide
  simp only [Row.expired, Entries.update_cons, Entries.update_nil, unstamped_set _ error,
    unstamped_set_stamp _ stamp]

end unstamped

/-- Related lists that are mapped alike. -/
theorem map_eq_of_forall₂ {α β : Type} {related similar : α → α → Prop} {f : α → β}
    {as bs cs : List α} (first : List.Forall₂ related as bs) (second : List.Forall₂ similar as cs)
    (alike : ∀ a, ∀ b ∈ bs, ∀ c ∈ cs, related a b → similar a c → f b = f c) :
    bs.map f = cs.map f := by
  induction first generalizing cs with
  | nil =>
    cases second
    rfl
  | cons relates _ ih =>
    cases second with
    | cons also rest =>
      rw [List.map_cons, List.map_cons, alike _ _ (.head _) _ (.head _) relates also]
      rw [ih rest fun a b present c alsoPresent =>
        alike a b (.tail _ present) c (.tail _ alsoPresent)]

namespace Tables.Withdraws

variable {flowId : String} {log later : List Asked} {before after other : Tables} {v : Execution}

/-- What a deletion has done does not depend on how it came to that, but for the times. -/
theorem unstamped_eq (withdraws : before.Withdraws flowId log after) (rid : after.Rid flowId)
    (also : before.Withdraws flowId later other) (alsoRid : other.Rid flowId) (table : Table) :
    (after.rows table).map Row.unstamped = (other.rows table).map Row.unstamped := by
  have deleted := withdraws.deleted rid
  have alsoDeleted := also.deleted alsoRid
  by_cases isExecutions : table = .executions
  · subst isExecutions
    apply map_eq_of_forall₂ withdraws.executions also.executions
    intro row next isNext next' isNext' becomes becomes'
    cases becomes with
    | kept =>
      cases becomes' with
      | kept => rfl
      | failed v regular isOpen => exact absurd isOpen (rid.executions _ isNext)
    | failed v regular isOpen time =>
      generalize same : v.row = row at becomes' isOpen
      cases becomes' with
      | kept => exact absurd isOpen (alsoRid.executions _ isNext')
      | failed w alsoRegular _ time' =>
        rw [Execution.row_injective regular alsoRegular same]
        exact unstamped_withdrawn alsoRegular time time'
  by_cases isTickets : table = .tickets
  · subst isTickets
    apply map_eq_of_forall₂ withdraws.tickets also.tickets
    intro row next isNext next' isNext' becomes becomes'
    cases becomes with
    | kept =>
      cases becomes' with
      | kept => rfl
      | failed pending => exact absurd pending (rid.tickets _ isNext)
    | failed pending time =>
      cases becomes' with
      | kept => exact absurd pending (alsoRid.tickets _ isNext')
      | failed _ time' => exact unstamped_expired row time time'
  by_cases isFlows : table = .flows
  · subst isFlows
    rw [deleted.flows, alsoDeleted.flows]
  · rw [deleted.others table isExecutions isTickets isFlows,
      alsoDeleted.others table isExecutions isTickets isFlows]

theorem formed (withdraws : before.Withdraws flowId log after) (formed : before.Formed) :
    after.Formed := by
  intro next present
  obtain ⟨row, earlier, becomes⟩ := exists_left_of_forall₂ withdraws.executions present
  cases becomes with
  | kept => exact formed next earlier
  | failed v regular isOpen time once =>
    obtain ⟨w, ⟨alsoRegular, writable⟩, same⟩ := formed v.row earlier
    rw [← Execution.row_injective regular alsoRegular same] at writable
    exact ⟨v.withdrawn time, ⟨regular.withdrawn, writable⟩, rfl⟩

end Tables.Withdraws

/-- If the store refuses a query of a deletion, and the deletion is run again without faults, the
tables are the same afterwards as after one run without faults, but for the times of the changes;
and no execution is written twice. -/
theorem flow_deletion_can_be_retried {tables : Tables} {flowId : String} {first second only : Setting}
    (named : flowId ≠ "") (formed : tables.Formed) (unique : tables.UniqueIds)
    (asked again once : Nat)
    (faultless : second.IsFaultless) (alsoFaultless : only.IsFaultless) :
    let broken := Program.alone first (Run.deleteFlow flowId).run tables asked
    let repaired := Program.alone second (Run.deleteFlow flowId).run broken.tables again
    let whole := Program.alone only (Run.deleteFlow flowId).run tables once
    (∃ count, repaired.value = .ok count) ∧
      (∀ table, (repaired.tables.rows table).map Row.unstamped =
        (whole.tables.rows table).map Row.unstamped) ∧
      ∀ v, tables.Stores v → writesOf (broken.log ++ repaired.log) v.id ≤ 1 := by
  intro broken repaired whole
  have partly :=
    ((Run.leaves_deleteFlow named formed unique : Operation.Leaves first _ _ _) asked).1
  obtain ⟨returns, rest, rid⟩ := Run.deleteFlow_alone named (partly.formed formed)
    (partly.uniqueIds unique) faultless again
  obtain ⟨_, all, alsoRid⟩ := Run.deleteFlow_alone named formed unique alsoFaultless once
  have both := partly.trans rest
  refine ⟨⟨_, returns⟩, both.unstamped_eq rid all alsoRid, ?_⟩
  intro v stores
  rcases both.cases stores with written | ⟨unwritten, _⟩
  · exact written.le
  · exact unwritten.le.trans (by decide)

namespace Example

/-- The store refuses the fifth request. -/
def interrupted : Setting where
  told _ := { client := 0 : Move }.reply
  refused asked := if asked = 4 then some (.store "database unavailable") else none
  noConflict := by
    intro asked failure same
    split at same
    · cases same
      rfl
    · cases same

end Example

/-- The execution is failed, and then the update of the tickets is refused. -/
theorem flow_deletion_can_be_retried_reminder :
    let broken := Program.alone Example.interrupted (Run.deleteFlow "flow").run Example.dozingTables 0
    let repaired := Program.alone Example.calm (Run.deleteFlow "flow").run broken.tables 0
    let whole := Program.alone Example.calm (Run.deleteFlow "flow").run Example.dozingTables 0
    broken.value = .error (.store "database unavailable") ∧
      writesOf broken.log "execution" = 1 ∧
      (∃ count, repaired.value = .ok count) ∧
      (∀ table, (repaired.tables.rows table).map Row.unstamped =
        (whole.tables.rows table).map Row.unstamped) ∧
      ∀ v, Example.dozingTables.Stores v → writesOf (broken.log ++ repaired.log) v.id ≤ 1 := by
  intro broken repaired whole
  refine ⟨?_, ?_, ?_⟩
  · decide +kernel
  · decide +kernel
  · exact flow_deletion_can_be_retried (by decide : "flow" ≠ "") Example.dozingTables_formed
      Example.dozingTables_unique 0 0 0 (fun _ => rfl : Example.calm.IsFaultless)
      (fun _ => rfl : Example.calm.IsFaultless)

end MessageFlow
