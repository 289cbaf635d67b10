import MessageFlow.Proofs.Tickets.Parking

/-!
A delay is never cut short: a parked execution goes on only when a sweep has claimed the ticket of
its delay after its time.
-/

namespace MessageFlow
open Store

/-- The client is a sweep that has found the ticket due and was granted it. -/
structure Event.Honours (event : Event) (past : List Event) (terms : Terms) : Prop where
  stored : event.before.Bears terms
  due : ∃ now limit, event.task.SweepsAt now ∧ terms.executeAt.instant ≤ now.instant ∧
    ∃ listing ∈ past, listing.client = event.client ∧ listing.query = dueQuery now limit
  granted : ∃ claim, lastClaim? event.client past = some claim ∧ claim.Claims terms.id

/-- The later version is parked as the earlier one is. -/
structure Execution.StaysParked (v w : Execution) : Prop where
  waits : w.status = .waiting
  node : w.scheduledNodeId = v.scheduledNodeId
  time : w.scheduledAt = v.scheduledAt

/-- How the delay of an execution comes to an end. -/
inductive Event.EndsDelay (event : Event) (past : List Event) (v w : Execution) : Prop
  | woken (terms : Terms) (parked : v.ParkedBy terms) (honours : event.Honours past terms)
    (active : w.status = .active)
  | flowLost (terms : Terms) (parked : v.ParkedBy terms) (honours : event.Honours past terms)
    (missing : FoundMissing past event.client v.flowId) (failed : w.status = .failed)
  | flowDeleted (flowId : String) (deletes : event.task = .deleteFlow flowId)
    (failed : w.status = .failed)

namespace Parking

variable {scene : Scene} {i : Nat} {ticket : Ticket} {v : Execution}

/-- A ticket that was granted for a parked execution is that of its delay. -/
theorem parkedBy (parking : Parking scene)
    (claimed : (scene.station i).desk.claim = some (ticket, .granted))
    (stores : scene.tables.Stores v) (owner : ticket.executionId = v.id)
    (waits : v.status = .waiting) : v.ParkedBy ticket.terms := by
  cases parking.matched.fits ticket.terms (.granted i ticket claimed rfl) with
  | settled settled => exact absurd waits (settled.calm v stores owner.symm)
  | parked w storesW parked =>
    obtain rfl := stores.eq_of_id parking.sound.unique storesW (owner.symm.trans parked.named.symm)
    exact parked
  | opens j opens =>
    obtain ⟨w, walks, named⟩ := opens.walks
    exact absurd waits (parking.sound.not_waiting walks stores (owner.symm.trans named.symm))

/-- A sweep that was granted a ticket has found it due. -/
theorem honours {event : Event} {after : Except Failure (List Row) → Station}
    (parking : Parking scene) (asks : scene.Asks event after)
    (oneTask : ∀ other ∈ scene.past, other.client = event.client → other.task = event.task)
    (claimed : (scene.station event.client).desk.claim = some (ticket, .granted)) :
    event.Honours scene.past ticket.terms where
  stored := asks.before ▸ (parking.ledger.inHand _ ticket _ claimed).1
  due := by
    obtain ⟨listing, present, mine, now, limit, lists, sweeps, due⟩ :=
      (parking.ledger.inHand _ ticket _ claimed).2
    exact ⟨now, limit, oneTask listing present mine ▸ sweeps, due, listing, present, mine, lists⟩
  granted := parking.ledger.recalls.claims claimed trivial

end Parking

/-- However the requests of all clients are interleaved, and whichever queries fail: once an
execution is parked on a delay, its next version is parked on the same delay, unless a sweep that
was granted the ticket of this delay wakes it not before the time, or finds its flow gone, or its
flow is deleted. A message changes only its context. -/
theorem delay_not_cut_short {tables : Tables} {issued : List String} {past later : List Event}
    {event : Event} {now : System} (noExecutions : tables.executionRows = [])
    (noTickets : tables.ticketRows = [])
    (runs : System.Runs { tables, issued } (past ++ event :: later) now) {id : String}
    {v w : Execution} (before : event.before.Holds id (some v))
    (after : event.after.Holds id (some w)) (parked : v.isWaitingOnDelay = true) :
    (v.StaysParked w ∨ (w.revision = v.revision + 1 ∧ event.EndsDelay past v w)) ∧
      ∀ message, event.task.message? = some message → w = v ∨ ∃ updatedAt, w =
        { v with context := v.context.receive message, updatedAt, revision := v.revision + 1 } := by
  obtain ⟨scene, next, parking, rfl, asks⟩ := runs.asks (System.Manned.start tables issued)
    Scene.kept_parking (.start noExecutions noTickets)
  obtain ⟨stores, rfl⟩ := before.stores
  obtain ⟨stored, same⟩ := after.stores
  rw [asks.before] at stores
  obtain ⟨waits, nodeId, node⟩ := Execution.isWaitingOnDelay_iff.mp parked
  have honours {ticket : Ticket}
      (claimed : (scene.station event.client).desk.claim = some (ticket, .granted)) :
      event.Honours scene.past ticket.terms := by
    refine parking.honours asks (fun other present mine => ?_) claimed
    exact runs.task_eq (List.mem_append_left _ present) (List.mem_append_right _ (.head _)) mine
  have unbrought (sweeps : event.task.isSweep = true) {P : InboundMessage → Prop} :
      ∀ message, event.task.message? = some message → P message := by
    intro message brought
    rw [Task.message?_of_isSweep sweeps] at brought
    cases brought
  rcases asks.version_cases parking.sound stores stored same with
    rfl | ⟨e, goesOn, desk, writes, rfl⟩
  · exact ⟨.inl ⟨waits, rfl, rfl⟩, fun message brought => .inl rfl⟩
  have revision : e.saved.revision = v.revision + 1 := by
    rw [← writes.keeps.revision]
    rfl
  cases writes with
  | message message now idle brought isOpen =>
    have received : v.receive message = { v with context := v.context.receive message } := by
      simp [Execution.receive, Execution.isWaitingOnInput, node]
    refine ⟨.inl ⟨?_, rfl, rfl⟩, fun other alsoBrought => .inr ⟨some now, ?_⟩⟩
    · rw [received]
      exact waits
    · rw [brought] at alsoBrought
      cases alsoBrought
      rw [received]
      rfl
  | deletion now idle deletes isOpen =>
    obtain ⟨flowId, isDeletion⟩ := Task.eq_deleteFlow_of_isDeletion deletes
    refine ⟨.inr ⟨revision, .flowDeleted flowId isDeletion rfl⟩, fun message brought => ?_⟩
    rw [isDeletion] at brought
    cases brought
  | wake ticket now idle sweeps claimed owner isParked =>
    refine ⟨.inr ⟨revision, .woken ticket.terms ?_ (honours claimed) rfl⟩, unbrought sweeps⟩
    exact parking.parkedBy claimed stores owner waits
  | lose ticket now idle sweeps claimed owner isParked missing =>
    refine ⟨.inr ⟨revision, .flowLost ticket.terms ?_ (honours claimed) ?_ rfl⟩, unbrought sweeps⟩
    · exact parking.parkedBy claimed stores owner waits
    · exact parking.ledger.missing _ v.flowId missing
  | advance e walks change suits =>
    exact absurd waits (parking.sound.not_waiting walks stores rfl)

namespace Example

/-- The execution as it is parked. -/
def parked : Execution where
  id := "execution"
  flowId := "flow"
  userId := none
  accountId := "account"
  senderId := "sender"
  senderUsername := none
  currentNodeId := "wait"
  previousNodeIds := ["begin"]
  status := .waiting
  context := { triggerType := some "keyword" }
  scheduledAt := some ⟨⟨1970, 1, 1, 0, 1, 0, 0, some 0⟩, by decide⟩
  scheduledNodeId := some "wait"
  revision := 1
  createdAt := some default
  updatedAt := some default

/-- The execution as it is woken. -/
def woken : Execution :=
  { parked with
    status := .active
    scheduledAt := none
    scheduledNodeId := none
    revision := 2
    updatedAt := some anHour }

theorem holds_of_row {tables : Tables} {v : Execution}
    (isRow : tables.executionRow? "execution" = some v.row) (extras : v.extras = [])
    (contextExtras : v.context.extras = []) : tables.Holds "execution" (some v) where
  stored := isRow
  regular w same := by
    cases same
    exact ⟨extras ▸ Document.clean_nil _, contextExtras ▸ Document.clean_nil _⟩

end Example

/-- The sweep that wakes the execution was granted its ticket when the minute was over. -/
theorem delay_not_cut_short_hour_later : ∃ past event later,
    ((Example.reminding [Example.account]).playAll Example.hourLater).1 = past ++ event :: later ∧
      event.EndsDelay past Example.parked Example.woken := by
  have stored : ∃ event ∈ ((Example.reminding [Example.account]).playAll Example.hourLater).1,
      event.before.executionRow? "execution" = some Example.parked.row ∧
        event.after.executionRow? "execution" = some Example.woken.row := by decide +kernel
  obtain ⟨event, present, before, after⟩ := stored
  obtain ⟨past, later, split⟩ := List.append_of_mem present
  have runs := Example.runs_reminding [Example.account] Example.hourLater
  rw [split] at runs
  rcases (delay_not_cut_short rfl rfl runs (Example.holds_of_row before rfl rfl)
    (Example.holds_of_row after rfl rfl) rfl).1 with stays | ⟨_, ends⟩
  · cases stays.waits
  · exact ⟨past, event, later, split, ends⟩

end MessageFlow
