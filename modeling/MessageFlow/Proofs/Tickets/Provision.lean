import MessageFlow.Proofs.Tickets.Delay

/-!
A parked execution has the ticket of its delay. The ticket is not completed; it may have been
failed, and then the execution stays parked for ever.
-/

namespace MessageFlow
open Store

/-- The query was served, or it has failed. -/
def Event.ServedOrRaised (event : Event) : Prop :=
  event.IsServed ∨ ∃ failure, event.answer = .error failure

namespace Scene

/-- A ticket is stored that no client has woken an execution by. -/
structure Unspent (scene : Scene) (terms : Terms) : Prop where
  stored : ∃ row ∈ scene.tables.ticketRows, row.Bears terms ∧
    row.get "status" ≠ .text TicketStatus.completed.text
  unused : ∀ i ticket, (scene.station i).desk.claim = some (ticket, .spent) → ticket.id ≠ terms.id

variable {scene : Scene} {event : Event} {after : Except Failure (List Row) → Station}
  {terms : Terms}

namespace Unspent

/-- Only the sweep that has woken an execution by the ticket completes it. -/
theorem stored_next (unspent : scene.Unspent terms) (ledger : Ledger scene)
    (asks : scene.Asks event after) : ∃ row ∈ event.after.ticketRows, row.Bears terms ∧
      row.get "status" ≠ .text TicketStatus.completed.text := by
  obtain ⟨row, present, bears, status⟩ := unspent.stored
  have stored : row ∈ event.before.ticketRows := asks.before ▸ present
  cases ledger.claimed.filed.files asks with
  | aside same => exact ⟨row, same ▸ stored, bears, status⟩
  | entry ticket isNew isInsert unknown stores =>
    exact ⟨row, stores ▸ List.mem_append_left _ stored, bears, status⟩
  | mark filters changes given marks active stores =>
    refine ⟨_, stores ▸ List.mem_map_of_mem stored, bears.revise marks, fun completed => ?_⟩
    by_cases meant : selects filters row = true
    swap
    · rw [Row.revise_of_not meant] at completed
      exact status completed
    rw [marks.status_of_selects meant] at completed
    obtain rfl := TicketStatus.text_injective (Json.text.inj completed)
    rcases asks.acts.deals.mark_cases marks with
      ⟨other, _⟩ | ⟨ticket, claim, _, _, _, rfl, claimed, _, failed | ⟨_, rfl⟩, _⟩ |
        ⟨_, other, _⟩
    · cases other
    · cases failed
    · have named := selects_byId.mp meant
      rw [bears.id] at named
      exact unspent.unused _ ticket claimed (Json.text.inj named).symm
    · cases other

/-- A ticket stays unspent until its execution is woken. -/
theorem next (unspent : scene.Unspent terms) (ledger : Ledger scene)
    (asks : scene.Asks event after) (asleep : ¬ scene.Woken event after terms.executionId) :
    (scene.next event after).Unspent terms where
  stored := unspent.stored_next ledger asks
  unused i ticket spent := by
    rw [station_next] at spent
    split at spent
    · rcases asks.acts.deals.claim_cases spent with ⟨_, same | ⟨_, granted, _⟩⟩ | ⟨_, _, never, _⟩
      · exact unspent.unused _ ticket same
      · intro sameId
        obtain ⟨row, present, bears, _⟩ := unspent.stored
        obtain ⟨other, stored, borne⟩ := (ledger.inHand _ ticket _ granted).1
        have only : other = row := List.inj_on_of_nodup_map ledger.unique stored present
          (borne.id.trans ((congrArg Json.text sameId).trans bears.id.symm))
        have same : ticket.terms = terms := (only ▸ borne).unique bears
        exact asleep ⟨ticket, congrArg Terms.executionId same, granted, spent⟩
      · exact absurd rfl never
    · exact unspent.unused i ticket spent

end Unspent
end Scene

/-- Parked executions have their tickets, and so have those about to be parked. -/
structure Provided (scene : Scene) : Prop where
  parked : ∀ v, scene.tables.Stores v → v.isWaitingOnDelay = true →
    ∃ terms, v.ParkedBy terms ∧ scene.Unspent terms
  opened : ∀ i v ticket, (scene.station i).walking = some v →
    (scene.station i).desk.opened = some (ticket, true) →
    ticket.executionId = v.id ∧ scene.Unspent ticket.terms

namespace Provided

variable {scene : Scene} {event : Event} {after : Except Failure (List Row) → Station}

/-- An execution that is parked has its ticket from before, or from the traversal that parks it. -/
theorem parked_next (provided : Provided scene) (parking : Parking scene)
    (asks : scene.Asks event after) {w : Execution} (stored : event.after.Stores w)
    (isParked : w.isWaitingOnDelay = true) :
    ∃ terms, w.ParkedBy terms ∧ (scene.next event after).Unspent terms := by
  have goesOn {terms : Terms} (parked : w.ParkedBy terms) (unspent : scene.Unspent terms) :
      ∃ terms, w.ParkedBy terms ∧ (scene.next event after).Unspent terms :=
    ⟨terms, parked, unspent.next parking.ledger asks fun woken =>
      (woken.wakes parking.sound asks).2 w stored parked.named parked.waits⟩
  rcases asks.stored_cases parking.sound stored with
    old | ⟨isNew, _⟩ | ⟨v, e, goes, desk, writes, stores, rfl⟩
  · obtain ⟨terms, parked, unspent⟩ := provided.parked w old isParked
    exact goesOn parked unspent
  · rw [Execution.isWaitingOnDelay, isNew.status] at isParked
    cases isParked
  cases writes with
  | deletion | wake | lose => cases isParked
  | message message now idle brought isOpen =>
    obtain ⟨terms, parked, unspent⟩ :=
      provided.parked v stores ((v.isWaitingOnDelay_receive message).symm.trans isParked)
    exact goesOn (parked.receive message now).saved unspent
  | advance e walks change suits =>
    obtain ⟨ticket, opened, parked⟩ := suits.parkedBy isParked
    obtain ⟨owner, unspent⟩ := provided.opened _ v ticket walks opened
    exact goesOn (parked (owner.trans change.keeps.id.symm)).saved unspent

/-- A new ticket is unspent when the store has taken it. -/
theorem unspent_of_insert (ledger : Ledger scene) (asks : scene.Asks event after)
    {ticket : Ticket} (isNew : ticket.IsNew) (isInsert : event.query = .insert .tickets ticket.row)
    (served : event.IsServed) : (scene.next event after).Unspent ticket.terms := by
  obtain ⟨v, entered, same, enteredNew, walks, owner, drawn, first, desk⟩ :=
    asks.acts.deals.enters isInsert
  have stores : event.after.ticketRows = event.before.ticketRows ++ [ticket.row] := by
    rw [served.stores, isInsert]
    exact (Query.run_insert isNew.get_id).2
  refine ⟨⟨ticket.row, stores ▸ List.mem_append_right _ (.head _), isNew.isFiled.bears, ?_⟩, ?_⟩
  · exact fun completed => absurd isNew.isPending
      (Row.not_isPending_of_status completed (by decide))
  · intro i other spent sameId
    have before : (scene.station i).desk.claim = some (other, .spent) := by
      rw [Scene.station_next] at spent
      split at spent
      · next mine =>
        rw [desk] at spent
        rw [mine]
        exact spent
      · exact spent
    -- What a sweep has in hand is stored, but no stored ticket has the id that was drawn.
    obtain ⟨row, stored, bears⟩ := (ledger.inHand i other _ before).1
    have unknown := (ledger.claimed.filed.drawn _ _ (asks.drawn isNew isInsert).1).2.1
    exact unknown row stored (bears.id.trans (congrArg Json.text sameId))

theorem opened_next (provided : Provided scene) (parking : Parking scene)
    (asks : scene.Asks event after) (outright : event.ServedOrRaised) {i : Nat} {v : Execution}
    {ticket : Ticket} (walks : ((scene.next event after).station i).walking = some v)
    (opened : ((scene.next event after).station i).desk.opened = some (ticket, true)) :
    ticket.executionId = v.id ∧ (scene.next event after).Unspent ticket.terms := by
  have goesOn {j : Nat} (walked : (scene.station j).walking = some v)
      (before : (scene.station j).desk.opened = some (ticket, true)) :
      ticket.executionId = v.id ∧ (scene.next event after).Unspent ticket.terms := by
    obtain ⟨owner, unspent⟩ := provided.opened j v ticket walked before
    refine ⟨owner, unspent.next parking.ledger asks fun woken => ?_⟩
    obtain ⟨w, stores, named, waits⟩ := (woken.wakes parking.sound asks).1
    exact parking.sound.not_waiting walked stores (named.trans owner) waits
  rw [Scene.station_next] at walks opened
  split at walks
  · next mine =>
    rw [if_pos mine] at opened
    cases asks.acts.treats with
    | create e creates idle reserved isNew goes leaves =>
      rw [leaves] at opened
      cases opened
    | write u e goes desk saves held writes after =>
      rw [after, writes.leaves] at opened
      cases opened
    | aside spares goes =>
      rcases goes event.answer with none | ⟨walking, _⟩
      · rw [none] at walks
        cases walks
      rw [walking] at walks
      rcases asks.acts.deals.opened_cases event.answer with none | same | ⟨row, isInsert⟩
      · rw [none] at opened
        cases opened
      · exact goesOn walks (same ▸ opened)
      · obtain ⟨u, entered, rfl, isNew, walked, owner, _, _, desk⟩ :=
          asks.acts.deals.enters isInsert
        rw [walks] at walked
        cases walked
        have now : some (entered, event.answer.isOk) = some (ticket, true) := by
          rw [← opened, desk]
          rfl
        obtain ⟨rfl, ok⟩ := Prod.mk.inj (Option.some.inj now)
        rcases outright with served | ⟨failure, failed⟩
        · exact ⟨owner, unspent_of_insert parking.ledger asks isNew isInsert served⟩
        · rw [failed] at ok
          cases ok
  · next other =>
    rw [if_neg other] at opened
    exact goesOn walks opened

end Provided

/-- The ticket is failed by the sweep that has asked for it last, or while it is pending by the
deletion of its flow. -/
inductive Event.Fails (event : Event) (past : List Event) (id : String) : Prop
  | swept (claim : Event) (sweeps : event.task.isSweep = true)
    (asks : ∃ time error, event.query = finishQuery id .failed time error)
    (last : lastClaim? event.client past = some claim) (isClaim : claim.query = claimQuery id)
  | annulled (flowId : String) (deletes : event.task = .deleteFlow flowId)
    (waited : ∃ row ∈ event.before.ticketRows, row.get "id" = .text id ∧ row.IsPending ∧
      row.get "flow_id" = .text flowId)

/-- A query among these has failed the ticket. -/
def FailedIn (events : List Event) (id : String) : Prop :=
  ∃ past event later, events = past ++ event :: later ∧ event.Fails past id

theorem FailedIn.later {events : List Event} {id : String} (failed : FailedIn events id)
    (event : Event) : FailedIn (events ++ [event]) id := by
  obtain ⟨past, other, later, rfl, fails⟩ := failed
  exact ⟨past, other, later ++ [event], by simp, fails⟩

/-- Stored tickets have one of the four statuses, and if one has failed, a query has failed it. -/
def Recorded (scene : Scene) : Prop :=
  ∀ row ∈ scene.tables.ticketRows, ∀ id, row.get "id" = .text id →
    ∃ status : TicketStatus, row.get "status" = .text status.text ∧
      (status = .failed → FailedIn scene.past id)

theorem Recorded.next {scene : Scene} {event : Event} {after : Except Failure (List Row) → Station}
    (recorded : Recorded scene) (grants : Grants scene) (asks : scene.Asks event after) :
    Recorded (scene.next event after) := by
  have old {row : Row} {id : String} (present : row ∈ event.before.ticketRows)
      (isId : row.get "id" = .text id) : ∃ status : TicketStatus,
        row.get "status" = .text status.text ∧
          (status = .failed → FailedIn (scene.past ++ [event]) id) := by
    obtain ⟨status, given, failed⟩ := recorded row (asks.before ▸ present) id isId
    exact ⟨status, given, fun isFailed => (failed isFailed).later event⟩
  intro row present id isId
  cases grants.claimed.filed.files asks with
  | aside same => exact old (same ▸ present) isId
  | entry ticket isNew isInsert unknown stores =>
    change row ∈ event.after.ticketRows at present
    rw [stores] at present
    rcases List.mem_append.mp present with before | new
    · exact old before isId
    · rw [List.mem_singleton.mp new]
      exact ⟨.pending, isNew.isPending, nofun⟩
  | mark filters changes status marks active stores =>
    change row ∈ event.after.ticketRows at present
    rw [stores] at present
    obtain ⟨earlier, before, rfl⟩ := List.mem_map.mp present
    rw [marks.get_id_revise] at isId
    by_cases meant : selects filters earlier = true
    swap
    · rw [Row.revise_of_not meant]
      exact old before isId
    refine ⟨status, marks.status_of_selects meant, fun isFailed => ⟨scene.past, event, [], rfl, ?_⟩⟩
    subst isFailed
    rcases asks.acts.deals.mark_cases marks with
      ⟨other, _⟩ | ⟨ticket, claim, time, error, sweeps, rfl, claimed, finishes, _⟩ |
        ⟨flowId, _, deletes, rfl⟩
    · cases other
    · have named := selects_byId.mp meant
      rw [isId] at named
      obtain ⟨asked, last, isClaim, _⟩ := grants.recalls _ ticket claim claimed
      rw [← Json.text.inj named] at finishes isClaim
      exact .swept asked sweeps ⟨time, error, finishes⟩ last isClaim
    · obtain ⟨belongs, waited⟩ := selects_pendingOf.mp meant
      exact .annulled flowId deletes ⟨earlier, before, isId, waited, belongs⟩

/-- Where no query is answered with nothing in its stead, parked executions have their tickets. -/
structure Provision (scene : Scene) : Prop where
  parking : Parking scene
  recorded : Recorded scene
  provided : (∀ event ∈ scene.past, event.ServedOrRaised) → Provided scene

theorem Recorded.still {scene scene' : Scene} (recorded : Recorded scene)
    (tables : scene'.tables = scene.tables) (past : scene'.past = scene.past) :
    Recorded scene' := by
  rw [Recorded, tables, past]
  exact recorded

/-- Where nothing was asked of the store, the tickets stay unspent. -/
theorem Provided.still {scene scene' : Scene} (provided : Provided scene)
    (tables : scene'.tables = scene.tables)
    (still : ∀ i, (scene.station i).Still (scene'.station i)) : Provided scene' := by
  have unspent {terms : Terms} (unspent : scene.Unspent terms) : scene'.Unspent terms := by
    refine ⟨tables ▸ unspent.stored, fun i ticket spent => ?_⟩
    rw [(still i).claim] at spent
    exact unspent.unused i ticket spent
  constructor
  · intro v stores isParked
    obtain ⟨terms, parked, isUnspent⟩ := provided.parked v (tables ▸ stores) isParked
    exact ⟨terms, parked, unspent isUnspent⟩
  · intro i v ticket walks opened
    rw [(still i).walking] at walks
    rw [(still i).opened] at opened
    obtain ⟨owner, isUnspent⟩ := provided.opened i v ticket walks opened
    exact ⟨owner, unspent isUnspent⟩

theorem Scene.kept_provision : Kept Provision := by
  intro scene scene' step provision
  have parking := kept_parking step provision.parking
  rcases step.still_or_asks with ⟨tables, past, still⟩ | ⟨event, after, asks, rfl⟩
  · refine ⟨parking, provision.recorded.still tables past, fun outright => ?_⟩
    exact (provision.provided (past ▸ outright)).still tables still
  · refine ⟨parking, provision.recorded.next provision.parking.ledger.toGrants asks,
      fun outright => ?_⟩
    have provided := provision.provided fun other present =>
      outright other (List.mem_append_left _ present)
    have now : event.ServedOrRaised := outright event (List.mem_append_right _ (.head _))
    exact ⟨fun w stored => provided.parked_next provision.parking asks stored,
      fun i v ticket => provided.opened_next provision.parking asks now⟩

theorem Provision.start {tables : Tables} {issued : List String}
    (noExecutions : tables.executionRows = []) (noTickets : tables.ticketRows = []) :
    Provision ⟨tables, issued, fun _ => .holding ∅, []⟩ where
  parking := .start noExecutions noTickets
  recorded row present := by
    change row ∈ tables.ticketRows at present
    rw [noTickets] at present
    cases present
  provided _ := by
    constructor
    · intro v stores
      have present := stores.present
      change v.row ∈ tables.executionRows at present
      rw [noExecutions] at present
      cases present
    · intro i v ticket walks
      cases walks

/-- However the requests of all clients are interleaved, and whichever queries raise: a parked
execution has a ticket for its node and its time. The ticket is pending or processing, unless the
sweep that has asked for it has failed it, or the deletion of its flow. -/
theorem parked_has_ticket {tables : Tables} {issued : List String} {events : List Event}
    {now : System} (noExecutions : tables.executionRows = []) (noTickets : tables.ticketRows = [])
    (runs : System.Runs { tables, issued } events now)
    (outright : ∀ event ∈ events, event.ServedOrRaised) {id : String} {v : Execution}
    (stored : now.tables.Holds id (some v)) (isParked : v.isWaitingOnDelay = true) :
    ∃ (terms : Terms) (row : Row) (status : TicketStatus), v.ParkedBy terms ∧
      row ∈ now.tables.ticketRows ∧ row.Bears terms ∧ row.get "status" = .text status.text ∧
      (status = .pending ∨ status = .processing ∨
        (status = .failed ∧ FailedIn events terms.id)) := by
  have first : Provision (System.scene { tables, issued } (fun _ => .holding ∅) []) :=
    .start noExecutions noTickets
  obtain ⟨station, _, provision⟩ :=
    (System.Manned.start tables issued).keeps Scene.kept_provision first runs
  obtain ⟨stores, rfl⟩ := stored.stores
  obtain ⟨terms, parked, unspent⟩ := (provision.provided outright).parked v stores isParked
  obtain ⟨row, present, bears, notCompleted⟩ := unspent.stored
  obtain ⟨status, given, failed⟩ := provision.recorded row present terms.id bears.id
  refine ⟨terms, row, status, parked, present, bears, given, ?_⟩
  cases status with
  | pending => exact .inl rfl
  | processing => exact .inr (.inl rfl)
  | completed => exact absurd given notCompleted
  | failed => exact .inr (.inr ⟨rfl, failed rfl⟩)

/-- Before the sweep begins, the execution is parked and its ticket is stored. -/
theorem parked_has_ticket_before_sweep :
    let now := ((Example.reminding [Example.account]).playAll (Example.hourLater.take 14)).2
    ∃ (terms : Terms) (row : Row), Example.parked.ParkedBy terms ∧
      row ∈ now.tables.ticketRows ∧ row.Bears terms := by
  intro now
  have parked : now.tables.executionRow? "execution" = some Example.parked.row := by decide +kernel
  have served := ((Example.reminding [Example.account]).runs_playAll (Example.hourLater.take 14)).2
  obtain ⟨terms, row, _, isParked, present, bears, _⟩ :=
    parked_has_ticket rfl rfl (Example.runs_reminding [Example.account] _)
      (fun event present => .inl (served event present)) (Example.holds_of_row parked rfl rfl) rfl
  exact ⟨terms, row, isParked, present, bears⟩

/-- It is not so that every parked execution has a ticket that is pending or processing: a sweep
that does not find the account fails the ticket and leaves the execution parked. -/
theorem not_always_pending_or_processing : ¬ ∀ (tables : Tables) (issued : List String)
    (events : List Event) (now : System), tables.executionRows = [] → tables.ticketRows = [] →
    System.Runs { tables, issued } events now → (∀ event ∈ events, event.ServedOrRaised) →
    ∀ (id nodeId : String) (v : Execution), now.tables.Holds id (some v) → v.status = .waiting →
      v.scheduledNodeId = some nodeId → ∃ row ∈ now.tables.ticketRows,
        row.get "execution_id" = .text id ∧ row.get "node_id" = .text nodeId ∧
          (row.get "status" = .text TicketStatus.pending.text ∨
            row.get "status" = .text TicketStatus.processing.text) := by
  intro always
  have served := ((Example.reminding []).runs_playAll Example.hourLater).2
  have parked : ((Example.reminding []).playAll Example.hourLater).2.tables.executionRow?
      "execution" = some Example.parked.row := by decide +kernel
  have failed : ∀ row ∈ ((Example.reminding []).playAll Example.hourLater).2.tables.ticketRows,
      row.get "status" = .text TicketStatus.failed.text := by decide +kernel
  obtain ⟨row, present, _, _, status⟩ := always _ _ _ _ rfl rfl
    (Example.runs_reminding [] Example.hourLater) (fun event present => .inl (served event present))
    "execution" "wait" Example.parked (Example.holds_of_row parked rfl rfl) rfl rfl
  rw [failed row present] at status
  exact absurd status (by decide)

end MessageFlow
