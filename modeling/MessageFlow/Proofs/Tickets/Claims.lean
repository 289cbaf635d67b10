import MessageFlow.Proofs.Interleaving.Scene
import MessageFlow.Proofs.Interleaving.Versions
import MessageFlow.Proofs.Tickets.Rows

/-!
A ticket is claimed at most once, whatever is interleaved and whichever queries fail.
-/

namespace MessageFlow
open Store

/-- Nothing was gained on the tickets. -/
structure Desk.Quiet (desk desk' : Desk) : Prop where
  listed : desk'.listed = desk.listed
  claim : desk'.claim = desk.claim
  drawn : desk'.drawn = none ∨ desk'.drawn = desk.drawn
  opened : desk'.opened = none ∨ desk'.opened = desk.opened

/-- What a query has to do with tickets. -/
inductive Task.Deals (task : Task) (s : Station) (query : Query)
    (after : Except Failure (List Row) → Station) : Prop
  | quiet (elsewhere : query.table ≠ .tickets)
    (quiet : ∀ answer, s.desk.Quiet (after answer).desk)
  | enter (v : Execution) (ticket : Ticket) (asks : query = .insert .tickets ticket.row)
    (walks : s.walking = some v) (owner : ticket.executionId = v.id)
    (drawn : s.desk.drawn = some ticket.id) (first : s.desk.opened = none) (isNew : ticket.IsNew)
    (desk : ∀ answer, after answer = s.withDesk (s.desk.afterOpening ticket answer))
  | list (now : Timestamp) (limit : Int) (asks : query = dueQuery now limit)
    (sweeps : task.SweepsAt now)
    (desk : ∀ answer, after answer = s.withDesk (s.desk.afterListing answer))
  | claim (ticket : Ticket) (asks : query = claimQuery ticket.id) (sweeps : task.isSweep = true)
    (listed : ticket ∈ s.desk.listed)
    (desk : ∀ answer, after answer = s.withDesk (s.desk.afterClaim ticket answer))
  | finish (ticket : Ticket) (claim : Claim) (status : TicketStatus) (now : Timestamp)
    (error : Option String) (asks : query = finishQuery ticket.id status now error)
    (sweeps : task.isSweep = true) (claimed : s.desk.claim = some (ticket, claim))
    (ends : status = .failed ∨ (status = .completed ∧ claim = .spent))
    (desk : ∀ answer, after answer = s.withDesk s.desk.close)
  | annul (flowId : String) (now : Timestamp)
    (asks : query = failPendingQuery flowId now Run.flowDeleted)
    (deletes : task = .deleteFlow flowId) (desk : ∀ answer, after answer = s)
  | wake (ticket : Ticket) (elsewhere : query.table ≠ .tickets)
    (claimed : s.desk.claim = some (ticket, .granted))
    (desk : ∀ answer, (after answer).desk = s.desk.afterWake ticket answer) (v : Execution)
    (now : Timestamp) (asks : query = saveQuery (Sweep.wake v ticket now)) (held : v ∈ s.held)
    (owner : ticket.executionId = v.id) (parked : Sweep.isParkedOn v ticket = true)

theorem Desk.quiet_refl (desk : Desk) : desk.Quiet desk := ⟨rfl, rfl, .inr rfl, .inr rfl⟩

theorem Desk.quiet_leave (desk : Desk) : desk.Quiet desk.leave := ⟨rfl, rfl, .inl rfl, .inl rfl⟩

theorem Desk.quiet_afterLook (desk : Desk) (flowId : String) (answer : Except Failure (List Row)) :
    desk.Quiet (desk.afterLook flowId answer) := by
  unfold afterLook
  split
  · exact ⟨rfl, rfl, .inr rfl, .inr rfl⟩
  · exact desk.quiet_refl

theorem Task.Acts.deals {task : Task} {s : Station} {query : Query}
    {after : Except Failure (List Row) → Station} (acts : task.Acts s (.query query) after) :
    task.Deals s query after := by
  cases acts with
  | aside _ apart => exact .quiet apart.2 fun _ => s.desk.quiet_refl
  | seek => exact .quiet nofun fun _ => s.desk.quiet_refl
  | look flowId => exact .quiet nofun fun answer => s.desk.quiet_afterLook flowId answer
  | select => exact .quiet nofun fun _ => s.desk.quiet_refl
  | create => exact .quiet nofun fun _ => s.desk.quiet_leave
  | enter v ticket walks owner drawn first isNew =>
    exact .enter v ticket rfl walks owner drawn first isNew fun _ => rfl
  | list now limit sweeps => exact .list now limit rfl sweeps fun _ => rfl
  | claim ticket sweeps listed => exact .claim ticket rfl sweeps listed fun _ => rfl
  | finish ticket claim status now error sweeps claimed ends =>
    exact .finish ticket claim status now error rfl sweeps claimed ends fun _ => rfl
  | annul flowId now deletes => exact .annul flowId now rfl deletes fun _ => rfl
  | intervene => exact .quiet nofun fun _ => s.desk.quiet_leave
  | wake v ticket now idle held sweeps claimed owner parked =>
    exact .wake ticket nofun claimed (fun _ => rfl) v now rfl held owner parked
  | lose => exact .quiet nofun fun _ => s.desk.quiet_leave
  | advance => exact .quiet nofun fun _ => s.desk.quiet_leave

namespace Task.Deals

variable {task : Task} {s : Station} {query : Query} {after : Except Failure (List Row) → Station}

/-- A ticket is under way since before, or it is a new one. -/
theorem opened_cases (deals : task.Deals s query after) (answer : Except Failure (List Row)) :
    (after answer).desk.opened = none ∨ (after answer).desk.opened = s.desk.opened ∨
      ∃ row, query = .insert .tickets row := by
  cases deals with
  | quiet _ quiet => exact (quiet answer).opened.imp_right .inl
  | enter v ticket asks walks owner named first isNew desk =>
    exact .inr (.inr ⟨ticket.row, asks⟩)
  | list now limit asks sweeps desk =>
    rw [desk]
    exact .inr (.inl (by cases answer <;> rfl))
  | claim ticket asks sweeps listed desk =>
    rw [desk]
    exact .inr (.inl (by rcases answer with failure | _ | _ <;> rfl))
  | finish ticket claim status now error asks sweeps claimed ends desk =>
    rw [desk]
    exact .inr (.inl rfl)
  | annul flowId now asks deletes desk =>
    rw [desk]
    exact .inr (.inl rfl)
  | wake ticket elsewhere claimed desk =>
    rw [desk]
    exact .inl (by rcases answer with failure | _ | _ <;> rfl)

/-- No query draws an id. -/
theorem drawn (deals : task.Deals s query after) {answer : Except Failure (List Row)} {id : String}
    (drawn : (after answer).desk.drawn = some id) : s.desk.drawn = some id := by
  cases deals with
  | quiet _ quiet =>
    rcases (quiet answer).drawn with none | same
    · rw [none] at drawn
      cases drawn
    · exact same.symm.trans drawn
  | enter v ticket asks walks owner named first isNew desk =>
    rw [desk] at drawn
    cases drawn
  | list now limit asks sweeps desk =>
    rw [desk] at drawn
    cases answer <;> exact drawn
  | claim ticket asks sweeps listed desk =>
    rw [desk] at drawn
    rcases answer with failure | _ | _ <;> exact drawn
  | finish ticket claim status now error asks sweeps claimed ends desk =>
    rw [desk] at drawn
    exact drawn
  | annul flowId now asks deletes desk =>
    rw [desk] at drawn
    exact drawn
  | wake ticket elsewhere claimed desk =>
    rw [desk] at drawn
    rcases answer with failure | _ | _ <;> cases drawn

/-- A new ticket is for the execution under traversal, and is the first that is opened for it. -/
theorem enters (deals : task.Deals s query after) {row : Row}
    (isInsert : query = .insert .tickets row) :
    ∃ (v : Execution) (ticket : Ticket), row = ticket.row ∧ ticket.IsNew ∧ s.walking = some v ∧
      ticket.executionId = v.id ∧ s.desk.drawn = some ticket.id ∧ s.desk.opened = none ∧
      ∀ answer, after answer = s.withDesk (s.desk.afterOpening ticket answer) := by
  have elsewhere {P : Prop} (other : query.table ≠ .tickets) : P := by
    rw [isInsert] at other
    exact absurd rfl other
  cases deals with
  | enter v ticket asks walks owner drawn first isNew desk =>
    rw [isInsert] at asks
    injection asks with _ same
    exact ⟨v, ticket, same, isNew, walks, owner, drawn, first, desk⟩
  | quiet other => exact elsewhere other
  | wake _ other => exact elsewhere other
  | list now limit asks => exact absurd (isInsert.symm.trans asks) nofun
  | claim ticket asks => exact absurd (isInsert.symm.trans asks) nofun
  | finish ticket claim status now error asks => exact absurd (isInsert.symm.trans asks) nofun
  | annul flowId now asks => exact absurd (isInsert.symm.trans asks) nofun

end Task.Deals

/-- The ids of stored tickets were given out, and a drawn id belongs to one client and no row. -/
structure Filed (scene : Scene) : Prop where
  issued : ∀ row ∈ scene.tables.ticketRows, ∀ id, row.get "id" = .text id → id ∈ scene.issued
  drawn : ∀ i id, (scene.station i).desk.drawn = some id → id ∈ scene.issued ∧
    (∀ row ∈ scene.tables.ticketRows, row.get "id" ≠ .text id) ∧
    ∀ j, (scene.station j).desk.drawn = some id → j = i

namespace Filed

variable {scene : Scene} {event : Event} {after : Except Failure (List Row) → Station}

/-- What a query of a client does to the stored tickets. -/
theorem files (filed : Filed scene) (asks : scene.Asks event after) : event.Files := by
  have marks {filters : List Filter} {changes : Row} {status : TicketStatus}
      (marks : event.query.Marks filters changes status) (active : status ≠ .pending) :
      event.Files := by
    rcases asks.handles.after_cases with same | stored
    · exact .aside (by rw [same])
    · exact .mark filters changes status marks active (by rw [stored, marks.ticketRows_run])
  cases asks.acts.deals with
  | quiet elsewhere => exact .aside (asks.handles.rows_of_ne elsewhere)
  | wake ticket elsewhere => exact .aside (asks.handles.rows_of_ne elsewhere)
  | enter v ticket isInsert walks owner drawn first isNew =>
    have unknown := (filed.drawn event.client ticket.id drawn).2.1
    rw [← asks.before] at unknown
    rcases asks.handles.after_cases with same | stored
    · exact .aside (by rw [same])
    · refine .entry ticket isNew isInsert unknown ?_
      rw [stored, isInsert]
      exact (Query.run_insert isNew.get_id).2
  | list now limit isSelect =>
    refine .aside ?_
    rcases asks.handles.after_cases with same | stored
    · rw [same]
    · rw [stored, isSelect]
      rfl
  | claim ticket isClaim => exact marks (isClaim ▸ claimQuery_marks ticket.id) (by decide)
  | finish ticket claim status now error isFinish sweeps claimed ends =>
    have active : status ≠ .pending := by
      rcases ends with rfl | ⟨rfl, _⟩
      · decide
      · decide
    exact marks (isFinish ▸ finishQuery_marks ticket.id status now error) active
  | annul flowId now isAnnulment =>
    exact marks (isAnnulment ▸ failPendingQuery_marks flowId now Run.flowDeleted) (by decide)

end Filed

namespace Scene

/-- A ticket is stored under the id that its client has drawn. -/
theorem Asks.drawn {scene : Scene} {event : Event} {after : Except Failure (List Row) → Station}
    (asks : scene.Asks event after) {ticket : Ticket} (isNew : ticket.IsNew)
    (isInsert : event.query = .insert .tickets ticket.row) :
    (scene.station event.client).desk.drawn = some ticket.id ∧
      (after event.answer).desk.drawn = none := by
  obtain ⟨v, entered, same, enteredNew, _, _, drawn, _, desk⟩ := asks.acts.deals.enters isInsert
  have named : Json.text ticket.id = .text entered.id := by
    rw [← isNew.get_id, ← enteredNew.get_id, same]
  rw [Json.text.inj named, desk]
  exact ⟨drawn, rfl⟩

end Scene

namespace Filed

variable {scene : Scene} {i : Nat}

/-- A task begins without an id. -/
theorem begin (filed : Filed scene) (task : Task) : Filed (scene.move i task.outset) := by
  have others : ∀ j id, ((scene.move i task.outset).station j).desk.drawn = some id →
      (scene.station j).desk.drawn = some id := by
    intro j id drawn
    rw [Scene.station_move] at drawn
    split at drawn
    · cases drawn
    · exact drawn
  refine ⟨filed.issued, fun j id drawn => ?_⟩
  obtain ⟨issued, unknown, alone⟩ := filed.drawn j id (others j id drawn)
  exact ⟨issued, unknown, fun k also => alone k (others k id also)⟩

/-- A fresh id is drawn by one client and belongs to no row. -/
theorem freshId (filed : Filed scene) {task : Task} {id : String} {after : String → Station}
    (acts : task.Acts (scene.station i) .freshId after) (unissued : id ∉ scene.issued) :
    Filed { scene.move i (after id) with issued := id :: scene.issued } := by
  have others : ∀ j other, ((scene.move i (after id)).station j).desk.drawn = some other →
      (scene.station j).desk.drawn = some other ∨ (j = i ∧ other = id) := by
    intro j other drawn
    rw [Scene.station_move] at drawn
    split at drawn
    · next mine =>
      subst mine
      cases acts with
      | aside _ apart => exact apart.elim
      | reserve idle => exact .inl drawn
      | draw =>
        cases drawn
        exact .inr ⟨rfl, rfl⟩
    · exact .inl drawn
  constructor
  · intro row present other named
    exact .tail id (filed.issued row present other named)
  · intro j other drawn
    rcases others j other drawn with before | ⟨rfl, rfl⟩
    · obtain ⟨issued, unknown, alone⟩ := filed.drawn j other before
      refine ⟨.tail id issued, unknown, fun k also => ?_⟩
      rcases others k other also with beforeToo | ⟨_, rfl⟩
      · exact alone k beforeToo
      · exact absurd issued unissued
    · refine ⟨.head _, fun row present named => ?_, fun k also => ?_⟩
      · exact unissued (filed.issued row present _ named)
      · rcases others k _ also with before | ⟨same, _⟩
        · exact absurd (filed.drawn k _ before).1 unissued
        · exact same

theorem next {event : Event} {after : Except Failure (List Row) → Station} (filed : Filed scene)
    (asks : scene.Asks event after) : Filed (scene.next event after) := by
  have files := filed.files asks
  have others : ∀ j id, ((scene.next event after).station j).desk.drawn = some id →
      (scene.station j).desk.drawn = some id := by
    intro j id drawn
    rw [Scene.station_next] at drawn
    split at drawn
    · next mine =>
      rw [mine]
      exact asks.acts.deals.drawn drawn
    · exact drawn
  constructor
  · intro row present id named
    rcases files.ids present with ⟨earlier, old, same⟩ | ⟨ticket, isNew, isInsert, rfl⟩
    · rw [asks.before] at old
      exact filed.issued earlier old id (same.trans named)
    · rw [isNew.get_id] at named
      rw [← Json.text.inj named]
      exact (filed.drawn _ _ (asks.drawn isNew isInsert).1).1
  · intro j id drawn
    obtain ⟨issued, unknown, alone⟩ := filed.drawn j id (others j id drawn)
    refine ⟨issued, fun row present named => ?_, fun k also => alone k (others k id also)⟩
    rcases files.ids present with ⟨earlier, old, same⟩ | ⟨ticket, isNew, isInsert, rfl⟩
    · rw [asks.before] at old
      exact unknown earlier old (same.trans named)
    · -- The id that was used is drawn no more, so nobody holds it.
      obtain ⟨used, given⟩ := asks.drawn isNew isInsert
      rw [isNew.get_id] at named
      rw [Json.text.inj named] at used
      have mine := alone event.client used
      rw [← mine, Scene.station_next, if_pos rfl, given] at drawn
      cases drawn

end Filed

theorem Scene.kept_filed : Kept Filed := by
  intro scene scene' step filed
  cases step with
  | begin i task => exact filed.begin task
  | freshId i task id after acts unissued => exact filed.freshId acts unissued
  | query event after asks => exact filed.next asks

namespace Event

/-- A claim of the ticket that was granted. -/
structure Claims (event : Event) (id : String) : Prop where
  asks : event.query = claimQuery id
  succeeds : event.Succeeds

end Event

/-- The ticket is stored and is pending no more. -/
structure Tables.Taken (tables : Tables) (id : String) : Prop where
  stored : ∃ row ∈ tables.ticketRows, row.get "id" = .text id
  marked : ∀ row ∈ tables.ticketRows, row.get "id" = .text id → ¬ row.IsPending

namespace Event

variable {event : Event} {id : String}

/-- No mark makes a ticket pending again. -/
theorem Files.isPending (files : event.Files) {row : Row} (present : row ∈ event.after.ticketRows)
    (isPending : row.IsPending) : row ∈ event.before.ticketRows ∨
      ∀ earlier ∈ event.before.ticketRows, earlier.get "id" ≠ row.get "id" := by
  cases files with
  | aside same => exact .inl (same ▸ present)
  | entry ticket isNew asks unknown stores =>
    rw [stores] at present
    rcases List.mem_append.mp present with old | new
    · exact .inl old
    · rw [List.mem_singleton.mp new, isNew.get_id]
      exact .inr unknown
  | mark filters changes status marks active stores =>
    rw [stores] at present
    obtain ⟨earlier, old, rfl⟩ := List.mem_map.mp present
    by_cases meant : selects filters earlier = true
    · exact absurd isPending (Row.not_isPending_of_status (marks.status_of_selects meant) active)
    · rw [Row.revise_of_not meant]
      exact .inl old

theorem Files.taken (files : event.Files) (taken : event.before.Taken id) :
    event.after.Taken id := by
  obtain ⟨row, present, named⟩ := taken.stored
  constructor
  · obtain ⟨later, stored, same⟩ := files.stays present
    exact ⟨later, stored, same.trans named⟩
  · intro later stored alsoNamed isPending
    rcases files.isPending stored isPending with old | new
    · exact taken.marked later old alsoNamed isPending
    · exact new row present (named.trans alsoNamed.symm)

/-- A granted claim finds a pending ticket, and marks it. -/
theorem Claims.finds (claims : event.Claims id)
    (handles : event.query.Handles event.before event.after event.answer) :
    (∃ row ∈ event.before.ticketRows, selects [byId id, pending] row = true) ∧
      event.after.ticketRows = event.before.ticketRows.map
        (·.revise [byId id, pending] [("status", .text TicketStatus.processing.text)]) := by
  obtain ⟨asks, row, rows, answered⟩ := claims
  obtain ⟨found, stored⟩ := handles.served_of_rows answered
  have marks : event.query.Marks _ _ _ := asks ▸ claimQuery_marks id
  rw [marks.run_fst] at found
  have isFound : row ∈ (event.before.ticketRows.filter (selects [byId id, pending])).map
      (Entries.update · [("status", .text TicketStatus.processing.text)]) := by
    rw [found]
    exact .head rows
  obtain ⟨earlier, isEarlier, _⟩ := List.mem_map.mp isFound
  refine ⟨⟨earlier, List.mem_filter.mp isEarlier⟩, ?_⟩
  rw [stored]
  exact marks.ticketRows_run event.before

/-- A granted claim takes a pending ticket. -/
theorem Claims.takes (claims : event.Claims id)
    (handles : event.query.Handles event.before event.after event.answer) :
    ¬ event.before.Taken id ∧ event.after.Taken id := by
  obtain ⟨⟨earlier, present, meant⟩, after⟩ := claims.finds handles
  have marks := claimQuery_marks id
  obtain ⟨named, isPending⟩ := selects_claim.mp meant
  refine ⟨fun taken => taken.marked earlier present named isPending, ?_, ?_⟩
  · exact ⟨_, after ▸ List.mem_map_of_mem present, marks.get_id_revise.trans named⟩
  · intro later isLater laterNamed stillPending
    rw [after] at isLater
    obtain ⟨other, otherPresent, rfl⟩ := List.mem_map.mp isLater
    rw [marks.get_id_revise] at laterNamed
    by_cases otherMeant : selects [byId id, pending] other = true
    · have given := marks.status_of_selects otherMeant
      exact Row.not_isPending_of_status given (by decide) stillPending
    · rw [Row.revise_of_not otherMeant] at stillPending
      exact otherMeant (selects_claim.mpr ⟨laterNamed, stillPending⟩)

end Event

/-- Every ticket that was claimed is taken, and was claimed once. -/
structure ClaimedOnce (scene : Scene) : Prop where
  filed : Filed scene
  taken : ∀ event ∈ scene.past, ∀ id, event.Claims id → scene.tables.Taken id
  once : ∀ id, scene.past.Pairwise fun a b => ¬ (a.Claims id ∧ b.Claims id)

theorem Scene.kept_claimedOnce : Kept ClaimedOnce := by
  intro scene scene' step claimed
  have filed := kept_filed step claimed.filed
  cases step with
  | begin => exact ⟨filed, claimed.taken, claimed.once⟩
  | freshId => exact ⟨filed, claimed.taken, claimed.once⟩
  | query event after asks =>
    have files := claimed.filed.files asks
    refine ⟨filed, ?_, ?_⟩
    · intro earlier present id claims
      rcases List.mem_append.mp present with old | new
      · have taken := claimed.taken earlier old id claims
        rw [← asks.before] at taken
        exact files.taken taken
      · obtain rfl := List.mem_singleton.mp new
        exact (claims.takes asks.handles).2
    · intro id
      refine List.pairwise_append.mpr ⟨claimed.once id, List.pairwise_singleton _ _, ?_⟩
      rintro earlier old later new ⟨first, second⟩
      obtain rfl := List.mem_singleton.mp new
      have taken := claimed.taken earlier old id first
      rw [← asks.before] at taken
      exact (second.takes asks.handles).1 taken

theorem ClaimedOnce.start {tables : Tables} {issued : List String}
    (known : ∀ row ∈ tables.ticketRows, ∀ id, row.get "id" = .text id → id ∈ issued) :
    ClaimedOnce ⟨tables, issued, fun _ => .holding ∅, []⟩ where
  filed := ⟨known, fun i id drawn => by cases drawn⟩
  taken event none := absurd none List.not_mem_nil
  once _ := .nil

/-- However the requests of all clients are interleaved, and whichever queries fail: at most one
claim of a ticket is granted, and only a granted claim is followed by work on the ticket; no ticket
that is pending no more becomes pending again. -/
theorem ticket_claimed_once {tables : Tables} {issued : List String} {events : List Event}
    {now : System} (known : ∀ row ∈ tables.ticketRows, ∀ id, row.get "id" = .text id → id ∈ issued)
    (runs : System.Runs { tables, issued } events now) (id : String) :
    (events.Pairwise fun a b => ¬ (a.Claims id ∧ b.Claims id)) ∧
      (∀ event ∈ events, ∀ row row', event.before.ticketRow? id = some row →
        event.after.ticketRow? id = some row' → row'.IsPending → row.IsPending) ∧
      ∀ (deployment : Deployment) (attempts : Nat) (ticket : Ticket),
        (Sweep.claimAndResume deployment attempts ticket).run =
          .ask none (.query (claimQuery ticket.id)) fun
            | .ok (_ :: _) => (Sweep.resume deployment attempts ticket).run
            | .ok [] => .done (.ok false)
            | .error failure => .done (.error failure) := by
  have manned := System.Manned.start tables issued
  obtain ⟨station, _, claimed⟩ := manned.keeps Scene.kept_claimedOnce (.start known) runs
  refine ⟨claimed.once id, ?_, ?_⟩
  · intro event present row row' before after isPending
    obtain ⟨earlier, later, rfl⟩ := List.append_of_mem present
    obtain ⟨scene, next, claimed, _, asks⟩ :=
      runs.asks manned Scene.kept_claimedOnce (.start known)
    have becomes := (claimed.filed.files asks).ticketRow? id
    rw [before, after] at becomes
    rcases becomes with same | ⟨_, _, _, none, _⟩ | ⟨filters, changes, status, marks, active, same⟩
    · exact Option.some.inj same ▸ isPending
    · cases none
    · obtain rfl := Option.some.inj same
      by_cases meant : selects filters row = true
      · exact absurd isPending
          (Row.not_isPending_of_status (marks.status_of_selects meant) active)
      · change (row.revise filters changes).IsPending at isPending
        rwa [Row.revise_of_not meant] at isPending
  · intro deployment attempts ticket
    refine congrArg (Program.ask none (.query (claimQuery ticket.id))) (funext fun answer => ?_)
    rcases answer with failure | _ | _
    · rfl
    · rfl
    · rfl

namespace Example

/-- A pending ticket whose time has come, for an execution that is gone. -/
def dueTicket : Row :=
  [("id", .text "ticket"), ("execution_id", .text "execution"), ("flow_id", .text "flow"),
    ("node_id", .text "wait"), ("account_id", .text "account"), ("sender_id", .text "sender"),
    ("execute_at", .text "1970-01-01T00:00:00Z"), ("status", .text "pending")]

def dueTables : Tables := { tickets := ⟨[dueTicket], 0⟩ }

def sweepTasks : List Task :=
  [.sweep Sweep.defaultAttempts none, .sweep Sweep.defaultAttempts none]

/-- Two sweeps over one due ticket. -/
def sweeps : System where
  tables := dueTables
  issued := ["ticket"]
  clients := sweepTasks.map (.begin deployment)

theorem sweeps_known : ∀ row ∈ dueTables.ticketRows, ∀ id, row.get "id" = .text id →
    id ∈ ["ticket"] := by
  intro row present id named
  rw [List.mem_singleton.mp present] at named
  exact List.mem_singleton.mpr (Json.text.inj named).symm

theorem runs_sweeps (moves : List Move) : System.Runs { tables := dueTables, issued := ["ticket"] }
    (sweeps.playAll moves).1 (sweeps.playAll moves).2 :=
  have free : ∀ task ∈ sweepTasks, task.given = none := by decide
  (System.runs_begin _ deployment free).trans (sweeps.runs_playAll moves).1

end Example

/-- Both sweeps list the ticket before either of them claims it. -/
theorem ticket_claimed_once_two_sweeps :
    let events := (Example.sweeps.playAll (Example.turns [0, 0, 1, 1, 0, 1])).1
    (events.filter fun event => event.query = claimQuery "ticket").length = 2 ∧
      events.Pairwise fun a b => ¬ (a.Claims "ticket" ∧ b.Claims "ticket") :=
  ⟨by decide +kernel,
    (ticket_claimed_once Example.sweeps_known (Example.runs_sweeps _) "ticket").1⟩

end MessageFlow
