import MessageFlow.Proofs.Tickets.Grants

/-!
The life of a ticket: pending, processing, and completed or failed at the end. It holds in every run
unless a sweep marks a ticket after its claim was not answered.
-/

namespace MessageFlow
open Store

namespace Event

/-- The moves of a ticket in its life. -/
inductive Moves (event : Event) (past : List Event) (id : String) (row row' : Row) : Prop
  | claimed (sweeps : event.task.isSweep = true) (asks : event.query = claimQuery id)
    (waited : row.IsPending) (becomes : row'.get "status" = .text TicketStatus.processing.text)
  | finished (claim : Event) (status : TicketStatus) (sweeps : event.task.isSweep = true)
    (asks : ∃ time error, event.query = finishQuery id status time error)
    (last : lastClaim? event.client past = some claim) (granted : claim.Claims id)
    (final : status = .completed ∨ status = .failed)
    (worked : row.get "status" = .text TicketStatus.processing.text)
    (becomes : row'.get "status" = .text status.text)
  | annulled (flowId : String) (deletes : event.task = .deleteFlow flowId)
    (belongs : row.get "flow_id" = .text flowId) (waited : row.IsPending)
    (becomes : row'.get "status" = .text TicketStatus.failed.text)

/-- A sweep marks the ticket though its claim of it was not answered. -/
structure Spoils (event : Event) (past : List Event) (id : String) : Prop where
  sweeps : event.task.isSweep = true
  finishes : ∃ status time error, event.query = finishQuery id status time error
  unanswered : ∃ claim, lastClaim? event.client past = some claim ∧ claim.query = claimQuery id ∧
    ∃ failure, claim.answer = .error failure
  changes : ∃ row row', event.before.ticketRow? id = some row ∧
    event.after.ticketRow? id = some row' ∧ row' ≠ row

/-- A query keeps the ticket to its life: a new ticket is pending, and no ticket is removed or
changed by any other move. -/
def KeepsLife (event : Event) (past : List Event) (id : String) : Prop :=
  match event.before.ticketRow? id, event.after.ticketRow? id with
  | none, none => True
  | none, some row => row.IsPending
  | some _, none => False
  | some row, some row' => row' = row ∨ event.Moves past id row row'

end Event

/-- All queries keep the ticket to its life. -/
def LifeCycle (id : String) (events : List Event) : Prop :=
  ∀ past event later, events = past ++ event :: later → event.KeepsLife past id

/-- What keeps to the life of a ticket does not spoil it. -/
theorem Event.KeepsLife.not_spoils {event : Event} {past : List Event} {id : String}
    (keeps : event.KeepsLife past id) : ¬ event.Spoils past id := by
  rintro ⟨sweeps, ⟨status, time, error, asks⟩, ⟨claim, last, _, failure, failed⟩,
    row, row', before, after, changed⟩
  rw [KeepsLife, before, after] at keeps
  rcases keeps with same | moves
  · exact changed same
  · cases moves with
    | claimed _ claims =>
      rw [asks] at claims
      injection claims with _ filters
      injection filters with _ none
      cases none
    | finished other _ _ _ isLast granted =>
      rw [last] at isLast
      cases isLast
      obtain ⟨_, _, answered⟩ := granted.succeeds
      rw [failed] at answered
      cases answered
    | annulled flowId deletes =>
      rw [deletes] at sweeps
      cases sweeps

/-- Nothing has spoiled the ticket. -/
def Unspoiled (id : String) (events : List Event) : Prop :=
  ∀ past event later, events = past ++ event :: later → ¬ event.Spoils past id

theorem Unspoiled.of_concat {id : String} {events : List Event} {event : Event}
    (unspoiled : Unspoiled id (events ++ [event])) :
    Unspoiled id events ∧ ¬ event.Spoils events id := by
  constructor
  · rintro past other later rfl
    exact unspoiled past other (later ++ [event]) (by simp)
  · exact unspoiled events event [] rfl

/-- Where every claim of the ticket is answered, nothing spoils it. -/
theorem Unspoiled.of_answered {id : String} {events : List Event}
    (answered : ∀ event ∈ events, event.query = claimQuery id → ∃ rows, event.answer = .ok rows) :
    Unspoiled id events := by
  rintro past event later rfl ⟨_, _, ⟨claim, last, asks, failure, failed⟩, _⟩
  obtain ⟨rows, served⟩ :=
    answered claim (List.mem_append_left _ (mem_of_lastClaim? last).1) asks
  rw [failed] at served
  cases served

/-- A granted claim finds its ticket in processing. -/
theorem Event.Claims.processing {event : Event} {id : String} (claims : event.Claims id)
    (handles : event.query.Handles event.before event.after event.answer)
    (unique : event.before.UniqueTickets) : ∃ row, event.after.ticketRow? id = some row ∧
      row.get "status" = .text TicketStatus.processing.text := by
  obtain ⟨⟨earlier, present, meant⟩, stored⟩ := claims.finds handles
  have marks := claimQuery_marks id
  have before : event.before.ticketRow? id = some earlier :=
    rowOf?_eq_some unique present (selects_claim.mp meant).1
  have after : rowOf? (event.before.ticketRows.map (·.revise [byId id, pending]
      [("status", .text TicketStatus.processing.text)])) id = _ :=
    rowOf?_map (fun row _ => marks.get_id_revise) id
  rw [← stored] at after
  exact ⟨_, after.trans (congrArg _ before), marks.status_of_selects meant⟩

/-- A sweep that works on the ticket finds it in processing, so long as nothing has spoiled it. -/
structure InLife (id : String) (scene : Scene) : Prop extends Grants scene where
  working : Unspoiled id scene.past → ∀ i ticket claim,
    (scene.station i).desk.claim = some (ticket, claim) → claim.IsGranted → ticket.id = id →
    ∃ row, scene.tables.ticketRow? id = some row ∧
      row.get "status" = .text TicketStatus.processing.text

theorem Tables.eq_of_ticketRow? {tables : Tables} {id ticketId : String} {row : Row}
    (stored : tables.ticketRow? id = some row) (isId : row.get "id" = .text ticketId) :
    ticketId = id := by
  rw [(mem_of_rowOf? stored).2] at isId
  exact (Json.text.inj isId).symm

namespace Event.KeepsLife

variable {event : Event} {past : List Event} {id : String}

theorem of_same (same : event.after.ticketRow? id = event.before.ticketRow? id) :
    event.KeepsLife past id := by
  rw [KeepsLife, same]
  cases event.before.ticketRow? id with
  | none => trivial
  | some row => exact .inl rfl

theorem of_mark {filters : List Filter} {changes : Row} {status : TicketStatus}
    (marks : event.query.Marks filters changes status)
    (handles : event.query.Handles event.before event.after event.answer)
    (moves : ∀ row, event.before.ticketRow? id = some row → selects filters row = true →
      event.after.ticketRow? id = some (row.revise filters changes) →
      row.revise filters changes ≠ row → event.Moves past id row (row.revise filters changes)) :
    event.KeepsLife past id := by
  rcases marks.ticketRow? handles id with same | mapped
  · exact .of_same same
  · cases before : event.before.ticketRow? id with
    | none =>
      rw [before] at mapped
      rw [KeepsLife, before, mapped]
      trivial
    | some row =>
      rw [before] at mapped
      rw [KeepsLife, before, mapped]
      by_cases same : row.revise filters changes = row
      · exact .inl same
      · by_cases meant : selects filters row = true
        · exact .inr (moves row before meant mapped same)
        · exact absurd (Row.revise_of_not meant) same

end Event.KeepsLife

namespace InLife

variable {scene : Scene} {event : Event} {after : Except Failure (List Row) → Station} {id : String}

/-- A sweep finishes a ticket in processing, or spoils it. -/
theorem keepsLife_of_finish (life : InLife id scene) (asks : scene.Asks event after)
    (unspoiled : Unspoiled id scene.past) (fine : ¬ event.Spoils scene.past id) {ticket : Ticket}
    {claim : Claim} {status : TicketStatus} {now : Timestamp} {error : Option String}
    (isFinish : event.query = finishQuery ticket.id status now error)
    (sweeps : event.task.isSweep = true)
    (claimed : (scene.station event.client).desk.claim = some (ticket, claim))
    (final : status = .completed ∨ status = .failed) : event.KeepsLife scene.past id := by
  have marks := finishQuery_marks ticket.id status now error
  refine .of_mark (isFinish ▸ marks) asks.handles fun row stored meant later changed => ?_
  have isTicket := Tables.eq_of_ticketRow? stored (selects_byId.mp meant)
  rw [isTicket] at isFinish
  by_cases granted : claim.IsGranted
  · obtain ⟨granting, last, claims⟩ := life.recalls.claims claimed granted
    obtain ⟨worked, isStored, processing⟩ :=
      life.working unspoiled event.client ticket claim claimed granted isTicket
    rw [← asks.before, stored] at isStored
    cases isStored
    exact .finished granting status sweeps ⟨now, error, isFinish⟩ last (isTicket ▸ claims) final
      processing (marks.status_of_selects meant)
  · -- The claim was not answered, and the mark spoils the ticket.
    obtain ⟨asked, last, isClaim, follows⟩ := life.recalls event.client ticket claim claimed
    have failed : ∃ failure, asked.answer = .error failure := by
      cases claim with
      | granted => exact absurd trivial granted
      | spent => exact absurd trivial granted
      | unanswered => exact follows
    exact absurd ⟨sweeps, ⟨status, now, error, isFinish⟩,
      ⟨asked, last, isTicket ▸ isClaim, failed⟩, row, _, stored, later, changed⟩ fine

/-- Of a ticket that nothing has spoiled, every query but one that spoils it keeps to its life. -/
theorem keepsLife (life : InLife id scene) (asks : scene.Asks event after)
    (unspoiled : Unspoiled id scene.past) (fine : ¬ event.Spoils scene.past id) :
    event.KeepsLife scene.past id := by
  have elsewhere (other : event.query.table ≠ .tickets) : event.KeepsLife scene.past id := by
    refine .of_same ?_
    rw [Tables.ticketRow?, Tables.ticketRows, asks.handles.rows_of_ne other]
    rfl
  cases asks.acts.deals with
  | quiet other => exact elsewhere other
  | wake ticket other => exact elsewhere other
  | list now limit isSelect =>
    refine .of_same ?_
    rcases asks.handles.after_cases with same | stored
    · rw [same]
    · rw [stored, isSelect]
      rfl
  | enter v ticket isInsert =>
    rcases (life.claimed.filed.files asks).ticketRow? id with
      same | ⟨entered, isNew, _, before, after⟩ | ⟨_, _, _, marks, _⟩
    · exact .of_same same
    · rw [Event.KeepsLife, before, after]
      exact isNew.isPending
    · cases isInsert.symm.trans marks.asks
  | claim ticket isClaim sweeps =>
    have marks : event.query.Marks _ _ _ := isClaim ▸ claimQuery_marks ticket.id
    refine .of_mark marks asks.handles fun row stored meant _ _ => ?_
    obtain ⟨isId, waited⟩ := selects_claim.mp meant
    rw [Tables.eq_of_ticketRow? stored isId] at isClaim
    exact .claimed sweeps isClaim waited ((claimQuery_marks _).status_of_selects meant)
  | finish ticket claim status now error isFinish sweeps claimed ends =>
    exact life.keepsLife_of_finish asks unspoiled fine isFinish sweeps claimed
      (ends.symm.imp_left And.left)
  | annul flowId now isAnnulment deletes =>
    have marks := failPendingQuery_marks flowId now Run.flowDeleted
    refine .of_mark (isAnnulment ▸ marks) asks.handles fun row stored meant _ _ => ?_
    obtain ⟨belongs, waited⟩ := selects_pendingOf.mp meant
    exact .annulled flowId deletes belongs waited (marks.status_of_selects meant)

/-- A ticket that is worked on stays in processing until its client has finished it. -/
theorem stays (life : InLife id scene) (asks : scene.Asks event after)
    (unspoiled : Unspoiled id scene.past) (fine : ¬ event.Spoils scene.past id) {j : Nat}
    {ticket : Ticket} {claim : Claim}
    (claimed : (scene.station j).desk.claim = some (ticket, claim)) (granted : claim.IsGranted)
    (isTicket : ticket.id = id)
    (unfinished : event.client = j → ∀ {status now error},
      event.query ≠ finishQuery ticket.id status now error) :
    ∃ row, event.after.ticketRow? id = some row ∧
      row.get "status" = .text TicketStatus.processing.text := by
  obtain ⟨row, stored, processing⟩ := life.working unspoiled j ticket claim claimed granted isTicket
  have notPending : ¬ row.IsPending := Row.not_isPending_of_status processing (by decide)
  have keeps := life.keepsLife asks unspoiled fine
  rw [← asks.before] at stored
  rw [Event.KeepsLife, stored] at keeps
  cases later : event.after.ticketRow? id with
  | none =>
    rw [later] at keeps
    exact keeps.elim
  | some row' =>
    rw [later] at keeps
    rcases keeps with rfl | moves
    · exact ⟨_, rfl, processing⟩
    · cases moves with
      | claimed _ _ waited => exact absurd waited notPending
      | annulled _ _ _ waited => exact absurd waited notPending
      | finished asked status sweeps finishes last grantedThere =>
        obtain ⟨mine, isLast, grantedHere⟩ := life.recalls.claims claimed granted
        have same : event.client = j :=
          life.claimed.alone last grantedThere isLast (isTicket ▸ grantedHere)
        obtain ⟨now, error, finishes⟩ := finishes
        exact absurd (isTicket.symm ▸ finishes) (unfinished same)

theorem start {tables : Tables} {issued : List String} (unique : tables.UniqueTickets)
    (known : ∀ row ∈ tables.ticketRows, ∀ id, row.get "id" = .text id → id ∈ issued) :
    InLife id ⟨tables, issued, fun _ => .holding ∅, []⟩ where
  toGrants := .start unique known
  working _ i ticket claim claimed := by cases claimed

end InLife

theorem Scene.kept_inLife (id : String) : Kept (InLife id) := by
  intro scene scene' step life
  refine ⟨kept_grants step life.toGrants, ?_⟩
  rcases step.still_or_asks with ⟨tables, past, still⟩ | ⟨event, after, asks, rfl⟩
  · intro unspoiled j ticket claim held
    rw [past] at unspoiled
    rw [(still j).claim] at held
    rw [tables]
    exact life.working unspoiled j ticket claim held
  · intro unspoiled j ticket claim held granted isTicket
    obtain ⟨unspoiledBefore, fine⟩ := unspoiled.of_concat
    rw [station_next] at held
    split at held
    · next mine =>
      subst mine
      have deals := asks.acts.deals
      have unfinished {status : TicketStatus} {now : Timestamp} {error : Option String} :
          event.query ≠ finishQuery ticket.id status now error := by
        intro finishes
        rw [deals.unclaimed_of_finish finishes] at held
        cases held
      rcases deals.claim_cases held with ⟨_, same | ⟨rfl, first, _⟩⟩ | ⟨isClaim, follows, _⟩
      · exact life.stays asks unspoiledBefore fine same granted isTicket fun _ => unfinished
      · exact life.stays asks unspoiledBefore fine first trivial isTicket fun _ => unfinished
      · subst isTicket
        refine Event.Claims.processing ⟨isClaim, ?_⟩ asks.handles (asks.before ▸ life.unique)
        cases claim with
        | granted => exact follows
        | spent => exact follows
        | unanswered => exact granted.elim
    · next other =>
      refine life.stays asks unspoiledBefore fine held granted isTicket fun same => ?_
      exact absurd same.symm other

/-- In every run, with any queries failing, a ticket goes from pending to processing by a granted
claim, from there to completed or failed by the sweep with that claim, or from pending to failed by
the deletion of its flow, and is never changed otherwise, exactly if no sweep marks it after a claim
that was not answered. -/
theorem ticket_life_cycle_iff {tables : Tables} {issued : List String} {events : List Event}
    {now : System} (unique : tables.UniqueTickets)
    (known : ∀ row ∈ tables.ticketRows, ∀ id, row.get "id" = .text id → id ∈ issued)
    (runs : System.Runs { tables, issued } events now) (id : String) :
    LifeCycle id events ↔ Unspoiled id events := by
  constructor
  · intro keeps past event later split
    exact (keeps past event later split).not_spoils
  · rintro unspoiled past event later rfl
    obtain ⟨scene, after, life, rfl, asks⟩ := runs.asks (System.Manned.start tables issued)
      (Scene.kept_inLife id) (.start unique known)
    refine life.keepsLife asks ?_ (unspoiled _ event later rfl)
    rintro past other rest same
    refine unspoiled past other (rest ++ event :: later) ?_
    rw [same, List.append_assoc]
    rfl

namespace Example

theorem dueTables_unique : dueTables.UniqueTickets := List.nodup_singleton _

/-- One sweep claims the ticket and finds no execution; the other one comes too late. -/
def twoSweeps : List Move := turns [0, 0, 1, 1, 0, 1, 0, 0, 0]

end Example

theorem ticket_life_cycle_iff_two_sweeps :
    LifeCycle "ticket" (Example.sweeps.playAll Example.twoSweeps).1 ∧
      ((Example.sweeps.playAll Example.twoSweeps).2.tables.ticketRow? "ticket").map
        (fun row => row.get "status") = some (.text TicketStatus.failed.text) := by
  refine ⟨(ticket_life_cycle_iff Example.dueTables_unique Example.sweeps_known
    (Example.runs_sweeps _) "ticket").mpr (.of_answered fun event present _ => ?_), ?_⟩
  · exact ⟨_, ((Example.sweeps.runs_playAll _).2 event present).answers⟩
  · decide +kernel

namespace Example

/-- Both sweeps have listed the ticket, and the second has claimed it. -/
def claimedByOther : List Event × System := sweeps.playAll (turns [0, 0, 1, 1, 1])

/-- Then the claim of the first is not answered. -/
def claimUnanswered : Option Event × System := claimedByOther.2.refuse 0

/-- The first goes on. -/
def wentOn : List Event × System := claimUnanswered.2.playAll (turns [0, 0])

def unansweredClaim : List Event := claimedByOther.1 ++ claimUnanswered.1.toList

theorem runs_wentOn : System.Runs { tables := dueTables, issued := ["ticket"] }
    (unansweredClaim ++ wentOn.1) wentOn.2 :=
  ((runs_sweeps _).trans (claimedByOther.2.runs_refuse 0)).trans
    (claimUnanswered.2.runs_playAll _).1

/-- The first sweep fails the ticket on which the second works. -/
theorem wentOn_spoils : ∃ event, wentOn.1 = [event] ∧ event.Spoils unansweredClaim "ticket" := by
  have single : wentOn.1.length = 1 := by decide +kernel
  obtain ⟨event, isLast⟩ := List.length_eq_one_iff.mp single
  have marks : ∀ event ∈ wentOn.1, event.client = 0 ∧ event.task.isSweep = true ∧
      event.query = finishQuery "ticket" .failed default (some "database unavailable") ∧
      ((event.before.ticketRow? "ticket").map fun row => row.get "status") =
        some (.text TicketStatus.processing.text) ∧
      ((event.after.ticketRow? "ticket").map fun row => row.get "status") =
        some (.text TicketStatus.failed.text) := by
    decide +kernel
  have claims : ∃ claim, lastClaim? 0 unansweredClaim = some claim ∧
      claim.query = claimQuery "ticket" ∧ ∃ failure, claim.answer = .error failure := by
    have asked : (lastClaim? 0 unansweredClaim).map
        (fun claim => (claim.query, claim.answer.isOk)) =
          some (claimQuery "ticket", false) := by decide +kernel
    obtain ⟨claim, last, isClaim⟩ := Option.map_eq_some_iff.mp asked
    obtain ⟨asks, unanswered⟩ := Prod.mk.inj isClaim
    refine ⟨claim, last, asks, ?_⟩
    cases answer : claim.answer with
    | error failure => exact ⟨failure, rfl⟩
    | ok rows =>
      rw [answer] at unanswered
      cases unanswered
  obtain ⟨mine, sweeps, finishes, before, after⟩ := marks event (isLast ▸ .head _)
  obtain ⟨row, isRow, worked⟩ := Option.map_eq_some_iff.mp before
  obtain ⟨row', isRow', failed⟩ := Option.map_eq_some_iff.mp after
  refine ⟨event, isLast, sweeps, ⟨_, _, _, finishes⟩, mine ▸ claims, row, row', isRow, isRow', ?_⟩
  intro same
  rw [same, worked] at failed
  exact absurd failed (by decide)

end Example

/-- It is not so that every ticket keeps to its life in every run. -/
theorem not_always_life_cycle : ¬ ∀ (tables : Tables) (issued : List String) (events : List Event)
    (now : System), tables.UniqueTickets →
    (∀ row ∈ tables.ticketRows, ∀ id, row.get "id" = .text id → id ∈ issued) →
    System.Runs { tables, issued } events now → ∀ id, LifeCycle id events := by
  intro always
  obtain ⟨event, isLast, spoils⟩ := Example.wentOn_spoils
  refine (always _ _ _ _ Example.dueTables_unique Example.sweeps_known Example.runs_wentOn "ticket"
    Example.unansweredClaim event [] ?_).not_spoils spoils
  rw [isLast]

end MessageFlow
