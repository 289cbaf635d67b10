import Mathlib.Data.List.Pairwise
import MessageFlow.Proofs.Tickets.Claims

/-!
The claims that clients have in hand, and the queries by which they were asked for.
-/

namespace MessageFlow
open Store

/-- The ticket that a query asks to claim. -/
def Query.claimed? (query : Query) : Option String :=
  match query with
  | .update .tickets [.equals _ (.text id), _] _ => if query = claimQuery id then some id else none
  | _ => none

theorem Query.claimed?_claimQuery (id : String) : (claimQuery id).claimed? = some id :=
  if_pos rfl

theorem Query.eq_of_claimed? {query : Query} {id : String} (claimed : query.claimed? = some id) :
    query = claimQuery id := by
  unfold claimed? at claimed
  split at claimed
  · split at claimed
    · next same =>
      cases claimed
      exact same
    · cases claimed
  · cases claimed

/-- The last claim that a client has asked for. -/
def lastClaim? (client : Nat) (events : List Event) : Option Event :=
  (events.filter fun event => event.client = client && event.query.claimed?.isSome).getLast?

theorem lastClaim?_concat (client : Nat) (events : List Event) (event : Event) :
    lastClaim? client (events ++ [event]) =
      if event.client = client ∧ event.query.claimed?.isSome then some event
      else lastClaim? client events := by
  simp only [lastClaim?, List.filter_append, List.filter_cons, List.filter_nil, Bool.and_eq_true,
    decide_eq_true_eq]
  split
  · exact List.getLast?_concat
  · rw [List.append_nil]

theorem mem_of_lastClaim? {client : Nat} {events : List Event} {event : Event}
    (last : lastClaim? client events = some event) : event ∈ events ∧ event.client = client := by
  have kept := List.mem_filter.mp (List.mem_of_getLast? last)
  exact ⟨kept.1, by simpa using (Bool.and_eq_true_iff.mp kept.2).1⟩

namespace Claim

/-- The claim was granted. -/
def IsGranted : Claim → Prop
  | .granted | .spent => True
  | .unanswered => False

/-- How the claim was answered. -/
def Follows : Claim → Except Failure (List Row) → Prop
  | .granted, answer | .spent, answer => ∃ row rows, answer = .ok (row :: rows)
  | .unanswered, answer => ∃ failure, answer = .error failure

end Claim

/-- The write that wakes an execution by the ticket has found it. -/
structure Station.Wakes (s : Station) (query : Query) (answer : Except Failure (List Row))
    (ticket : Ticket) (v : Execution) : Prop where
  asks : ∃ now, query = saveQuery (Sweep.wake v ticket now)
  held : v ∈ s.held
  owner : ticket.executionId = v.id
  parked : Sweep.isParkedOn v ticket = true
  succeeds : ∃ row rows, answer = .ok (row :: rows)

/-- Where a claim in hand comes from: it was in hand before, and may have been spent meanwhile, or
it was asked for just now. -/
theorem Task.Deals.claim_cases {task : Task} {s : Station} {query : Query}
    {after : Except Failure (List Row) → Station} (deals : task.Deals s query after)
    {answer : Except Failure (List Row)} {ticket : Ticket} {claim : Claim}
    (claimed : (after answer).desk.claim = some (ticket, claim)) :
    ((∀ id, query ≠ claimQuery id) ∧ (s.desk.claim = some (ticket, claim) ∨
      (claim = .spent ∧ s.desk.claim = some (ticket, .granted) ∧
        ∃ v, s.Wakes query answer ticket v))) ∨
      (query = claimQuery ticket.id ∧ claim.Follows answer ∧ claim ≠ .spent ∧
        ticket ∈ s.desk.listed) := by
  have elsewhere (other : query.table ≠ .tickets) (id : String) : query ≠ claimQuery id := by
    intro same
    rw [same] at other
    exact other rfl
  cases deals with
  | quiet other quiet =>
    rw [(quiet answer).claim] at claimed
    exact .inl ⟨elsewhere other, .inl claimed⟩
  | enter v entered asks walks owner drawn first isNew desk =>
    rw [desk] at claimed
    exact .inl ⟨fun id same => absurd (asks.symm.trans same) nofun, .inl claimed⟩
  | list now limit asks sweeps desk =>
    rw [desk] at claimed
    refine .inl ⟨fun id same => absurd (asks.symm.trans same) nofun, .inl ?_⟩
    cases answer <;> exact claimed
  | claim asked asks sweeps listed desk =>
    rw [desk] at claimed
    rcases answer with failure | _ | ⟨row, rows⟩
    · cases claimed
      exact .inr ⟨asks, ⟨failure, rfl⟩, nofun, listed⟩
    · cases claimed
    · cases claimed
      exact .inr ⟨asks, ⟨row, rows, rfl⟩, nofun, listed⟩
  | finish asked held status now error asks sweeps given ends desk =>
    rw [desk] at claimed
    cases claimed
  | annul flowId now asks deletes desk =>
    rw [desk] at claimed
    refine .inl ⟨fun id same => ?_, .inl claimed⟩
    injection asks.symm.trans same with _ filters
    injection filters with first
    injection first with column
    exact absurd column (by decide)
  | wake woken other given desk v now asks held owner parked =>
    rw [desk] at claimed
    rcases answer with failure | _ | ⟨row, rows⟩
    · exact .inl ⟨elsewhere other, .inl claimed⟩
    · exact .inl ⟨elsewhere other, .inl claimed⟩
    · cases claimed
      have wakes : s.Wakes query (.ok (row :: rows)) ticket v :=
        ⟨⟨now, asks⟩, held, owner, parked, row, rows, rfl⟩
      exact .inl ⟨elsewhere other, .inr ⟨rfl, given, v, wakes⟩⟩

namespace Task.Deals

variable {task : Task} {s : Station} {query : Query} {after : Except Failure (List Row) → Station}
  {status : TicketStatus}

/-- A mark is a claim, the end of the ticket that a sweep has in hand, or part of a deletion. -/
theorem mark_cases (deals : task.Deals s query after) {filters : List Filter} {changes : Row}
    (marks : query.Marks filters changes status) :
    (status = .processing ∧ ∃ ticket : Ticket, filters = [byId ticket.id, pending]) ∨
      (∃ ticket claim time error, task.isSweep = true ∧ filters = [byId ticket.id] ∧
        s.desk.claim = some (ticket, claim) ∧ query = finishQuery ticket.id status time error ∧
        (status = .failed ∨ (status = .completed ∧ claim = .spent)) ∧
        ∀ answer, (after answer).desk.claim = none) ∨
      ∃ flowId, status = .failed ∧ task = .deleteFlow flowId ∧
        filters = [.equals "flow_id" (.text flowId), pending] := by
  have elsewhere {P : Prop} (other : query.table ≠ .tickets) : P := by
    rw [marks.asks] at other
    exact absurd rfl other
  cases deals with
  | quiet other => exact elsewhere other
  | wake _ other => exact elsewhere other
  | enter v ticket isInsert => exact absurd (isInsert.symm.trans marks.asks) nofun
  | list now limit lists => exact absurd (lists.symm.trans marks.asks) nofun
  | claim ticket isClaim =>
    obtain ⟨same, processing⟩ := marks.unique_mark (isClaim ▸ claimQuery_marks ticket.id)
    exact .inl ⟨processing, ticket, same⟩
  | finish ticket claim given now error finishes sweeps claimed ends desk =>
    obtain ⟨same, rfl⟩ := marks.unique_mark (finishes ▸ finishQuery_marks ticket.id given now error)
    refine .inr (.inl ⟨ticket, claim, now, error, sweeps, same, claimed, finishes, ends, ?_⟩)
    exact fun answer => congrArg (·.desk.claim) (desk answer)
  | annul flowId now annuls deletes =>
    obtain ⟨same, failed⟩ :=
      marks.unique_mark (annuls ▸ failPendingQuery_marks flowId now Run.flowDeleted)
    exact .inr (.inr ⟨flowId, failed, deletes, same⟩)

/-- A ticket is put out of hand when it is finished. -/
theorem unclaimed_of_finish (deals : task.Deals s query after) {id : String} {now : Timestamp}
    {error : Option String} (finishes : query = finishQuery id status now error)
    {answer : Except Failure (List Row)} : (after answer).desk.claim = none := by
  rcases deals.mark_cases (finishes ▸ finishQuery_marks id status now error) with
    ⟨_, ticket, claims⟩ | ⟨_, _, _, _, _, _, _, _, _, closed⟩ | ⟨flowId, _, _, annuls⟩
  · cases (List.cons.inj claims).2
  · exact closed answer
  · cases (List.cons.inj annuls).2

end Task.Deals

/-- The claim in hand is the last one that was asked for. -/
def Recalls (scene : Scene) : Prop :=
  ∀ i ticket claim, (scene.station i).desk.claim = some (ticket, claim) →
    ∃ event, lastClaim? i scene.past = some event ∧ event.query = claimQuery ticket.id ∧
      claim.Follows event.answer

namespace Scene

variable {scene : Scene} {event : Event} {after : Except Failure (List Row) → Station}

theorem kept_recalls : Kept Recalls := by
  intro scene scene' step recalls
  rcases step.still_or_asks with ⟨_, past, still⟩ | ⟨event, after, asks, rfl⟩
  · intro j ticket claim claimed
    rw [(still j).claim] at claimed
    rw [past]
    exact recalls j ticket claim claimed
  · intro j ticket claim claimed
    change ∃ other, lastClaim? j (scene.past ++ [event]) = some other ∧ _
    rw [lastClaim?_concat]
    rw [station_next] at claimed
    split at claimed
    · next mine =>
      subst mine
      rcases asks.acts.deals.claim_cases claimed with ⟨other, before⟩ | ⟨isClaim, follows, _⟩
      · have unclaimed : ¬ (event.client = event.client ∧ event.query.claimed?.isSome) := by
          rintro ⟨_, isSome⟩
          obtain ⟨id, claimed⟩ := Option.isSome_iff_exists.mp isSome
          exact other id (Query.eq_of_claimed? claimed)
        rw [if_neg unclaimed]
        rcases before with same | ⟨rfl, granted, _⟩
        · exact recalls _ ticket claim same
        · exact recalls _ ticket .granted granted
      · refine ⟨event, if_pos ⟨rfl, ?_⟩, isClaim, follows⟩
        rw [isClaim, Query.claimed?_claimQuery]
        rfl
    · next other =>
      rw [if_neg fun mine => other mine.1.symm]
      exact recalls j ticket claim claimed

end Scene

/-- No ticket has been granted to two clients. -/
theorem ClaimedOnce.alone {scene : Scene} (claimed : ClaimedOnce scene) {i j : Nat} {a b : Event}
    {id : String} (mine : lastClaim? i scene.past = some a) (granted : a.Claims id)
    (theirs : lastClaim? j scene.past = some b) (alsoGranted : b.Claims id) : i = j := by
  obtain ⟨present, rfl⟩ := mem_of_lastClaim? mine
  obtain ⟨alsoPresent, rfl⟩ := mem_of_lastClaim? theirs
  have : Std.Symm fun a b : Event => ¬ (a.Claims id ∧ b.Claims id) :=
    ⟨fun _ _ never both => never both.symm⟩
  by_cases same : a = b
  · rw [same]
  · exact absurd ⟨granted, alsoGranted⟩ ((claimed.once id).forall present alsoPresent same)

theorem Recalls.claims {scene : Scene} (recalls : Recalls scene) {i : Nat} {ticket : Ticket}
    {claim : Claim} (claimed : (scene.station i).desk.claim = some (ticket, claim))
    (granted : claim.IsGranted) :
    ∃ event, lastClaim? i scene.past = some event ∧ event.Claims ticket.id := by
  obtain ⟨event, last, asks, follows⟩ := recalls i ticket claim claimed
  cases claim with
  | granted => exact ⟨event, last, asks, follows⟩
  | spent => exact ⟨event, last, asks, follows⟩
  | unanswered => exact granted.elim

/-- The claims in hand are on record, and no ticket was granted twice. -/
structure Grants (scene : Scene) : Prop where
  claimed : ClaimedOnce scene
  recalls : Recalls scene
  unique : scene.tables.UniqueTickets

namespace Grants

variable {scene : Scene} {i j : Nat} {ticket other : Ticket} {claim claim' : Claim}

theorem start {tables : Tables} {issued : List String} (unique : tables.UniqueTickets)
    (known : ∀ row ∈ tables.ticketRows, ∀ id, row.get "id" = .text id → id ∈ issued) :
    Grants ⟨tables, issued, fun _ => .holding ∅, []⟩ where
  claimed := .start known
  recalls i ticket claim claimed := by cases claimed
  unique := unique

/-- A granted ticket is pending no more. -/
theorem taken (grants : Grants scene)
    (claimed : (scene.station i).desk.claim = some (ticket, claim)) (granted : claim.IsGranted) :
    scene.tables.Taken ticket.id := by
  obtain ⟨event, last, claims⟩ := grants.recalls.claims claimed granted
  exact grants.claimed.taken event (mem_of_lastClaim? last).1 ticket.id claims

theorem alone (grants : Grants scene) (mine : (scene.station i).desk.claim = some (ticket, claim))
    (granted : claim.IsGranted) (theirs : (scene.station j).desk.claim = some (other, claim'))
    (alsoGranted : claim'.IsGranted) (same : ticket.id = other.id) : i = j := by
  obtain ⟨a, last, claims⟩ := grants.recalls.claims mine granted
  obtain ⟨b, alsoLast, alsoClaims⟩ := grants.recalls.claims theirs alsoGranted
  exact grants.claimed.alone last (same ▸ claims) alsoLast alsoClaims

end Grants

theorem Scene.kept_grants : Kept Grants := by
  intro scene scene' step grants
  refine ⟨kept_claimedOnce step grants.claimed, kept_recalls step grants.recalls, ?_⟩
  rcases step.still_or_asks with ⟨tables, _⟩ | ⟨event, after, asks, rfl⟩
  · rw [tables]
    exact grants.unique
  · exact (grants.claimed.filed.files asks).unique (asks.before ▸ grants.unique)

end MessageFlow
