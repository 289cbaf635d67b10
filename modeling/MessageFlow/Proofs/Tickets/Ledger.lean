import MessageFlow.Proofs.Tickets.Grants

/-!
Where the tickets in the hands of a sweep come from: their rows are stored, and the sweep has found
them due.
-/

namespace MessageFlow
open Store

/-- A ticket with these terms is stored. -/
def Tables.Bears (tables : Tables) (terms : Terms) : Prop :=
  ∃ row ∈ tables.ticketRows, row.Bears terms

/-- The client has asked, as a sweep at that time or later, for the tickets that are due. -/
def FoundDue (past : List Event) (client : Nat) (time : Timestamp) : Prop :=
  ∃ event ∈ past, event.client = client ∧ ∃ now limit, event.query = dueQuery now limit ∧
    event.task.SweepsAt now ∧ time.instant ≤ now.instant

/-- The client has looked for the flow in vain. -/
def FoundMissing (past : List Event) (client : Nat) (flowId : String) : Prop :=
  ∃ event ∈ past, event.client = client ∧ event.query = flowQuery flowId ∧ event.answer = .ok []

theorem FoundDue.later {past : List Event} {client : Nat} {time : Timestamp}
    (found : FoundDue past client time) (event : Event) :
    FoundDue (past ++ [event]) client time := by
  obtain ⟨other, present, asked⟩ := found
  exact ⟨other, List.mem_append_left _ present, asked⟩

theorem FoundMissing.later {past : List Event} {client : Nat} {flowId : String}
    (found : FoundMissing past client flowId) (event : Event) :
    FoundMissing (past ++ [event]) client flowId := by
  obtain ⟨other, present, asked⟩ := found
  exact ⟨other, List.mem_append_left _ present, asked⟩

theorem Row.Bears.revise {row : Row} {terms : Terms} {query : Query} {filters : List Filter}
    {changes : Row} {status : TicketStatus} (bears : row.Bears terms)
    (marks : query.Marks filters changes status) : (row.revise filters changes).Bears terms where
  id := (marks.get_revise (by decide)).trans bears.id
  executionId := (marks.get_revise (by decide)).trans bears.executionId
  nodeId := (marks.get_revise (by decide)).trans bears.nodeId
  executeAt := (marks.get_revise (by decide)).trans bears.executeAt

namespace Event.Files

variable {event : Event}

theorem bears {terms : Terms} (files : event.Files) (borne : event.before.Bears terms) :
    event.after.Bears terms := by
  obtain ⟨row, present, bears⟩ := borne
  cases files with
  | aside same => exact ⟨row, same ▸ present, bears⟩
  | entry ticket isNew asks unknown stores =>
    exact ⟨row, stores ▸ List.mem_append_left _ present, bears⟩
  | mark filters changes status marks active stores =>
    exact ⟨_, stores ▸ List.mem_map_of_mem present, bears.revise marks⟩

theorem isFiled (files : event.Files)
    (filed : ∀ row ∈ event.before.ticketRows, ∃ ticket, row.IsFiled ticket) :
    ∀ row ∈ event.after.ticketRows, ∃ ticket, row.IsFiled ticket := by
  intro row present
  cases files with
  | aside same => exact filed row (same ▸ present)
  | entry ticket isNew asks unknown stores =>
    rw [stores] at present
    rcases List.mem_append.mp present with old | new
    · exact filed row old
    · rw [List.mem_singleton.mp new]
      exact ⟨ticket, isNew.isFiled⟩
  | mark filters changes status marks active stores =>
    rw [stores] at present
    obtain ⟨earlier, old, rfl⟩ := List.mem_map.mp present
    obtain ⟨ticket, isFiled⟩ := filed earlier old
    exact ⟨ticket, isFiled.revise marks⟩

end Event.Files

namespace Task.Acts

variable {task : Task} {s : Station} {query : Query} {after : Except Failure (List Row) → Station}
  {answer : Except Failure (List Row)}

theorem listed_cases (acts : task.Acts s (.query query) after) {ticket : Ticket}
    (listed : ticket ∈ (after answer).desk.listed) : ticket ∈ s.desk.listed ∨
      ∃ now limit rows, query = dueQuery now limit ∧ task.SweepsAt now ∧ answer = .ok rows ∧
        ∃ row ∈ rows, Ticket.read (.record row) = .valid ticket := by
  cases acts.deals with
  | quiet _ quiet =>
    rw [(quiet answer).listed] at listed
    exact .inl listed
  | enter v entered asks walks owner drawn first isNew desk =>
    rw [desk] at listed
    exact .inl listed
  | list now limit asks sweeps desk =>
    rw [desk] at listed
    cases answer with
    | error failure => exact .inl listed
    | ok rows =>
      rcases listed with before | read
      · exact .inl before
      · exact .inr ⟨now, limit, rows, asks, sweeps, rfl, read⟩
  | claim asked asks sweeps isListed desk =>
    rw [desk] at listed
    rcases answer with failure | _ | _ <;> exact .inl listed
  | finish asked claim status now error asks sweeps claimed ends desk =>
    rw [desk] at listed
    exact .inl listed
  | annul flowId now asks deletes desk =>
    rw [desk] at listed
    exact .inl listed
  | wake woken elsewhere claimed desk =>
    rw [desk] at listed
    rcases answer with failure | _ | _ <;> exact .inl listed

theorem missing_cases (acts : task.Acts s (.query query) after) {flowId : String}
    (missing : flowId ∈ (after answer).desk.missing) : flowId ∈ s.desk.missing ∨
      (query = flowQuery flowId ∧ answer = .ok []) := by
  cases acts with
  | look sought =>
    rcases answer with failure | _ | _
    · exact .inl missing
    · rcases missing with rfl | before
      · exact .inr ⟨rfl, rfl⟩
      · exact .inl before
    · exact .inl missing
  | aside | seek | select | create | enter | finish | annul | intervene | lose | advance =>
    exact .inl missing
  | list => cases answer <;> exact .inl missing
  | claim => rcases answer with failure | _ | _ <;> exact .inl missing
  | wake => rcases answer with failure | _ | _ <;> exact .inl missing

end Task.Acts

/-- Rows that are answered to a query were found by it. -/
theorem Query.Handles.mem_run {query : Query} {before after : Tables}
    {answer : Except Failure (List Row)} {rows : List Row} {row : Row}
    (handles : query.Handles before after answer) (answered : answer = .ok rows)
    (present : row ∈ rows) : row ∈ (query.run before).1 := by
  obtain ⟨first, rest, rfl⟩ := List.exists_cons_of_ne_nil (List.ne_nil_of_mem present)
  rw [(handles.served_of_rows answered).1]
  exact present

/-- A row that is due is that of a pending ticket whose time has come. -/
theorem Row.Bears.due {row : Row} {terms : Terms} {now : Timestamp} (bears : row.Bears terms)
    (meant : selects [pending, .notAfter "execute_at" now] row = true) :
    row.IsPending ∧ terms.executeAt.instant ≤ now.instant := by
  have both : row.IsPending ∧ (row.get "execute_at").instant?.any (· ≤ now.instant) = true := by
    simpa [selects, Filter.holds, pending, Json.same_text, Row.IsPending] using meant
  refine ⟨both.1, ?_⟩
  have time := both.2
  rw [bears.executeAt, Json.instant?, Timestamp.read?_text] at time
  simpa using time

/-- Stored tickets are in the form in which the program writes them. The tickets that sweeps have in
hand are stored, and were found due; the flows that clients miss were not found. -/
structure Ledger (scene : Scene) : Prop extends Grants scene where
  filed : ∀ row ∈ scene.tables.ticketRows, ∃ ticket, row.IsFiled ticket
  listed : ∀ i, ∀ ticket ∈ (scene.station i).desk.listed,
    scene.tables.Bears ticket.terms ∧ FoundDue scene.past i ticket.executeAt
  inHand : ∀ i ticket claim, (scene.station i).desk.claim = some (ticket, claim) →
    scene.tables.Bears ticket.terms ∧ FoundDue scene.past i ticket.executeAt
  missing : ∀ i, ∀ flowId ∈ (scene.station i).desk.missing, FoundMissing scene.past i flowId

namespace Ledger

variable {scene : Scene} {event : Event} {after : Except Failure (List Row) → Station}

theorem start {tables : Tables} {issued : List String} (none : tables.ticketRows = []) :
    Ledger ⟨tables, issued, fun _ => .holding ∅, []⟩ where
  toGrants := by
    refine .start ?_ ?_
    · rw [Tables.UniqueTickets, none]
      exact List.nodup_nil
    · rw [none]
      exact fun row present => absurd present List.not_mem_nil
  filed := by
    change ∀ row ∈ tables.ticketRows, _
    rw [none]
    exact fun row present => absurd present List.not_mem_nil
  listed _ _ listed := absurd listed (Set.notMem_empty _)
  inHand _ _ _ claimed := by cases claimed
  missing _ _ missing := absurd missing (Set.notMem_empty _)

/-- What a sweep lists is stored and due. -/
theorem of_read (ledger : Ledger scene) (asks : scene.Asks event after) {now : Timestamp}
    {limit : Int} {rows : List Row} {row : Row} {ticket : Ticket}
    (lists : event.query = dueQuery now limit) (answered : event.answer = .ok rows)
    (present : row ∈ rows) (reads : Ticket.read (.record row) = .valid ticket) :
    scene.tables.Bears ticket.terms ∧ ticket.executeAt.instant ≤ now.instant := by
  have found := asks.handles.mem_run answered present
  rw [lists, asks.before] at found
  obtain ⟨stored, meant⟩ := Query.selected_of_mem_select found
  obtain ⟨filed, isFiled⟩ := ledger.filed row stored
  have bears : row.Bears ticket.terms := isFiled.terms_of_read reads ▸ isFiled.bears
  exact ⟨⟨row, stored, bears⟩, (bears.due meant).2⟩

/-- Where nothing was asked of the store, the tickets in hand stay. -/
theorem still {scene' : Scene} (ledger : Ledger scene) (grants : Grants scene')
    (tables : scene'.tables = scene.tables) (past : scene'.past = scene.past)
    (still : ∀ i, (scene.station i).Still (scene'.station i)) : Ledger scene' where
  toGrants := grants
  filed := tables ▸ ledger.filed
  listed i ticket listed := by
    rw [(still i).listed] at listed
    rw [tables, past]
    exact ledger.listed i ticket listed
  inHand i ticket claim claimed := by
    rw [(still i).claim] at claimed
    rw [tables, past]
    exact ledger.inHand i ticket claim claimed
  missing i flowId missing := by
    rw [(still i).missing] at missing
    rw [past]
    exact ledger.missing i flowId missing

theorem next (ledger : Ledger scene) (asks : scene.Asks event after)
    (grants : Grants (scene.next event after)) : Ledger (scene.next event after) := by
  have files := ledger.claimed.filed.files asks
  have goesOn {i : Nat} {ticket : Ticket} (vouched : scene.tables.Bears ticket.terms ∧
      FoundDue scene.past i ticket.executeAt) : event.after.Bears ticket.terms ∧
        FoundDue (scene.past ++ [event]) i ticket.executeAt :=
    ⟨files.bears (asks.before ▸ vouched.1), vouched.2.later event⟩
  refine ⟨grants, files.isFiled (asks.before ▸ ledger.filed), ?_, ?_, ?_⟩
  · intro i ticket listed
    rw [Scene.station_next] at listed
    split at listed
    · next mine =>
      subst mine
      rcases asks.acts.listed_cases listed with
        before | ⟨now, limit, rows, lists, sweeps, answered, row, present, reads⟩
      · exact goesOn (ledger.listed _ ticket before)
      · obtain ⟨borne, due⟩ := ledger.of_read asks lists answered present reads
        refine ⟨files.bears (asks.before ▸ borne), event, ?_, rfl, now, limit, lists, sweeps, due⟩
        exact List.mem_append_right _ (.head _)
    · exact goesOn (ledger.listed i ticket listed)
  · intro i ticket claim claimed
    rw [Scene.station_next] at claimed
    split at claimed
    · next mine =>
      subst mine
      rcases asks.acts.deals.claim_cases claimed with
        ⟨_, same | ⟨_, granted, _⟩⟩ | ⟨_, _, _, listed⟩
      · exact goesOn (ledger.inHand _ ticket claim same)
      · exact goesOn (ledger.inHand _ ticket .granted granted)
      · exact goesOn (ledger.listed _ ticket listed)
    · exact goesOn (ledger.inHand i ticket claim claimed)
  · intro i flowId missing
    rw [Scene.station_next] at missing
    split at missing
    · next mine =>
      subst mine
      rcases asks.acts.missing_cases missing with before | ⟨looks, none⟩
      · exact (ledger.missing _ flowId before).later event
      · exact ⟨event, List.mem_append_right _ (.head _), rfl, looks, none⟩
    · exact (ledger.missing i flowId missing).later event

end Ledger

theorem Scene.kept_ledger : Kept Ledger := by
  intro scene scene' step ledger
  have grants := kept_grants step ledger.toGrants
  rcases step.still_or_asks with ⟨tables, past, still⟩ | ⟨event, after, asks, rfl⟩
  · exact ledger.still grants tables past still
  · exact ledger.next asks grants

end MessageFlow
