import Mathlib.Data.Set.Insert
import MessageFlow.Proofs.Apart
import MessageFlow.Proofs.Discipline
import MessageFlow.Proofs.Interleaving.Task

/-!
Where a client stands between two requests, what it has in hand of the executions and the tickets,
and what it may ask with them.
-/

namespace MessageFlow

structure Standing where
  /-- The copies of stored executions in the client's hands. -/
  held : Set Execution
  /-- The id for the next new execution. -/
  reserved : Option String
  /-- The execution under traversal, as it was stored last. -/
  walking : Option Execution
  walkingHeld : ∀ v, walking = some v → v ∈ held

namespace Standing

/-- The execution that requests are asked for. -/
def traversed (s : Standing) : Option String := s.walking.map (·.id)

def holding (held : Set Execution) : Standing where
  held := held
  reserved := none
  walking := none
  walkingHeld _ walks := nomatch walks

def rest (s : Standing) : Standing := holding s.held

def walk (s : Standing) (v : Execution) : Standing where
  held := insert v s.held
  reserved := none
  walking := some v
  walkingHeld w walks := by
    cases walks
    exact Set.mem_insert v s.held

def reserve (s : Standing) (id : String) : Standing := { s with reserved := some id }

/-- Takes copies of the rows that can be read. -/
def see (s : Standing) (rows : List Row) : Standing where
  held := s.held ∪ { v | ∃ row ∈ rows, Execution.read (.record row) = .valid v }
  reserved := s.reserved
  walking := s.walking
  walkingHeld v walks := .inl (s.walkingHeld v walks)

def afterSelect (s : Standing) : Except Failure (List Row) → Standing
  | .ok rows => s.see rows
  | .error _ => s

/-- A flow that cannot be loaded ends the traversal. -/
def afterSeek (s : Standing) : Except Failure (List Row) → Standing
  | .ok [] => s
  | .ok (row :: _) => if (Flow.read (.record row)).toOption.isSome then s else s.rest
  | .error _ => s.rest

def afterCreation (s : Standing) (e : Execution) : Except Failure (List Row) → Standing
  | .ok _ => s.walk e
  | .error _ => s.rest

/-- A write that succeeds is followed by the traversal if `goesOn`. -/
def afterSave (s : Standing) (e : Execution) (goesOn : Bool) : Except Failure (List Row) → Standing
  | .ok (_ :: _) => if goesOn then s.walk e.saved else s.rest
  | _ => s.rest

end Standing

/-- Leaves the stored executions as they are. -/
def Request.SparesExecutions : Request → Prop
  | .query q => q.table ≠ .executions
  | _ => True

/-- What a client with that task may ask next. -/
inductive Task.Permits (task : Task) (s : Standing) :
    (request : Request) → (request.Answer → Standing) → Prop
  | aside (request : Request) (spares : request.SparesExecutions) :
    Permits task s request fun _ => s
  | seek (filters : List Filter) (order : Option SortOrder) (limit : Option Int) :
    Permits task s (.query (.select .flows filters order limit)) s.afterSeek
  | select (filters : List Filter) (order : Option SortOrder) (limit : Option Int) :
    Permits task s (.query (.select .executions filters order limit)) s.afterSelect
  | reserve (idle : s.walking = none) : Permits task s .freshId s.reserve
  | create (e : Execution) (idle : s.walking = none) (reserved : s.reserved = some e.id)
    (isNew : e.IsNew) : Permits task s (.query (.insert .executions e.row)) (s.afterCreation e)
  | intervene (v e : Execution) (idle : s.walking = none) (held : v ∈ s.held)
    (change : task.Intervenes v e) :
    Permits task s (.query (Store.saveQuery e))
      (s.afterSave e (v.status == .waiting && e.status == .active))
  | advance (v e : Execution) (walks : s.walking = some v) (change : v.Advance e) :
    Permits task s (.query (Store.saveQuery e)) (s.afterSave e (e.status == .active))

/-- Every request is permitted, and is asked for the traversal under way. -/
def Task.discipline (task : Task) : Discipline Standing := fun s traversed request after =>
  traversed = s.traversed ∧ task.Permits s request after

namespace Standing

variable {s : Standing} {v : Execution}

theorem traversed_of_idle (idle : s.walking = none) : s.traversed = none := by
  rw [traversed, idle]
  rfl

theorem traversed_of_walking (walks : s.walking = some v) : s.traversed = some v.id := by
  rw [traversed, walks]
  rfl

theorem afterSeek_cases (s : Standing) (answer : Except Failure (List Row)) :
    s.afterSeek answer = s ∨ s.afterSeek answer = s.rest := by
  unfold afterSeek
  split
  · exact .inl rfl
  · split
    · exact .inl rfl
    · exact .inr rfl
  · exact .inr rfl

end Standing

/-!
What a client has in hand of the tickets, and what it may ask with them and with the executions it
holds.
-/

/-- As a delay stores it. -/
structure Ticket.IsNew (ticket : Ticket) : Prop where
  status : ticket.status = .pending
  extras : ticket.extras = []

/-- What became of the claim that a sweep has asked for. -/
inductive Claim where
  /-- It was granted, and the execution is not woken yet. -/
  | granted
  /-- It was granted, and the execution was woken. -/
  | spent
  /-- The answer was a failure. -/
  | unanswered

/-- The tickets of a client. -/
structure Desk where
  /-- The id for the next new ticket. -/
  drawn : Option String := none
  /-- The ticket of the delay under way, and whether the store has taken it. -/
  opened : Option (Ticket × Bool) := none
  /-- The tickets that were read as due. -/
  listed : Set Ticket := ∅
  /-- The ticket that is worked on. -/
  claim : Option (Ticket × Claim) := none
  /-- The flows that were looked for in vain. -/
  missing : Set String := ∅

namespace Desk

/-- No delay is under way any more. -/
def leave (desk : Desk) : Desk := { desk with drawn := none, opened := none }

def draw (desk : Desk) (id : String) : Desk := { desk with drawn := some id }

def afterOpening (desk : Desk) (ticket : Ticket) (answer : Except Failure (List Row)) : Desk :=
  { desk with drawn := none, opened := some (ticket, answer.isOk) }

/-- Takes copies of the tickets that can be read. -/
def afterListing (desk : Desk) : Except Failure (List Row) → Desk
  | .ok rows =>
    { desk with
      listed := desk.listed ∪ { ticket | ∃ row ∈ rows, Ticket.read (.record row) = .valid ticket } }
  | .error _ => desk

def afterClaim (desk : Desk) (ticket : Ticket) : Except Failure (List Row) → Desk
  | .ok (_ :: _) => { desk with claim := some (ticket, .granted) }
  | .ok [] => { desk with claim := none }
  | .error _ => { desk with claim := some (ticket, .unanswered) }

def afterWake (desk : Desk) (ticket : Ticket) : Except Failure (List Row) → Desk
  | .ok (_ :: _) => { desk.leave with claim := some (ticket, .spent) }
  | _ => desk.leave

def close (desk : Desk) : Desk := { desk with claim := none }

def afterLook (desk : Desk) (flowId : String) : Except Failure (List Row) → Desk
  | .ok [] => { desk with missing := insert flowId desk.missing }
  | _ => desk

/-- What a traversal may write: it parks an execution only on a ticket that the store has taken, and
goes on only when it has opened none. -/
structure Suits (desk : Desk) (e : Execution) : Prop where
  parks : ∀ nodeId, e.status = .waiting → e.scheduledNodeId = some nodeId →
    ∃ ticket, desk.opened = some (ticket, true) ∧ ticket.nodeId = nodeId ∧
      e.scheduledAt = some ticket.executeAt
  goesOn : e.isTerminal = false → e.isWaitingOnDelay = false → desk.opened = none

theorem suits_of_isTerminal {desk : Desk} {e : Execution} (terminal : e.isTerminal = true) :
    desk.Suits e where
  parks nodeId waits _ := by
    rw [Execution.isTerminal, waits] at terminal
    cases terminal
  goesOn isOpen := by
    rw [terminal] at isOpen
    cases isOpen

end Desk

/-- The task is a sweep that may take this time for the present one. -/
def Task.SweepsAt (task : Task) (now : Timestamp) : Prop :=
  ∃ attempts at?, task = .sweep attempts at? ∧ ∀ time, at? = some time → time = now

/-- Where a client stands, with its tickets. -/
structure Station extends Standing where
  desk : Desk

namespace Station

/-- With some copies and nothing else. -/
def holding (held : Set Execution) : Station := ⟨.holding held, {}⟩

def rest (s : Station) : Station := ⟨s.toStanding.rest, s.desk.leave⟩

def walk (s : Station) (v : Execution) : Station := ⟨s.toStanding.walk v, s.desk.leave⟩

def reserve (s : Station) (id : String) : Station := ⟨s.toStanding.reserve id, s.desk⟩

def afterSelect (s : Station) (answer : Except Failure (List Row)) : Station :=
  ⟨s.toStanding.afterSelect answer, s.desk⟩

def afterSeek (s : Station) (answer : Except Failure (List Row)) : Station :=
  ⟨s.toStanding.afterSeek answer, s.desk⟩

def afterCreation (s : Station) (e : Execution) (answer : Except Failure (List Row)) : Station :=
  ⟨s.toStanding.afterCreation e answer, s.desk.leave⟩

def afterSave (s : Station) (e : Execution) (goesOn : Bool) (answer : Except Failure (List Row)) :
    Station := ⟨s.toStanding.afterSave e goesOn answer, s.desk.leave⟩

def afterWake (s : Station) (e : Execution) (goesOn : Bool) (ticket : Ticket)
    (answer : Except Failure (List Row)) : Station :=
  ⟨s.toStanding.afterSave e goesOn answer, s.desk.afterWake ticket answer⟩

/-- Only the tickets in hand change. -/
def withDesk (s : Station) (desk : Desk) : Station := ⟨s.toStanding, desk⟩

end Station

/-- What a client with that task may ask next, executions and tickets considered together. -/
inductive Task.Acts (task : Task) (s : Station) :
    (request : Request) → (request.Answer → Station) → Prop
  | aside (request : Request) (apart : request.IsApart) : Acts task s request fun _ => s
  | seek (filters : List Filter) (order : Option SortOrder) (limit : Option Int) :
    Acts task s (.query (.select .flows filters order limit)) s.afterSeek
  | look (flowId : String) :
    Acts task s (.query (Store.flowQuery flowId)) fun answer =>
      s.withDesk (s.desk.afterLook flowId answer)
  | select (filters : List Filter) (order : Option SortOrder) (limit : Option Int) :
    Acts task s (.query (.select .executions filters order limit)) s.afterSelect
  | reserve (idle : s.walking = none) : Acts task s .freshId s.reserve
  | create (e : Execution) (idle : s.walking = none) (reserved : s.reserved = some e.id)
    (isNew : e.IsNew) : Acts task s (.query (.insert .executions e.row)) (s.afterCreation e)
  | draw : Acts task s .freshId fun id => s.withDesk (s.desk.draw id)
  | enter (v : Execution) (ticket : Ticket) (walks : s.walking = some v)
    (owner : ticket.executionId = v.id) (drawn : s.desk.drawn = some ticket.id)
    (first : s.desk.opened = none) (isNew : ticket.IsNew) :
    Acts task s (.query (.insert .tickets ticket.row)) fun answer =>
      s.withDesk (s.desk.afterOpening ticket answer)
  | list (now : Timestamp) (limit : Int) (sweeps : task.SweepsAt now) :
    Acts task s (.query (Store.dueQuery now limit)) fun answer =>
      s.withDesk (s.desk.afterListing answer)
  | claim (ticket : Ticket) (sweeps : task.isSweep = true) (listed : ticket ∈ s.desk.listed) :
    Acts task s (.query (Store.claimQuery ticket.id)) fun answer =>
      s.withDesk (s.desk.afterClaim ticket answer)
  | finish (ticket : Ticket) (claim : Claim) (status : TicketStatus) (now : Timestamp)
    (error : Option String) (sweeps : task.isSweep = true)
    (claimed : s.desk.claim = some (ticket, claim))
    (ends : status = .failed ∨ (status = .completed ∧ claim = .spent)) :
    Acts task s (.query (Store.finishQuery ticket.id status now error)) fun _ =>
      s.withDesk s.desk.close
  | annul (flowId : String) (now : Timestamp) (deletes : task = .deleteFlow flowId) :
    Acts task s (.query (Store.failPendingQuery flowId now Run.flowDeleted)) fun _ => s
  | intervene (v e : Execution) (idle : s.walking = none) (held : v ∈ s.held)
    (change : task.Intervenes v e) (other : task.isSweep = false) :
    Acts task s (.query (Store.saveQuery e))
      (s.afterSave e (v.status == .waiting && e.status == .active))
  | wake (v : Execution) (ticket : Ticket) (now : Timestamp) (idle : s.walking = none)
    (held : v ∈ s.held) (sweeps : task.isSweep = true)
    (claimed : s.desk.claim = some (ticket, .granted)) (owner : ticket.executionId = v.id)
    (parked : Sweep.isParkedOn v ticket = true) :
    Acts task s (.query (Store.saveQuery (Sweep.wake v ticket now)))
      (s.afterWake (Sweep.wake v ticket now)
        (v.status == .waiting && (Sweep.wake v ticket now).status == .active) ticket)
  | lose (v : Execution) (ticket : Ticket) (now : Timestamp) (idle : s.walking = none)
    (held : v ∈ s.held) (sweeps : task.isSweep = true)
    (claimed : s.desk.claim = some (ticket, .granted)) (owner : ticket.executionId = v.id)
    (parked : Sweep.isParkedOn v ticket = true) (missing : v.flowId ∈ s.desk.missing) :
    Acts task s (.query (Store.saveQuery ((v.failed Run.flowNotFound).stamped now)))
      (s.afterSave ((v.failed Run.flowNotFound).stamped now) false)
  | advance (v e : Execution) (walks : s.walking = some v) (change : v.Advance e)
    (suits : s.desk.Suits e) :
    Acts task s (.query (Store.saveQuery e)) (s.afterSave e (e.status == .active))

/-- The discipline of executions and tickets. -/
def Task.conduct (task : Task) : Discipline Station := fun s traversed request after =>
  traversed = s.traversed ∧ task.Acts s request after

theorem Request.IsApart.sparesExecutions {request : Request} (apart : request.IsApart) :
    request.SparesExecutions := by
  cases request with
  | query q => exact apart.1
  | now | freshId | post | announce | complete | remembered | remember | forget => trivial

/-- Tickets aside, a client keeps to the discipline of executions. -/
theorem Task.Acts.permits {task : Task} {s : Station} {request : Request}
    {after : request.Answer → Station} (acts : task.Acts s request after) :
    task.Permits s.toStanding request fun answer => (after answer).toStanding := by
  cases acts with
  | aside _ apart => exact .aside request apart.sparesExecutions
  | seek filters order limit => exact .seek filters order limit
  | look flowId => exact .aside _ nofun
  | select filters order limit => exact .select filters order limit
  | reserve idle => exact .reserve idle
  | create e idle reserved isNew => exact .create e idle reserved isNew
  | draw => exact .aside _ trivial
  | enter => exact .aside _ nofun
  | list => exact .aside _ nofun
  | claim => exact .aside _ nofun
  | finish => exact .aside _ nofun
  | annul => exact .aside _ nofun
  | intervene v e idle held change other => exact .intervene v e idle held change
  | wake v ticket now idle held sweeps claimed owner parked =>
    exact .intervene v _ idle held (.wake ticket now sweeps parked)
  | lose v ticket now idle held sweeps claimed owner parked missing =>
    have outside := Permits.intervene v ((v.failed Run.flowNotFound).stamped now) idle held
      (.flowLost ticket now sweeps parked)
    have never : (v.status == .waiting &&
        ((v.failed Run.flowNotFound).stamped now).status == .active) = false := Bool.and_false _
    rw [never] at outside
    exact outside
  | advance v e walks change suits => exact .advance v e walks change

namespace Station

variable {s s' s'' : Station} {v e : Execution}

/-- At rest, with all copies of before. -/
structure Passes (s s' : Station) : Prop where
  idle : s'.walking = none
  keeps : s.held ⊆ s'.held
  lists : s.desk.listed ⊆ s'.desk.listed

/-- Also with the claim of before. -/
structure Rests (s s' : Station) : Prop extends s.Passes s' where
  claims : s'.desk.claim = s.desk.claim

theorem Passes.trans (first : s.Passes s') (second : s'.Passes s'') : s.Passes s'' :=
  ⟨second.idle, first.keeps.trans second.keeps, first.lists.trans second.lists⟩

theorem Rests.trans (first : s.Rests s') (second : s'.Rests s'') : s.Rests s'' :=
  ⟨first.toPasses.trans second.toPasses, second.claims.trans first.claims⟩

theorem rests_self (idle : s.walking = none) : s.Rests s := ⟨⟨idle, subset_rfl, subset_rfl⟩, rfl⟩

theorem rests_rest (s : Station) : s.Rests s.rest := ⟨⟨rfl, subset_rfl, subset_rfl⟩, rfl⟩

theorem Rests.of_walk (rests : (s.walk v).Rests s') : s.Rests s' :=
  ⟨⟨rests.idle, (Set.subset_insert v s.held).trans rests.keeps, rests.lists⟩, rests.claims⟩

theorem Rests.of_reserve {id : String} (rests : (s.reserve id).Rests s') : s.Rests s' :=
  ⟨⟨rests.idle, rests.keeps, rests.lists⟩, rests.claims⟩

theorem rests_afterSelect (idle : s.walking = none) (answer : Except Failure (List Row)) :
    s.Rests (s.afterSelect answer) := by
  cases answer with
  | error failure => exact rests_self idle
  | ok rows => exact ⟨⟨idle, Set.subset_union_left, subset_rfl⟩, rfl⟩

/-- The traversal ends with the flow that it needs. -/
theorem rests_seek (s : Station) : s.Rests ⟨s.toStanding.rest, s.desk⟩ :=
  ⟨⟨rfl, subset_rfl, subset_rfl⟩, rfl⟩

theorem afterSave_of_refusal {goesOn : Bool} {answer : Except Failure (List Row)}
    (refusal : Query.IsRefusal answer) : s.afterSave e goesOn answer = s.rest := by
  rcases refusal with rfl | ⟨failure, rfl, _⟩
  · rfl
  · rfl

theorem idles (task : Task) (idle : s.walking = none) : task.conduct.Idles s := by
  intro request apart
  exact ⟨(Standing.traversed_of_idle idle).symm, .aside request apart⟩

/-- Within a traversal, what keeps apart may be asked. -/
theorem idles_within (task : Task) (walks : s.walking = some v) :
    (task.conduct.within v.id).Idles s := by
  intro request apart
  exact ⟨(Standing.traversed_of_walking walks).symm, .aside request apart⟩

end Station

end MessageFlow
