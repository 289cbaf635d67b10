import MessageFlow.Proofs.Discipline
import MessageFlow.Proofs.Interleaving.Rows
import MessageFlow.Proofs.Interleaving.Task

/-!
Clients that share one store. Their requests are interleaved in any order, one at a time, and any
query may fail.
-/

namespace MessageFlow

/-- What becomes of a query: it is served, nothing comes of it, or its answer is lost. -/
inductive Query.Handles (query : Query) (before : Tables) :
    Tables → Except Failure (List Row) → Prop
  | served : Handles query before (query.run before).2 (.ok (query.run before).1)
  | refused (answer : Except Failure (List Row)) (refusal : IsRefusal answer) :
    Handles query before before answer
  | lost (answer : Except Failure (List Row)) (refusal : IsRefusal answer) :
    Handles query before (query.run before).2 answer

namespace Query.Handles

variable {query : Query} {before after : Tables} {answer : Except Failure (List Row)}

theorem mayAnswer (handles : query.Handles before after answer) : query.MayAnswer answer := by
  cases handles with
  | served => exact .inl ⟨before, rfl⟩
  | refused answer refusal => exact .inr refusal
  | lost answer refusal => exact .inr refusal

theorem after_cases (handles : query.Handles before after answer) :
    after = before ∨ after = (query.run before).2 := by
  cases handles with
  | served => exact .inr rfl
  | refused => exact .inl rfl
  | lost => exact .inr rfl

/-- Rows are answered only by a query that is served. -/
theorem served_of_rows {row : Row} {rows : List Row} (handles : query.Handles before after answer)
    (answered : answer = .ok (row :: rows)) :
    (query.run before).1 = row :: rows ∧ after = (query.run before).2 := by
  have notRefused : ¬ IsRefusal answer := by
    rw [answered]
    intro refusal
    rcases refusal with none | ⟨failure, failed, _⟩
    · cases none
    · cases failed
  cases handles with
  | served => exact ⟨Except.ok.inj answered, rfl⟩
  | refused _ refusal => exact absurd refusal notRefused
  | lost _ refusal => exact absurd refusal notRefused

theorem rows_of_ne {table : Table} (handles : query.Handles before after answer)
    (elsewhere : query.table ≠ table) : after.rows table = before.rows table := by
  rcases handles.after_cases with rfl | rfl
  · rfl
  · exact query.rows_run_of_ne elsewhere

theorem executionRows_of_ne (handles : query.Handles before after answer)
    (elsewhere : query.table ≠ .executions) : after.executionRows = before.executionRows :=
  handles.rows_of_ne elsewhere

end Query.Handles

structure Client where
  task : Task
  program : Program (Except Failure Task.Report)

namespace Client

def begin (deployment : Deployment) (task : Task) : Client :=
  ⟨task, (task.operation deployment).run⟩

/-- The execution for whose traversal the client asks its next request. -/
def traverses? (client : Client) : Option String :=
  match client.program with
  | .done _ => none
  | .ask traversed _ _ => traversed

def isDone (client : Client) : Bool :=
  match client.program with
  | .done _ => true
  | .ask .. => false

end Client

section places

variable {σ : Type} {P : Client → σ → Prop} {clients : List Client}
  {place : Nat → σ} {i : Nat} {client next : Client} {s : σ}

/-- One client moves on, and the others stay in their places. -/
theorem Client.all_set (all : ∀ j other, clients[j]? = some other → P other (place j))
    (there : clients[i]? = some client) (holds : P next s) (j : Nat) (other : Client)
    (found : (clients.set i next)[j]? = some other) : P other (Function.update place i s j) := by
  by_cases mine : j = i
  · rw [mine, List.getElem?_set_self (List.getElem?_eq_some_iff.mp there).1] at found
    cases found
    rw [mine, Function.update_self]
    exact holds
  · rw [List.getElem?_set_ne (Ne.symm mine)] at found
    rw [Function.update_of_ne mine]
    exact all j other found

theorem Client.vacant_set (Q : σ → Prop) (vacant : ∀ j, clients.length ≤ j → Q (place j))
    (there : clients[i]? = some client) (j : Nat) (beyond : (clients.set i next).length ≤ j) :
    Q (Function.update place i s j) := by
  have among : i < clients.length := (List.getElem?_eq_some_iff.mp there).1
  rw [List.length_set] at beyond
  rw [Function.update_of_ne (by omega)]
  exact vacant j beyond

/-- A client begins, and the others stay in their places. -/
theorem Client.all_concat (all : ∀ j other, clients[j]? = some other → P other (place j))
    (holds : P next s) (j : Nat) (other : Client)
    (found : (clients ++ [next])[j]? = some other) :
    P other (Function.update place clients.length s j) := by
  by_cases last : j = clients.length
  · rw [last, List.getElem?_concat_length] at found
    cases found
    rw [last, Function.update_self]
    exact holds
  · have among : j < (clients ++ [next]).length := (List.getElem?_eq_some_iff.mp found).1
    rw [List.length_append, List.length_singleton] at among
    rw [List.getElem?_append_left (by omega)] at found
    rw [Function.update_of_ne last]
    exact all j other found

theorem Client.vacant_concat (Q : σ → Prop) (vacant : ∀ j, clients.length ≤ j → Q (place j))
    (j : Nat) (beyond : (clients ++ [next]).length ≤ j) :
    Q (Function.update place clients.length s j) := by
  rw [List.length_append, List.length_singleton] at beyond
  rw [Function.update_of_ne (by omega)]
  exact vacant j (by omega)

end places

/-- A query that was asked, with the tables before and after it. -/
structure Event where
  /-- The place of the client among all clients. -/
  client : Nat
  task : Task
  traversed : Option String
  query : Query
  before : Tables
  after : Tables
  answer : Except Failure (List Row)

/-- The store did what it was asked, and its answer arrived. -/
structure Event.IsServed (event : Event) : Prop where
  stores : event.after = (event.query.run event.before).2
  answers : event.answer = .ok (event.query.run event.before).1

structure System where
  tables : Tables
  /-- The ids that were given out. -/
  issued : List String := []
  clients : List Client := []

/-- An execution that is handed to a task was read from the store. A client may read it long before
it asks its first request. -/
def Task.Ready (task : Task) (tables : Tables) : Prop :=
  ∀ v, task.given = some v → ∃ row ∈ tables.executionRows, Execution.read (.record row) = .valid v

/-- No two stored executions have the same id. -/
def Tables.UniqueIds (tables : Tables) : Prop :=
  (tables.executionRows.map fun row => row.get "id").Nodup

namespace System

/-- Neither given out before nor the id of a stored execution. -/
def IsFresh (sys : System) (id : String) : Prop :=
  id ∉ sys.issued ∧ ∀ row ∈ sys.tables.executionRows, row.get "id" ≠ .text id

/-- A client begins, or one client has one request answered. -/
inductive Step : System → Option Event → System → Prop
  | begin (sys : System) (deployment : Deployment) (task : Task) (ready : task.Ready sys.tables) :
    Step sys none { sys with clients := sys.clients ++ [.begin deployment task] }
  | query (sys : System) (i : Nat) (task : Task) (traversed : Option String) (query : Query)
    (next : Except Failure (List Row) → Program (Except Failure Task.Report)) (after : Tables)
    (answer : Except Failure (List Row))
    (asks : sys.clients[i]? = some ⟨task, .ask traversed (.query query) next⟩)
    (handles : query.Handles sys.tables after answer) :
    Step sys (some ⟨i, task, traversed, query, sys.tables, after, answer⟩)
      { sys with tables := after, clients := sys.clients.set i ⟨task, next answer⟩ }
  | freshId (sys : System) (i : Nat) (task : Task) (traversed : Option String)
    (next : String → Program (Except Failure Task.Report)) (id : String)
    (asks : sys.clients[i]? = some ⟨task, .ask traversed .freshId next⟩) (fresh : sys.IsFresh id) :
    Step sys none
      { sys with issued := id :: sys.issued, clients := sys.clients.set i ⟨task, next id⟩ }
  | outside (sys : System) (i : Nat) (task : Task) (traversed : Option String) (request : Request)
    (next : request.Answer → Program (Except Failure Task.Report)) (answer : request.Answer)
    (asks : sys.clients[i]? = some ⟨task, .ask traversed request next⟩)
    (noQuery : ∀ query, request ≠ .query query) (noId : request ≠ .freshId) :
    Step sys none { sys with clients := sys.clients.set i ⟨task, next answer⟩ }

/-- A run with all its queries in order. -/
inductive Runs : System → List Event → System → Prop
  | nil (sys : System) : Runs sys [] sys
  | step {sys mid last : System} {event : Option Event} {events : List Event}
    (first : Step sys event mid) (rest : Runs mid events last) :
    Runs sys (event.toList ++ events) last

theorem Step.tables {sys sys' : System} {event : Option Event} (step : Step sys event sys') :
    (event = none ∧ sys'.tables = sys.tables) ∨
      ∃ e, event = some e ∧ e.before = sys.tables ∧ e.after = sys'.tables := by
  cases step with
  | begin => exact .inl ⟨rfl, rfl⟩
  | query => exact .inr ⟨_, rfl, rfl, rfl⟩
  | freshId => exact .inl ⟨rfl, rfl⟩
  | outside => exact .inl ⟨rfl, rfl⟩

/-- What every query of a run keeps, the run keeps. -/
theorem Runs.keeps {sys last : System} {events : List Event} (runs : Runs sys events last)
    (holds : Tables → Prop) (first : holds sys.tables)
    (kept : ∀ event ∈ events, holds event.before → holds event.after) : holds last.tables := by
  induction runs with
  | nil => exact first
  | step step rest ih =>
    rcases step.tables with ⟨rfl, same⟩ | ⟨e, rfl, before, after⟩
    · refine ih ?_ kept
      rw [same]
      exact first
    · refine ih ?_ fun event later => kept event (.tail e later)
      rw [← after]
      apply kept e (.head _)
      rw [before]
      exact first

theorem Runs.trans {sys mid last : System} {first later : List Event} (begins : Runs sys first mid)
    (goes : Runs mid later last) : Runs sys (first ++ later) last := by
  induction begins with
  | nil => exact goes
  | step step rest ih =>
    rw [List.append_assoc]
    exact .step step (ih goes)

/-- A client keeps its task. -/
theorem Step.task {sys sys' : System} {event : Option Event} (step : Step sys event sys') {i : Nat}
    {client : Client} (there : sys.clients[i]? = some client) :
    ∃ next, sys'.clients[i]? = some next ∧ next.task = client.task := by
  have inBounds : i < sys.clients.length := (List.getElem?_eq_some_iff.mp there).1
  have moved {j : Nat} {before next : Client} (asks : sys.clients[j]? = some before)
      (same : next.task = before.task) :
      ∃ other, (sys.clients.set j next)[i]? = some other ∧ other.task = client.task := by
    by_cases mine : i = j
    · subst mine
      rw [there] at asks
      cases asks
      exact ⟨next, List.getElem?_set_self inBounds, same⟩
    · exact ⟨client, (List.getElem?_set_ne (Ne.symm mine)).trans there, rfl⟩
  cases step with
  | begin deployment task ready =>
    exact ⟨client, (List.getElem?_append_left inBounds).trans there, rfl⟩
  | query j task traversed query next after answer asks handles => exact moved asks rfl
  | freshId j task traversed next id asks fresh => exact moved asks rfl
  | outside j task traversed request next answer asks noQuery noId => exact moved asks rfl

theorem Runs.task {sys last : System} {events : List Event} (runs : Runs sys events last) {i : Nat}
    {client : Client} (there : sys.clients[i]? = some client) :
    ∃ next, last.clients[i]? = some next ∧ next.task = client.task := by
  induction runs generalizing client with
  | nil => exact ⟨client, there, rfl⟩
  | step first rest ih =>
    obtain ⟨next, isNext, same⟩ := first.task there
    obtain ⟨last, isLast, alsoSame⟩ := ih isNext
    exact ⟨last, isLast, alsoSame.trans same⟩

theorem Runs.task_of_mem {sys last : System} {events : List Event} (runs : Runs sys events last)
    {event : Event} (present : event ∈ events) :
    ∃ client, last.clients[event.client]? = some client ∧ client.task = event.task := by
  induction runs with
  | nil => cases present
  | step first rest ih =>
    rcases List.mem_append.mp present with now | later
    · cases first with
      | begin | freshId | outside => cases now
      | query i task traversed query next after answer asks handles =>
        obtain rfl := List.mem_singleton.mp now
        exact rest.task (List.getElem?_set_self (List.getElem?_eq_some_iff.mp asks).1)
    · exact ih later

/-- All queries of a client are those of one task. -/
theorem Runs.task_eq {sys last : System} {events : List Event} (runs : Runs sys events last)
    {event other : Event} (present : event ∈ events) (alsoPresent : other ∈ events)
    (same : event.client = other.client) : event.task = other.task := by
  obtain ⟨client, isClient, task⟩ := runs.task_of_mem present
  obtain ⟨also, isAlso, alsoTask⟩ := runs.task_of_mem alsoPresent
  rw [same, isAlso] at isClient
  cases isClient
  exact task.symm.trans alsoTask

/-- A store without clients. -/
def start (tables : Tables) : System := { tables }

end System
end MessageFlow
