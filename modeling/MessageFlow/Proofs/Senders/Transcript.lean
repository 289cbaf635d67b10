import MessageFlow.Proofs.Interleaving.System

/-!
Transcripts: the queries that a program asks, each with its answer. What a client asks in a run is a
transcript of its program, and what is proved of all transcripts of a program by way of a discipline
holds of it.
-/

namespace MessageFlow

/-- A query with its answer. -/
structure Asked where
  query : Query
  answer : Except Failure (List Row)

def Event.asked (event : Event) : Asked := ⟨event.query, event.answer⟩

/-- The queries of one client. -/
def ownEvents (i : Nat) (events : List Event) : List Event := events.filter (·.client = i)

/-- Queries are noted with their answers. -/
inductive Notes (log : List Asked) : (request : Request) → (request.Answer → List Asked) → Prop
  | query (query : Query) : Notes log (.query query) fun answer => log ++ [⟨query, answer⟩]
  | other (request : Request) (noQuery : ∀ query, request ≠ .query query) :
    Notes log request fun _ => log

def Discipline.noting : Discipline (List Asked) :=
  fun log _ request after => Notes log request after

variable {α β : Type} {log : List Asked}

namespace Program

/-- The program gets to another one along a transcript; other requests are answered in any way. -/
inductive Leads : Program α → List Asked → Program α → Prop
  | here (p : Program α) : Leads p [] p
  | query {traversed : Option String} {query : Query}
    {next : Except Failure (List Row) → Program α} {log : List Asked} {last : Program α}
    (answer : Except Failure (List Row)) (may : query.MayAnswer answer)
    (rest : Leads (next answer) log last) :
    Leads (.ask traversed (.query query) next) (⟨query, answer⟩ :: log) last
  | other {traversed : Option String} {request : Request} {next : request.Answer → Program α}
    {log : List Asked} {last : Program α} (noQuery : ∀ query, request ≠ .query query)
    (answer : request.Answer) (rest : Leads (next answer) log last) :
    Leads (.ask traversed request next) log last

theorem Leads.trans {p mid last : Program α} {later : List Asked} (begins : p.Leads log mid)
    (goes : mid.Leads later last) : p.Leads (log ++ later) last := by
  induction begins with
  | here p => exact goes
  | query answer may rest ih => exact .query answer may (ih goes)
  | other noQuery answer rest ih => exact .other noQuery answer (ih goes)

theorem leads_done {a : α} {last : Program α} (leads : (done a).Leads log last) :
    log = [] ∧ last = done a := by
  cases leads with
  | here => exact ⟨rfl, rfl⟩

theorem leads_query {traversed : Option String} {query : Query} {a : α}
    {next : Except Failure (List Row) → Program α}
    (leads : (ask traversed (.query query) next).Leads log (done a)) :
    ∃ answer rest, log = ⟨query, answer⟩ :: rest ∧ query.MayAnswer answer ∧
      (next answer).Leads rest (done a) := by
  cases leads with
  | query answer may rest => exact ⟨answer, _, rfl, may, rest⟩
  | other noQuery => exact absurd rfl (noQuery query)

/-- A result of two programs, one after the other, is one of the second. -/
theorem leads_bind {p : Program α} {f : α → Program β} {b : β}
    (leads : (p.bind f).Leads log (done b)) :
    ∃ a first later, log = first ++ later ∧ p.Leads first (done a) ∧
      (f a).Leads later (done b) := by
  induction p generalizing log with
  | done a => exact ⟨a, [], log, rfl, .here _, leads⟩
  | ask traversed request next ih =>
    cases leads with
    | query answer may rest =>
      obtain ⟨a, first, later, rfl, begins, goes⟩ := ih answer rest
      exact ⟨a, _ :: first, later, rfl, .query answer may begins, goes⟩
    | other noQuery answer rest =>
      obtain ⟨a, first, later, rfl, begins, goes⟩ := ih answer rest
      exact ⟨a, first, later, rfl, .other noQuery answer begins, goes⟩

/-- Along a transcript the notes grow by that transcript. -/
theorem Obeys.leads {p last : Program α} {noted : List Asked} {post : α → List Asked → Prop}
    (obeys : p.Obeys .noting noted post) (leads : p.Leads log last) :
    last.Obeys .noting (noted ++ log) post := by
  induction leads generalizing noted with
  | here p =>
    rw [List.append_nil]
    exact obeys
  | query answer may rest ih =>
    obtain ⟨after, notes, goes⟩ := obeys
    cases notes with
    | query =>
      have noted := ih (goes answer may)
      rw [List.append_assoc] at noted
      exact noted
    | other _ noQuery => exact absurd rfl (noQuery _)
  | @other traversed request next log last noQuery answer rest ih =>
    obtain ⟨after, notes, goes⟩ := obeys
    cases notes with
    | query query => exact absurd rfl (noQuery query)
    | other => exact ih (goes answer (Request.mayAnswer_of_noQuery noQuery answer))

/-- Notes are only added to. -/
theorem obeys_noting (p : Program α) :
    p.Obeys .noting log fun _ log' => ∃ new, log' = log ++ new := by
  induction p generalizing log with
  | done a => exact ⟨[], (List.append_nil log).symm⟩
  | ask traversed request next ih =>
    by_cases isQuery : ∃ query, request = .query query
    · obtain ⟨query, rfl⟩ := isQuery
      refine ⟨_, .query query, fun answer _ => obeys_mono (ih answer) ?_⟩
      rintro a log' ⟨new, rfl⟩
      exact ⟨⟨query, answer⟩ :: new, List.append_assoc log [_] new⟩
    · exact ⟨_, .other request fun query same => isQuery ⟨query, same⟩, fun answer _ => ih answer⟩

end Program

/-- An operation of which only the notes matter, and another one. -/
theorem Operation.noting_then {operation : Operation α} {f : α → Operation β}
    {post : Except Failure β → List Asked → Prop}
    (next : ∀ a new, (f a).Obeys .noting (log ++ new) post)
    (fails : ∀ failure log', post (.error failure) log') :
    (operation >>= f).Obeys .noting log post := by
  refine obeys_then (Program.obeys_noting operation.run) ?_ fun failure log' _ => fails failure log'
  rintro a log' ⟨new, rfl⟩
  exact next a new

theorem Run.noting_then {run : Run α} {f : α → Run β} {e : Execution}
    {post : Except Failure β → Execution → List Asked → Prop}
    (next : ∀ a e' new, (f a).Obeys .noting e' (log ++ new) post)
    (fails : ∀ failure e' log', post (.error failure) e' log') :
    (run >>= f).Obeys .noting e log post := by
  have notes : run.Obeys .noting e log fun _ _ log' => ∃ new, log' = log ++ new :=
    Program.obeys_noting _
  refine obeys_then notes ?_ fun failure e' log' _ => fails failure e' log'
  rintro a e' log' ⟨new, rfl⟩
  exact next a e' new

/-- An operation that succeeds, by its two parts. -/
theorem Operation.leads_bind {operation : Operation α} {f : α → Operation β} {b : β}
    (leads : (operation >>= f).run.Leads log (.done (.ok b))) :
    ∃ a first later, log = first ++ later ∧ operation.run.Leads first (.done (.ok a)) ∧
      (f a).run.Leads later (.done (.ok b)) := by
  obtain ⟨outcome, first, later, both, begins, goes⟩ := Program.leads_bind leads
  cases outcome with
  | error failure =>
    obtain ⟨_, same⟩ := Program.leads_done goes
    cases same
  | ok a => exact ⟨a, first, later, both, begins, goes⟩

namespace System

variable {sys sys' last : System} {i : Nat}

/-- How a client got to where it stands: from its place before, or from the beginning of its
task. -/
inductive Arrives (sys : System) (i : Nat) (log : List Asked) (client : Client) : Prop
  | goesOn (before : Client) (there : sys.clients[i]? = some before)
    (sameTask : before.task = client.task) (leads : before.program.Leads log client.program)
  | begins (absent : sys.clients[i]? = none) (deployment : Deployment)
    (leads : (client.task.operation deployment).run.Leads log client.program)

theorem Step.arrives {event : Option Event} (step : Step sys event sys') {client : Client}
    (there : sys'.clients[i]? = some client) :
    sys.Arrives i ((ownEvents i event.toList).map Event.asked) client := by
  -- One client moves on from a place.
  have moved {j : Nat} {task : Task} {p q : Program (Except Failure Task.Report)}
      {log : List Asked} (asks : sys.clients[j]? = some ⟨task, p⟩)
      (there : (sys.clients.set j ⟨task, q⟩)[i]? = some client) (leads : p.Leads log q) :
      sys.Arrives i (if j = i then log else []) client := by
    by_cases mine : j = i
    · subst mine
      rw [List.getElem?_set_self (List.getElem?_eq_some_iff.mp asks).1] at there
      cases there
      rw [if_pos rfl]
      exact .goesOn _ asks rfl leads
    · rw [List.getElem?_set_ne mine] at there
      rw [if_neg mine]
      exact .goesOn client there rfl (.here _)
  cases step with
  | begin deployment task ready =>
    rcases lt_trichotomy i sys.clients.length with among | last | beyond
    · rw [List.getElem?_append_left among] at there
      exact .goesOn client there rfl (.here _)
    · rw [last, List.getElem?_concat_length] at there
      cases there
      exact .begins (List.getElem?_eq_none last.ge) deployment (.here _)
    · rw [List.getElem?_eq_none (by rw [List.length_append]; exact beyond)] at there
      cases there
  | query j task traversed query next after answer asks handles =>
    have arrives := moved asks there (.query answer handles.mayAnswer (.here _))
    by_cases mine : j = i
    · rw [if_pos mine] at arrives
      simpa [ownEvents, mine, Event.asked] using arrives
    · rw [if_neg mine] at arrives
      simpa [ownEvents, mine] using arrives
  | freshId j task traversed next id asks fresh =>
    have arrives := moved asks there (.other (fun _ same => by cases same) id (.here _))
    rwa [ite_self] at arrives
  | outside j task traversed request next answer asks noQuery noId =>
    have arrives := moved asks there (.other noQuery answer (.here _))
    rwa [ite_self] at arrives

/-- A place without a client has had none before, and has asked nothing. -/
theorem Step.absent {event : Option Event} (step : Step sys event sys')
    (absent : sys'.clients[i]? = none) :
    sys.clients[i]? = none ∧ ownEvents i event.toList = [] := by
  have beyond := List.getElem?_eq_none_iff.mp absent
  cases step with
  | begin deployment task ready =>
    rw [List.length_append] at beyond
    exact ⟨List.getElem?_eq_none (Nat.le_trans (Nat.le_add_right _ _) beyond), rfl⟩
  | query j task traversed query next after answer asks handles =>
    rw [List.length_set] at beyond
    have other : j ≠ i := by
      rintro rfl
      exact absurd (List.getElem?_eq_some_iff.mp asks).1 (not_lt_of_ge beyond)
    exact ⟨List.getElem?_eq_none beyond, by simp [ownEvents, other]⟩
  | freshId | outside =>
    rw [List.length_set] at beyond
    exact ⟨List.getElem?_eq_none beyond, rfl⟩

theorem ownEvents_append (i : Nat) (first later : List Event) :
    ownEvents i (first ++ later) = ownEvents i first ++ ownEvents i later :=
  List.filter_append ..

theorem Runs.arrives {events : List Event} (runs : Runs sys events last) {client : Client}
    (there : last.clients[i]? = some client) :
    sys.Arrives i ((ownEvents i events).map Event.asked) client := by
  induction runs with
  | nil => exact .goesOn client there rfl (.here _)
  | step first rest ih =>
    rw [ownEvents_append, List.map_append]
    rcases ih there with ⟨mid, isMid, sameTask, goes⟩ | ⟨absent, deployment, goes⟩
    · rcases first.arrives isMid with ⟨before, isBefore, same, leads⟩ | ⟨none, deployment, leads⟩
      · exact .goesOn before isBefore (same.trans sameTask) (leads.trans goes)
      · rw [sameTask] at leads
        exact .begins none deployment (leads.trans goes)
    · obtain ⟨none, nothing⟩ := first.absent absent
      rw [nothing]
      exact .begins none deployment goes

/-- What a client of a run has asked is a transcript of its task. -/
theorem Runs.leads {tables : Tables} {events : List Event} (runs : Runs (.start tables) events last)
    {client : Client} (there : last.clients[i]? = some client) :
    ∃ deployment, (client.task.operation deployment).run.Leads
      ((ownEvents i events).map Event.asked) client.program := by
  rcases runs.arrives there with ⟨before, isBefore, _⟩ | ⟨_, deployment, leads⟩
  · cases isBefore
  · exact ⟨deployment, leads⟩

end System
end MessageFlow
