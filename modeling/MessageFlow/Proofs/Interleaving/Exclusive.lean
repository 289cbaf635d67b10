import MessageFlow.Proofs.Interleaving.Consistent
import MessageFlow.Proofs.Interleaving.Schedule

/-!
No two clients traverse the same execution at the same time.
-/

namespace MessageFlow
open Standing

/-- The client was told of a write after which the execution is active: that of its creation, or one
by which it ceased to wait. -/
structure Event.Begins (event : Event) (id : String) : Prop where
  told : ∃ row rows, event.answer = .ok (row :: rows)
  active : ∃ row ∈ event.after.executionRows, row.get "id" = .text id ∧
    row.status? = some .active
  waited : ∀ row ∈ event.before.executionRows, row.get "id" = .text id →
    row.status? = some .waiting

theorem Client.Obeys.traverses?_eq {client : Client} {s : Standing} (obeys : client.Obeys s)
    {id : String} (traverses : client.traverses? = some id) :
    ∃ v, s.walking = some v ∧ v.id = id := by
  obtain ⟨task, program⟩ := client
  cases program with
  | done value => cases traverses
  | ask traversed request next =>
    obtain ⟨after, ⟨label, _⟩, _⟩ := obeys
    have walks : s.walking.map (·.id) = some id := label.symm.trans traverses
    exact Option.map_eq_some_iff.mp walks

/-- A client that has begun to traverse an execution asks its next request for that. -/
theorem Client.Obeys.traverses?_of_walking {client : Client} {s : Standing} {v : Execution}
    (obeys : client.Obeys s) (walks : s.walking = some v) : client.traverses? = some v.id := by
  obtain ⟨task, program⟩ := client
  cases program with
  | done value =>
    have idle : s.walking = none := obeys
    rw [walks] at idle
    cases idle
  | ask traversed request next =>
    obtain ⟨after, ⟨label, _⟩, _⟩ := obeys
    exact label.trans (traversed_of_walking walks)

variable {view : View} {issued : List String} {standing : Nat → Standing} {event : Event}
  {next : Except Failure (List Row) → Standing} {id : String}

theorem Event.Begins.not_same (begins : event.Begins id)
    (same : event.after.executionRows = event.before.executionRows) : False := by
  obtain ⟨row, present, isId, active⟩ := begins.active
  rw [same] at present
  have waited := begins.waited row present isId
  rw [active] at waited
  cases waited

/-- Who begins a traversal walks from then on. -/
theorem Sound.walking_of_begins (sound : Sound view event.before.executionRows issued standing)
    (begins : event.Begins id) (permits : event.task.Permits (standing event.client)
      (.query event.query) next)
    (handles : event.query.Handles event.before event.after event.answer) :
    ∃ v, (next event.answer).walking = some v ∧ v.id = id := by
  have notSame := begins.not_same
  obtain ⟨answered, answers, told⟩ := begins.told
  have after : event.after = (event.query.run event.before).2 :=
    handles.after_cases.resolve_left fun same => notSame (by rw [same])
  have saves {v e : Execution} (asks : event.query = Store.saveQuery e)
      (held : v ∈ (standing event.client).held) (keeps : v.Keeps e) :
      v.status = .waiting ∧ e.status = .active ∧ e.id = id := by
    obtain ⟨row, present, isId, active⟩ := begins.active
    rw [after, asks, Execution.executionRows_run_save] at present
    obtain ⟨earlier, earlierPresent, rfl⟩ := List.mem_map.mp present
    rw [sound.get_id_overwrite held keeps earlierPresent] at isId
    have waited := begins.waited earlier earlierPresent isId
    rcases sound.overwrite_cases held keeps earlierPresent with
      ⟨_, same⟩ | ⟨_, shown, _, written, _⟩
    · rw [same, waited] at active
      cases active
    · rw [(view.heads shown).status] at waited
      rw [(view.heads written).status] at active
      refine ⟨Option.some.inj waited, Option.some.inj active, ?_⟩
      rw [(view.heads shown).id] at isId
      exact keeps.id.trans (Json.text.inj isId)
  generalize asks : event.query = query at permits
  cases permits with
  | aside _ apart => exact absurd (handles.executionRows_of_ne (asks ▸ apart)) notSame
  | seek => exact absurd (handles.executionRows_of_ne (asks ▸ nofun)) notSame
  | select =>
    refine absurd ?_ notSame
    rw [after, asks]
    rfl
  | create e idle reserved isNew =>
    obtain ⟨row, present, isId, active⟩ := begins.active
    rw [after, asks, (Execution.run_insert isNew event.before).2] at present
    rw [told]
    refine ⟨e, rfl, ?_⟩
    rcases List.mem_append.mp present with old | new
    · have waited := begins.waited row old isId
      rw [active] at waited
      cases waited
    · rw [List.mem_singleton.mp new, (view.heads (view.creates isNew).2).id] at isId
      exact Json.text.inj isId
  | intervene v e idle held change =>
    obtain ⟨waited, active, isId⟩ := saves asks held change.keeps
    rw [told, waited, active]
    exact ⟨e.saved, rfl, isId⟩
  | advance v e walks change =>
    obtain ⟨waited, _⟩ := saves asks ((standing event.client).walkingHeld v walks) change.keeps
    rw [change.active] at waited
    cases waited

/-- However the requests of all clients are interleaved, and whichever queries fail, at no moment do
two clients traverse the same execution; and a client that creates an execution or claims one that
waits traverses it from then on. -/
theorem one_traversal_at_a_time {tables : Tables} {events : List Event} {sys : System}
    (unique : tables.UniqueIds) (runs : System.Runs (.start tables) events sys) :
    (∀ (i j : Nat) (a b : Client) (id : String), sys.clients[i]? = some a → sys.clients[j]? = some b →
      a.traverses? = some id → b.traverses? = some id → i = j) ∧
    ∀ (event : Event) (sys' : System) (id : String), System.Step sys (some event) sys' →
      event.Begins id → ∃ client, sys'.clients[event.client]? = some client ∧
        client.traverses? = some id := by
  have started : Consistent .loose (.start tables) _ := .start unique fun _ _ => trivial
  obtain ⟨_, standing, consistent⟩ := started.runs runs
  constructor
  · intro i j a b id isA isB first second
    obtain ⟨v, walks, rfl⟩ := (consistent.obeys i a isA).traverses?_eq first
    obtain ⟨w, alsoWalks, same⟩ := (consistent.obeys j b isB).traverses?_eq second
    exact consistent.sound.alone i j v w walks alsoWalks same.symm
  · intro event sys' id step begins
    cases step with
    | query i task traversed query next after answer asks handles =>
      obtain ⟨then?, label, permits, consistent'⟩ := consistent.query asks handles
      obtain ⟨v, walks, rfl⟩ := consistent.sound.walking_of_begins begins permits handles
      have there : i < sys.clients.length := (List.getElem?_eq_some_iff.mp asks).1
      refine ⟨⟨task, next answer⟩, List.getElem?_set_self there, ?_⟩
      have obeys := consistent'.obeys i ⟨task, next answer⟩ (List.getElem?_set_self there)
      rw [Function.update_self] at obeys
      exact obeys.traverses?_of_walking walks

/-- The client that stores the execution traverses it, and nobody else does. -/
theorem one_traversal_at_a_time_greeting :
    let sys := (Example.system.playAll (Example.turns [0, 0, 0, 0])).2
    ∃ event sys' client, System.Step sys (some event) sys' ∧ event.Begins "execution" ∧
      sys'.clients[event.client]? = some client ∧ client.traverses? = some "execution" ∧
      ∀ (j : Nat) (other : Client), sys'.clients[j]? = some other →
        other.traverses? = some "execution" → event.client = j := by
  intro sys
  have runs := Example.runs (Example.turns [0, 0, 0, 0])
  let move : Move := { client := 0, id := "execution" }
  have creates : (sys.play move).1.isSome = true := by decide +kernel
  have facts : ∀ event ∈ (sys.play move).1, (event.query.run event.before).1 ≠ [] ∧
      (∃ row ∈ event.after.executionRows, row.get "id" = .text "execution" ∧
        row.status? = some .active) ∧ event.before.executionRows = [] := by decide +kernel
  obtain ⟨event, asked⟩ := Option.isSome_iff_exists.mp creates
  obtain ⟨answered, active, none⟩ := facts event asked
  rcases sys.play_cases move with stays | ⟨step, served⟩
  · rw [stays] at asked
    cases asked
  · rw [asked] at step
    obtain ⟨row, rows, found⟩ := List.exists_cons_of_ne_nil answered
    have begins : event.Begins "execution" := by
      refine ⟨⟨row, rows, ?_⟩, active, ?_⟩
      · rw [(served event asked).answers, found]
      · rw [none]
        exact fun row present => absurd present List.not_mem_nil
    obtain ⟨client, there, traverses⟩ :=
      (one_traversal_at_a_time Example.uniqueIds runs).2 event _ "execution" step begins
    have goesOn := runs.trans (.step step (.nil _))
    exact ⟨event, _, client, step, begins, there, traverses, fun j other isOther also =>
      (one_traversal_at_a_time Example.uniqueIds goesOn).1 _ j client other "execution" there
        isOther traverses also⟩

end MessageFlow
