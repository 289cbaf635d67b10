import MessageFlow.Proofs.Interleaving.Consistent
import MessageFlow.Proofs.Interleaving.Exclusive
import MessageFlow.Proofs.Interleaving.Schedule

/-!
Finished executions are never written again, and those that are finished before any client begins
are never traversed.
-/

namespace MessageFlow

theorem Row.status?_of_get {row : Row} {status : Status}
    (stored : row.get "status" = .text status.text) : row.status? = some status :=
  Row.status?_of_get? (Row.get?_of_get stored nofun)

/-- A lawful query leaves the row of a finished execution in its place, as it is. -/
theorem Event.Lawful.frozen {view : View} {event : Event} (lawful : event.Lawful view) {i : Nat}
    {row : Row} {status : Status} (read : row.status? = some status)
    (terminal : status.isTerminal = true) (stored : event.before.executionRows[i]? = some row) :
    event.after.executionRows[i]? = some row := by
  cases lawful with
  | aside same =>
    rw [same]
    exact stored
  | creation e isNew asks unknown stores =>
    rw [stores, List.getElem?_append_left (List.getElem?_eq_some_iff.mp stored).1]
    exact stored
  | save v e asks change shows stores =>
    have notMeant : e.isWrittenOver row = false := by
      cases meant : e.isWrittenOver row with
      | false => rfl
      | true =>
        have heads := view.heads (shows row (List.mem_of_getElem? stored) meant)
        have same : v.status = status := by
          rw [heads.status] at read
          exact Option.some.inj read
        have isOpen : v.status.isTerminal = false := change.isOpen
        rw [same, terminal] at isOpen
        cases isOpen
    rw [stores, List.getElem?_map, stored]
    change some (e.overwrite row) = some row
    rw [Execution.overwrite, notMeant]
    rfl

/-- However the requests of all clients are interleaved, and whichever queries fail, the row of a
completed or failed execution stays as it is. -/
theorem finished_row_is_frozen {tables : Tables} {past later : List Event} {mid now : System}
    (unique : tables.UniqueIds) (begins : System.Runs (.start tables) past mid)
    (goes : System.Runs mid later now) {i : Nat} {row : Row}
    (stored : mid.tables.executionRows[i]? = some row)
    (finished : row.get "status" = .text Status.completed.text ∨
      row.get "status" = .text Status.failed.text) :
    now.tables.executionRows[i]? = some row := by
  have started : Consistent .loose (.start tables) _ := .start unique fun _ _ => trivial
  obtain ⟨_, standing, consistent⟩ := started.runs begins
  have lawful := (consistent.runs goes).1
  have terminal : ∃ status : Status, row.status? = some status ∧ status.isTerminal = true := by
    rcases finished with completed | failed
    · exact ⟨_, Row.status?_of_get completed, rfl⟩
    · exact ⟨_, Row.status?_of_get failed, rfl⟩
  obtain ⟨status, read, isTerminal⟩ := terminal
  apply goes.keeps (fun tables => tables.executionRows[i]? = some row) stored
  intro event present before
  exact (lawful event present).frozen read isTerminal before

/-- A reply that was read while the execution was active and is written after it is completed. -/
theorem finished_row_is_frozen_late_reply :
    let mid := (Example.system.playAll (Example.turns [0, 0, 0, 0, 0, 0, 0, 0, 1, 0, 0, 0, 0])).2
    ∃ row, mid.tables.executionRows[0]? = some row ∧
      row.get "status" = .text Status.completed.text ∧
      (mid.playAll (Example.turns [1, 1, 1])).2.tables.executionRows[0]? = some row := by
  intro mid
  have completed : (mid.tables.executionRows[0]?).map (·.get "status") =
      some (.text Status.completed.text) := by decide +kernel
  obtain ⟨row, stored, status⟩ := Option.map_eq_some_iff.mp completed
  refine ⟨row, stored, status, ?_⟩
  exact finished_row_is_frozen Example.uniqueIds (Example.runs _)
    (mid.runs_playAll (Example.turns [1, 1, 1])).1 stored (.inl status)

/-!
Executions that are finished before any client begins are never traversed.
-/

open Standing

variable {view : View} {sys sys' : System} {standing : Nat → Standing} {id : String}

/-- The execution with that id is finished, and nobody traverses it. -/
structure Shelved (rows : List Row) (standing : Nat → Standing) (id : String) : Prop where
  finished : ∃ row ∈ rows, row.get "id" = .text id ∧
    ∃ status, row.status? = some status ∧ status.isTerminal = true
  unvisited : ∀ i v, (standing i).walking = some v → v.id ≠ id

/-- A lawful query leaves a finished execution finished. -/
theorem Event.Lawful.finished {event : Event} (lawful : event.Lawful view)
    (finished : ∃ row ∈ event.before.executionRows, row.get "id" = .text id ∧
      ∃ status, row.status? = some status ∧ status.isTerminal = true) :
    ∃ row ∈ event.after.executionRows, row.get "id" = .text id ∧
      ∃ status, row.status? = some status ∧ status.isTerminal = true := by
  obtain ⟨row, present, isId, status, read, terminal⟩ := finished
  obtain ⟨i, stored⟩ := List.mem_iff_getElem?.mp present
  have still := lawful.frozen read terminal stored
  exact ⟨row, List.mem_of_getElem? still, isId, status, read, terminal⟩

namespace Sound

variable {before after : Tables} {issued : List String} {i : Nat} {v e : Execution}
  {answer : Except Failure (List Row)}

/-- A write that meets a row is not one of a finished execution. -/
theorem ne_of_written (sound : Sound view before.executionRows issued standing)
    (held : v ∈ (standing i).held) (keeps : v.Keeps e) (isOpen : v.isTerminal = false)
    (shelved : Shelved before.executionRows standing id) {row : Row}
    (present : row ∈ before.executionRows) (meant : e.isWrittenOver row = true) : v.id ≠ id := by
  rintro rfl
  obtain ⟨other, otherPresent, isId, status, read, terminal⟩ := shelved.finished
  rcases sound.overwrite_cases held keeps present with ⟨notMeant, _⟩ | ⟨_, shown, _⟩
  · rw [meant] at notMeant
    cases notMeant
  · have heads := view.heads shown
    have same : row = other := sound.eq_of_id present otherPresent (heads.id.trans isId.symm)
    have alike : v.status = status := by
      rw [← same, heads.status] at read
      exact Option.some.inj read
    rw [Execution.isTerminal, alike, terminal] at isOpen
    cases isOpen

theorem unvisited_afterSave (sound : Sound view before.executionRows issued standing)
    (held : v ∈ (standing i).held) (keeps : v.Keeps e) (isOpen : v.isTerminal = false)
    (shelved : Shelved before.executionRows standing id) (goesOn : Bool)
    (handles : (Store.saveQuery e).Handles before after answer) {w : Execution}
    (walks : ((standing i).afterSave e goesOn answer).walking = some w) : w.id ≠ id := by
  rcases answered : answer with failure | _ | ⟨first, others⟩
  · rw [answered] at walks
    cases walks
  · rw [answered] at walks
    cases walks
  · have written := (handles.served_of_rows answered).1
    rw [Execution.run_save] at written
    have isWritten : first ∈ (before.executionRows.filter e.isWrittenOver).map e.writeOver :=
      written ▸ .head others
    obtain ⟨row, selected, _⟩ := List.mem_map.mp isWritten
    obtain ⟨present, meant⟩ := List.mem_filter.mp selected
    rw [answered] at walks
    cases goesOn with
    | false => cases walks
    | true =>
      cases walks
      change e.id ≠ id
      rw [keeps.id]
      exact sound.ne_of_written held keeps isOpen shelved present meant

/-- No query lets a client traverse a finished execution. -/
theorem unvisited_next {task : Task} {query : Query} {next : Except Failure (List Row) → Standing}
    (sound : Sound view before.executionRows issued standing)
    (permits : task.Permits (standing i) (.query query) next)
    (handles : query.Handles before after answer)
    (shelved : Shelved before.executionRows standing id) :
    ∀ w, (next answer).walking = some w → w.id ≠ id := by
  intro w walks
  cases permits with
  | aside => exact shelved.unvisited i w walks
  | seek =>
    rcases (standing i).afterSeek_cases answer with same | rests
    · rw [same] at walks
      exact shelved.unvisited i w walks
    · rw [rests] at walks
      cases walks
  | select =>
    cases answer with
    | error failure => exact shelved.unvisited i w walks
    | ok rows => exact shelved.unvisited i w walks
  | create e idle reserved isNew =>
    obtain ⟨row, present, isId, _⟩ := shelved.finished
    have unknown := (sound.reserves i e.id reserved).2.1 row present
    cases answer with
    | error failure => cases walks
    | ok rows =>
      cases walks
      rintro rfl
      exact unknown isId
  | intervene v e idle held change =>
    exact sound.unvisited_afterSave held change.keeps change.isOpen shelved _ handles walks
  | advance v e walking change =>
    have isOpen : v.isTerminal = false := by
      rw [Execution.isTerminal, change.active]
      rfl
    exact sound.unvisited_afterSave ((standing i).walkingHeld v walking) change.keeps isOpen shelved
      _ handles walks

end Sound

namespace Shelved

theorem update {rows : List Row} {i : Nat} {s : Standing} (shelved : Shelved rows standing id)
    (unvisited : ∀ v, s.walking = some v → v.id ≠ id) :
    Shelved rows (Function.update standing i s) id where
  finished := shelved.finished
  unvisited j v walks := by
    by_cases mine : j = i
    · rw [mine, Function.update_self] at walks
      exact unvisited v walks
    · rw [Function.update_of_ne mine] at walks
      exact shelved.unvisited j v walks

theorem step (consistent : Consistent view sys standing) {event : Option Event}
    (step : System.Step sys event sys') (shelved : Shelved sys.tables.executionRows standing id) :
    ∃ standing', Consistent view sys' standing' ∧
      Shelved sys'.tables.executionRows standing' id := by
  cases step with
  | begin deployment task ready =>
    exact ⟨_, consistent.begin deployment ready, shelved.update fun v walks => by cases walks⟩
  | query i task traversed query next after answer asks handles =>
    obtain ⟨then?, label, permits, consistent'⟩ := consistent.query asks handles
    have lawful : Event.Lawful view ⟨i, task, traversed, query, sys.tables, after, answer⟩ :=
      consistent.sound.lawful label permits handles
    have unvisited := consistent.sound.unvisited_next permits handles shelved
    exact ⟨_, consistent', { shelved.update unvisited with
      finished := lawful.finished shelved.finished }⟩
  | freshId i task traversed next id' asks fresh =>
    obtain ⟨s, same, consistent'⟩ := consistent.freshId asks fresh
    exact ⟨_, consistent', shelved.update fun v walks => shelved.unvisited i v (same ▸ walks)⟩
  | outside i task traversed request next answer asks noQuery noId =>
    exact ⟨_, consistent.outside answer asks noQuery noId, shelved⟩

theorem runs (consistent : Consistent view sys standing) {events : List Event}
    (runs : System.Runs sys events sys') (shelved : Shelved sys.tables.executionRows standing id) :
    ∃ standing', Consistent view sys' standing' ∧
      Shelved sys'.tables.executionRows standing' id := by
  induction runs generalizing standing with
  | nil => exact ⟨standing, consistent, shelved⟩
  | step first rest ih =>
    obtain ⟨next, consistent', still⟩ := step consistent first shelved
    exact ih consistent' still

end Shelved

/-- However the requests of all clients are interleaved, and whichever queries fail, nobody ever
traverses an execution that was finished at the start. -/
theorem System.Runs.not_traversed {tables : Tables} {events : List Event} {last : System}
    (unique : tables.UniqueIds) (runs : System.Runs (.start tables) events last) {row : Row}
    (present : row ∈ tables.executionRows) (isId : row.get "id" = .text id) {status : Status}
    (read : row.status? = some status) (terminal : status.isTerminal = true) :
    ∀ client ∈ last.clients, client.traverses? ≠ some id := by
  have started : Consistent .loose (.start tables) _ := .start unique fun _ _ => trivial
  have shelved : Shelved tables.executionRows (fun _ => holding ∅) id :=
    ⟨⟨row, present, isId, status, read, terminal⟩, fun i v walks => by cases walks⟩
  obtain ⟨standing, consistent, still⟩ := Shelved.runs started runs shelved
  intro client among traverses
  obtain ⟨i, there⟩ := List.mem_iff_getElem?.mp among
  obtain ⟨v, walks, same⟩ := (consistent.obeys i client there).traverses?_eq traverses
  exact still.unvisited i v walks same

end MessageFlow
