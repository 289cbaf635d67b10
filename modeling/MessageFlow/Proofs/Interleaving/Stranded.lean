import MessageFlow.Proofs.Interleaving.Consistent
import MessageFlow.Proofs.Interleaving.Schedule

/-!
What carries an active execution on: the client that traverses it. Where nothing is refused, only a
message that is written over an active execution from outside its traversal leaves it without one.
-/

namespace MessageFlow
open Standing

/-- The query was served, and the flows that were stored by then can be read. -/
structure Event.Undisturbed (event : Event) : Prop extends event.IsServed where
  flows : ∀ row ∈ event.before.rows .flows, (Flow.read (.record row)).toOption.isSome = true

/-- A message was written over the active execution from outside its traversal. -/
structure Event.Strands (event : Event) (id : String) : Prop where
  message : event.task.message?.isSome = true
  outside : event.traversed = none
  active : ∃ row, event.before.executionRow? id = some row ∧ row.status? = some .active
  stays : ∃ row, event.after.executionRow? id = some row ∧ row.status? = some .active

/-- The last query that wrote over the execution. -/
def lastWrite? (id : String) (events : List Event) : Option Event :=
  (events.filter fun event => (event.overwritten? id).isSome).getLast?

theorem lastWrite?_concat (id : String) (events : List Event) (event : Event) :
    lastWrite? id (events ++ [event]) =
      if (event.overwritten? id).isSome then some event else lastWrite? id events := by
  simp only [lastWrite?, List.filter_append, List.filter_cons, List.filter_nil]
  split
  · exact List.getLast?_concat
  · rw [List.append_nil]

theorem lastWrite?_of_unwritten {id : String} (events : List Event) {event : Event}
    (unwritten : event.overwritten? id = none) :
    lastWrite? id (events ++ [event]) = lastWrite? id events := by
  rw [lastWrite?_concat, unwritten]
  rfl

theorem lastWrite?_of_written {id : String} (events : List Event) {event : Event} {revision : Int}
    (written : event.overwritten? id = some revision) :
    lastWrite? id (events ++ [event]) = some event := by
  rw [lastWrite?_concat, written]
  rfl

theorem Event.Undisturbed.handles {event : Event} (undisturbed : event.Undisturbed) :
    event.query.Handles event.before event.after event.answer := by
  rw [undisturbed.stores, undisturbed.answers]
  exact .served

/-- How a query bears on the execution with an id, when its client goes on from one standing to
another. -/
inductive Event.Affects (event : Event) (id : String) (s s' : Standing) : Prop
  | aside (same : event.after.executionRow? id = event.before.executionRow? id)
    (walks : ∀ v row, s.walking = some v → v.id = id →
      event.before.executionRow? id = some row → row.get "revision" = .int v.revision →
      s'.walking = some v)
  | creation (e : Execution) (named : e.id = id) (isNew : e.IsNew)
    (before : event.before.executionRow? id = none)
    (after : event.after.executionRow? id = some e.row) (walks : s'.walking = some e)
  | write (v e : Execution) (earlier later : Row) (named : e.id = id)
    (before : event.before.executionRow? id = some earlier)
    (after : event.after.executionRow? id = some later) (moved : earlier ≠ later)
    (shown : earlier.Heads v) (written : later.Heads e.saved)
    (revision : later.get "revision" = .int e.saved.revision)
    (unpaused : v.status ≠ .paused → e.status ≠ .paused)
    (carried : e.status = .active → s'.walking = some e.saved ∨ event.Strands id)

namespace Event.Affects

variable {event : Event} {id : String} {s s' : Standing}

theorem of_idle (idle : s.walking = none)
    (same : event.after.executionRow? id = event.before.executionRow? id) :
    event.Affects id s s' := by
  refine .aside same fun v row walks => ?_
  rw [idle] at walks
  cases walks

theorem of_same (same : event.after.executionRow? id = event.before.executionRow? id)
    (walks : s'.walking = s.walking) : event.Affects id s s' :=
  .aside same fun _ _ walking _ _ _ => walks.trans walking

end Event.Affects

namespace Sound

variable {view : View} {issued : List String} {standing : Nat → Standing} {event : Event}
  {id : String} {v e : Execution}

/-- A write is of no effect, or goes over the version that its client has seen. -/
theorem affects_save (sound : Sound view event.before.executionRows issued standing)
    (undisturbed : event.Undisturbed) (asks : event.query = Store.saveQuery e)
    (held : v ∈ (standing event.client).held) (change : event.task.Changes event.traversed v e)
    (only : ∀ w, (standing event.client).walking = some w → w = v) {goesOn : Bool}
    (goes : e.status = .active → goesOn = true ∨
      (v.status = .active ∧ event.task.message?.isSome = true ∧ event.traversed = none)) :
    event.Affects id (standing event.client)
      ((standing event.client).afterSave e goesOn event.answer) := by
  have stores : event.after.executionRows = event.before.executionRows.map e.overwrite := by
    rw [undisturbed.stores, asks, Execution.executionRows_run_save]
  have after := Tables.executionRow?_map stores
    (fun row present => sound.get_id_overwrite held change.keeps present) id
  cases before : event.before.executionRow? id with
  | none =>
    rw [before] at after
    refine .aside (after.trans before.symm) fun w row _ _ found => ?_
    rw [before] at found
    cases found
  | some row =>
    obtain ⟨present, isId⟩ := Tables.mem_of_executionRow? before
    rw [before, Option.map_some] at after
    rcases sound.overwrite_cases held change.keeps present with
      ⟨notMeant, same⟩ | ⟨meant, shown, _, written, revision⟩
    · rw [same] at after
      refine .aside (after.trans before.symm) fun w other walks named found current => ?_
      rw [before] at found
      cases found
      obtain rfl := only w walks
      have meant : e.isWrittenOver row = true := by
        rw [Execution.isWrittenOver_iff, change.keeps.id, change.keeps.revision, current, named]
        exact ⟨isId, Json.same_int.mpr rfl⟩
      rw [meant] at notMeant
      cases notMeant
    · have shownHeads := view.heads shown
      have writtenHeads := view.heads written
      have named : e.id = id := by
        rw [shownHeads.id] at isId
        exact change.keeps.id.trans (Json.text.inj isId)
      refine .write v e row (e.overwrite row) named before after
        (Execution.overwrite_ne meant).symm shownHeads writtenHeads ?_ change.unpaused ?_
      · rw [revision, ← change.keeps.revision]
        rfl
      · intro active
        rcases goes active with on | ⟨wasActive, message, outside⟩
        · refine .inl ?_
          have isMeant : row ∈ event.before.executionRows.filter e.isWrittenOver :=
            List.mem_filter.mpr ⟨present, meant⟩
          rw [undisturbed.answers, asks, Execution.run_save, on]
          cases found : event.before.executionRows.filter e.isWrittenOver with
          | nil =>
            rw [found] at isMeant
            cases isMeant
          | cons other rows => rfl
        · refine .inr ⟨message, outside, ⟨row, before, ?_⟩, ⟨_, after, ?_⟩⟩
          · rw [shownHeads.status, wasActive]
          · rw [writtenHeads.status]
            exact congrArg some active

theorem affects_create (sound : Sound view event.before.executionRows issued standing)
    (undisturbed : event.Undisturbed) (asks : event.query = .insert .executions e.row)
    (idle : (standing event.client).walking = none)
    (reserved : (standing event.client).reserved = some e.id) (isNew : e.IsNew) :
    event.Affects id (standing event.client)
      ((standing event.client).afterCreation e event.answer) := by
  have unknown := (sound.reserves event.client e.id reserved).2.1
  have stores : event.after.executionRows = event.before.executionRows ++ [e.row] := by
    rw [undisturbed.stores, asks]
    exact (Execution.run_insert isNew event.before).2
  have named : Row.get e.row "id" = .text e.id := (view.heads (view.creates isNew).2).id
  have after := Tables.executionRow?_append stores (named ▸ unknown) id
  rw [named] at after
  by_cases mine : e.id = id
  · rw [if_pos (congrArg Json.text mine)] at after
    have before := Tables.executionRow?_eq_none.mpr (mine ▸ unknown)
    refine .creation e mine isNew before after ?_
    rw [undisturbed.answers]
    rfl
  · rw [if_neg fun same => mine (Json.text.inj same)] at after
    exact .of_idle idle after

/-- What a client asks while nothing is refused bears on an execution in one of three ways. -/
theorem affects (sound : Sound view event.before.executionRows issued standing)
    (undisturbed : event.Undisturbed) (label : event.traversed = (standing event.client).traversed)
    {next : Except Failure (List Row) → Standing}
    (permits : event.task.Permits (standing event.client) (.query event.query) next) (id : String) :
    event.Affects id (standing event.client) (next event.answer) := by
  have handles := undisturbed.handles
  have elsewhere (apart : event.query.table ≠ .executions) :
      event.after.executionRow? id = event.before.executionRow? id := by
    rw [Tables.executionRow?, handles.executionRows_of_ne apart]
    rfl
  generalize asks : event.query = query at permits
  cases permits with
  | aside _ apart => exact .of_same (elsewhere (asks ▸ apart)) rfl
  | seek filters order limit =>
    have apart : event.query.table ≠ .executions := by
      rw [asks]
      exact Table.noConfusion
    refine .of_same (elsewhere apart) ?_
    rw [undisturbed.answers, asks]
    cases found : ((Query.select .flows filters order limit).run event.before).1 with
    | nil => rfl
    | cons row rows =>
      have stored : row ∈ event.before.rows .flows := by
        apply @Query.mem_of_mem_select _ .flows filters order limit row
        rw [found]
        exact .head rows
      rw [afterSeek, if_pos (undisturbed.flows row stored)]
  | select filters order limit =>
    have same : event.after = event.before := by
      rw [undisturbed.stores, asks]
      rfl
    refine .of_same (by rw [same]) ?_
    rw [undisturbed.answers]
    rfl
  | create e idle reserved isNew => exact sound.affects_create undisturbed asks idle reserved isNew
  | intervene v e idle held change =>
    refine sound.affects_save undisturbed asks held
      (.inl ⟨label.trans (traversed_of_idle idle), change⟩) ?_ ?_
    · intro w walks
      rw [idle] at walks
      cases walks
    · intro active
      rw [Bool.and_eq_true, beq_iff_eq, beq_iff_eq]
      by_cases waits : v.status = .waiting
      · exact .inl ⟨waits, active⟩
      · rcases change.status waits with failed | ⟨same, message⟩
        · rw [active] at failed
          cases failed
        · exact .inr ⟨same ▸ active, message, label.trans (traversed_of_idle idle)⟩
  | advance v e walks change =>
    refine sound.affects_save undisturbed asks ((standing event.client).walkingHeld v walks)
      (.inr ⟨label.trans (traversed_of_walking walks), change⟩) ?_ ?_
    · intro w walking
      rw [walks] at walking
      exact (Option.some.inj walking).symm
    · intro active
      exact .inl (beq_iff_eq.mpr active)

end Sound

/-- An execution is never paused. While it is active, a client traverses it as it is stored, unless
its last write has stranded it, and then it is active. -/
structure Attended (tables : Tables) (standing : Nat → Standing) (past : List Event) (id : String) :
    Prop where
  unpaused : ∀ row, tables.executionRow? id = some row →
    ∃ status, row.status? = some status ∧ status ≠ .paused
  carried : ∀ row, tables.executionRow? id = some row → row.status? = some .active →
    (∃ i v, (standing i).walking = some v ∧ v.id = id ∧ row.get "revision" = .int v.revision) ∨
      ∃ event, lastWrite? id past = some event ∧ event.Strands id
  stranded : ∀ event, lastWrite? id past = some event → event.Strands id →
    ∃ row, tables.executionRow? id = some row ∧ row.status? = some .active

namespace Attended

variable {tables : Tables} {standing : Nat → Standing} {past : List Event} {id : String}

theorem absent (absent : tables.executionRow? id = none) : Attended tables standing [] id where
  unpaused row found := by
    rw [absent] at found
    cases found
  carried row found := by
    rw [absent] at found
    cases found
  stranded event last := by cases last

/-- Clients may change their standings so long as they go on with what they traverse. -/
theorem update (attended : Attended tables standing past id) {i : Nat} {s : Standing}
    (walks : ∀ v, (standing i).walking = some v → s.walking = some v) :
    Attended tables (Function.update standing i s) past id where
  unpaused := attended.unpaused
  carried row found active := by
    rcases attended.carried row found active with ⟨j, v, walking, named, current⟩ | stranded
    · refine .inl ⟨j, v, ?_, named, current⟩
      by_cases mine : j = i
      · rw [mine, Function.update_self]
        exact walks v (mine ▸ walking)
      · rw [Function.update_of_ne mine]
        exact walking
    · exact .inr stranded
  stranded := attended.stranded

section Query

variable {event : Event} {s : Standing}

theorem query_aside (attended : Attended event.before standing past id)
    (same : event.after.executionRow? id = event.before.executionRow? id)
    (walks : ∀ v row, (standing event.client).walking = some v → v.id = id →
      event.before.executionRow? id = some row → row.get "revision" = .int v.revision →
      s.walking = some v) :
    Attended event.after (Function.update standing event.client s) (past ++ [event]) id := by
  have last := lastWrite?_of_unwritten past (Event.overwritten?_of_same same)
  constructor
  · rw [same]
    exact attended.unpaused
  · intro row found active
    rw [same] at found
    rw [last]
    rcases attended.carried row found active with ⟨j, v, walking, named, current⟩ | stranded
    · refine .inl ⟨j, v, ?_, named, current⟩
      by_cases mine : j = event.client
      · rw [mine, Function.update_self]
        exact walks v row (mine ▸ walking) named found current
      · rw [Function.update_of_ne mine]
        exact walking
    · exact .inr stranded
  · rw [same, last]
    exact attended.stranded

theorem query_creation {e : Execution} (attended : Attended event.before standing past id)
    (named : e.id = id) (isNew : e.IsNew) (before : event.before.executionRow? id = none)
    (after : event.after.executionRow? id = some e.row) (walks : s.walking = some e) :
    Attended event.after (Function.update standing event.client s) (past ++ [event]) id := by
  have plain := (Execution.regular_of_isNew isNew).plain
  have heads := Execution.heads_row plain
  have unwritten : event.overwritten? id = none := by rw [Event.overwritten?, before]
  have last := lastWrite?_of_unwritten past unwritten
  constructor
  · intro row found
    rw [after] at found
    cases found
    refine ⟨e.status, heads.status, ?_⟩
    rw [isNew.status]
    exact Status.noConfusion
  · intro row found active
    rw [after] at found
    cases found
    refine .inl ⟨event.client, e, ?_, named, ?_⟩
    · rw [Function.update_self]
      exact walks
    · rw [Row.get, Execution.get?_revision plain]
      rfl
  · intro other isLast strands
    rw [last] at isLast
    obtain ⟨row, found, _⟩ := attended.stranded other isLast strands
    rw [before] at found
    cases found

theorem query_write {v e : Execution} {earlier later : Row}
    (attended : Attended event.before standing past id) (named : e.id = id)
    (before : event.before.executionRow? id = some earlier)
    (after : event.after.executionRow? id = some later) (moved : earlier ≠ later)
    (shown : earlier.Heads v) (written : later.Heads e.saved)
    (revision : later.get "revision" = .int e.saved.revision)
    (unpaused : v.status ≠ .paused → e.status ≠ .paused)
    (carried : e.status = .active → s.walking = some e.saved ∨ event.Strands id) :
    Attended event.after (Function.update standing event.client s) (past ++ [event]) id := by
  have overwritten : event.overwritten? id = some v.revision := by
    rw [Event.overwritten?, before, after]
    exact (if_neg moved).trans shown.revision
  have last := lastWrite?_of_written past overwritten
  constructor
  · intro row found
    rw [after] at found
    cases found
    refine ⟨e.status, written.status, unpaused ?_⟩
    obtain ⟨status, isStatus, notPaused⟩ := attended.unpaused earlier before
    rw [shown.status] at isStatus
    cases isStatus
    exact notPaused
  · intro row found active
    rw [after] at found
    cases found
    rw [written.status] at active
    rcases carried (Option.some.inj active) with walks | strands
    · refine .inl ⟨event.client, e.saved, ?_, named, revision⟩
      rw [Function.update_self]
      exact walks
    · exact .inr ⟨event, last, strands⟩
  · intro other isLast strands
    rw [last] at isLast
    cases isLast
    exact strands.stays

theorem query (attended : Attended event.before standing past id)
    (affects : event.Affects id (standing event.client) s) :
    Attended event.after (Function.update standing event.client s) (past ++ [event]) id := by
  cases affects with
  | aside same walks => exact attended.query_aside same walks
  | creation e named isNew before after walks =>
    exact attended.query_creation named isNew before after walks
  | write v e earlier later named before after moved shown written revision unpaused carried =>
    exact attended.query_write named before after moved shown written revision unpaused carried

end Query

end Attended

namespace Consistent

variable {view : View} {sys last : System} {standing : Nat → Standing} {past events : List Event}
  {id : String}

/-- Along an undisturbed run every execution stays attended to. -/
theorem attended (consistent : Consistent view sys standing) (runs : System.Runs sys events last)
    (undisturbed : ∀ event ∈ events, event.Undisturbed)
    (attended : Attended sys.tables standing past id) :
    ∃ standing', Consistent view last standing' ∧
      Attended last.tables standing' (past ++ events) id := by
  induction runs generalizing standing past with
  | nil =>
    rw [List.append_nil]
    exact ⟨standing, consistent, attended⟩
  | step first rest ih =>
    cases first with
    | begin deployment task ready =>
      refine ih (consistent.begin deployment ready) undisturbed
        (attended.update fun v walking => ?_)
      rw [consistent.absent _ le_rfl] at walking
      cases walking
    | freshId i task traversed next id asks fresh =>
      obtain ⟨s, same, after⟩ := consistent.freshId asks fresh
      exact ih after undisturbed (attended.update fun v walking => same.trans walking)
    | outside i task traversed request next answer asks noQuery noId =>
      exact ih (consistent.outside answer asks noQuery noId) undisturbed attended
    | query i task traversed query next after answer asks handles =>
      obtain ⟨then?, label, permits, consistent'⟩ := consistent.query asks handles
      have calm := undisturbed _ (.head _)
      have affects := consistent.sound.affects calm label permits id
      have attended' := attended.query affects
      have others := ih consistent' (fun event later => undisturbed event (.tail _ later)) attended'
      rw [List.append_assoc] at others
      exact others

/-- Nobody traverses an execution when all clients are done. -/
theorem idle (consistent : Consistent view sys standing)
    (done : ∀ client ∈ sys.clients, client.isDone = true) (i : Nat) :
    (standing i).walking = none := by
  by_cases there : i < sys.clients.length
  · have obeys := consistent.obeys i _ (List.getElem?_eq_getElem there)
    have finished := done _ (List.getElem_mem there)
    generalize sys.clients[i] = client at obeys finished
    obtain ⟨task, program⟩ := client
    cases program with
    | done value => exact obeys
    | ask traversed request next => cases finished
  · exact consistent.absent i (not_lt.mp there)

end Consistent

/-- Once all clients are done, and no query was refused and no stored flow was unreadable, a new
execution is waiting, completed or failed, unless its last write was that of a message over the
active execution, from outside its traversal. Then it is active. -/
theorem active_at_rest_iff {tables : Tables} {events : List Event} {now : System}
    (unique : tables.UniqueIds) (runs : System.Runs (.start tables) events now)
    (undisturbed : ∀ event ∈ events, event.Undisturbed)
    (done : ∀ client ∈ now.clients, client.isDone = true) {id : String}
    (new : tables.executionRow? id = none) {row : Row}
    (stored : now.tables.executionRow? id = some row) :
    ∃ status : Status, row.status? = some status ∧ status ≠ .paused ∧
      (status = .active ↔ ∃ event, lastWrite? id events = some event ∧ event.Strands id) := by
  have started : Consistent .loose (.start tables) _ := .start unique fun _ _ => trivial
  obtain ⟨standing, consistent, attended⟩ :=
    started.attended runs undisturbed (.absent new)
  obtain ⟨status, isStatus, notPaused⟩ := attended.unpaused row stored
  refine ⟨status, isStatus, notPaused, ?_, ?_⟩
  · intro same
    subst same
    rcases attended.carried row stored isStatus with ⟨i, v, walking, _⟩ | stranded
    · rw [consistent.idle done i] at walking
      cases walking
    · exact stranded
  · intro stranded
    obtain ⟨event, isLast, strands⟩ := stranded
    obtain ⟨other, found, active⟩ := attended.stranded event isLast strands
    rw [stored] at found
    cases found
    rw [isStatus] at active
    exact Option.some.inj active

/-- The crossing run is undisturbed, and leaves its execution active when all clients are done. -/
theorem Example.crossing_rests :
    (∀ event ∈ (system.playAll crossing).1, event.Undisturbed) ∧
      (∀ client ∈ (system.playAll crossing).2.clients, client.isDone = true) ∧
      ∃ row, (system.playAll crossing).2.tables.executionRow? "execution" = some row ∧
        row.status? = some .active := by
  have served := (system.runs_playAll crossing).2
  have readable : ∀ event ∈ (system.playAll crossing).1, ∀ row ∈ event.before.rows .flows,
      (Flow.read (.record row)).toOption.isSome = true := by decide +kernel
  have active : ((system.playAll crossing).2.tables.executionRow? "execution").bind Row.status? =
      some .active := by decide +kernel
  refine ⟨fun event present => ⟨served event present, readable event present⟩, ?_, ?_⟩
  · decide +kernel
  · exact Option.bind_eq_some_iff.mp active

theorem active_at_rest_iff_crossing : ∃ event,
    lastWrite? "execution" (Example.system.playAll Example.crossing).1 = some event ∧
      event.Strands "execution" := by
  obtain ⟨undisturbed, done, row, stored, active⟩ := Example.crossing_rests
  obtain ⟨status, isStatus, _, stranded⟩ := active_at_rest_iff Example.uniqueIds
    (Example.runs Example.crossing) undisturbed done rfl stored
  rw [active] at isStatus
  exact stranded.mp (Option.some.inj isStatus).symm

/-- It is not so that no new execution is active when all clients are done. -/
theorem not_always_settled : ¬ ∀ (tables : Tables) (events : List Event) (now : System),
    tables.UniqueIds → System.Runs (.start tables) events now →
    (∀ event ∈ events, event.Undisturbed) → (∀ client ∈ now.clients, client.isDone = true) →
    ∀ (id : String) (row : Row), tables.executionRow? id = none →
      now.tables.executionRow? id = some row → row.status? ≠ some .active := by
  intro settled
  obtain ⟨undisturbed, done, row, stored, active⟩ := Example.crossing_rests
  exact settled _ _ _ Example.uniqueIds (Example.runs Example.crossing) undisturbed done
    "execution" row rfl stored active

end MessageFlow
