import MessageFlow.Proofs.Interleaving.Sound
import MessageFlow.Proofs.Interleaving.Sweeping
import MessageFlow.Proofs.Interleaving.System

/-!
The invariant of all interleavings, and what it says about each query: a query leaves the stored
executions alone, adds a new one, or writes one over the version that its client has read. And the
stored row of one execution, with what the writes over it do.
-/

namespace MessageFlow
open Standing

/-- What a query of a client may do to the stored executions. -/
inductive Event.Lawful (view : View) (event : Event) : Prop
  | aside (same : event.after.executionRows = event.before.executionRows)
  | creation (e : Execution) (isNew : e.IsNew)
    (asks : event.query = .insert .executions e.row)
    (unknown : ∀ row ∈ event.before.executionRows, row.get "id" ≠ .text e.id)
    (stores : event.after.executionRows = event.before.executionRows ++ [e.row])
  | save (v e : Execution) (asks : event.query = Store.saveQuery e)
    (change : event.task.Changes event.traversed v e)
    (shows : ∀ row ∈ event.before.executionRows, e.isWrittenOver row = true → view.shows row v)
    (stores : event.after.executionRows = event.before.executionRows.map e.overwrite)

namespace Sound

variable {view : View} {rows : List Row} {issued : List String} {standing : Nat → Standing}
  {i : Nat} {v e : Execution}

/-- From rest one may go on to a traversal. -/
theorem walk_of_rest
    (resting : Sound view rows issued (Function.update standing i (standing i).rest))
    (active : v.status = .active) (backs : view.Backs rows issued v)
    (busy : ∀ row ∈ rows, row.get "id" = .text v.id → row.status? ≠ some .waiting)
    (alone : ∀ j w, j ≠ i → (standing j).walking = some w → v.id ≠ w.id)
    (unreserved : ∀ j, j ≠ i → (standing j).reserved ≠ some v.id) :
    Sound view rows issued (Function.update standing i ((standing i).walk v)) := by
  have walking := resting.walk active backs busy (i := i)
    (fun j w other walks => alone j w other (by rwa [Function.update_of_ne other] at walks))
    (fun j other => by
      rw [Function.update_of_ne other]
      exact unreserved j other)
  rw [Function.update_self, Function.update_idem] at walking
  exact walking

/-- A write over a copy, after which its client rests. -/
theorem save_rest (sound : Sound view rows issued standing) (held : v ∈ (standing i).held)
    (keeps : v.Keeps e)
    (quiet : (v.status ≠ .waiting → e.status ≠ .waiting) ∨ (standing i).walking = some v) :
    Sound view (rows.map e.overwrite) issued
      (Function.update standing i (standing i).rest) := by
  have stillHeld : v ∈ (Function.update standing i (standing i).rest i).held := by
    rw [Function.update_self]
    exact held
  refine (sound.rest i).overwrite stillHeld keeps ?_
  intro j w walking same waits
  by_cases mine : j = i
  · rw [mine, Function.update_self] at walking
    cases walking
  · rw [Function.update_of_ne mine] at walking
    rcases quiet with quiet | walks
    · exact quiet waits
    · exact absurd (sound.alone j i w v walking walks same) mine

/-- A write over a copy that went through, after which its client traverses the execution. -/
theorem save_walk (sound : Sound view rows issued standing) (held : v ∈ (standing i).held)
    (keeps : v.Keeps e) (active : e.status = .active)
    (claims : v.status = .waiting ∨ (standing i).walking = some v) {row : Row}
    (present : row ∈ rows) (meant : e.isWrittenOver row = true) :
    Sound view (rows.map e.overwrite) issued
      (Function.update standing i ((standing i).walk e.saved)) := by
  have quiet : (v.status ≠ .waiting → e.status ≠ .waiting) ∨ (standing i).walking = some v := by
    refine .inl fun _ waits => ?_
    rw [active] at waits
    cases waits
  have resting := sound.save_rest held keeps quiet
  have written : e.overwrite row ∈ rows.map e.overwrite := List.mem_map_of_mem present
  rcases sound.overwrite_cases held keeps present with ⟨notMeant, _⟩ | ⟨_, shown, _, shows, _⟩
  · rw [meant] at notMeant
    cases notMeant
  have heads := view.heads shows
  have only : ∀ other ∈ rows.map e.overwrite, other.get "id" = .text e.saved.id →
      other = e.overwrite row := fun other otherPresent same =>
    resting.eq_of_id otherPresent written (same.trans heads.id.symm)
  refine resting.walk_of_rest active ⟨.inr ⟨_, written, heads.id⟩, ?_⟩ ?_ ?_ ?_
  · intro other otherPresent same
    rw [only other otherPresent same]
    exact .inl shows
  · intro other otherPresent same
    rw [only other otherPresent same, heads.status]
    change some e.status ≠ _
    rw [active]
    decide
  · intro j w other walking same
    have sameId : w.id = v.id := same.symm.trans keeps.id
    rcases claims with waits | walks
    · apply sound.claimed j w walking row present
      · rw [(view.heads shown).id, sameId]
      · rw [(view.heads shown).status, waits]
    · exact other (sound.alone j i w v walking walks sameId)
  · intro j other reserved
    exact (sound.reserves j e.saved.id reserved).2.2.1 i v held keeps.id.symm

theorem afterSave_of_refusal {s : Standing} {goesOn : Bool} {answer : Except Failure (List Row)}
    (refusal : Query.IsRefusal answer) : s.afterSave e goesOn answer = s.rest := by
  rcases refusal with rfl | ⟨failure, rfl, _⟩
  · rfl
  · rfl

variable {before after : Tables} {answer : Except Failure (List Row)}

theorem handle_save (sound : Sound view before.executionRows issued standing)
    (held : v ∈ (standing i).held) (keeps : v.Keeps e)
    (quiet : (v.status ≠ .waiting → e.status ≠ .waiting) ∨ (standing i).walking = some v)
    {goesOn : Bool} (goes : goesOn = true →
      e.status = .active ∧ (v.status = .waiting ∨ (standing i).walking = some v))
    (handles : (Store.saveQuery e).Handles before after answer) :
    Sound view after.executionRows issued
      (Function.update standing i ((standing i).afterSave e goesOn answer)) := by
  cases handles with
  | refused answer refusal =>
    rw [afterSave_of_refusal refusal]
    exact sound.rest i
  | lost answer refusal =>
    rw [afterSave_of_refusal refusal, Execution.executionRows_run_save]
    exact sound.save_rest held keeps quiet
  | served =>
    rw [Execution.executionRows_run_save, Execution.run_save]
    cases written : before.executionRows.filter e.isWrittenOver with
    | nil => exact sound.save_rest held keeps quiet
    | cons row rows =>
      cases goesOn with
      | false => exact sound.save_rest held keeps quiet
      | true =>
        obtain ⟨active, claims⟩ := goes rfl
        obtain ⟨present, meant⟩ := List.mem_filter.mp (written ▸ List.mem_cons_self)
        exact sound.save_walk held keeps active claims present meant

theorem handle_create (sound : Sound view before.executionRows issued standing) (isNew : e.IsNew)
    (reserved : (standing i).reserved = some e.id)
    (handles : (Query.insert .executions e.row).Handles before after answer) :
    Sound view after.executionRows issued
      (Function.update standing i ((standing i).afterCreation e answer)) := by
  obtain ⟨given, noRow, noCopy, only⟩ := sound.reserves i e.id reserved
  have unreserved : ∀ j, (Function.update standing i (standing i).rest j).reserved ≠ some e.id := by
    intro j
    by_cases mine : j = i
    · rw [mine, Function.update_self]
      nofun
    · rw [Function.update_of_ne mine]
      exact fun other => mine (only j other)
  have free : ∀ j, ∀ v ∈ (Function.update standing i (standing i).rest j).held, v.id ≠ e.id := by
    intro j
    by_cases mine : j = i
    · rw [mine, Function.update_self]
      exact noCopy i
    · rw [Function.update_of_ne mine]
      exact noCopy j
  have added : Sound view (before.executionRows ++ [e.row]) issued
      (Function.update standing i (standing i).rest) :=
    (sound.rest i).append isNew noRow free unreserved
  have walks {rows : List Row}
      (resting : Sound view rows issued (Function.update standing i (standing i).rest))
      (shows : ∀ row ∈ rows, row.get "id" = .text e.id → view.shows row e) :
      Sound view rows issued (Function.update standing i ((standing i).walk e)) := by
    refine resting.walk_of_rest isNew.status ⟨.inl given, ?_⟩ ?_ ?_ ?_
    · intro row present same
      exact .inl (shows row present same)
    · intro row present same
      rw [(view.heads (shows row present same)).status, isNew.status]
      decide
    · intro j w other walking same
      exact noCopy j w ((standing j).walkingHeld w walking) same.symm
    · intro j other reserved
      exact other (only j reserved)
  have showsAdded : ∀ row ∈ before.executionRows ++ [e.row], row.get "id" = .text e.id →
      view.shows row e := by
    intro row present same
    rcases List.mem_append.mp present with old | new
    · exact absurd same (noRow row old)
    · rw [List.mem_singleton.mp new]
      exact (view.creates isNew).2
  cases handles with
  | served =>
    rw [(Execution.run_insert isNew before).2, (Execution.run_insert isNew before).1]
    exact walks added showsAdded
  | refused answer refusal =>
    rcases refusal with rfl | ⟨failure, rfl, _⟩
    · exact walks (sound.rest i) fun row present same => absurd same (noRow row present)
    · exact sound.rest i
  | lost answer refusal =>
    rw [(Execution.run_insert isNew before).2]
    rcases refusal with rfl | ⟨failure, rfl, _⟩
    · exact walks added showsAdded
    · exact added

theorem handle_select (sound : Sound view before.executionRows issued standing)
    {filters : List Filter} {order : Option SortOrder} {limit : Option Int}
    (handles : (Query.select .executions filters order limit).Handles before after answer) :
    Sound view after.executionRows issued
      (Function.update standing i ((standing i).afterSelect answer)) := by
  have refused {answer : Except Failure (List Row)} (refusal : Query.IsRefusal answer) :
      Sound view before.executionRows issued
        (Function.update standing i ((standing i).afterSelect answer)) := by
    rcases refusal with rfl | ⟨failure, rfl, _⟩
    · have none : ∀ row ∈ ([] : List Row), row ∈ before.executionRows := nofun
      exact sound.see none
    · rw [afterSelect, Function.update_eq_self]
      exact sound
  cases handles with
  | served => exact sound.see fun row => Query.mem_of_mem_select
  | refused answer refusal => exact refused refusal
  | lost answer refusal => exact refused refusal

/-- Whatever a client is permitted to ask keeps the relation. -/
theorem handle (sound : Sound view before.executionRows issued standing) {task : Task}
    {query : Query} {next : Except Failure (List Row) → Standing}
    (permits : task.Permits (standing i) (.query query) next)
    (handles : query.Handles before after answer) :
    Sound view after.executionRows issued (Function.update standing i (next answer)) := by
  cases permits with
  | aside _ apart =>
    rw [handles.executionRows_of_ne apart, Function.update_eq_self]
    exact sound
  | seek filters order limit =>
    rw [handles.executionRows_of_ne nofun]
    rcases afterSeek_cases (standing i) answer with same | rests
    · rw [same, Function.update_eq_self]
      exact sound
    · rw [rests]
      exact sound.rest i
  | select filters order limit => exact sound.handle_select handles
  | create e idle reserved isNew => exact sound.handle_create isNew reserved handles
  | intervene v e idle held change =>
    refine sound.handle_save held change.keeps (.inl ?_) ?_ handles
    · intro busy waits
      rcases change.status busy with failed | ⟨same, _⟩
      · rw [failed] at waits
        cases waits
      · exact busy (same ▸ waits)
    · intro goes
      rw [Bool.and_eq_true, beq_iff_eq, beq_iff_eq] at goes
      exact ⟨goes.2, .inl goes.1⟩
  | advance v e walks change =>
    refine sound.handle_save ((standing i).walkingHeld v walks) change.keeps (.inr walks) ?_ handles
    intro active
    exact ⟨beq_iff_eq.mp active, .inr walks⟩

/-- A new id keeps the relation, whatever the client draws it for. -/
theorem fresh (sound : Sound view rows issued standing) {task : Task} {after : String → Standing}
    (permits : task.Permits (standing i) .freshId after) {id : String} (unissued : id ∉ issued)
    (unknown : ∀ row ∈ rows, row.get "id" ≠ .text id) :
    Sound view rows (id :: issued) (Function.update standing i (after id)) := by
  cases permits with
  | aside =>
    rw [Function.update_eq_self]
    exact sound.issue id
  | reserve idle => exact sound.reserve unissued unknown

/-- What a client is permitted to ask does to the stored executions only what is lawful. -/
theorem lawful {event : Event} (sound : Sound view event.before.executionRows issued standing)
    {next : Except Failure (List Row) → Standing}
    (label : event.traversed = (standing event.client).traversed)
    (permits : event.task.Permits (standing event.client) (.query event.query) next)
    (handles : event.query.Handles event.before event.after event.answer) :
    event.Lawful view := by
  have saves {v e : Execution} (asks : event.query = Store.saveQuery e)
      (held : v ∈ (standing event.client).held)
      (change : event.task.Changes event.traversed v e) : event.Lawful view := by
    have shows : ∀ row ∈ event.before.executionRows, e.isWrittenOver row = true →
        view.shows row v := by
      intro row present meant
      rcases sound.overwrite_cases held change.keeps present with ⟨notMeant, _⟩ | ⟨_, shown, _⟩
      · rw [meant] at notMeant
        cases notMeant
      · exact shown
    have served : (event.query.run event.before).2.executionRows =
        event.before.executionRows.map e.overwrite := by
      rw [asks]
      exact e.executionRows_run_save event.before
    rcases handles.after_cases with same | stored
    · exact .aside (by rw [same])
    · exact .save v e asks change shows (by rw [stored, served])
  generalize asks : event.query = query at permits
  cases permits with
  | aside _ apart => exact .aside (handles.executionRows_of_ne (asks ▸ apart))
  | seek filters order limit => exact .aside (handles.executionRows_of_ne (asks ▸ nofun))
  | select filters order limit =>
    have same : (event.query.run event.before).2 = event.before := by
      rw [asks]
      rfl
    rcases handles.after_cases with stored | stored
    · exact .aside (by rw [stored])
    · exact .aside (by rw [stored, same])
  | create e idle reserved isNew =>
    have unknown := (sound.reserves event.client e.id reserved).2.1
    have served : (event.query.run event.before).2.executionRows =
        event.before.executionRows ++ [e.row] := by
      rw [asks]
      exact (Execution.run_insert isNew event.before).2
    rcases handles.after_cases with same | stored
    · exact .aside (by rw [same])
    · exact .creation e isNew asks unknown (by rw [stored, served])
  | intervene v e idle held change =>
    exact saves asks held (.inl ⟨label.trans (traversed_of_idle idle), change⟩)
  | advance v e walks change =>
    exact saves asks ((standing event.client).walkingHeld v walks)
      (.inr ⟨label.trans (traversed_of_walking walks), change⟩)

end Sound

/-- The client keeps to its discipline from where it stands, and ends at rest. -/
def Client.Obeys (client : Client) (s : Standing) : Prop :=
  client.program.Obeys client.task.discipline s fun _ s' => s'.walking = none

structure Consistent (view : View) (sys : System) (standing : Nat → Standing) : Prop where
  sound : Sound view sys.tables.executionRows sys.issued standing
  obeys : ∀ i (client : Client), sys.clients[i]? = some client → client.Obeys (standing i)
  absent : ∀ i, sys.clients.length ≤ i → (standing i).walking = none

namespace Consistent

variable {view : View} {sys sys' : System} {standing : Nat → Standing}

theorem start {tables : Tables} (unique : tables.UniqueIds)
    (formed : ∀ row ∈ tables.executionRows, view.form row) :
    Consistent view (.start tables) fun _ => holding ∅ where
  sound := .start unique formed
  obeys i client found := by cases found
  absent _ _ := rfl

/-- One client moves on, and the others stay. -/
theorem move (consistent : Consistent view sys standing) {i : Nat} {client next : Client}
    {s : Standing} {tables : Tables} {issued : List String} (there : sys.clients[i]? = some client)
    (sound : Sound view tables.executionRows issued (Function.update standing i s))
    (obeys : next.Obeys s) :
    Consistent view ⟨tables, issued, sys.clients.set i next⟩ (Function.update standing i s) where
  sound := sound
  obeys := Client.all_set consistent.obeys there obeys
  absent := Client.vacant_set (fun s : Standing => s.walking = none) consistent.absent there

/-- What a query of a client leads to. -/
theorem query (consistent : Consistent view sys standing) {i : Nat} {task : Task}
    {traversed : Option String} {query : Query}
    {next : Except Failure (List Row) → Program (Except Failure Task.Report)} {after : Tables}
    {answer : Except Failure (List Row)}
    (asks : sys.clients[i]? = some ⟨task, .ask traversed (.query query) next⟩)
    (handles : query.Handles sys.tables after answer) :
    ∃ then? : Except Failure (List Row) → Standing,
      traversed = (standing i).traversed ∧
      task.Permits (standing i) (.query query) then? ∧
      Consistent view { sys with
        tables := after, clients := sys.clients.set i ⟨task, next answer⟩ }
        (Function.update standing i (then? answer)) := by
  obtain ⟨then?, ⟨label, permits⟩, rest⟩ := consistent.obeys i _ asks
  exact ⟨then?, label, permits, consistent.move asks (consistent.sound.handle permits handles)
    (rest answer handles.mayAnswer)⟩

theorem begin (consistent : Consistent view sys standing) (deployment : Deployment) {task : Task}
    (ready : task.Ready sys.tables) :
    Consistent view { sys with clients := sys.clients ++ [.begin deployment task] }
      (Function.update standing sys.clients.length task.beginning) where
  sound := consistent.sound.begin ready
  obeys := Client.all_concat consistent.obeys (task.operation_obeys deployment)
  absent := Client.vacant_concat (fun s : Standing => s.walking = none) consistent.absent

theorem freshId (consistent : Consistent view sys standing) {i : Nat} {task : Task}
    {traversed : Option String} {next : String → Program (Except Failure Task.Report)}
    {id : String} (asks : sys.clients[i]? = some ⟨task, .ask traversed .freshId next⟩)
    (fresh : sys.IsFresh id) :
    ∃ s, s.walking = (standing i).walking ∧ Consistent view { sys with
        issued := id :: sys.issued, clients := sys.clients.set i ⟨task, next id⟩ }
      (Function.update standing i s) := by
  obtain ⟨after, ⟨label, permits⟩, rest⟩ := consistent.obeys i _ asks
  have sound := consistent.sound.fresh permits fresh.1 fresh.2
  refine ⟨after id, ?_, consistent.move asks sound (rest id trivial)⟩
  cases permits with
  | aside => rfl
  | reserve => rfl

theorem outside (consistent : Consistent view sys standing) {i : Nat} {task : Task}
    {traversed : Option String} {request : Request}
    {next : request.Answer → Program (Except Failure Task.Report)} (answer : request.Answer)
    (asks : sys.clients[i]? = some ⟨task, .ask traversed request next⟩)
    (noQuery : ∀ query, request ≠ .query query) (noId : request ≠ .freshId) :
    Consistent view { sys with clients := sys.clients.set i ⟨task, next answer⟩ } standing := by
  obtain ⟨after, ⟨label, permits⟩, rest⟩ := consistent.obeys i _ asks
  have stays : after answer = standing i ∧ request.MayAnswer answer := by
    cases permits with
    | aside _ apart => exact ⟨rfl, Request.mayAnswer_of_noQuery noQuery answer⟩
    | seek => exact absurd rfl (noQuery _)
    | select => exact absurd rfl (noQuery _)
    | reserve => exact absurd rfl noId
    | create => exact absurd rfl (noQuery _)
    | intervene => exact absurd rfl (noQuery _)
    | advance => exact absurd rfl (noQuery _)
  have same : Function.update standing i (after answer) = standing := by
    rw [stays.1, Function.update_eq_self]
  have sound : Sound view sys.tables.executionRows sys.issued
      (Function.update standing i (after answer)) := by
    rw [same]
    exact consistent.sound
  have obeys : Client.Obeys ⟨task, next answer⟩ (after answer) := rest answer stays.2
  have moved := consistent.move asks sound obeys
  rw [same] at moved
  exact moved

/-- A step keeps the invariant, and its query is lawful. -/
theorem step (consistent : Consistent view sys standing) {event : Option Event}
    (step : System.Step sys event sys') :
    (∀ e ∈ event, e.Lawful view) ∧ ∃ standing', Consistent view sys' standing' := by
  cases step with
  | begin deployment task ready =>
    exact ⟨fun e none => absurd none (Option.not_mem_none e), _, consistent.begin deployment ready⟩
  | query i task traversed query next after answer asks handles =>
    obtain ⟨then?, label, permits, after⟩ := consistent.query asks handles
    refine ⟨?_, _, after⟩
    intro _ same
    cases same
    exact consistent.sound.lawful label permits handles
  | freshId i task traversed next id asks fresh =>
    obtain ⟨s, _, after⟩ := consistent.freshId asks fresh
    exact ⟨fun e none => absurd none (Option.not_mem_none e), _, after⟩
  | outside i task traversed request next answer asks noQuery noId =>
    exact ⟨fun e none => absurd none (Option.not_mem_none e), _,
      consistent.outside answer asks noQuery noId⟩

/-- All queries of a run are lawful. -/
theorem runs (consistent : Consistent view sys standing) {events : List Event}
    (runs : System.Runs sys events sys') :
    (∀ event ∈ events, event.Lawful view) ∧ ∃ standing', Consistent view sys' standing' := by
  induction runs generalizing standing with
  | nil => exact ⟨fun event none => absurd none List.not_mem_nil, standing, consistent⟩
  | step first rest ih =>
    obtain ⟨lawful, next, consistent'⟩ := consistent.step first
    obtain ⟨others, last⟩ := ih consistent'
    refine ⟨?_, last⟩
    intro event present
    rcases List.mem_append.mp present with now | later
    · exact lawful event (Option.mem_toList.mp now)
    · exact others event later

end Consistent

/-- The row of the execution with that id. -/
def Tables.executionRow? (tables : Tables) (id : String) : Option Row :=
  tables.executionRows.find? fun row => row.get "id" = .text id

/-- The revision of the execution over which the query wrote. -/
def Event.overwritten? (event : Event) (id : String) : Option Int :=
  match event.before.executionRow? id, event.after.executionRow? id with
  | some earlier, some later => if earlier = later then none else earlier.revision?
  | _, _ => none

namespace Tables

variable {tables : Tables} {id : String} {row : Row}

theorem mem_of_executionRow? (found : tables.executionRow? id = some row) :
    row ∈ tables.executionRows ∧ row.get "id" = .text id := mem_of_rowOf? found

theorem executionRow?_eq_none :
    tables.executionRow? id = none ↔ ∀ row ∈ tables.executionRows, row.get "id" ≠ .text id :=
  rowOf?_eq_none

theorem executionRow?_eq_some (unique : tables.UniqueIds) (present : row ∈ tables.executionRows)
    (isId : row.get "id" = .text id) : tables.executionRow? id = some row :=
  rowOf?_eq_some unique present isId

theorem executionRow?_append {after : Tables} (stores : after.executionRows =
    tables.executionRows ++ [row]) (unknown : ∀ other ∈ tables.executionRows,
      other.get "id" ≠ row.get "id") (id : String) :
    after.executionRow? id =
      if row.get "id" = .text id then some row else tables.executionRow? id := by
  rw [executionRow?, stores]
  exact rowOf?_append unknown id

theorem executionRow?_map {after : Tables} {f : Row → Row}
    (stores : after.executionRows = tables.executionRows.map f)
    (same : ∀ row ∈ tables.executionRows, (f row).get "id" = row.get "id") (id : String) :
    after.executionRow? id = (tables.executionRow? id).map f := by
  rw [executionRow?, stores]
  exact rowOf?_map same id

end Tables

/-- A write moves the revision of the row that it is meant for. -/
theorem Execution.overwrite_ne {e : Execution} {row : Row} (meant : e.isWrittenOver row = true) :
    e.overwrite row ≠ row := by
  intro same
  have isRevision := (Execution.isWrittenOver_iff.mp meant).2
  rw [← same, Execution.overwrite, if_pos meant, e.get_revision_writeOver] at isRevision
  have stays : e.revision + 1 = e.revision := Json.same_int.mp isRevision
  omega

/-- A write over rows that show the copy leaves the ids of all rows. -/
theorem Execution.get_id_overwrite_of_shows {view : View} {rows : List Row} {v e : Execution}
    (keeps : v.Keeps e) (shows : ∀ row ∈ rows, e.isWrittenOver row = true → view.shows row v)
    (plain : ∀ {row}, view.shows row v → v.Plain) :
    ∀ row ∈ rows, (e.overwrite row).get "id" = row.get "id" := by
  intro row present
  cases meant : e.isWrittenOver row with
  | true => exact Execution.get_id_overwrite ((plain (shows row present meant)).keeps keeps) row
  | false =>
    rw [Execution.overwrite, meant]
    rfl

theorem Event.overwritten?_of_same {event : Event} {id : String}
    (same : event.after.executionRow? id = event.before.executionRow? id) :
    event.overwritten? id = none := by
  rw [overwritten?, same]
  cases event.before.executionRow? id with
  | none => rfl
  | some row => exact if_pos rfl

end MessageFlow
