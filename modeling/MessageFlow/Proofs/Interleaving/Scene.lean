import MessageFlow.Proofs.Interleaving.Consistent

/-!
Runs without their programs. A scene is the store with the stations of all clients and the queries
so far. What every step of a scene keeps holds in every run, and before each of its queries.
-/

namespace MessageFlow

structure Scene where
  tables : Tables
  issued : List String
  station : Nat → Station
  past : List Event := []

/-- But for copies and ids, the station is as before. -/
structure Station.Still (s s' : Station) : Prop where
  held : s.held ⊆ s'.held
  walking : s'.walking = s.walking
  opened : s'.desk.opened = s.desk.opened
  listed : s'.desk.listed = s.desk.listed
  claim : s'.desk.claim = s.desk.claim
  missing : s'.desk.missing = s.desk.missing

namespace Scene

/-- Where the clients stand, tickets aside. -/
def standing (scene : Scene) : Nat → Standing := Station.toStanding ∘ scene.station

/-- One client moves on. -/
def move (scene : Scene) (i : Nat) (s : Station) : Scene :=
  { scene with station := Function.update scene.station i s }

/-- A client may ask the query of the event, and goes on to the station that `after` gives. -/
structure Asks (scene : Scene) (event : Event) (after : Except Failure (List Row) → Station) :
    Prop where
  acts : event.task.Acts (scene.station event.client) (.query event.query) after
  label : event.traversed = (scene.station event.client).traversed
  before : event.before = scene.tables
  handles : event.query.Handles event.before event.after event.answer

/-- After a query. -/
def next (scene : Scene) (event : Event) (after : Except Failure (List Row) → Station) : Scene where
  tables := event.after
  issued := scene.issued
  station := Function.update scene.station event.client (after event.answer)
  past := scene.past ++ [event]

inductive Step : Scene → Scene → Prop
  | begin (scene : Scene) (i : Nat) (task : Task) (free : scene.station i = .holding ∅)
    (ready : task.Ready scene.tables) : Step scene (scene.move i task.outset)
  | freshId (scene : Scene) (i : Nat) (task : Task) (id : String) (after : String → Station)
    (acts : task.Acts (scene.station i) .freshId after) (unissued : id ∉ scene.issued)
    (unknown : ∀ row ∈ scene.tables.executionRows, row.get "id" ≠ .text id) :
    Step scene { scene.move i (after id) with issued := id :: scene.issued }
  | query (scene : Scene) (event : Event) (after : Except Failure (List Row) → Station)
    (asks : scene.Asks event after) : Step scene (scene.next event after)

/-- What every step keeps. -/
def Kept (holds : Scene → Prop) : Prop := ∀ {scene scene'}, Step scene scene' → holds scene →
  holds scene'

theorem station_move (scene : Scene) (i : Nat) (s : Station) (j : Nat) :
    (scene.move i s).station j = if j = i then s else scene.station j :=
  Function.update_apply scene.station i s j

theorem station_next (scene : Scene) (event : Event)
    (after : Except Failure (List Row) → Station) (j : Nat) : (scene.next event after).station j =
      if j = event.client then after event.answer else scene.station j :=
  Function.update_apply scene.station event.client _ j

theorem standing_move (scene : Scene) (i : Nat) (s : Station) :
    (scene.move i s).standing = Function.update scene.standing i s.toStanding :=
  Function.comp_update Station.toStanding scene.station i s

theorem standing_next (scene : Scene) (event : Event)
    (after : Except Failure (List Row) → Station) : (scene.next event after).standing =
      Function.update scene.standing event.client (after event.answer).toStanding :=
  Function.comp_update Station.toStanding scene.station event.client _

/-- A step asks a query, or does not touch the store and leaves all stations as they are but for
copies and ids. -/
theorem Step.still_or_asks {scene scene' : Scene} (step : Step scene scene') :
    (scene'.tables = scene.tables ∧ scene'.past = scene.past ∧
      ∀ i, (scene.station i).Still (scene'.station i)) ∨
    ∃ event after, scene.Asks event after ∧ scene' = scene.next event after := by
  have moved {i : Nat} {s : Station} (still : (scene.station i).Still s) (j : Nat) :
      (scene.station j).Still ((scene.move i s).station j) := by
    rw [station_move]
    split
    · next mine =>
      subst mine
      exact still
    · exact ⟨subset_rfl, rfl, rfl, rfl, rfl, rfl⟩
  cases step with
  | begin i task free ready =>
    refine .inl ⟨rfl, rfl, moved ?_⟩
    rw [free]
    exact ⟨Set.empty_subset _, rfl, rfl, rfl, rfl, rfl⟩
  | freshId i task id after acts =>
    refine .inl ⟨rfl, rfl, moved ?_⟩
    cases acts with
    | aside _ apart => exact apart.elim
    | reserve idle => exact ⟨subset_rfl, rfl, rfl, rfl, rfl, rfl⟩
    | draw => exact ⟨subset_rfl, rfl, rfl, rfl, rfl, rfl⟩
  | query event after asks => exact .inr ⟨event, after, asks, rfl⟩

/-- The relation between stored executions and copies is kept. -/
theorem kept_sound (view : View) :
    Kept fun scene => Sound view scene.tables.executionRows scene.issued scene.standing := by
  intro scene scene' step sound
  cases step with
  | begin i task free ready =>
    rw [standing_move]
    exact sound.begin ready
  | freshId i task id after acts unissued unknown =>
    change Sound view _ _ (scene.move i (after id)).standing
    rw [standing_move]
    exact sound.fresh acts.permits unissued unknown
  | query event after asks =>
    rw [standing_next]
    exact Sound.handle (asks.before ▸ sound) asks.acts.permits asks.handles

end Scene

/-- The client keeps to the discipline of executions and tickets, and ends at rest. -/
def Client.Conducts (client : Client) (s : Station) : Prop :=
  client.program.Obeys client.task.conduct s fun _ s' => s'.walking = none

/-- Every client stands at its station. -/
structure System.Manned (sys : System) (station : Nat → Station) : Prop where
  conducts : ∀ i (client : Client), sys.clients[i]? = some client → client.Conducts (station i)
  absent : ∀ i, sys.clients.length ≤ i → station i = .holding ∅

/-- The system as a scene. -/
def System.scene (sys : System) (station : Nat → Station) (past : List Event) : Scene :=
  ⟨sys.tables, sys.issued, station, past⟩

namespace System.Manned

variable {sys sys' last : System} {station : Nat → Station} {past : List Event}

theorem start (tables : Tables) (issued : List String) :
    Manned { tables, issued } fun _ => .holding ∅ where
  conducts i client found := by cases found
  absent i beyond := rfl

/-- One client moves on, and the others stay. -/
theorem move (manned : sys.Manned station) (tables : Tables) (issued : List String) {i : Nat}
    {client next : Client} {s : Station} (there : sys.clients[i]? = some client)
    (conducts : next.Conducts s) :
    Manned ⟨tables, issued, sys.clients.set i next⟩ (Function.update station i s) where
  conducts := Client.all_set manned.conducts there conducts
  absent := Client.vacant_set (· = Station.holding ∅) manned.absent there

theorem begin (manned : sys.Manned station) (deployment : Deployment) (task : Task) :
    Manned { sys with clients := sys.clients ++ [.begin deployment task] }
      (Function.update station sys.clients.length task.outset) where
  conducts := Client.all_concat manned.conducts (task.operation_conducts deployment)
  absent := Client.vacant_concat (· = Station.holding ∅) manned.absent

/-- A query of a client is one that its station allows. -/
theorem asks (manned : sys.Manned station) (past : List Event) {event : Event}
    (step : Step sys (some event) sys') :
    ∃ after, (sys.scene station past).Asks event after ∧
      sys'.Manned (Function.update station event.client (after event.answer)) ∧
      sys'.tables = event.after ∧ sys'.issued = sys.issued := by
  cases step with
  | query i task traversed query next after answer there handles =>
    obtain ⟨then?, ⟨label, acts⟩, rest⟩ := manned.conducts i _ there
    exact ⟨then?, ⟨acts, label, rfl, handles⟩, manned.move after sys.issued there
      (rest answer handles.mayAnswer), rfl, rfl⟩

/-- What is neither a query nor for an id leaves the client at its station. -/
theorem outside (manned : sys.Manned station) {i : Nat} {task : Task} {traversed : Option String}
    {request : Request} {next : request.Answer → Program (Except Failure Task.Report)}
    (there : sys.clients[i]? = some ⟨task, .ask traversed request next⟩)
    (noQuery : ∀ query, request ≠ .query query) (noId : request ≠ .freshId)
    (answer : request.Answer) :
    Manned { sys with clients := sys.clients.set i ⟨task, next answer⟩ } station := by
  obtain ⟨after, ⟨_, acts⟩, rest⟩ := manned.conducts i _ there
  have stays : after answer = station i ∧ request.MayAnswer answer := by
    cases request with
    | query query => exact absurd rfl (noQuery query)
    | freshId => exact absurd rfl noId
    | now | post | announce | complete | remembered | remember | forget =>
      cases acts with
      | aside => exact ⟨rfl, trivial⟩
  have conducts : Client.Conducts ⟨task, next answer⟩ (after answer) := rest answer stays.2
  have moved := manned.move sys.tables sys.issued there conducts
  rw [stays.1, Function.update_eq_self] at moved
  exact moved

/-- A step of a system is a step of its scene, or asks nothing of the store. -/
theorem step (manned : sys.Manned station) (past : List Event) {event : Option Event}
    (step : Step sys event sys') :
    ∃ station', sys'.Manned station' ∧
      (sys'.scene station' (past ++ event.toList) = sys.scene station past ∨
        Scene.Step (sys.scene station past) (sys'.scene station' (past ++ event.toList))) := by
  cases step with
  | begin deployment task ready =>
    refine ⟨_, manned.begin deployment task, .inr ?_⟩
    rw [Option.toList_none, List.append_nil]
    exact .begin (sys.scene station past) _ task (manned.absent _ le_rfl) ready
  | query i task traversed query next after answer there handles =>
    obtain ⟨then?, asks, manned', _⟩ :=
      manned.asks past (.query sys i task traversed query next after answer there handles)
    exact ⟨_, manned', .inr (.query (sys.scene station past) _ then? asks)⟩
  | freshId i task traversed next id there fresh =>
    obtain ⟨after, ⟨_, acts⟩, rest⟩ := manned.conducts i _ there
    refine ⟨_, manned.move sys.tables (id :: sys.issued) there (rest id trivial), .inr ?_⟩
    rw [Option.toList_none, List.append_nil]
    exact .freshId (sys.scene station past) i task id after acts fresh.1 fresh.2
  | outside i task traversed request next answer there noQuery noId =>
    refine ⟨station, manned.outside there noQuery noId answer, .inl ?_⟩
    rw [Option.toList_none, List.append_nil]
    rfl

variable {holds : Scene → Prop} {events earlier later : List Event} {event : Event}

/-- What every step of a scene keeps, every run keeps. -/
theorem keeps (manned : sys.Manned station) (kept : Scene.Kept holds)
    (first : holds (sys.scene station past)) (runs : Runs sys events last) :
    ∃ station', last.Manned station' ∧ holds (last.scene station' (past ++ events)) := by
  induction runs generalizing station past with
  | nil => exact ⟨station, manned, by rwa [List.append_nil]⟩
  | step step rest ih =>
    obtain ⟨station', manned', scene⟩ := manned.step past step
    rw [← List.append_assoc]
    apply ih manned'
    rcases scene with same | moves
    · rw [same]
      exact first
    · exact kept moves first

end System.Manned

/-- A run up to one of its queries, that query, and the rest. -/
theorem System.Runs.split {sys last : System} {earlier later : List Event} {event : Event}
    (runs : Runs sys (earlier ++ event :: later) last) :
    ∃ mid next, Runs sys earlier mid ∧ Step mid (some event) next ∧ Runs next later last := by
  generalize all : earlier ++ event :: later = events at runs
  induction runs generalizing earlier with
  | nil sys => exact absurd all (by simp)
  | step first rest ih =>
    rename_i first? _
    cases first? with
    | none =>
      obtain ⟨mid, next, begins, asks, goes⟩ := ih all
      exact ⟨mid, next, .step first begins, asks, goes⟩
    | some other =>
      cases earlier with
      | nil =>
        cases all
        exact ⟨_, _, .nil _, first, rest⟩
      | cons first' earlier =>
        cases all
        obtain ⟨mid, next, begins, asks, goes⟩ := ih rfl
        exact ⟨mid, next, .step first begins, asks, goes⟩

/-- Before each query of a run stands a scene of which everything holds that every step keeps. -/
theorem System.Runs.asks {sys last : System} {earlier later : List Event} {event : Event}
    {holds : Scene → Prop} {station : Nat → Station} (manned : sys.Manned station)
    (kept : Scene.Kept holds) (first : holds (sys.scene station []))
    (runs : Runs sys (earlier ++ event :: later) last) :
    ∃ scene after, holds scene ∧ scene.past = earlier ∧ scene.Asks event after := by
  obtain ⟨mid, next, begins, step, _⟩ := runs.split
  obtain ⟨station', manned', still⟩ := manned.keeps kept first begins
  obtain ⟨after, asks, _⟩ := manned'.asks earlier step
  exact ⟨_, after, still, rfl, asks⟩

end MessageFlow
