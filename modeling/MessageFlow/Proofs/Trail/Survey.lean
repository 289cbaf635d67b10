import MessageFlow.Proofs.Interleaving.Scene
import MessageFlow.Proofs.Stored.Parked
import MessageFlow.Proofs.Trail.Chart
import MessageFlow.Proofs.Trail.Task

/-!
Scenes with the tracks of their clients, and the charts on which the trails of executions are. What
every step of such a party keeps holds in every run.
-/

namespace MessageFlow

structure Party extends Scene where
  track : Nat → Track

namespace Party

/-- A client begins its task. -/
def enter (party : Party) (i : Nat) (task : Task) : Party where
  toScene := party.toScene.move i task.outset
  track := Function.update party.track i task.departure

/-- After a query. -/
def next (party : Party) (event : Event) (after : Except Failure (List Row) → Station)
    (goes : Except Failure (List Row) → Track) : Party where
  toScene := party.toScene.next event after
  track := Function.update party.track event.client (goes event.answer)

inductive Step : Party → Party → Prop
  | begin (party : Party) (i : Nat) (task : Task) (free : party.station i = .holding ∅)
    (ready : task.Ready party.tables) : Step party (party.enter i task)
  | freshId (party : Party) (i : Nat) (task : Task) (id : String) (after : String → Station)
    (acts : task.Acts (party.station i) .freshId after) (unissued : id ∉ party.issued)
    (unknown : ∀ row ∈ party.tables.executionRows, row.get "id" ≠ .text id) :
    Step party
      ⟨{ party.toScene.move i (after id) with issued := id :: party.issued }, party.track⟩
  | query (party : Party) (event : Event) (after : Except Failure (List Row) → Station)
    (goes : Except Failure (List Row) → Track) (asks : party.toScene.Asks event after)
    (roams : event.task.Roams (party.track event.client) event.traversed (.query event.query)
      goes) :
    Step party (party.next event after goes)

/-- What every step keeps. -/
def Kept (holds : Party → Prop) : Prop := ∀ {party party'}, Step party party' → holds party →
  holds party'

theorem Step.scene {party party' : Party} (step : Step party party') :
    Scene.Step party.toScene party'.toScene := by
  cases step with
  | begin i task free ready => exact .begin _ i task free ready
  | freshId i task id after acts unissued unknown =>
    exact .freshId _ i task id after acts unissued unknown
  | query event after goes asks roams => exact .query _ event after asks

theorem track_enter (party : Party) (i : Nat) (task : Task) (j : Nat) :
    (party.enter i task).track j = if j = i then task.departure else party.track j :=
  Function.update_apply party.track i _ j

theorem track_next (party : Party) (event : Event)
    (after : Except Failure (List Row) → Station) (goes : Except Failure (List Row) → Track)
    (j : Nat) : (party.next event after goes).track j =
      if j = event.client then goes event.answer else party.track j :=
  Function.update_apply party.track event.client _ j

end Party

/-- The client keeps to its track. -/
def Client.Roams (client : Client) (c : Track) : Prop :=
  client.program.Obeys client.task.roaming c fun _ _ => True

/-- Every client is on its track. -/
def System.Guided (sys : System) (track : Nat → Track) : Prop :=
  ∀ i (client : Client), sys.clients[i]? = some client → client.Roams (track i)

/-- The system as a party. -/
def System.party (sys : System) (station : Nat → Station) (track : Nat → Track)
    (past : List Event) : Party := ⟨sys.scene station past, track⟩

namespace System.Guided

variable {sys sys' last : System} {station : Nat → Station} {track : Nat → Track}
  {past : List Event}

theorem start (tables : Tables) (issued : List String) (track : Nat → Track) :
    Guided { tables, issued } track := by
  intro i client found
  cases found

/-- One client moves on, and the others stay. -/
theorem move (guided : sys.Guided track) (tables : Tables) (issued : List String) {i : Nat}
    {client next : Client} {c : Track} (there : sys.clients[i]? = some client)
    (roams : next.Roams c) :
    Guided ⟨tables, issued, sys.clients.set i next⟩ (Function.update track i c) :=
  Client.all_set guided there roams

theorem begin (guided : sys.Guided track) (deployment : Deployment) (task : Task) :
    Guided { sys with clients := sys.clients ++ [.begin deployment task] }
      (Function.update track sys.clients.length task.departure) :=
  Client.all_concat guided (task.operation_roams deployment)

/-- What is no query leaves the client where it is on its track. -/
theorem outside (guided : sys.Guided track) (tables : Tables) (issued : List String) {i : Nat}
    {task : Task} {traversed : Option String} {request : Request}
    {next : request.Answer → Program (Except Failure Task.Report)}
    (there : sys.clients[i]? = some ⟨task, .ask traversed request next⟩)
    (noQuery : ∀ query, request ≠ .query query) (answer : request.Answer)
    (may : request.MayAnswer answer) :
    Guided ⟨tables, issued, sys.clients.set i ⟨task, next answer⟩⟩ track := by
  obtain ⟨goes, roams, rest⟩ := guided i _ there
  have stays : goes answer = track i := by
    cases roams with
    | aside => rfl
    | seek | select | create | write | visit | stop => exact absurd rfl (noQuery _)
  have onward : Client.Roams ⟨task, next answer⟩ (goes answer) := rest answer may
  have moved := guided.move tables issued there onward
  rw [stays, Function.update_eq_self] at moved
  exact moved

/-- A step of a system is a step of its party, or asks nothing of the store. -/
theorem step (guided : sys.Guided track) (manned : sys.Manned station) (past : List Event)
    {event : Option Event} (step : Step sys event sys') :
    ∃ station' track', sys'.Manned station' ∧ sys'.Guided track' ∧
      (sys'.party station' track' (past ++ event.toList) = sys.party station track past ∨
        Party.Step (sys.party station track past)
          (sys'.party station' track' (past ++ event.toList))) := by
  cases step with
  | begin deployment task ready =>
    refine ⟨_, _, manned.begin deployment task, guided.begin deployment task, .inr ?_⟩
    rw [Option.toList_none, List.append_nil]
    exact .begin (sys.party station track past) _ task (manned.absent _ le_rfl) ready
  | query i task traversed query next after answer there handles =>
    obtain ⟨then?, asks, manned', _⟩ :=
      manned.asks past (.query sys i task traversed query next after answer there handles)
    obtain ⟨goes, roams, rest⟩ := guided i _ there
    have onward : Client.Roams ⟨task, next answer⟩ (goes answer) := rest answer handles.mayAnswer
    exact ⟨_, _, manned', guided.move after sys.issued there onward,
      .inr (.query (sys.party station track past) _ then? goes asks roams)⟩
  | freshId i task traversed next id there fresh =>
    obtain ⟨after, ⟨_, acts⟩, rest⟩ := manned.conducts i _ there
    refine ⟨_, track, manned.move sys.tables (id :: sys.issued) there (rest id trivial),
      guided.outside sys.tables (id :: sys.issued) there nofun id trivial, .inr ?_⟩
    rw [Option.toList_none, List.append_nil]
    exact .freshId (sys.party station track past) i task id after acts fresh.1 fresh.2
  | outside i task traversed request next answer there noQuery noId =>
    have may : request.MayAnswer answer := by
      cases request with
      | query query => exact absurd rfl (noQuery query)
      | _ => trivial
    refine ⟨station, track, manned.outside there noQuery noId answer,
      guided.outside sys.tables sys.issued there noQuery answer may, .inl ?_⟩
    rw [Option.toList_none, List.append_nil]
    rfl

/-- What every step of a party keeps, every run keeps. -/
theorem keeps {holds : Party → Prop} {events : List Event} (guided : sys.Guided track)
    (manned : sys.Manned station) (kept : Party.Kept holds)
    (first : holds (sys.party station track past)) (runs : Runs sys events last) :
    ∃ station' track', last.Manned station' ∧
      holds (last.party station' track' (past ++ events)) := by
  induction runs generalizing station track past with
  | nil => exact ⟨station, track, manned, by rwa [List.append_nil]⟩
  | step step rest ih =>
    obtain ⟨station', track', manned', guided', party⟩ := guided.step manned past step
    rw [← List.append_assoc]
    apply ih guided' manned'
    rcases party with same | moves
    · rw [same]
      exact first
    · exact kept moves first

end System.Guided

/-!
What each query makes of the trails: it leaves the stored executions as they are, or it starts one,
or it takes one further on its way.
-/

/-- The trail of the execution is on a chart, and so is the way of its traversal. While it waits, it
stands at a stop behind which no branch is taken. -/
def Flow.Surveys (flow : Flow) (past : List Event) (v : Execution) (way : List Stop) : Prop :=
  ∃ chart, flow.Charts past v.id chart ∧ v.trail = chart.map (·.nodeId) ∧ way ⊆ chart ∧
    (v.status = .waiting → v.outsetStop ∈ chart)

theorem Execution.outsetStop_of_trail {v e : Execution} (trail : e.trail = v.trail) :
    e.outsetStop = v.outsetStop := by
  rw [outsetStop, outsetStop, e.currentNodeId_of_trail trail]

namespace Flow.Surveys

variable {flow : Flow} {past later : List Event} {v e : Execution} {way : List Stop}

theorem mono (surveys : flow.Surveys past v way) (grows : past ⊆ later) :
    flow.Surveys later v way := by
  obtain ⟨chart, charts, rest⟩ := surveys
  exact ⟨chart, charts.mono grows, rest⟩

theorem forget (surveys : flow.Surveys past v way) : flow.Surveys past v [] := by
  obtain ⟨chart, charts, trail, _, parked⟩ := surveys
  exact ⟨chart, charts, trail, List.nil_subset chart, parked⟩

/-- An execution that does not move stays on its chart. -/
theorem remain (surveys : flow.Surveys past v way) (id : e.id = v.id) (trail : e.trail = v.trail)
    (waits : e.status = .waiting → v.status = .waiting) : flow.Surveys past e way := by
  obtain ⟨chart, charts, isTrail, within, parked⟩ := surveys
  refine ⟨chart, id ▸ charts, trail.trans isTrail, within, fun waiting => ?_⟩
  rw [Execution.outsetStop_of_trail trail]
  exact parked (waits waiting)

/-- A traversal sets out where the execution waits. -/
theorem setOut (surveys : flow.Surveys past v way) (waits : v.status = .waiting) :
    flow.Surveys past v [v.outsetStop] := by
  obtain ⟨chart, charts, trail, _, parked⟩ := surveys
  refine ⟨chart, charts, trail, fun stop isStop => ?_, parked⟩
  rw [List.mem_singleton.mp isStop]
  exact parked waits

/-- A visit is a further stop. -/
theorem visit {event : Event} {node : Node} (surveys : flow.Surveys past v way)
    (active : v.status = .active) (follows : flow.Follows way node)
    (asked : event.query = Store.saveQuery e) (before : event.before.Stores v)
    (after : event.after.Stores e.saved) (visits : v.Visits node e) :
    flow.Surveys (past ++ [event]) e.saved (way ++ [⟨node.id, node.branch? e.context⟩]) := by
  obtain ⟨chart, charts, trail, within, _⟩ := surveys
  have enters : event.Enters v node e.saved := ⟨before, after, e, asked, visits, rfl⟩
  have grows : past ⊆ past ++ [event] := List.subset_append_left past [event]
  have isLast : event ∈ past ++ [event] := List.mem_append_right past (.head [])
  have sameId : e.saved.id = v.id := visits.keeps.id
  have charts' := Charts.visit (charts.mono grows) isLast enters rfl trail (follows.mono within)
  rw [← sameId] at charts'
  refine ⟨_, charts', ?_, ?_, fun waits => ?_⟩
  · have isTrail : e.saved.trail = v.trail ++ [node.id] := visits.trail
    rw [isTrail, trail, List.map_append]
    rfl
  · rw [visits.branch]
    exact List.append_subset.mpr
      ⟨List.subset_append_of_subset_left _ within, List.subset_append_right _ _⟩
  · have here : e.saved.outsetStop = ⟨node.id, node.branch? v.context⟩ := by
      rw [visits.branch_of_waiting active waits, ← visits.currentNodeId]
      rfl
    rw [here]
    exact List.mem_append_right _ (List.mem_singleton_self _)

end Flow.Surveys

namespace Task.Writes

variable {task : Task} {s : Station} {v e : Execution} {goesOn : Bool}
  {desk : Except Failure (List Row) → Desk}

theorem flowId (writes : task.Writes s v e goesOn desk) : e.flowId = v.flowId := by
  cases writes with
  | message | deletion | wake | lose => rfl
  | advance e walks change suits =>
    cases change with
    | node node wake now active =>
      change ((v.movedTo node).afterNode node wake).flowId = (v.movedTo node).flowId
      unfold Execution.afterNode
      split
      · rfl
      · simp only
        split
        · rfl
        · rfl
      · rfl
    | failedNode | stopped | completed => rfl

/-- From outside an execution is not moved: a delay wakes it where it is parked. What goes on was
waiting. -/
theorem stays (writes : task.Writes s v e goesOn desk) (idle : s.walking = none)
    (scheduled : v.status ≠ .failed → v.KeepsSchedule) :
    e.trail = v.trail ∧ (e.status = .waiting → v.status = .waiting) ∧
      (goesOn = true → v.status = .waiting) := by
  cases writes with
  | message message now _ brought isOpen =>
    refine ⟨rfl, fun waits => ?_, fun goesOn => ?_⟩
    · change (if v.isWaitingOnInput then Status.active else v.status) = .waiting at waits
      split at waits
      · cases waits
      · exact waits
    · exact eq_of_beq (Bool.and_eq_true_iff.mp goesOn).1
  | deletion now _ deletes isOpen => exact ⟨rfl, nofun, nofun⟩
  | wake ticket now _ sweeps claimed owner parked =>
    have waits := Task.status_of_isParkedOn parked
    refine ⟨?_, fun _ => waits, fun _ => waits⟩
    have unfailed : v.status ≠ .failed := by
      rw [waits]
      exact Status.noConfusion
    have isNode : v.scheduledNodeId = some ticket.nodeId :=
      eq_of_beq (Bool.and_eq_true_iff.mp parked).2
    have isParked : v.isWaitingOnDelay = true :=
      Execution.isWaitingOnDelay_iff.mpr ⟨waits, ticket.nodeId, isNode⟩
    have here := (scheduled unfailed).node isParked
    rw [isNode] at here
    change v.previousNodeIds ++ [ticket.nodeId] = v.previousNodeIds ++ [v.currentNodeId]
    rw [Option.some.inj here]
  | lose ticket now _ sweeps claimed owner parked missing => exact ⟨rfl, nofun, nofun⟩
  | advance e walks change suits =>
    rw [idle] at walks
    cases walks

/-- A write removes nothing from the trail. -/
theorem trail_prefix (writes : task.Writes s v e goesOn desk)
    (scheduled : v.status ≠ .failed → v.KeepsSchedule) : v.trail <+: e.trail := by
  have outside (idle : s.walking = none) : v.trail <+: e.trail := by
    rw [(writes.stays idle scheduled).1]
  cases writes with
  | message message now idle brought isOpen => exact outside idle
  | deletion now idle deletes isOpen => exact outside idle
  | wake ticket now idle sweeps claimed owner parked => exact outside idle
  | lose ticket now idle sweeps claimed owner parked missing => exact outside idle
  | advance e walks change suits =>
    cases change with
    | node node wake now active =>
      have visits : v.Visits node (((v.movedTo node).afterNode node wake).stamped now) :=
        .handled wake now
      rw [visits.trail]
      exact List.prefix_append _ _
    | failedNode node failure now active => exact List.prefix_append _ _
    | stopped | completed => exact List.prefix_refl _

end Task.Writes

namespace Task.Acts

variable {task : Task} {s : Station} {after : Except Failure (List Row) → Station}

theorem eq_afterSelect {filters : List Filter} {order : Option SortOrder} {limit : Option Int}
    (acts : task.Acts s (.query (.select .executions filters order limit)) after) :
    after = s.afterSelect := by
  cases acts with
  | aside _ apart => exact absurd rfl apart.1
  | select => rfl

theorem reserved_of_creation {e : Execution} (isNew : e.IsNew)
    (acts : task.Acts s (.query (.insert .executions e.row)) after) :
    s.reserved = some e.id ∧ after = s.afterCreation e := by
  generalize asked : e.row = row at acts
  cases acts with
  | aside _ apart => exact absurd rfl apart.1
  | create e' idle reserved isNew' =>
    obtain rfl : e = e' := Execution.row_injective (Execution.regular_of_isNew isNew)
      (Execution.regular_of_isNew isNew') asked
    exact ⟨reserved, rfl⟩

end Task.Acts

end MessageFlow
