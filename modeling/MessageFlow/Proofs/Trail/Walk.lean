import MessageFlow.Proofs.Trail.Effect

/-!
The trail of a stored execution is a walk through its flow, and nothing is ever removed from it.
-/

namespace MessageFlow

namespace Scene

/-- Of the execution a version is stored whose trail goes on from this one. -/
def Extends (scene : Scene) (id : String) (trail : List String) : Prop :=
  ∃ w, scene.tables.Stores w ∧ w.id = id ∧ trail <+: w.trail

theorem kept_extends (id : String) (trail : List String) :
    Kept fun scene => scene.Scheduled ∧ scene.Extends id trail := by
  intro scene scene' step ⟨scheduled, v, stores, named, goesOn⟩
  refine ⟨kept_scheduled step scheduled, ?_⟩
  rcases step.still_or_asks with ⟨tables, _, _⟩ | ⟨event, after, asks, rfl⟩
  · exact ⟨v, tables ▸ stores, named, goesOn⟩
  obtain ⟨w, stored, same⟩ := asks.goesOn scheduled.sound stores
  refine ⟨w, stored, same.trans named, goesOn.trans ?_⟩
  rcases asks.version_cases scheduled.sound stores stored same with
    rfl | ⟨e, goes, desk, writes, rfl⟩
  · exact List.prefix_refl _
  · exact writes.trail_prefix (scheduled.keeps v stores)

end Scene

theorem Party.Surveyed.start (flow : Flow) {tables : Tables} {issued : List String}
    (noExecutions : tables.executionRows = []) :
    Surveyed flow ⟨⟨tables, issued, fun _ => .holding ∅, []⟩, fun _ => ⟨∅, ∅, none⟩⟩ where
  scheduled := .start noExecutions
  seen i := Set.empty_subset _
  sameFlow i u seen := absurd seen (Set.notMem_empty u)
  told i other told := absurd told (Set.notMem_empty other)
  stored v stores := by
    have present : v.row ∈ tables.executionRows := stores.present
    rw [noExecutions] at present
    cases present
  walking i v walks := by cases walks

/-- Starting without executions, however the requests of all clients are interleaved and whichever
queries fail, and as long as the flow is not edited: the trail of every stored execution of the flow
is a walk through it, from the first trigger that the starting event matches along the branches that
the visits took. And the trail of every later version of an execution extends the one before. -/
theorem stored_trail_is_walk {tables : Tables} {issued : List String} {flow : Flow}
    {past later : List Event} {mid last : System} (noExecutions : tables.executionRows = [])
    (unedited : ∀ event ∈ past, event.Shows flow)
    (begins : System.Runs { tables, issued } past mid) (goes : System.Runs mid later last) :
    ∀ row ∈ mid.tables.executionRows, ∃ v : Execution, v.Regular ∧ v.row = row ∧
      (v.flowId = flow.id → flow.IsWalkedBy past v) ∧
      (∃ w, last.tables.Stores w ∧ w.id = v.id) ∧
      ∀ w, last.tables.Stores w → w.id = v.id → v.trail <+: w.trail := by
  obtain ⟨station, track, manned, holds⟩ :=
    (System.Guided.start tables issued _).keeps (System.Manned.start tables issued)
      (Party.kept_surveyed flow) (fun _ => .start flow noExecutions) begins
  have surveyed := holds unedited
  intro row present
  obtain ⟨v, regular, rfl⟩ := surveyed.scheduled.sound.formed row present
  have stores : mid.tables.Stores v := ⟨regular, present⟩
  obtain ⟨_, _, scheduled, w, stored, named, extended⟩ :=
    manned.keeps (Scene.kept_extends v.id v.trail)
      ⟨surveyed.scheduled, v, stores, rfl, List.prefix_refl _⟩ goes
  refine ⟨v, regular, rfl, fun ofFlow => ?_, ⟨w, stored, named⟩, fun other isStored same => ?_⟩
  · obtain ⟨chart, charts, trail, _⟩ := surveyed.stored v stores ofFlow
    exact charts.isWalkedBy trail
  · have isStored : last.tables.Stores other := isStored
    rw [isStored.eq_of_id scheduled.sound.unique stored (same.trans named.symm)]
    exact extended

instance (flow other : Flow) : Decidable (flow.SharesGraph other) :=
  decidable_of_iff (other.nodes = flow.nodes ∧ other.edges = flow.edges)
    ⟨fun ⟨nodes, edges⟩ => ⟨nodes, edges⟩, fun ⟨nodes, edges⟩ => ⟨nodes, edges⟩⟩

theorem Event.shows_iff {event : Event} {flow : Flow} : event.Shows flow ↔
    (∀ row ∈ event.before.rows .flows, ∀ other ∈ (Flow.read (.record row)).toOption,
      other.id = flow.id → flow.SharesGraph other) ∧
    ∀ other ∈ event.task.flow?, other.id = flow.id → flow.SharesGraph other := by
  refine ⟨fun shows => ⟨fun row present other reads => ?_, shows.given⟩,
    fun ⟨stored, given⟩ => ⟨fun row present other reads => ?_, given⟩⟩
  · cases read : Flow.read (.record row) with
    | invalid issues =>
      rw [read] at reads
      cases reads
    | valid found =>
      rw [read] at reads
      cases reads
      exact shows.stored row present other read
  · refine stored row present other ?_
    rw [reads]
    rfl

instance (event : Event) (flow : Flow) : Decidable (event.Shows flow) :=
  decidable_of_iff _ Event.shows_iff.symm

namespace Example

/-- A flow that the word "hi" starts, and that looks after a minute whether the sender has said
more. -/
def question : Row :=
  [("id", .text "flow"), ("account_id", .text "account"), ("name", .text "Question"),
    ("is_active", .bool true),
    ("nodes", .list [
      .record [("id", .text "begin"), ("type", .text "trigger"), ("data", .record
        [("trigger_type", .text "keyword"), ("keywords", .list [.text "hi"])])],
      .record [("id", .text "wait"), ("type", .text "delay"), ("data", .record
        [("delay_type", .text "minutes"), ("value", .int 1)])],
      .record [("id", .text "asked"), ("type", .text "condition"), ("data", .record
        [("condition_type", .text "user_replied")])],
      .record [("id", .text "answered"), ("type", .text "action"), ("data", .record
        [("action_type", .text "add_tag"), ("tag", .text "answered")])],
      .record [("id", .text "missed"), ("type", .text "action"), ("data", .record
        [("action_type", .text "add_tag"), ("tag", .text "missed")])]]),
    ("edges", .list [
      .record [("source", .text "begin"), ("target", .text "wait")],
      .record [("source", .text "wait"), ("target", .text "asked")],
      .record [("source", .text "asked"), ("target", .text "answered"),
        ("source_handle", .text "true")],
      .record [("source", .text "asked"), ("target", .text "missed"),
        ("source_handle", .text "false")]])]

def asking : System :=
  .started { flows := ⟨[question], 0⟩, accounts := ⟨[account], 0⟩ } deployment reminders

/-- The message is served. -/
def arrival : List Move :=
  List.replicate 8 { client := 0, id := "execution" } ++
    List.replicate 6 { client := 0, id := "ticket" }

/-- An hour later, the sweep. -/
def anHourOn : List Move := List.replicate 20 { client := 1, time := anHour }

theorem runs_arrival : System.Runs (.start { flows := ⟨[question], 0⟩, accounts := ⟨[account], 0⟩ })
    (asking.playAll arrival).1 (asking.playAll arrival).2 :=
  have free : ∀ task ∈ reminders, task.given = none := by decide
  (System.runs_started _ deployment free).trans (asking.runs_playAll arrival).1

/-- The execution as it is completed without an answer. -/
def missed : Execution :=
  { parked with
    currentNodeId := "missed"
    previousNodeIds := ["begin", "wait", "asked"]
    status := .completed
    context := { triggerType := some "keyword", tags := ["missed"] }
    scheduledAt := none
    scheduledNodeId := none
    revision := 5
    updatedAt := some anHour
    completedAt := some anHour }

end Example

/-- The condition is false, so the node behind its other branch is not entered. -/
theorem stored_trail_is_walk_unanswered :
    let past := (Example.asking.playAll Example.arrival).1
    let mid := (Example.asking.playAll Example.arrival).2
    let later := (mid.playAll Example.anHourOn).1
    let last := (mid.playAll Example.anHourOn).2
    ∃ flow, Flow.read (.record Example.question) = .valid flow ∧
      flow.IsWalkedBy past Example.parked ∧ flow.IsWalkedBy (past ++ later) Example.missed ∧
      last.tables.Stores Example.missed ∧ Example.parked.trail <+: Example.missed.trail := by
  intro past mid later last
  have found : (Flow.read (.record Example.question)).toOption.isSome = true := by decide +kernel
  have facts : ∀ flow ∈ (Flow.read (.record Example.question)).toOption, flow.id = "flow" ∧
      ∀ event ∈ past ++ later, event.Shows flow := by decide +kernel
  have stored : Example.parked.row ∈ mid.tables.executionRows ∧
      Example.missed.row ∈ last.tables.executionRows := by decide +kernel
  have goes := (mid.runs_playAll Example.anHourOn).1
  cases reads : Flow.read (.record Example.question) with
  | invalid issues =>
    rw [reads] at found
    cases found
  | valid flow =>
    obtain ⟨named, unedited⟩ := facts flow (by rw [reads]; rfl)
    obtain ⟨v, regular, isRow, walked, _, extended⟩ :=
      stored_trail_is_walk rfl (fun event early => unedited event (List.mem_append_left _ early))
        Example.runs_arrival goes _ stored.1
    obtain rfl : v = Example.parked := Execution.row_injective regular
      ⟨Document.clean_nil _, Document.clean_nil _⟩ isRow
    obtain ⟨w, regular', isRow', walkedOn, _⟩ :=
      stored_trail_is_walk rfl unedited (Example.runs_arrival.trans goes) (.nil _) _ stored.2
    obtain rfl : w = Example.missed := Execution.row_injective regular'
      ⟨Document.clean_nil _, Document.clean_nil _⟩ isRow'
    have stores : last.tables.Stores Example.missed := ⟨regular', stored.2⟩
    exact ⟨flow, rfl, walked named.symm, walkedOn named.symm, stores, extended _ stores rfl⟩

end MessageFlow
