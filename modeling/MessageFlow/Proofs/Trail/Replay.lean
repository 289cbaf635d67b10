import MessageFlow.Proofs.Trail.Walk

/-!
The tags and the subscription of a stored execution replay its trail: every node that was entered
has left its note once, and nothing else has changed them.
-/

namespace MessageFlow

/-- The tags and the subscription are what is noted along the trail. -/
def Execution.Replays (v : Execution) (flow : Flow) : Prop :=
  v.context.marks = .replay (flow.notes v.trail)

namespace Flow

variable {flow : Flow} {node : Node}

/-- A further node of the trail adds its note. -/
theorem notes_concat {trail : List String} (begun : trail ≠ [])
    (isNode : flow.node? node.id = some node) :
    flow.notes (trail ++ [node.id]) = flow.notes trail ++ node.note?.toList := by
  rw [notes, List.tail_append_of_ne_nil begun, List.filterMap_append, ← notes,
    List.filterMap_cons, isNode, Option.bind_some]
  cases node.note? with
  | none => rfl
  | some note => rfl

end Flow

theorem Marks.replay_note (notes : List Note) (node : Node) :
    replay (notes ++ node.note?.toList) = node.mark (replay notes) := by
  unfold Node.mark
  cases node.note? with
  | none => exact congrArg replay (List.append_nil notes)
  | some note => exact replay_concat notes note

namespace Execution

variable {u v e : Execution} {flow : Flow} {node : Node}

theorem Replays.visit (replays : v.Replays flow) (visits : v.Visits node e)
    (isNode : flow.node? node.id = some node)
    (marks : e.context.marks = node.mark v.context.marks) : e.Replays flow := by
  have begun : v.trail ≠ [] := List.append_ne_nil_of_right_ne_nil _ (List.cons_ne_nil _ _)
  rw [Replays, visits.trail, Flow.notes_concat begun isNode, Marks.replay_note, ← replays, marks]

/-- What neither moves the execution nor changes the marks. -/
theorem Replays.remain (replays : v.Replays flow) (trail : e.trail = v.trail)
    (marks : e.context.marks = v.context.marks) : e.Replays flow := by
  rw [Replays, trail, marks]
  exact replays

theorem replays_of_isNew (flow : Flow) (isNew : e.IsNew) (unmarked : e.context.marks = {}) :
    e.Replays flow := by
  rw [Replays, unmarked, trail, isNew.previousNodeIds]
  rfl

end Execution

/-- A write that does not move the execution leaves tags and subscription alone. -/
theorem Task.Writes.marks {task : Task} {s : Station} {v e : Execution} {goesOn : Bool}
    {desk : Except Failure (List Row) → Desk} (writes : task.Writes s v e goesOn desk)
    (still : e.trail = v.trail) : e.context.marks = v.context.marks := by
  cases writes with
  | message message => exact v.context.marks_receive message
  | deletion | wake | lose => rfl
  | advance e walks change suits =>
    cases change with
    | node node wake now active =>
      have visits : v.Visits node (((v.movedTo node).afterNode node wake).stamped now) :=
        .handled wake now
      rw [visits.trail] at still
      exact absurd still (by simp)
    | failedNode | stopped | completed => rfl

namespace Party

/-- All stored executions of the flow replay their trails. -/
def Replayed (flow : Flow) (party : Party) : Prop :=
  ∀ v, party.tables.Stores v → v.flowId = flow.id → v.Replays flow

namespace Surveyed

variable {flow : Flow} {party : Party} {event : Event}
  {after : Except Failure (List Row) → Station} (surveyed : party.Surveyed flow)
  (asks : party.toScene.Asks event after) (replayed : party.Replayed flow)
include surveyed asks replayed

/-- After a write over a copy, if what takes the place of the stored version replays its trail. -/
theorem replayed_of_save {v e : Execution} (asked : event.query = Store.saveQuery e)
    (held : v ∈ (party.station event.client).held) (keeps : v.Keeps e)
    (renews : ∀ e' goesOn desk, event.task.Writes (party.station event.client) v e' goesOn desk →
      e'.saved = e.saved → party.tables.Stores v → v.flowId = flow.id → v.Replays flow →
      e'.Replays flow) :
    ∀ w, event.after.Stores w → w.flowId = flow.id → w.Replays flow := by
  rcases asks.save_cases surveyed.scheduled.sound asked held keeps with
    ⟨unchanged, -⟩ | ⟨e', goesOn, desk, writes, written, before, replaced, -⟩
  · exact fun w stores => replayed w ((unchanged w).mp stores)
  · intro w stores ofFlow
    rcases (replaced w).mp stores with rfl | ⟨old, -⟩
    · rw [← written] at ofFlow ⊢
      have ofFlow : v.flowId = flow.id := writes.flowId.symm.trans ofFlow
      exact renews e' goesOn desk writes written before ofFlow (replayed v before ofFlow)
    · exact replayed w old ofFlow

/-- A node that was entered has left its note, and no other query changes the marks. -/
theorem replayed_next (shows : event.Shows flow) {goes : Except Failure (List Row) → Track}
    (roams : event.task.Roams (party.track event.client) event.traversed (.query event.query)
      goes) : ∀ w, event.after.Stores w → w.flowId = flow.id → w.Replays flow := by
  have spared (spares : ∀ tables, (event.query.run tables).2.executionRows = tables.executionRows) :
      ∀ w, event.after.Stores w → w.flowId = flow.id → w.Replays flow :=
    fun w stores => replayed w ((asks.stores_iff_of_spares spares w).mp stores)
  generalize asked : event.query = query at roams spared
  cases roams with
  | aside _ spares => exact spared fun _ => query.rows_run_of_ne spares
  | seek => exact spared fun _ => rfl
  | select => exact spared fun _ => rfl
  | create e other brought keywords node rest isNew told brings fires ofFlow starts unmarked =>
    intro w stores isFlow
    rcases (asks.stores_of_create asked isNew).2 w stores with old | rfl
    · exact replayed w old isFlow
    · exact Execution.replays_of_isNew flow isNew unmarked
  | write v e outside seen keeps =>
    have idle : (party.station event.client).walking = none := by
      rw [asks.label] at outside
      exact Option.map_eq_none_iff.mp outside
    refine surveyed.replayed_of_save asks replayed asked (surveyed.seen _ seen) keeps
      fun e' goesOn desk writes _ before _ replays => ?_
    obtain ⟨still, -⟩ := writes.stays idle (surveyed.scheduled.keeps v before)
    exact replays.remain still (writes.marks still)
  | visit v e way other node inside walks knows follows visits marks =>
    obtain ⟨isWalking, -⟩ := surveyed.walks_of_way asks inside walks
    have held := (party.station event.client).walkingHeld v isWalking
    refine surveyed.replayed_of_save asks replayed asked held visits.keeps
      fun e' _ _ _ written before ofFlow replays => ?_
    obtain ⟨u, seen, sameId, sameFlow⟩ := knows.seen
    have isFlow : other.id = flow.id :=
      (sameFlow.symm.trans (surveyed.sameFlow _ u seen v before sameId.symm).symm).trans ofFlow
    obtain ⟨_, _, next⟩ := (surveyed.sharesGraph shows knows.told isFlow).follows follows
    have entered : e.Replays flow :=
      replays.visit visits (Flow.exists_edge_of_mem_successors next).1 marks
    have stored : e'.saved.Replays flow := written ▸ entered
    exact stored
  | stop v e way inside walks accompanies ends =>
    obtain ⟨isWalking, -⟩ := surveyed.walks_of_way asks inside walks
    have held := (party.station event.client).walkingHeld v isWalking
    refine surveyed.replayed_of_save asks replayed asked held accompanies.toKeeps
      fun e' _ _ writes written _ _ replays => ?_
    have still : e'.saved.trail = v.trail := written ▸ accompanies.trail
    exact replays.remain still (writes.marks still)

end Surveyed

/-- As long as the flow is not edited, every step keeps the replays. -/
theorem kept_replayed (flow : Flow) :
    Kept fun party => (∀ event ∈ party.past, event.Shows flow) →
      party.Surveyed flow ∧ party.Replayed flow := by
  intro party party' step holds shows
  refine ⟨kept_surveyed flow step (fun earlier => (holds earlier).1) shows, ?_⟩
  cases step with
  | begin i task free ready => exact (holds shows).2
  | freshId i task id after acts unissued unknown => exact (holds shows).2
  | query event after goes asks roams =>
    obtain ⟨surveyed, replayed⟩ := holds fun earlier present =>
      shows earlier (List.mem_append_left _ present)
    exact surveyed.replayed_next asks replayed
      (shows event (List.mem_append_right _ (.head []))) roams

end Party

/-- Starting without executions, however the requests of all clients are interleaved and whichever
queries fail, and as long as the flow is not edited: the tags of every stored execution of the flow
are those that its trail has added last, each of them once and in the order in which they came, and
the custom field of the subscription tells what the trail has noted of it last. -/
theorem stored_marks_replay_trail {tables : Tables} {issued : List String} {flow : Flow}
    {past : List Event} {last : System} (noExecutions : tables.executionRows = [])
    (unedited : ∀ event ∈ past, event.Shows flow)
    (runs : System.Runs { tables, issued } past last) :
    ∀ row ∈ last.tables.executionRows, ∃ v : Execution, v.Regular ∧ v.row = row ∧
      (v.flowId = flow.id →
        AreTags (flow.notes v.trail) v.context.tags ∧
        v.context.field? Run.subscribed =
          (lastSubscription (flow.notes v.trail)).map FieldValue.flag) := by
  have start : Party.Replayed flow ⟨⟨tables, issued, fun _ => .holding ∅, []⟩,
      fun _ => ⟨∅, ∅, none⟩⟩ := fun v stores => by
    have present : v.row ∈ tables.executionRows := stores.present
    rw [noExecutions] at present
    cases present
  obtain ⟨station, track, manned, holds⟩ :=
    (System.Guided.start tables issued _).keeps (System.Manned.start tables issued)
      (Party.kept_replayed flow) (fun _ => ⟨.start flow noExecutions, start⟩) runs
  obtain ⟨surveyed, replayed⟩ := holds unedited
  intro row present
  obtain ⟨v, regular, rfl⟩ := surveyed.scheduled.sound.formed row present
  refine ⟨v, regular, rfl, fun ofFlow => ?_⟩
  have replays : v.context.marks = .replay (flow.notes v.trail) :=
    replayed v ⟨regular, present⟩ ofFlow
  constructor
  · have tags : v.context.tags = (Marks.replay (flow.notes v.trail)).tags :=
      congrArg Marks.tags replays
    exact tags ▸ areTags_replay (flow.notes v.trail)
  · exact (congrArg Marks.subscribed replays).trans (subscribed_replay (flow.notes v.trail))

namespace Example

/-- An action node of a flow document. -/
def acting (id action : String) (tag : Option String) : Json :=
  .record [("id", .text id), ("type", .text "action"), ("data", .record
    [("action_type", .text action), ("tag", .ofText? tag)])]

/-- A flow that the word "hi" starts, and that takes a tag back before it adds it again. -/
def membership : Row :=
  [("id", .text "flow"), ("account_id", .text "account"), ("name", .text "Membership"),
    ("is_active", .bool true),
    ("nodes", .list [
      .record [("id", .text "begin"), ("type", .text "trigger"), ("data", .record
        [("trigger_type", .text "keyword"), ("keywords", .list [.text "hi"])])],
      acting "visited" "add_tag" (some "guest"), acting "read" "add_tag" (some "reader"),
      acting "left" "remove_tag" (some "guest"), acting "returned" "add_tag" (some "guest"),
      acting "joined" "subscribe" none]),
    ("edges", .list [
      .record [("source", .text "begin"), ("target", .text "visited")],
      .record [("source", .text "visited"), ("target", .text "read")],
      .record [("source", .text "read"), ("target", .text "left")],
      .record [("source", .text "left"), ("target", .text "returned")],
      .record [("source", .text "returned"), ("target", .text "joined")]])]

def admitting : System :=
  .started { flows := ⟨[membership], 0⟩, accounts := ⟨[account], 0⟩ } deployment reminders

/-- The message is served. -/
def admission : List Move := List.replicate 22 { client := 0, id := "execution" }

/-- The execution as it is completed. -/
def member : Execution where
  id := "execution"
  flowId := "flow"
  userId := none
  accountId := "account"
  senderId := "sender"
  senderUsername := none
  currentNodeId := "joined"
  previousNodeIds := ["begin", "visited", "read", "left", "returned"]
  status := .completed
  context := {
    triggerType := some "keyword"
    tags := ["reader", "guest"]
    customFields := [(Run.subscribed, .flag true)] }
  revision := 6
  createdAt := some default
  updatedAt := some default
  completedAt := some default

end Example

/-- The tag that was taken back came to stay after the other one. -/
theorem stored_marks_replay_trail_member :
    ∃ flow, Flow.read (.record Example.membership) = .valid flow ∧
      flow.notes Example.member.trail =
        [.add "guest", .add "reader", .remove "guest", .add "guest", .subscribe true] ∧
      AreTags (flow.notes Example.member.trail) ["reader", "guest"] ∧
      (lastSubscription (flow.notes Example.member.trail)).map FieldValue.flag =
        some (.flag true) := by
  let past := (Example.admitting.playAll Example.admission).1
  let last := (Example.admitting.playAll Example.admission).2
  have found : (Flow.read (.record Example.membership)).toOption.isSome = true := by
    decide +kernel
  have facts : ∀ flow ∈ (Flow.read (.record Example.membership)).toOption, flow.id = "flow" ∧
      flow.notes Example.member.trail =
        [.add "guest", .add "reader", .remove "guest", .add "guest", .subscribe true] ∧
      ∀ event ∈ past, event.Shows flow := by decide +kernel
  have stored : Example.member.row ∈ last.tables.executionRows := by decide +kernel
  have free : ∀ task ∈ Example.reminders, task.given = none := by decide
  have runs := (System.runs_started Example.admitting.tables Example.deployment free).trans
    (Example.admitting.runs_playAll Example.admission).1
  cases reads : Flow.read (.record Example.membership) with
  | invalid issues =>
    rw [reads] at found
    cases found
  | valid flow =>
    obtain ⟨named, notes, unedited⟩ := facts flow (by rw [reads]; rfl)
    obtain ⟨v, regular, isRow, replays⟩ :=
      stored_marks_replay_trail rfl unedited runs _ stored
    obtain rfl : v = Example.member := Execution.row_injective regular
      ⟨Document.clean_nil _, Document.clean_nil _⟩ isRow
    obtain ⟨areTags, subscribed⟩ := replays named.symm
    exact ⟨flow, rfl, notes, areTags, subscribed.symm⟩

end MessageFlow
