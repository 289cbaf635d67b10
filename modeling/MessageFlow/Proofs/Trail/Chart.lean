import MessageFlow.Proofs.Interleaving.Writes
import MessageFlow.Proofs.Trail.Track
import MessageFlow.Proofs.Traversal.Successors

/-!
The chart of an execution: the nodes that it has entered, each with the branch taken behind it, and
the queries by which it was started and by which it entered each node.
-/

namespace MessageFlow

/-- The flows have the same nodes and edges. -/
structure Flow.SharesGraph (flow other : Flow) : Prop where
  nodes : other.nodes = flow.nodes
  edges : other.edges = flow.edges

namespace Event

/-- The query stores the first version of an execution of the flow. Its task starts the flow for an
event, and of the trigger nodes that this event matches, `trigger` is the first. -/
structure Starts (event : Event) (flow : Flow) (first : Execution) (trigger : Node) : Prop where
  asks : event.query = .insert .executions first.row
  ofFlow : first.flowId = flow.id
  unknown : ∀ row ∈ event.before.executionRows, row.get "id" ≠ .text first.id
  stores : event.after.Stores first
  fires : ∃ brought keywords rest, event.task.Brings brought keywords ∧
    brought.triggers keywords flow = trigger :: rest

/-- The query stores what the visit of a node has made of the stored execution. -/
structure Enters (event : Event) (u : Execution) (node : Node) (w : Execution) : Prop where
  before : event.before.Stores u
  after : event.after.Stores w
  visits : ∃ e, event.query = Store.saveQuery e ∧ u.Visits node e ∧ w = e.saved

/-- Wherever the query could see the flow, it has this graph. -/
structure Shows (event : Event) (flow : Flow) : Prop where
  stored : ∀ row ∈ event.before.rows .flows, ∀ other, Flow.read (.record row) = .valid other →
    other.id = flow.id → flow.SharesGraph other
  given : ∀ other, event.task.flow? = some other → other.id = flow.id → flow.SharesGraph other

end Event

namespace Flow

/-- The stops of an execution in order, as the queries have made them: it is started at a trigger,
and every other node follows one of the stops before it. -/
inductive Charts (flow : Flow) (past : List Event) (id : String) : List Stop → Prop
  | start {event : Event} {first : Execution} {trigger : Node} (asked : event ∈ past)
    (starts : event.Starts flow first trigger) (named : first.id = id) :
    Charts flow past id [⟨trigger.id, none⟩]
  | visit {chart : List Stop} {event : Event} {u w : Execution} {node : Node}
    (charted : Charts flow past id chart) (asked : event ∈ past) (enters : event.Enters u node w)
    (named : u.id = id) (trail : u.trail = chart.map (·.nodeId))
    (follows : flow.Follows chart node) :
    Charts flow past id (chart ++ [⟨node.id, node.branch? u.context⟩])

/-- The branch that was taken behind an entry of a trail. Behind the first one, at which the
execution was started, none was; behind another one it is what the visit of this entry found. -/
inductive Took (flow : Flow) (past : List Event) (id : String) (trail : List String) :
    Nat → Option Bool → Prop
  | start : Took flow past id trail 0 none
  | visit {j : Nat} {event : Event} {u w : Execution} {node : Node} (asked : event ∈ past)
    (enters : event.Enters u node w) (named : u.id = id) (earlier : u.trail = trail.take j)
    (entry : trail[j]? = some node.id) (isNode : flow.node? node.id = some node) :
    Took flow past id trail j (node.branch? u.context)

/-- The trail of the execution is a walk through the flow. It begins at the first trigger node that
the event matches for which the execution was started. Every later entry follows an earlier one, on
the branch that was taken behind that one and along an edge without the handle of the other
branch. -/
structure IsWalkedBy (flow : Flow) (past : List Event) (v : Execution) : Prop where
  starts : ∃ event ∈ past, ∃ first trigger, event.Starts flow first trigger ∧ first.id = v.id ∧
    v.trail.head? = some trigger.id
  follows : ∀ (i : Nat) (nodeId : String), 0 < i → v.trail[i]? = some nodeId →
    ∃ (j : Nat) (source : String) (branch : Option Bool) (node : Node), j < i ∧
      v.trail[j]? = some source ∧ flow.Took past v.id v.trail j branch ∧
      node ∈ flow.successors source branch ∧ node.id = nodeId ∧
      ∃ edge ∈ flow.edges, edge.source = source ∧ edge.target = nodeId ∧
        ∀ b, branch = some b → edge.sourceHandle ≠ some (branchHandle !b)

variable {flow other : Flow} {node : Node} {past : List Event} {id : String} {chart : List Stop}

namespace SharesGraph

theorem successors (shares : flow.SharesGraph other) (nodeId : String) (branch : Option Bool) :
    other.successors nodeId branch = flow.successors nodeId branch := by
  have sameNode : other.node? = flow.node? := by
    funext id
    rw [node?, node?, shares.nodes]
  rw [successors_eq, successors_eq, targetsAmong, targetsAmong, sameNode, shares.edges]

theorem triggers (shares : flow.SharesGraph other) (event : TriggerEvent)
    (keywords : List String) : event.triggers keywords other = event.triggers keywords flow := by
  simp only [TriggerEvent.triggers, matchingTriggers, shares.nodes]

theorem follows (shares : flow.SharesGraph other) (follows : other.Follows chart node) :
    flow.Follows chart node := by
  obtain ⟨stop, passed, next⟩ := follows
  exact ⟨stop, passed, shares.successors stop.nodeId stop.branch ▸ next⟩

end SharesGraph

/-- What follows a node is reached along an edge, and behind a condition not along one with the
handle of the other branch. -/
theorem exists_edge_of_mem_successors {nodeId : String} {branch : Option Bool}
    (present : node ∈ flow.successors nodeId branch) :
    flow.node? node.id = some node ∧
      ∃ edge ∈ flow.edges, edge.source = nodeId ∧ edge.target = node.id ∧
        ∀ b, branch = some b → edge.sourceHandle ≠ some (branchHandle !b) := by
  obtain ⟨edge, isEdge, source, eligible, found⟩ := mem_successors.mp present
  have named := id_of_node? found
  rw [← named] at found
  refine ⟨found, edge, isEdge, source, named.symm, ?_⟩
  rintro b rfl handle
  simp only [← Edge.follows_iff, Edge.follows, handle] at eligible
  revert eligible
  cases b <;> decide

theorem Follows.mono {way : List Stop} (follows : flow.Follows way node) (within : way ⊆ chart) :
    flow.Follows chart node := by
  obtain ⟨stop, passed, next⟩ := follows
  exact ⟨stop, within passed, next⟩

namespace Charts

theorem mono (charts : flow.Charts past id chart) {later : List Event} (grows : past ⊆ later) :
    flow.Charts later id chart := by
  induction charts with
  | start asked starts named => exact .start (grows asked) starts named
  | visit _ asked enters named trail follows ih =>
    exact .visit ih (grows asked) enters named trail follows

theorem starts (charts : flow.Charts past id chart) :
    ∃ event ∈ past, ∃ first trigger, event.Starts flow first trigger ∧ first.id = id ∧
      chart.head? = some ⟨trigger.id, none⟩ := by
  induction charts with
  | start asked starts named => exact ⟨_, asked, _, _, starts, named, rfl⟩
  | visit charted asked enters named trail follows ih =>
    obtain ⟨event, asked, first, trigger, starts, named, head⟩ := ih
    refine ⟨event, asked, first, trigger, starts, named, ?_⟩
    rw [List.head?_append, head, Option.some_or]

/-- The first stop is that of the start, and every other one that of a visit. -/
theorem entry (charts : flow.Charts past id chart) {i : Nat} {stop : Stop}
    (isStop : chart[i]? = some stop) : (i = 0 ∧ stop.branch = none) ∨
      ∃ event ∈ past, ∃ u node w, event.Enters u node w ∧ u.id = id ∧
        u.trail = (chart.take i).map (·.nodeId) ∧ flow.Follows (chart.take i) node ∧
        stop = ⟨node.id, node.branch? u.context⟩ := by
  induction charts with
  | start asked starts named =>
    cases i with
    | zero =>
      cases isStop
      exact .inl ⟨rfl, rfl⟩
    | succ i => cases isStop
  | @visit chart event u w node charted asked enters named trail follows ih =>
    rcases Nat.lt_or_ge i chart.length with earlier | last
    · rw [List.getElem?_append_left earlier] at isStop
      rw [List.take_append_of_le_length earlier.le]
      exact ih isStop
    · obtain rfl : i = chart.length := by
        obtain ⟨within, _⟩ := List.getElem?_eq_some_iff.mp isStop
        rw [List.length_append, List.length_singleton] at within
        omega
      rw [List.getElem?_concat_length] at isStop
      rw [List.take_left]
      exact .inr ⟨event, asked, u, node, w, enters, named, trail, follows,
        (Option.some.inj isStop).symm⟩

theorem took (charts : flow.Charts past id chart) {j : Nat} {stop : Stop}
    (isStop : chart[j]? = some stop) :
    flow.Took past id (chart.map (·.nodeId)) j stop.branch := by
  rcases charts.entry isStop with
    ⟨rfl, none⟩ | ⟨event, asked, u, node, w, enters, named, trail, ⟨_, _, next⟩, rfl⟩
  · rw [none]
    exact .start
  · refine .visit asked enters named ?_ ?_ (exists_edge_of_mem_successors next).1
    · rw [trail, List.map_take]
    · rw [List.getElem?_map, isStop]
      rfl

/-- An execution whose trail is on the chart has walked through the flow. -/
theorem isWalkedBy {v : Execution} (charts : flow.Charts past v.id chart)
    (trail : v.trail = chart.map (·.nodeId)) : flow.IsWalkedBy past v where
  starts := by
    obtain ⟨event, asked, first, trigger, starts, named, head⟩ := charts.starts
    refine ⟨event, asked, first, trigger, starts, named, ?_⟩
    rw [trail, List.head?_map, head]
    rfl
  follows i nodeId later entry := by
    rw [trail, List.getElem?_map] at entry
    obtain ⟨stop, isStop, rfl⟩ := Option.map_eq_some_iff.mp entry
    rcases charts.entry isStop with
      ⟨rfl, _⟩ | ⟨_, _, _, node, _, _, _, _, ⟨source, passed, next⟩, rfl⟩
    · exact absurd later (Nat.lt_irrefl 0)
    · obtain ⟨j, isSource⟩ := List.mem_iff_getElem?.mp passed
      obtain ⟨within, _⟩ := List.getElem?_eq_some_iff.mp isSource
      have before : j < i := lt_of_lt_of_le within (List.length_take_le i chart)
      rw [List.getElem?_take_of_lt before] at isSource
      obtain ⟨_, edge, isEdge, leaves, reaches, handle⟩ := exists_edge_of_mem_successors next
      refine ⟨j, source.nodeId, source.branch, node, before, ?_, ?_, next, rfl, edge, isEdge,
        leaves, reaches, handle⟩
      · rw [trail, List.getElem?_map, isSource]
        rfl
      · rw [trail]
        exact charts.took isSource

end Charts
end Flow
end MessageFlow
