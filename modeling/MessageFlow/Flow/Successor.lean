import MessageFlow.Flow.Basic

/-!
The nodes that follow a node: the existing targets of its eligible edges, each one once, in the
order of the edges.
-/

namespace MessageFlow

def branchHandle (branch : Bool) : String := if branch then "true" else "false"

/-- After a condition an edge with a handle is followed only if the handle names the branch. -/
def Edge.follows (branch : Option Bool) (edge : Edge) : Bool :=
  match branch, edge.sourceHandle with
  | some b, some handle => handle.isEmpty || handle == branchHandle b
  | _, _ => true

/-- The targets of the edges that leave the node; `seen` holds the ids already taken. -/
def collectTargets (flow : Flow) (nodeId : String) (branch : Option Bool) :
    List String → List Edge → List Node
  | _, [] => []
  | seen, edge :: edges =>
    if edge.source == nodeId && edge.follows branch && !seen.contains edge.target then
      match flow.node? edge.target with
      | some node => node :: collectTargets flow nodeId branch (edge.target :: seen) edges
      | none => collectTargets flow nodeId branch seen edges
    else collectTargets flow nodeId branch seen edges

def Flow.successors (flow : Flow) (nodeId : String) (branch : Option Bool) : List Node :=
  collectTargets flow nodeId branch [] flow.edges

end MessageFlow
