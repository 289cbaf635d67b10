import MessageFlow.Flow.Trigger

/-!
Structural validation of flows. All problems are reported at once.
-/

namespace MessageFlow

inductive FlowProblem where
  | noTrigger
  | noAction
  | missingSource (id : String)
  | missingTarget (id : String)
  | untypedTrigger (id : String)
  | triggerWithoutKeywords (id : String)
  | emptyMessage (id : String)
  | badDelay (id : String)
  deriving DecidableEq, Repr

def FlowProblem.message : FlowProblem → String
  | .noTrigger => "Flow must have at least one trigger node"
  | .noAction => "Flow must have at least one message or action node"
  | .missingSource id => "Edge references non-existent source node: " ++ id
  | .missingTarget id => "Edge references non-existent target node: " ++ id
  | .untypedTrigger id => "Trigger node " ++ id ++ " missing triggerType"
  | .triggerWithoutKeywords id => "Trigger node " ++ id ++ " requires at least one keyword"
  | .emptyMessage id => "Message node " ++ id ++ " requires text content or AI enabled"
  | .badDelay id => "Delay node " ++ id ++ " requires a positive delay value"

def Json.isPositiveNumber : Json → Bool
  | .int value => 0 < value
  | .real value => value.isPositive
  | _ => false

/-- Whether an optional text is present and not empty. -/
def hasText (text : Option String) : Bool := text.any (!·.isEmpty)

def Edge.problems (ids : List String) (edge : Edge) : List FlowProblem :=
  (if ids.contains edge.source then [] else [.missingSource edge.source]) ++
    (if ids.contains edge.target then [] else [.missingTarget edge.target])

def Node.triggerProblems (node : Node) : List FlowProblem :=
  (if hasText node.data.triggerType then [] else [.untypedTrigger node.id]) ++
    (if needsKeywords node.data.triggerType && (node.data.keywords.getD []).isEmpty then
      [.triggerWithoutKeywords node.id] else [])

def Node.contentProblems (node : Node) : List FlowProblem :=
  match node.kind? with
  | some .message =>
    if hasText node.data.text || node.data.useAI.getD false then [] else [.emptyMessage node.id]
  | some .delay => if node.data.value.isPositiveNumber then [] else [.badDelay node.id]
  | _ => []

/-- Whether the node does something for its sender. -/
def Node.acts (node : Node) : Bool :=
  node.kind? == some .message || node.kind? == some .action

/-- The problems of a flow: of the whole, of its edges, of its triggers, of its other nodes. -/
def flowProblems (nodes : List Node) (edges : List Edge) : List FlowProblem :=
  let triggers := nodes.filter (·.kind? == some .trigger)
  (if triggers.isEmpty then [.noTrigger] else []) ++
    (if nodes.any Node.acts then [] else [.noAction]) ++
    edges.flatMap (Edge.problems (nodes.map (·.id))) ++
    triggers.flatMap Node.triggerProblems ++
    nodes.flatMap Node.contentProblems

def FlowDraft.problems (flow : FlowDraft) : List FlowProblem := flowProblems flow.nodes flow.edges

end MessageFlow
