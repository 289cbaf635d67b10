import MessageFlow.Flow.Kind
import MessageFlow.Json.Basic
import MessageFlow.Time.Timestamp

/-!
Flow documents: nodes of five kinds joined by edges. Every part keeps the unknown members it was
read with.
-/

namespace MessageFlow

/-- A button shown under a message. -/
structure Button where
  label : String
  payload : Option String
  extras : Row
  deriving DecidableEq

/-- What a node does; which entries matter depends on the type of the node. -/
structure NodeData where
  triggerType : Option String := none
  keywords : Option (List String) := none
  postIds : Option (List String) := none
  replyToStory : Option Bool := none
  messageType : Option String := some "text"
  text : Option String := none
  quickReplies : Option (List String) := none
  buttons : Option (List Button) := none
  imageUrl : Option String := none
  useAI : Option Bool := some false
  aiPrompt : Option String := none
  conditionType : Option String := none
  delayType : Option String := some "minutes"
  /-- The amount of a delay, or the custom field that a condition looks up. -/
  value : Json := .null
  actionType : Option String := none
  tag : Option String := none
  customMessage : Option String := none
  notifyEmail : Option String := none
  waitForReply : Option Bool := some false
  extras : Row := []
  deriving DecidableEq

structure Node where
  id : String
  type : String
  data : NodeData
  position : Option Row
  extras : Row
  deriving DecidableEq

structure Edge where
  id : Option String
  source : String
  target : String
  sourceHandle : Option String
  extras : Row
  deriving DecidableEq

/-- A stored flow. -/
structure Flow where
  id : String
  userId : Option String
  accountId : String
  name : String
  description : Option String
  nodes : List Node
  edges : List Edge
  isActive : Bool
  triggerCount : Int
  lastTriggeredAt : Option Timestamp
  createdAt : Option Timestamp
  updatedAt : Option Timestamp
  extras : Row
  deriving DecidableEq

/-- A flow definition handed in for validation. -/
structure FlowDraft where
  id : Option String
  accountId : Option String
  name : String
  description : Option String
  nodes : List Node
  edges : List Edge
  isActive : Option Bool
  extras : Row
  deriving DecidableEq

namespace NodeData

def messageKind? (data : NodeData) : Option MessageKind := data.messageType.bind MessageKind.ofText?

def conditionKind? (data : NodeData) : Option ConditionKind :=
  data.conditionType.bind ConditionKind.ofText?

def actionKind? (data : NodeData) : Option ActionKind := data.actionType.bind ActionKind.ofText?

end NodeData

/-- The kind that the type names. -/
def Node.kind? (node : Node) : Option NodeKind := NodeKind.ofText? node.type

/-- The first node with the id. -/
def findNode (nodes : List Node) (id : String) : Option Node := nodes.find? (·.id == id)

def Flow.node? (flow : Flow) (id : String) : Option Node := findNode flow.nodes id

end MessageFlow
