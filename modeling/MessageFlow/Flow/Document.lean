import MessageFlow.Document.Names
import MessageFlow.Flow.Basic

/-!
Reading and writing flow documents.
-/

namespace MessageFlow
open Document

namespace Button

def title : String := "QuickReplyButton"

def names : List FieldName := [Field.label, Field.payload]

def read : ValueReader Button := object title names fun doc =>
  Button.mk <$> required Field.label asText doc <*> maybe Field.payload asText doc

def write (naming : Naming) (button : Button) : Json :=
  Document.write naming
    [(Field.label, .text button.label), (Field.payload, .ofText? button.payload)] button.extras

instance : DocumentType Button where
  title := title
  read := read
  write := write
  loose button := button.extras.map (·.2)

end Button

namespace NodeData

def title : String := "NodeData"

def names : List FieldName :=
  [Field.triggerType, Field.keywords, Field.postIds, Field.replyToStory, Field.messageType,
   Field.text, Field.quickReplies, Field.buttons, Field.imageUrl, Field.useAI, Field.aiPrompt,
   Field.conditionType, Field.delayType, Field.value, Field.actionType, Field.tag,
   Field.customMessage, Field.notifyEmail, Field.waitForReply]

def read : ValueReader NodeData := object title names fun doc =>
  NodeData.mk <$> maybe Field.triggerType asText doc
    <*> maybe Field.keywords (listOf asText) doc
    <*> maybe Field.postIds (listOf asText) doc
    <*> maybe Field.replyToStory asBool doc
    <*> withDefault Field.messageType (some "text") (nullable asText) doc
    <*> maybe Field.text asText doc
    <*> maybe Field.quickReplies (listOf asText) doc
    <*> maybe Field.buttons (listOf Button.read) doc
    <*> maybe Field.imageUrl asText doc
    <*> withDefault Field.useAI (some false) (nullable asBool) doc
    <*> maybe Field.aiPrompt asText doc
    <*> maybe Field.conditionType asText doc
    <*> withDefault Field.delayType (some "minutes") (nullable asText) doc
    <*> withDefault Field.value .null asJson doc
    <*> maybe Field.actionType asText doc
    <*> maybe Field.tag asText doc
    <*> maybe Field.customMessage asText doc
    <*> maybe Field.notifyEmail asText doc
    <*> withDefault Field.waitForReply (some false) (nullable asBool) doc

def write (naming : Naming) (data : NodeData) : Json :=
  Document.write naming
    [(Field.triggerType, .ofText? data.triggerType),
     (Field.keywords, .ofOption .ofTexts data.keywords),
     (Field.postIds, .ofOption .ofTexts data.postIds),
     (Field.replyToStory, .ofOption .bool data.replyToStory),
     (Field.messageType, .ofText? data.messageType),
     (Field.text, .ofText? data.text),
     (Field.quickReplies, .ofOption .ofTexts data.quickReplies),
     (Field.buttons, .ofOption (fun buttons => .list (buttons.map (Button.write naming)))
       data.buttons),
     (Field.imageUrl, .ofText? data.imageUrl),
     (Field.useAI, .ofOption .bool data.useAI),
     (Field.aiPrompt, .ofText? data.aiPrompt),
     (Field.conditionType, .ofText? data.conditionType),
     (Field.delayType, .ofText? data.delayType),
     (Field.value, data.value.finite),
     (Field.actionType, .ofText? data.actionType),
     (Field.tag, .ofText? data.tag),
     (Field.customMessage, .ofText? data.customMessage),
     (Field.notifyEmail, .ofText? data.notifyEmail),
     (Field.waitForReply, .ofOption .bool data.waitForReply)] data.extras

instance : DocumentType NodeData where
  title := title
  read := read
  write := write
  loose data := (data.buttons.getD []).flatMap DocumentType.loose ++ data.value ::
    data.extras.map (·.2)

end NodeData

namespace Node

def title : String := "FlowNode"

def names : List FieldName := [Field.id, Field.type, Field.data, Field.position]

def read : ValueReader Node := object title names fun doc =>
  Node.mk <$> required Field.id asText doc
    <*> required Field.type asText doc
    <*> withDefault Field.data {} NodeData.read doc
    <*> maybe Field.position asRecord doc

def write (naming : Naming) (node : Node) : Json :=
  Document.write naming
    [(Field.id, .text node.id),
     (Field.type, .text node.type),
     (Field.data, node.data.write naming),
     (Field.position, .ofOption (fun position => .record (Json.finiteFields position))
       node.position)] node.extras

instance : DocumentType Node where
  title := title
  read := read
  write := write
  loose node := DocumentType.loose node.data ++
    (node.position.getD [] ++ node.extras).map (·.2)

end Node

namespace Edge

def title : String := "FlowEdge"

def names : List FieldName := [Field.id, Field.source, Field.target, Field.sourceHandle]

def read : ValueReader Edge := object title names fun doc =>
  Edge.mk <$> maybe Field.id asText doc
    <*> required Field.source asText doc
    <*> required Field.target asText doc
    <*> maybe Field.sourceHandle asText doc

def write (naming : Naming) (edge : Edge) : Json :=
  Document.write naming
    [(Field.id, .ofText? edge.id),
     (Field.source, .text edge.source),
     (Field.target, .text edge.target),
     (Field.sourceHandle, .ofText? edge.sourceHandle)] edge.extras

instance : DocumentType Edge where
  title := title
  read := read
  write := write
  loose edge := edge.extras.map (·.2)

end Edge

namespace Flow

def title : String := "Flow"

def names : List FieldName :=
  [Field.id, Field.userId, Field.accountId, Field.name, Field.description, Field.nodes, Field.edges,
   Field.isActive, Field.triggerCount, Field.lastTriggeredAt, Field.createdAt, Field.updatedAt]

def read : ValueReader Flow := object title names fun doc =>
  Flow.mk <$> required Field.id asText doc
    <*> maybe Field.userId asText doc
    <*> required Field.accountId asText doc
    <*> withDefault Field.name "" asText doc
    <*> maybe Field.description asText doc
    <*> withDefault Field.nodes [] (listOf Node.read) doc
    <*> withDefault Field.edges [] (listOf Edge.read) doc
    <*> withDefault Field.isActive true asBool doc
    <*> withDefault Field.triggerCount 0 asInt doc
    <*> maybe Field.lastTriggeredAt asTime doc
    <*> maybe Field.createdAt asTime doc
    <*> maybe Field.updatedAt asTime doc

def write (naming : Naming) (flow : Flow) : Json :=
  Document.write naming
    [(Field.id, .text flow.id),
     (Field.userId, .ofText? flow.userId),
     (Field.accountId, .text flow.accountId),
     (Field.name, .text flow.name),
     (Field.description, .ofText? flow.description),
     (Field.nodes, .list (flow.nodes.map (Node.write naming))),
     (Field.edges, .list (flow.edges.map (Edge.write naming))),
     (Field.isActive, .bool flow.isActive),
     (Field.triggerCount, .int flow.triggerCount),
     (Field.lastTriggeredAt, ofTime? flow.lastTriggeredAt),
     (Field.createdAt, ofTime? flow.createdAt),
     (Field.updatedAt, ofTime? flow.updatedAt)] flow.extras

instance : DocumentType Flow where
  title := title
  read := read
  write := write
  loose flow := flow.nodes.flatMap DocumentType.loose ++ flow.edges.flatMap DocumentType.loose ++
    flow.extras.map (·.2)

end Flow

namespace FlowDraft

def title : String := "FlowInput"

def names : List FieldName :=
  [Field.id, Field.accountId, Field.name, Field.description, Field.nodes, Field.edges,
   Field.isActive]

def read : ValueReader FlowDraft := object title names fun doc =>
  FlowDraft.mk <$> maybe Field.id asText doc
    <*> maybe Field.accountId asText doc
    <*> withDefault Field.name "" asText doc
    <*> maybe Field.description asText doc
    <*> withDefault Field.nodes [] (listOf Node.read) doc
    <*> withDefault Field.edges [] (listOf Edge.read) doc
    <*> maybe Field.isActive asBool doc

def write (naming : Naming) (flow : FlowDraft) : Json :=
  Document.write naming
    [(Field.id, .ofText? flow.id),
     (Field.accountId, .ofText? flow.accountId),
     (Field.name, .text flow.name),
     (Field.description, .ofText? flow.description),
     (Field.nodes, .list (flow.nodes.map (Node.write naming))),
     (Field.edges, .list (flow.edges.map (Edge.write naming))),
     (Field.isActive, .ofOption .bool flow.isActive)] flow.extras

instance : DocumentType FlowDraft where
  title := title
  read := read
  write := write
  loose flow := flow.nodes.flatMap DocumentType.loose ++ flow.edges.flatMap DocumentType.loose ++
    flow.extras.map (·.2)

end FlowDraft
end MessageFlow
