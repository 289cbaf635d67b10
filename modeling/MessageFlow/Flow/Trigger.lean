import MessageFlow.Flow.Basic
import MessageFlow.Text.Classes
import MessageFlow.Text.Lower
import MessageFlow.Text.Search

/-!
Which trigger nodes an event of a type starts. Keywords are compared without regard to case and
surrounding blanks, and one may contain the other.
-/

namespace MessageFlow

/-- The words of a comment or message. -/
def keywordsOf (text : Option String) : List String := (text.map Text.words).getD []

def normalizeKeyword (keyword : String) : List Char := (Text.lower (Text.trim keyword)).toList

/-- Whether one of two keywords contains the other; a blank one matches nothing. -/
def keywordMatches (event trigger : String) : Bool :=
  let event := normalizeKeyword event
  let trigger := normalizeKeyword trigger
  !event.isEmpty && !trigger.isEmpty && (Text.occursIn trigger event || Text.occursIn event trigger)

def keywordsMatch (eventKeywords triggerKeywords : List String) : Bool :=
  eventKeywords.any fun event => triggerKeywords.any fun trigger => keywordMatches event trigger

/-- Whether triggers of this type are selected by keywords. -/
def needsKeywords (triggerType : Option String) : Bool :=
  (triggerType.bind TriggerKind.ofText?).any TriggerKind.needsKeywords

/-- A trigger for comments may be confined to some posts. -/
def NodeData.admitsPost (data : NodeData) (triggerType : Option String)
    (postId : Option String) : Bool :=
  let posts := data.postIds.getD []
  triggerType != some TriggerKind.comment.text || posts.isEmpty ||
    (match postId with
    | none => false
    | some post => !post.isEmpty && posts.contains post)

def NodeData.admitsKeywords (data : NodeData) (triggerType : Option String)
    (keywords : List String) : Bool :=
  let wanted := data.keywords.getD []
  !needsKeywords triggerType || wanted.isEmpty || keywordsMatch keywords wanted

def Node.firesOn (triggerType : Option String) (keywords : List String) (postId : Option String)
    (node : Node) : Bool :=
  node.kind? == some .trigger && node.data.triggerType == triggerType &&
    node.data.admitsPost triggerType postId && node.data.admitsKeywords triggerType keywords

/-- The matching trigger nodes in node order. -/
def Flow.matchingTriggers (flow : Flow) (triggerType : Option String) (keywords : List String)
    (postId : Option String) : List Node :=
  flow.nodes.filter (Node.firesOn triggerType keywords postId)

end MessageFlow
