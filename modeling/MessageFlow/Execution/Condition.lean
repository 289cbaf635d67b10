import MessageFlow.Execution.Basic
import MessageFlow.Flow.Basic
import MessageFlow.Json.Printer
import MessageFlow.Text.Lower
import MessageFlow.Text.Search

/-!
Conditions on the working memory of a run. An unknown condition is false.
-/

namespace MessageFlow
namespace Context

def minPhoneLength : Nat := 10

def hasEmail (context : Context) : Bool := (context.email.getD "").toList.contains '@'

def hasPhone (context : Context) : Bool := minPhoneLength ≤ (context.phone.getD "").length

/-- Whether the last message contains one of the keywords, without regard to case. -/
def matchesKeyword (context : Context) (keywords : List String) : Bool :=
  let message := (Text.lower (context.lastUserMessage.getD "")).toList
  keywords.any fun keyword => !keyword.isEmpty && Text.occursIn (Text.lower keyword).toList message

end Context

/-- The name of the custom field that a condition looks up; an empty or zero value names the empty
field. -/
def Json.fieldName (value : Json) : String := if value.isTruthy then value.display else ""

def NodeData.holds (data : NodeData) (context : Context) : Bool :=
  match data.conditionKind? with
  | some .hasEmail => context.hasEmail
  | some .hasPhone => context.hasPhone
  | some .keywordMatch => context.matchesKeyword (data.keywords.getD [])
  | some .userReplied => !(context.lastUserMessage.getD "").isEmpty
  | some .customField => context.isSet data.value.fieldName
  | none => false

end MessageFlow
