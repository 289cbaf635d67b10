import MessageFlow.Execution.Basic
import MessageFlow.Text.Search

/-!
Variables in message texts. Each variable is replaced in turn, so a value that was inserted is
itself searched for the variables that follow.
-/

namespace MessageFlow

def defaultDisplayName : String := "there"

/-- The first of two optional texts that is not empty, or the fallback. -/
def firstText (fallback : String) : List (Option String) → String
  | [] => fallback
  | some text :: rest => if text.isEmpty then firstText fallback rest else text
  | none :: rest => firstText fallback rest

/-- The variables and their values, in the order in which they are replaced. -/
def Execution.variables (execution : Execution) : List (String × String) :=
  let context := execution.context
  [("\x7busername\x7d", firstText defaultDisplayName [execution.senderUsername]),
   ("\x7bname\x7d", firstText defaultDisplayName [context.name, execution.senderUsername]),
   ("\x7bemail\x7d", context.email.getD ""),
   ("\x7bphone\x7d", context.phone.getD "")]

def Execution.fill (execution : Execution) (text : String) : String :=
  execution.variables.foldl (fun text (name, value) => Text.replace name value text) text

end MessageFlow
