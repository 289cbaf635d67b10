import MessageFlow.Deployment
import MessageFlow.Program.Basic
import MessageFlow.Text.Classes

/-!
Texts written by the assistant. When no completion can be had a fallback text takes its place.
-/

namespace MessageFlow.Assistant

def fallbackWithoutClient : String :=
  "Hey! Thanks for reaching out. I'll get back to you soon!"

def fallbackWithoutText : String := "Thanks for your message! I'll get back to you soon."

def fallbackAfterError : String := "Thanks for reaching out! I'll respond shortly."

def temperature : Binary64 := .ofDecimal false 7 (-1)

/-- A role other than the two of a conversation counts as the user's. -/
def knownRole (turn : Turn) : Turn :=
  if turn.role = "user" ∨ turn.role = "assistant" then turn else { turn with role := "user" }

/-- The text that is sent for an outcome. -/
def replyText : CompletionOutcome → String
  | .text (some text) => if text.isEmpty then fallbackWithoutText else Text.trim text
  | .text none => fallbackWithoutText
  | .noChoices => fallbackWithoutText
  | .failed => fallbackAfterError

def reply (deployment : Deployment) (systemPrompt : String) (turns : List Turn) (maxTokens : Int) :
    Operation String :=
  if deployment.hasAssistant then do
    let outcome ← Operation.complete {
      model := deployment.assistantModel
      messages := ⟨"system", .text systemPrompt⟩ :: turns.map knownRole
      temperature
      maxTokens
      timeout := deployment.assistantTimeout }
    pure (replyText outcome)
  else pure fallbackWithoutClient

end MessageFlow.Assistant
