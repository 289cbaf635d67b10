import MessageFlow.Account.Basic

/-!
The prompts by which a persona writes.
-/

namespace MessageFlow

/-- One turn of a conversation with the assistant. -/
structure Turn where
  role : String
  /-- What was said, a text unless it was handed in as something else. -/
  content : Json
  deriving DecidableEq

def friendlyTone : String := "Be warm, approachable, and use casual language."

/-- What a tone asks for; an unknown tone counts as friendly. -/
def toneGuide (tone : String) : String :=
  match tone with
  | "professional" => "Be polite, formal, and business-appropriate."
  | "casual" => "Be relaxed, use slang when appropriate, like chatting with a friend."
  | "enthusiastic" => "Be energetic, use exclamations, show excitement!"
  | _ => friendlyTone

def defaultEmailPrompt : String :=
  "When appropriate, ask for their email to send more information."

def defaultPhonePrompt : String :=
  "For scheduling or urgent matters, ask for their phone number."

/-- A part of a prompt that is written only for a text that is present and not empty. -/
def promptPart (introduction : String) (text : Option String) : String :=
  match text with
  | some text => if text.isEmpty then "" else introduction ++ text
  | none => ""

/-- The lines of a list, numbered from `start` on. -/
def numberedLines (start : Nat) : List String → List String
  | [] => []
  | item :: items => (toString start ++ ". " ++ item) :: numberedLines (start + 1) items

def promptList (introduction : String) (separator : String) (items : List String) : String :=
  if items.isEmpty then "" else introduction ++ separator.intercalate items

def ReplySettings.lengthRule (settings : ReplySettings) : String :=
  "\n\nIMPORTANT: Keep responses under " ++ toString settings.maxResponseLength ++
    " characters. Do NOT use emojis in your responses."

def ReplySettings.contactRules (settings : ReplySettings) : String :=
  let emailPrompt := settings.emailPrompt.filter (!·.isEmpty)
  let phonePrompt := settings.phonePrompt.filter (!·.isEmpty)
  (if settings.collectEmail then "\n\n" ++ emailPrompt.getD defaultEmailPrompt else "") ++
    (if settings.collectPhone then "\n\n" ++ phonePrompt.getD defaultPhonePrompt else "")

/-- The persona's standing instructions. -/
def Account.systemPrompt (account : Account) : String :=
  let persona := account.persona
  "You are " ++ persona.name ++ "." ++
    promptPart " " persona.description ++
    "\n\n" ++ persona.systemPrompt ++
    promptList "\n\nYour goals:\n" "\n" (numberedLines 1 persona.goals) ++
    "\n\nTone: " ++ toneGuide persona.tone ++
    promptPart "\n\nAdditional instructions:\n" persona.customInstructions ++
    promptList "\n\nDo NOT discuss: " ", " persona.forbiddenTopics ++
    promptList
      "\n\nIf the user mentions any of these topics, inform them a human will follow up: " ", "
      persona.handoffKeywords ++
    account.settings.lengthRule ++
    account.settings.contactRules

/-- The persona's sample exchanges as turns. -/
def Account.sampleTurns (account : Account) : List Turn :=
  account.persona.sampleExchanges.flatMap fun exchange =>
    [⟨"user", .text exchange.userMessage⟩, ⟨"assistant", .text exchange.assistantResponse⟩]

end MessageFlow
