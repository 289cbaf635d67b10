import MessageFlow.Json.Basic
import MessageFlow.Time.Timestamp

/-!
Connected accounts with the persona that writes for them.
-/

namespace MessageFlow

/-- A sample exchange that shows the persona's way of writing. -/
structure SampleExchange where
  userMessage : String
  assistantResponse : String
  extras : Row
  deriving DecidableEq

structure Persona where
  name : String := "Assistant"
  description : Option String := none
  systemPrompt : String := ""
  tone : String := "friendly"
  goals : List String := []
  customInstructions : Option String := none
  forbiddenTopics : List String := []
  handoffKeywords : List String := []
  sampleExchanges : List SampleExchange := []
  extras : Row := []
  deriving DecidableEq

structure ReplySettings where
  maxResponseLength : Int := 200
  collectEmail : Bool := false
  collectPhone : Bool := false
  emailPrompt : Option String := none
  phonePrompt : Option String := none
  extras : Row := []
  deriving DecidableEq

structure Account where
  id : String
  userId : Option String := none
  username : String := ""
  instagramAccountId : Option String := none
  pageId : Option String := none
  accessToken : Option String := none
  persona : Persona := {}
  settings : ReplySettings := {}
  isActive : Bool := true
  createdAt : Option Timestamp := none
  updatedAt : Option Timestamp := none
  extras : Row := []
  deriving DecidableEq

end MessageFlow
