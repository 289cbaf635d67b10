import MessageFlow.Account.Basic
import MessageFlow.Document.Names

/-!
Reading and writing accounts.
-/

namespace MessageFlow
open Document

namespace SampleExchange

def title : String := "ExampleConversation"

def names : List FieldName := [Field.userMessage, Field.assistantResponse]

def read : ValueReader SampleExchange := object title names fun doc =>
  SampleExchange.mk <$> required Field.userMessage asText doc
    <*> required Field.assistantResponse asText doc

def write (naming : Naming) (exchange : SampleExchange) : Json :=
  Document.write naming
    [(Field.userMessage, .text exchange.userMessage),
     (Field.assistantResponse, .text exchange.assistantResponse)] exchange.extras

instance : DocumentType SampleExchange where
  title := title
  read := read
  write := write
  loose exchange := exchange.extras.map (·.2)

end SampleExchange

namespace Persona

def title : String := "AIPersonality"

def names : List FieldName :=
  [Field.name, Field.description, Field.systemPrompt, Field.tone, Field.goals,
   Field.customInstructions, Field.forbiddenTopics, Field.handoffKeywords,
   Field.exampleConversations]

def read : ValueReader Persona := object title names fun doc =>
  Persona.mk <$> withDefault Field.name "Assistant" asText doc
    <*> maybe Field.description asText doc
    <*> withDefault Field.systemPrompt "" asText doc
    <*> withDefault Field.tone "friendly" asText doc
    <*> withDefault Field.goals [] (listOf asText) doc
    <*> maybe Field.customInstructions asText doc
    <*> withDefault Field.forbiddenTopics [] (listOf asText) doc
    <*> withDefault Field.handoffKeywords [] (listOf asText) doc
    <*> withDefault Field.exampleConversations [] (listOf SampleExchange.read) doc

def write (naming : Naming) (persona : Persona) : Json :=
  Document.write naming
    [(Field.name, .text persona.name),
     (Field.description, .ofText? persona.description),
     (Field.systemPrompt, .text persona.systemPrompt),
     (Field.tone, .text persona.tone),
     (Field.goals, .ofTexts persona.goals),
     (Field.customInstructions, .ofText? persona.customInstructions),
     (Field.forbiddenTopics, .ofTexts persona.forbiddenTopics),
     (Field.handoffKeywords, .ofTexts persona.handoffKeywords),
     (Field.exampleConversations,
       .list (persona.sampleExchanges.map (SampleExchange.write naming)))] persona.extras

instance : DocumentType Persona where
  title := title
  read := read
  write := write
  loose persona := persona.sampleExchanges.flatMap DocumentType.loose ++ persona.extras.map (·.2)

end Persona

namespace ReplySettings

def title : String := "AccountSettings"

def names : List FieldName :=
  [Field.maxResponseLength, Field.collectEmail, Field.collectPhone, Field.emailPrompt,
   Field.phonePrompt]

def read : ValueReader ReplySettings := object title names fun doc =>
  ReplySettings.mk <$> withDefault Field.maxResponseLength 200 asInt doc
    <*> withDefault Field.collectEmail false asBool doc
    <*> withDefault Field.collectPhone false asBool doc
    <*> maybe Field.emailPrompt asText doc
    <*> maybe Field.phonePrompt asText doc

def write (naming : Naming) (settings : ReplySettings) : Json :=
  Document.write naming
    [(Field.maxResponseLength, .int settings.maxResponseLength),
     (Field.collectEmail, .bool settings.collectEmail),
     (Field.collectPhone, .bool settings.collectPhone),
     (Field.emailPrompt, .ofText? settings.emailPrompt),
     (Field.phonePrompt, .ofText? settings.phonePrompt)] settings.extras

instance : DocumentType ReplySettings where
  title := title
  read := read
  write := write
  loose settings := settings.extras.map (·.2)

end ReplySettings

namespace Account

def title : String := "InstagramAccount"

def names : List FieldName :=
  [Field.id, Field.userId, Field.username, Field.instagramAccountId, Field.pageId,
   Field.accessToken, Field.aiPersonality, Field.settings, Field.isActive, Field.createdAt,
   Field.updatedAt]

def read : ValueReader Account := object title names fun doc =>
  Account.mk <$> required Field.id asText doc
    <*> maybe Field.userId asText doc
    <*> withDefault Field.username "" asText doc
    <*> maybe Field.instagramAccountId asText doc
    <*> maybe Field.pageId asText doc
    <*> maybe Field.accessToken asText doc
    <*> withDefault Field.aiPersonality {} Persona.read doc
    <*> withDefault Field.settings {} ReplySettings.read doc
    <*> withDefault Field.isActive true asBool doc
    <*> maybe Field.createdAt asTime doc
    <*> maybe Field.updatedAt asTime doc

def write (naming : Naming) (account : Account) : Json :=
  Document.write naming
    [(Field.id, .text account.id),
     (Field.userId, .ofText? account.userId),
     (Field.username, .text account.username),
     (Field.instagramAccountId, .ofText? account.instagramAccountId),
     (Field.pageId, .ofText? account.pageId),
     (Field.accessToken, .ofText? account.accessToken),
     (Field.aiPersonality, account.persona.write naming),
     (Field.settings, account.settings.write naming),
     (Field.isActive, .bool account.isActive),
     (Field.createdAt, ofTime? account.createdAt),
     (Field.updatedAt, ofTime? account.updatedAt)] account.extras

instance : DocumentType Account where
  title := title
  read := read
  write := write
  loose account := DocumentType.loose account.persona ++ DocumentType.loose account.settings ++
    account.extras.map (·.2)

end Account
end MessageFlow
