import MessageFlow.Account.Document
import MessageFlow.Lead.Document
import MessageFlow.Proofs.Reading.Expressible

/-!
Accounts and leads are read back from what is written of them.
-/

namespace MessageFlow
open Document

variable {naming : Naming} {value : Json}

namespace SampleExchange

def components (exchange : SampleExchange) : List Component := [(names, exchange.extras)]

theorem names_distinct : Distinct names := by decide

theorem read_extras {doc : Row} {exchange : SampleExchange}
    (reads : read (.record doc) = .valid exchange) :
    exchange.extras = Document.extras names doc := by
  simp only [read, object, Validated.map_eq_valid, Validated.fmap_eq_valid,
    Validated.seq_eq_valid, ↓existsAndEq, and_true] at reads
  grind

theorem faithful_of_read {exchange : SampleExchange} (expressible : value.isExpressible = true)
    (reads : read value = .valid exchange) :
    Faithful .keys exchange.components (DocumentType.loose exchange) := by
  obtain ⟨doc, rfl⟩ := exists_record reads
  exact faithful_of_extras expressible (read_extras reads)

theorem read_write {exchange : SampleExchange}
    (faithful : Faithful naming exchange.components (DocumentType.loose exchange)) :
    read (exchange.write naming) = .valid exchange := by
  rw [read, write]
  refine object_write rfl names_distinct (faithful_extras.mp faithful) fun fits => ?_
  rw [fits.required_eq (by simp) (asText_text exchange.userMessage),
    fits.required_eq (by simp) (asText_text exchange.assistantResponse)]
  rfl

end SampleExchange

namespace Persona

def components (persona : Persona) : List Component :=
  persona.sampleExchanges.flatMap SampleExchange.components ++ [(names, persona.extras)]

theorem names_distinct : Distinct names := by decide

theorem faithful_iff {persona : Persona} :
    Faithful naming persona.components (DocumentType.loose persona) ↔
      (∀ exchange ∈ persona.sampleExchanges,
        Faithful naming exchange.components (DocumentType.loose exchange)) ∧
      Kept naming names persona.extras := by
  change Faithful naming (persona.sampleExchanges.flatMap SampleExchange.components ++
    [(names, persona.extras)]) (persona.sampleExchanges.flatMap DocumentType.loose ++
      persona.extras.map (·.2)) ↔ _
  rw [faithful_append, faithful_flatMap, faithful_extras]

theorem read_valid {doc : Row} {persona : Persona} (reads : read (.record doc) = .valid persona) :
    withDefault Field.exampleConversations [] (listOf SampleExchange.read) doc =
        .valid persona.sampleExchanges ∧
      persona.extras = Document.extras names doc := by
  simp only [read, object, Validated.map_eq_valid, Validated.fmap_eq_valid,
    Validated.seq_eq_valid, ↓existsAndEq, and_true] at reads
  grind

theorem faithful_of_read {persona : Persona} (expressible : value.isExpressible = true)
    (reads : read value = .valid persona) :
    Faithful .keys persona.components (DocumentType.loose persona) := by
  obtain ⟨doc, rfl⟩ := exists_record reads
  obtain ⟨exchanges, extras⟩ := read_valid reads
  rw [faithful_iff, extras]
  refine ⟨?_, kept_extras expressible names⟩
  intro exchange present
  obtain ⟨item, ofItem, readsItem⟩ :=
    withDefault_listOf_valid expressible exchanges exchange present
  exact SampleExchange.faithful_of_read ofItem readsItem

theorem read_write {persona : Persona}
    (faithful : Faithful naming persona.components (DocumentType.loose persona)) :
    read (persona.write naming) = .valid persona := by
  obtain ⟨ofExchanges, kept⟩ := faithful_iff.mp faithful
  have exchanges : listOf SampleExchange.read
      (.list (persona.sampleExchanges.map (SampleExchange.write naming))) =
        .valid persona.sampleExchanges :=
    listOf_map fun exchange present => SampleExchange.read_write (ofExchanges exchange present)
  rw [read, write]
  refine object_write rfl names_distinct kept fun fits => ?_
  rw [fits.withDefault_eq (by simp) (asText_text persona.name),
    fits.maybe_eq (by simp) (nullable_ofText? persona.description),
    fits.withDefault_eq (by simp) (asText_text persona.systemPrompt),
    fits.withDefault_eq (by simp) (asText_text persona.tone),
    fits.withDefault_eq (by simp) (listOf_ofTexts persona.goals),
    fits.maybe_eq (by simp) (nullable_ofText? persona.customInstructions),
    fits.withDefault_eq (by simp) (listOf_ofTexts persona.forbiddenTopics),
    fits.withDefault_eq (by simp) (listOf_ofTexts persona.handoffKeywords),
    fits.withDefault_eq (by simp) exchanges]
  rfl

end Persona

namespace ReplySettings

def components (settings : ReplySettings) : List Component := [(names, settings.extras)]

theorem names_distinct : Distinct names := by decide

theorem read_extras {doc : Row} {settings : ReplySettings}
    (reads : read (.record doc) = .valid settings) :
    settings.extras = Document.extras names doc := by
  simp only [read, object, Validated.map_eq_valid, Validated.fmap_eq_valid,
    Validated.seq_eq_valid, ↓existsAndEq, and_true] at reads
  grind

theorem faithful_of_read {settings : ReplySettings} (expressible : value.isExpressible = true)
    (reads : read value = .valid settings) :
    Faithful .keys settings.components (DocumentType.loose settings) := by
  obtain ⟨doc, rfl⟩ := exists_record reads
  exact faithful_of_extras expressible (read_extras reads)

theorem read_write {settings : ReplySettings}
    (faithful : Faithful naming settings.components (DocumentType.loose settings)) :
    read (settings.write naming) = .valid settings := by
  rw [read, write]
  refine object_write rfl names_distinct (faithful_extras.mp faithful) fun fits => ?_
  rw [fits.withDefault_eq (by simp) (asInt_int settings.maxResponseLength),
    fits.withDefault_eq (by simp) (asBool_bool settings.collectEmail),
    fits.withDefault_eq (by simp) (asBool_bool settings.collectPhone),
    fits.maybe_eq (by simp) (nullable_ofText? settings.emailPrompt),
    fits.maybe_eq (by simp) (nullable_ofText? settings.phonePrompt)]
  rfl

end ReplySettings

namespace Account

def components (account : Account) : List Component :=
  account.persona.components ++ account.settings.components ++ [(names, account.extras)]

theorem names_distinct : Distinct names := by decide

theorem faithful_iff {account : Account} :
    Faithful naming account.components (DocumentType.loose account) ↔
      (Faithful naming account.persona.components (DocumentType.loose account.persona) ∧
        Faithful naming account.settings.components (DocumentType.loose account.settings)) ∧
      Kept naming names account.extras := by
  change Faithful naming (account.persona.components ++ account.settings.components ++
    [(names, account.extras)]) (DocumentType.loose account.persona ++
      DocumentType.loose account.settings ++ account.extras.map (·.2)) ↔ _
  rw [faithful_append, faithful_append, faithful_extras]

theorem read_valid {doc : Row} {account : Account} (reads : read (.record doc) = .valid account) :
    withDefault Field.aiPersonality {} Persona.read doc = .valid account.persona ∧
      withDefault Field.settings {} ReplySettings.read doc = .valid account.settings ∧
      account.extras = Document.extras names doc := by
  simp only [read, object, Validated.map_eq_valid, Validated.fmap_eq_valid,
    Validated.seq_eq_valid, ↓existsAndEq, and_true] at reads
  grind

theorem faithful_of_read {account : Account} (expressible : value.isExpressible = true)
    (reads : read value = .valid account) :
    Faithful .keys account.components (DocumentType.loose account) := by
  obtain ⟨doc, rfl⟩ := exists_record reads
  obtain ⟨persona, settings, extras⟩ := read_valid reads
  rw [faithful_iff, extras]
  refine ⟨⟨?_, ?_⟩, kept_extras expressible names⟩
  · rcases withDefault_valid expressible persona with absent | ⟨given, ofGiven, readsGiven⟩
    · rw [absent]
      exact faithful_extras.mpr (kept_nil .keys Persona.names)
    · exact Persona.faithful_of_read ofGiven readsGiven
  · rcases withDefault_valid expressible settings with absent | ⟨given, ofGiven, readsGiven⟩
    · rw [absent]
      exact faithful_extras.mpr (kept_nil .keys ReplySettings.names)
    · exact ReplySettings.faithful_of_read ofGiven readsGiven

/-- An account is read back from what is written of it. -/
theorem read_write {account : Account}
    (faithful : Faithful naming account.components (DocumentType.loose account)) :
    read (account.write naming) = .valid account := by
  obtain ⟨⟨ofPersona, ofSettings⟩, kept⟩ := faithful_iff.mp faithful
  rw [read, write]
  refine object_write rfl names_distinct kept fun fits => ?_
  rw [fits.required_eq (by simp) (asText_text account.id),
    fits.maybe_eq (by simp) (nullable_ofText? account.userId),
    fits.withDefault_eq (by simp) (asText_text account.username),
    fits.maybe_eq (by simp) (nullable_ofText? account.instagramAccountId),
    fits.maybe_eq (by simp) (nullable_ofText? account.pageId),
    fits.maybe_eq (by simp) (nullable_ofText? account.accessToken),
    fits.withDefault_eq (by simp) (Persona.read_write ofPersona),
    fits.withDefault_eq (by simp) (ReplySettings.read_write ofSettings),
    fits.withDefault_eq (by simp) (asBool_bool account.isActive),
    fits.maybe_eq (by simp) (nullable_ofTime? account.createdAt),
    fits.maybe_eq (by simp) (nullable_ofTime? account.updatedAt)]
  rfl

end Account

namespace Lead

def components (lead : Lead) : List Component := [(names, lead.extras)]

theorem names_distinct : Distinct names := by decide

theorem read_extras {doc : Row} {lead : Lead} (reads : read (.record doc) = .valid lead) :
    lead.extras = Document.extras names doc := by
  simp only [read, object, Validated.map_eq_valid, Validated.fmap_eq_valid,
    Validated.seq_eq_valid, ↓existsAndEq, and_true] at reads
  grind

theorem faithful_of_read {lead : Lead} (expressible : value.isExpressible = true)
    (reads : read value = .valid lead) :
    Faithful .keys lead.components (DocumentType.loose lead) := by
  obtain ⟨doc, rfl⟩ := exists_record reads
  exact faithful_of_extras expressible (read_extras reads)

/-- A lead is read back from what is written of it. -/
theorem read_write {lead : Lead}
    (faithful : Faithful naming lead.components (DocumentType.loose lead)) :
    read (lead.write naming) = .valid lead := by
  rw [read, write]
  refine object_write rfl names_distinct (faithful_extras.mp faithful) fun fits => ?_
  rw [fits.maybe_eq (by simp) (nullable_ofText? lead.id),
    fits.maybe_eq (by simp) (nullable_ofText? lead.userId),
    fits.required_eq (by simp) (asText_text lead.accountId),
    fits.required_eq (by simp) (asText_text lead.instagramUserId),
    fits.maybe_eq (by simp) (nullable_ofText? lead.username),
    fits.maybe_eq (by simp) (nullable_ofText? lead.email),
    fits.maybe_eq (by simp) (nullable_ofText? lead.phone),
    fits.maybe_eq (by simp) (nullable_ofText? lead.name),
    fits.withDefault_eq (by simp) (asText_text lead.source),
    fits.maybe_eq (by simp) (nullable_ofText? lead.flowId),
    fits.withDefault_eq (by simp) (listOf_ofTexts lead.tags),
    fits.maybe_eq (by simp) (nullable_ofTime? lead.createdAt),
    fits.maybe_eq (by simp) (nullable_ofTime? lead.updatedAt)]
  rfl

end Lead
end MessageFlow
