import MessageFlow.Program.Basic
import MessageFlow.Proofs.Reading.Account
import MessageFlow.Proofs.Reading.Flow

/-!
A document that was read can be written and is read back as it was, under either way to name its
members. Only a value that no field describes can be nested too deep to be written.
-/

namespace MessageFlow
open Document

/-- The document that is written for a value, unless a part of it is nested too deep. -/
def Operation.written {α : Type} [DocumentType α] (naming : Naming) (a : α) : Operation Json := do
  ensureWritable a
  pure (DocumentType.write naming a)

variable {naming : Naming} {value : Json}

namespace Context

def components (context : Context) : List Component := [(names, context.extras)]

theorem read_extras {doc : Row} {context : Context} (reads : read (.record doc) = .valid context) :
    context.extras = Document.extras names doc := (read_valid reads).2.2.2

theorem faithful_of_read {context : Context} (expressible : value.isExpressible = true)
    (reads : read value = .valid context) :
    Faithful .keys context.components (DocumentType.loose context) := by
  obtain ⟨doc, rfl⟩ := exists_record reads
  exact faithful_of_extras expressible (read_extras reads)

/-- Custom fields are kept exactly as they were given. -/
theorem writeMap_of_read {doc : Row} {context : Context} {key : String}
    (reads : read (.record doc) = .valid context)
    (found : Field.customFields.find? doc = some (key, value)) :
    FieldValue.writeMap context.customFields = value := by
  have given := (read_valid reads).2.1
  rw [withDefault, found] at given
  exact FieldValue.writeMap_of_readMap (Validated.under_eq_valid.mp given)

end Context

namespace Execution

def components (e : Execution) : List Component := e.context.components ++ [(names, e.extras)]

theorem faithful_iff {e : Execution} : Faithful naming e.components (DocumentType.loose e) ↔
    Faithful naming e.context.components (DocumentType.loose e.context) ∧
      Kept naming names e.extras := by
  have loose : DocumentType.loose e = DocumentType.loose e.context ++ e.extras.map (·.2) :=
    List.map_append
  rw [loose, components, faithful_append, faithful_extras]

theorem faithful_of_read {e : Execution} (expressible : value.isExpressible = true)
    (reads : read value = .valid e) :
    Faithful .keys e.components (DocumentType.loose e) := by
  obtain ⟨doc, rfl⟩ := exists_record reads
  obtain ⟨_, _, context, _, extras⟩ := read_valid reads
  rw [faithful_iff, extras]
  refine ⟨?_, kept_extras expressible names⟩
  rcases withDefault_valid expressible context with absent | ⟨given, ofGiven, readsGiven⟩
  · rw [absent]
    exact faithful_extras.mpr (kept_nil .keys Context.names)
  · exact Context.faithful_of_read ofGiven readsGiven

end Execution

namespace Ticket

def components (ticket : Ticket) : List Component := [(names, ticket.extras)]

theorem read_extras {doc : Row} {ticket : Ticket} (reads : read (.record doc) = .valid ticket) :
    ticket.extras = Document.extras names doc := by
  simp only [read, object, Validated.map_eq_valid, Validated.fmap_eq_valid,
    Validated.seq_eq_valid, ↓existsAndEq, and_true] at reads
  grind

theorem faithful_of_read {ticket : Ticket} (expressible : value.isExpressible = true)
    (reads : read value = .valid ticket) :
    Faithful .keys ticket.components (DocumentType.loose ticket) := by
  obtain ⟨doc, rfl⟩ := exists_record reads
  exact faithful_of_extras expressible (read_extras reads)

end Ticket

/-- The types of documents, with those of their parts. -/
inductive Schema where
  | button | nodeData | node | edge | flow
  | context | execution | ticket
  | sampleExchange | persona | replySettings | account
  | lead
  deriving DecidableEq

namespace Schema

/-- What a document of the type is read as. -/
def Value : Schema → Type
  | .button => Button
  | .nodeData => NodeData
  | .node => Node
  | .edge => Edge
  | .flow => Flow
  | .context => Context
  | .execution => Execution
  | .ticket => Ticket
  | .sampleExchange => SampleExchange
  | .persona => Persona
  | .replySettings => ReplySettings
  | .account => Account
  | .lead => Lead

instance : (schema : Schema) → DocumentType schema.Value
  | .button => inferInstanceAs (DocumentType Button)
  | .nodeData => inferInstanceAs (DocumentType NodeData)
  | .node => inferInstanceAs (DocumentType Node)
  | .edge => inferInstanceAs (DocumentType Edge)
  | .flow => inferInstanceAs (DocumentType Flow)
  | .context => inferInstanceAs (DocumentType Context)
  | .execution => inferInstanceAs (DocumentType Execution)
  | .ticket => inferInstanceAs (DocumentType Ticket)
  | .sampleExchange => inferInstanceAs (DocumentType SampleExchange)
  | .persona => inferInstanceAs (DocumentType Persona)
  | .replySettings => inferInstanceAs (DocumentType ReplySettings)
  | .account => inferInstanceAs (DocumentType Account)
  | .lead => inferInstanceAs (DocumentType Lead)

def names : Schema → List FieldName
  | .button => Button.names
  | .nodeData => NodeData.names
  | .node => Node.names
  | .edge => Edge.names
  | .flow => Flow.names
  | .context => Context.names
  | .execution => Execution.names
  | .ticket => Ticket.names
  | .sampleExchange => SampleExchange.names
  | .persona => Persona.names
  | .replySettings => ReplySettings.names
  | .account => Account.names
  | .lead => Lead.names

/-- The members that name no field. -/
def extras : (schema : Schema) → schema.Value → Row
  | .button => Button.extras
  | .nodeData => NodeData.extras
  | .node => Node.extras
  | .edge => Edge.extras
  | .flow => Flow.extras
  | .context => Context.extras
  | .execution => Execution.extras
  | .ticket => Ticket.extras
  | .sampleExchange => SampleExchange.extras
  | .persona => Persona.extras
  | .replySettings => ReplySettings.extras
  | .account => Account.extras
  | .lead => Lead.extras

/-- The objects a document consists of, at any depth. -/
def components : (schema : Schema) → schema.Value → List Component
  | .button => Button.components
  | .nodeData => NodeData.components
  | .node => Node.components
  | .edge => Edge.components
  | .flow => Flow.components
  | .context => Context.components
  | .execution => Execution.components
  | .ticket => Ticket.components
  | .sampleExchange => SampleExchange.components
  | .persona => Persona.components
  | .replySettings => ReplySettings.components
  | .account => Account.components
  | .lead => Lead.components

variable {schema : Schema} {m : schema.Value}

theorem faithful_of_read (expressible : value.isExpressible = true)
    (reads : DocumentType.read value = .valid m) :
    Faithful .keys (schema.components m) (DocumentType.loose m) := by
  cases schema with
  | button => exact Button.faithful_of_read expressible reads
  | nodeData => exact NodeData.faithful_of_read expressible reads
  | node => exact Node.faithful_of_read expressible reads
  | edge => exact Edge.faithful_of_read expressible reads
  | flow => exact Flow.faithful_of_read expressible reads
  | context => exact Context.faithful_of_read expressible reads
  | execution => exact Execution.faithful_of_read expressible reads
  | ticket => exact Ticket.faithful_of_read expressible reads
  | sampleExchange => exact SampleExchange.faithful_of_read expressible reads
  | persona => exact Persona.faithful_of_read expressible reads
  | replySettings => exact ReplySettings.faithful_of_read expressible reads
  | account => exact Account.faithful_of_read expressible reads
  | lead => exact Lead.faithful_of_read expressible reads

theorem read_write (faithful : Faithful naming (schema.components m) (DocumentType.loose m)) :
    DocumentType.read (DocumentType.write naming m) = .valid m := by
  cases schema with
  | button => exact Button.read_write faithful
  | nodeData => exact NodeData.read_write faithful
  | node => exact Node.read_write faithful
  | edge => exact Edge.read_write faithful
  | flow => exact Flow.read_write faithful
  | context => exact Context.read_write (faithful_extras.mp faithful)
  | execution =>
    obtain ⟨ofContext, kept⟩ := Execution.faithful_iff.mp faithful
    exact Execution.read_write kept (faithful_extras.mp ofContext)
  | ticket => exact Ticket.read_write (faithful_extras.mp faithful)
  | sampleExchange => exact SampleExchange.read_write faithful
  | persona => exact Persona.read_write faithful
  | replySettings => exact ReplySettings.read_write faithful
  | account => exact Account.read_write faithful
  | lead => exact Lead.read_write faithful

theorem read_extras {doc : Row} (reads : DocumentType.read (.record doc) = .valid m) :
    schema.extras m = Document.extras schema.names doc := by
  cases schema with
  | button => exact Button.read_extras reads
  | nodeData => exact (NodeData.read_valid reads).2.2
  | node => exact (Node.read_valid reads).2.2
  | edge => exact Edge.read_extras reads
  | flow => exact (Flow.read_valid reads).2.2
  | context => exact Context.read_extras reads
  | execution => exact (Execution.read_valid reads).2.2.2.2
  | ticket => exact Ticket.read_extras reads
  | sampleExchange => exact SampleExchange.read_extras reads
  | persona => exact (Persona.read_valid reads).2
  | replySettings => exact ReplySettings.read_extras reads
  | account => exact (Account.read_valid reads).2.2
  | lead => exact Lead.read_extras reads

/-- Every document is written as fields and extras. -/
theorem exists_write (naming : Naming) (schema : Schema) (m : schema.Value) :
    ∃ fields, DocumentType.write naming m = Document.write naming fields (schema.extras m) := by
  cases schema <;> exact ⟨_, rfl⟩

/-- The document is written, and what is written is read as the same value. -/
def ReadsBack (schema : Schema) (naming : Naming) (m : schema.Value) : Prop :=
  ∃ written, Operation.written naming m = pure written ∧ DocumentType.read written = .valid m

/-- No object of the document has an extra that is named as the column of one of its own fields. -/
def IsFree (schema : Schema) (m : schema.Value) : Prop :=
  ∀ component ∈ schema.components m, ∀ name ∈ component.1,
    name.column ∉ component.2.map Prod.fst

/-- Every member that gives no field its value is written as it was given. -/
def KeepsUnknown (schema : Schema) (naming : Naming) (doc : Row) (m : schema.Value) : Prop :=
  ∃ row, Operation.written naming m = pure (.record row) ∧ ∀ entry ∈ doc,
    (∀ name ∈ schema.names, name.takes doc entry.1 = false) →
      Entries.get? row entry.1 = some entry.2

theorem written_eq (shallow : ∀ value ∈ DocumentType.loose m, value.depth ≤ maxDepth)
    (naming : Naming) :
    Operation.written naming m = pure (DocumentType.write naming m) := by
  have writable : DocumentType.isWritable m = true := by
    simpa [DocumentType.isWritable] using shallow
  rw [Operation.written, Operation.ensureWritable, if_pos writable]
  rfl

theorem readsBack (faithful : Faithful naming (schema.components m) (DocumentType.loose m))
    (shallow : ∀ value ∈ DocumentType.loose m, value.depth ≤ maxDepth) :
    schema.ReadsBack naming m :=
  ⟨_, written_eq shallow naming, read_write faithful⟩

theorem keepsUnknown {doc : Row} (expressible : (Json.record doc).isExpressible = true)
    (reads : DocumentType.read (.record doc) = .valid m)
    (shallow : ∀ value ∈ DocumentType.loose m, value.depth ≤ maxDepth) (naming : Naming) :
    schema.KeepsUnknown naming doc m := by
  obtain ⟨fields, written⟩ := exists_write naming schema m
  have kept := kept_extras expressible schema.names
  rw [read_extras reads, Document.write] at written
  refine ⟨_, (written_eq shallow naming).trans (congrArg pure written), ?_⟩
  intro entry present free
  have isExtra : entry ∈ Document.extras schema.names doc := by
    simpa [Document.extras, present] using free
  rw [members, kept.finite]
  exact Entries.get?_update_of_get? kept.unique (Entries.get?_of_mem kept.unique isExtra)

end Schema

namespace Example

/-- An execution that waits for a reply. -/
def waitingDocument : Row :=
  [("id", .text "execution"), ("flowId", .text "flow"), ("accountId", .text "account"),
   ("senderId", .text "sender"), ("currentNodeId", .text "ask"), ("status", .text "waiting"),
   ("context", .record [("customFields", .record [("vip", .bool true), ("visits", .int 1),
     ("code", .text "1")]), ("mood", .text "good")]),
   ("createdAt", .text "2024-05-01T12:00:00.250000+05:30"), ("note", .list [.int 1])]

theorem read_waitingDocument : ∃ e, Execution.read (.record waitingDocument) = .valid e ∧
    e.extras = [("note", .list [.int 1])] ∧ e.context.extras = [("mood", .text "good")] :=
  ⟨_, rfl, rfl, rfl⟩

end Example

namespace Example

/-- An empty list within so many lists. -/
def nested : Nat → Json
  | 0 => .list []
  | n + 1 => .list [nested n]

theorem depth_nested (n : Nat) : (nested n).depth = n + 1 := by
  induction n with
  | zero => rfl
  | succ n ih => simp [nested, Json.depth, Json.depthOfItems, ih]

theorem isExpressible_nested (n : Nat) : (nested n).isExpressible = true := by
  induction n with
  | zero => rfl
  | succ n ih => simp [nested, Json.isExpressible, Json.areExpressible, ih]

/-- A lead with a member that names no field. -/
def leadWith (note : Json) : Row :=
  [("account_id", .text "account"), ("instagramUserId", .text "sender"), ("note", note)]

theorem read_leadWith (note : Json) : ∃ lead, Lead.read (.record (leadWith note)) = .valid lead ∧
    lead.extras = [("note", note)] := ⟨_, rfl, rfl⟩

theorem isExpressible_leadWith {note : Json} (expressible : note.isExpressible = true) :
    (Json.record (leadWith note)).isExpressible = true := by
  simp [leadWith, Json.isExpressible, Json.haveExpressible, expressible]

end Example

end MessageFlow
