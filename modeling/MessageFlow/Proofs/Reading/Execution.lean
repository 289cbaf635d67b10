import MessageFlow.Execution.Document
import MessageFlow.Proofs.Interleaving.Change
import MessageFlow.Proofs.Reading.Document
import MessageFlow.Proofs.Reading.Time

/-!
Executions are read back from the rows that are written for them.
-/

namespace MessageFlow
open Document

namespace Validated

variable {α β : Type}

theorem map_eq_valid {f : α → β} {x : Validated α} {b : β} :
    x.map f = .valid b ↔ ∃ a, x = .valid a ∧ f a = b := by
  cases x with
  | valid a => simp [Validated.map]
  | invalid issues => simp [Validated.map]

theorem seq_eq_valid {f : Validated (α → β)} {x : Validated α} {b : β} :
    (f <*> x) = .valid b ↔ ∃ g a, f = .valid g ∧ x = .valid a ∧ g a = b := by
  change f.seq (fun _ => x) = .valid b ↔ _
  cases f with
  | valid g => cases x <;> simp [Validated.seq]
  | invalid issues => cases x <;> simp [Validated.seq]

theorem fmap_eq_valid {f : α → β} {x : Validated α} {b : β} :
    (f <$> x) = .valid b ↔ ∃ a, x = .valid a ∧ f a = b := map_eq_valid

theorem under_eq_valid {step : PathStep} {x : Validated α} {a : α} :
    x.under step = .valid a ↔ x = .valid a := by
  cases x <;> simp [Validated.under]

theorem toOption_eq_some {x : Validated α} {a : α} : x.toOption = some a ↔ x = .valid a := by
  cases x <;> simp [toOption]

end Validated

namespace Document

/-- An object is read from a record only. -/
theorem exists_record {α : Type} {title : String} {names : List FieldName}
    {build : Row → Validated (Row → α)} {value : Json} {a : α}
    (reads : object title names build value = .valid a) : ∃ doc, value = .record doc := by
  cases value with
  | record doc => exact ⟨doc, rfl⟩
  | null | bool | int | real | text | list => cases reads

theorem asText_text (text : String) : asText (.text text) = .valid text := rfl

theorem asInt_int (n : Int) : asInt (.int n) = .valid n := rfl

theorem nullable_ofText? (text : Option String) :
    nullable asText (.ofText? text) = .valid text := by
  cases text with
  | none => rfl
  | some text => rfl

theorem items_texts (texts : List String) (start : Nat) :
    Validated.items asText start (texts.map .text) = .valid texts := by
  induction texts generalizing start with
  | nil => rfl
  | cons text texts ih =>
    rw [List.map_cons, Validated.items, ih]
    rfl

theorem listOf_ofTexts (texts : List String) : listOf asText (.ofTexts texts) = .valid texts :=
  items_texts texts 0

theorem asTime_text (t : Timestamp) : asTime (.text t.text) = .valid t := by
  rw [asTime, timeOfText, Timestamp.read?_text]
  rfl

theorem nullable_ofTime? (time : Option Timestamp) :
    nullable asTime (ofTime? time) = .valid time := by
  cases time with
  | none => rfl
  | some t =>
    have reads := asTime_text t
    change (asTime (.text t.text)).map some = .valid (some t)
    rw [reads]
    rfl

end Document

namespace FieldValue

theorem read_write (value : FieldValue) : read value.write = .valid value := by
  cases value <;> rfl

theorem readMap_writeMap (entries : Entries FieldValue) :
    readMap (writeMap entries) = .valid entries := by
  change readEntries (entries.map fun entry => (entry.1, entry.2.write)) = .valid entries
  induction entries with
  | nil => rfl
  | cons entry entries ih =>
    obtain ⟨key, value⟩ := entry
    rw [List.map_cons, readEntries, ih, read_write]
    rfl

theorem write_of_read {value : Json} {field : FieldValue} (reads : read value = .valid field) :
    field.write = value := by
  cases value with
  | bool | int | real | text =>
    cases reads
    rfl
  | null | list | record => cases reads

theorem writeMap_of_readEntries {fields : Row} {entries : Entries FieldValue}
    (reads : readEntries fields = .valid entries) : writeMap entries = .record fields := by
  induction fields generalizing entries with
  | nil =>
    cases reads
    rfl
  | cons field fields ih =>
    obtain ⟨key, value⟩ := field
    simp only [readEntries, Validated.fmap_eq_valid, Validated.seq_eq_valid,
      Validated.under_eq_valid, ↓existsAndEq, and_true] at reads
    obtain ⟨others, first, readsFirst, readsOthers, rfl⟩ := reads
    have same := Json.record.inj (ih readsOthers)
    rw [writeMap, List.map_cons, same]
    simp only [write_of_read readsFirst]

theorem writeMap_of_readMap {value : Json} {entries : Entries FieldValue}
    (reads : readMap value = .valid entries) : writeMap entries = value := by
  cases value with
  | record fields => exact writeMap_of_readEntries reads
  | null | bool | int | real | text | list => cases reads

end FieldValue

namespace Context

theorem names_distinct : Distinct names := by decide

/-- A context is read back from what is written of it. -/
theorem read_write {naming : Naming} {context : Context}
    (kept : Kept naming names context.extras) : read (context.write naming) = .valid context := by
  rw [read, write]
  refine object_write rfl names_distinct kept fun fits => ?_
  rw [fits.maybe_eq (by simp [fields]) (nullable_ofText? context.email),
    fits.maybe_eq (by simp [fields]) (nullable_ofText? context.phone),
    fits.maybe_eq (by simp [fields]) (nullable_ofText? context.name),
    fits.withDefault_eq (by simp [fields]) (listOf_ofTexts context.tags),
    fits.withDefault_eq (by simp [fields]) (FieldValue.readMap_writeMap context.customFields),
    fits.maybe_eq (by simp [fields]) (nullable_ofText? context.lastUserMessage),
    fits.maybe_eq (by simp [fields]) (nullable_ofText? context.triggerType),
    fits.maybe_eq (by simp [fields]) (nullable_ofText? context.triggerPostId),
    fits.maybe_eq (by simp [fields]) (nullable_ofText? context.triggerCommentText),
    fits.maybe_eq (by simp [fields]) (nullable_ofText? context.triggerStoryId),
    fits.withDefault_eq (by simp [fields]) (listOf_ofTexts context.selectedOptions)]
  rfl

theorem read_valid {doc : Row} {context : Context} (reads : read (.record doc) = .valid context) :
    withDefault Field.tags [] (listOf asText) doc = .valid context.tags ∧
      withDefault Field.customFields [] FieldValue.readMap doc = .valid context.customFields ∧
      withDefault Field.selectedOptions [] (listOf asText) doc = .valid context.selectedOptions ∧
      context.extras = Document.extras names doc := by
  simp only [read, object, Validated.map_eq_valid, Validated.fmap_eq_valid,
    Validated.seq_eq_valid, ↓existsAndEq, and_true] at reads
  grind

end Context

namespace Execution

theorem names_distinct : Distinct names := by decide

/-- Neither the execution nor its context has an extra named as a field. -/
structure Regular (e : Execution) : Prop where
  extras : Clean names e.extras
  contextExtras : Clean Context.names e.context.extras

theorem Regular.fits {e : Execution} (regular : e.Regular) :
    Fits .columns names (e.fields .columns) e.extras :=
  ⟨rfl, names_distinct, regular.extras.kept⟩

theorem columns_unique (e : Execution) :
    ((labelled .columns (e.fields .columns)).map Prod.fst).Nodup := by
  rw [names_labelled]
  exact names_distinct.1

theorem row_unique (e : Execution) : (e.row.map Prod.fst).Nodup :=
  Entries.nodup_update _ e.columns_unique

theorem get?_row {e : Execution} {name : FieldName} {value : Json}
    (written : (name, value) ∈ e.fields .columns) (free : name.column ∉ e.extras.map Prod.fst) :
    Entries.get? e.row name.column = some value :=
  get?_members e.columns_unique written free

/-- No extra is named as a field that identifies the version of an execution. -/
structure Plain (e : Execution) : Prop where
  id : Field.id.column ∉ e.extras.map Prod.fst
  status : Field.status.column ∉ e.extras.map Prod.fst
  revision : Field.revision.column ∉ e.extras.map Prod.fst

theorem Regular.plain {e : Execution} (regular : e.Regular) : e.Plain where
  id := regular.extras.column _ (by decide)
  status := regular.extras.column _ (by decide)
  revision := regular.extras.column _ (by decide)

theorem get?_id {e : Execution} (plain : e.Plain) :
    Entries.get? e.row "id" = some (.text e.id) := by
  have written : (Field.id, Json.text e.id) ∈ e.fields .columns := by simp [fields]
  exact get?_row written plain.id

theorem get?_flowId {e : Execution} (free : Field.flowId.column ∉ e.extras.map Prod.fst) :
    Entries.get? e.row "flow_id" = some (.text e.flowId) := by
  have written : (Field.flowId, Json.text e.flowId) ∈ e.fields .columns := by simp [fields]
  exact get?_row written free

theorem get?_status {e : Execution} (plain : e.Plain) :
    Entries.get? e.row "status" = some (.text e.status.text) := by
  have written : (Field.status, Json.text e.status.text) ∈ e.fields .columns := by simp [fields]
  exact get?_row written plain.status

theorem get?_revision {e : Execution} (plain : e.Plain) :
    Entries.get? e.row "revision" = some (.int e.revision) := by
  have written : (Field.revision, Json.int e.revision) ∈ e.fields .columns := by simp [fields]
  exact get?_row written plain.revision

theorem row_eq {e : Execution} (regular : e.Regular) :
    e.row = labelled .columns (e.fields .columns) ++ e.extras := regular.fits.members_eq

theorem readStatus_text (status : Status) : readStatus (.text status.text) = .valid status := by
  rw [readStatus, oneOf, Status.ofText?_text]

/-- An execution is read back from what is written of it. -/
theorem read_write {naming : Naming} {e : Execution} (kept : Kept naming names e.extras)
    (ofContext : Kept naming Context.names e.context.extras) :
    read (e.write naming) = .valid e := by
  rw [read, write]
  refine object_write rfl names_distinct kept fun fits => ?_
  rw [fits.required_eq (by simp [fields]) (asText_text e.id),
    fits.required_eq (by simp [fields]) (asText_text e.flowId),
    fits.maybe_eq (by simp [fields]) (nullable_ofText? e.userId),
    fits.required_eq (by simp [fields]) (asText_text e.accountId),
    fits.required_eq (by simp [fields]) (asText_text e.senderId),
    fits.maybe_eq (by simp [fields]) (nullable_ofText? e.senderUsername),
    fits.required_eq (by simp [fields]) (asText_text e.currentNodeId),
    fits.withDefault_eq (by simp [fields]) (listOf_ofTexts e.previousNodeIds),
    fits.withDefault_eq (by simp [fields]) (readStatus_text e.status),
    fits.withDefault_eq (by simp [fields]) (Context.read_write ofContext),
    fits.maybe_eq (by simp [fields]) (nullable_ofTime? e.scheduledAt),
    fits.maybe_eq (by simp [fields]) (nullable_ofText? e.scheduledNodeId),
    fits.maybe_eq (by simp [fields]) (nullable_ofText? e.lastError),
    fits.withDefault_eq (by simp [fields]) (asInt_int e.revision),
    fits.maybe_eq (by simp [fields]) (nullable_ofTime? e.createdAt),
    fits.maybe_eq (by simp [fields]) (nullable_ofTime? e.updatedAt),
    fits.maybe_eq (by simp [fields]) (nullable_ofTime? e.completedAt)]
  rfl

/-- An execution is read back from the row written for it. -/
theorem read_row {e : Execution} (regular : e.Regular) : read (.record e.row) = .valid e :=
  read_write regular.extras.kept regular.contextExtras.kept

theorem Regular.keeps {v e : Execution} (regular : v.Regular) (keeps : v.Keeps e) :
    e.Regular where
  extras := by
    rw [keeps.extras]
    exact regular.extras
  contextExtras := by
    rw [keeps.contextExtras]
    exact regular.contextExtras

theorem regular_of_isNew {e : Execution} (isNew : e.IsNew) : e.Regular where
  extras := by
    rw [isNew.extras]
    exact clean_nil names
  contextExtras := by
    rw [isNew.contextExtras]
    exact clean_nil Context.names

/-- The write over a row moves its revision on. -/
theorem row_saved {e : Execution} (regular : e.Regular) :
    Entries.set e.row "revision" (.int (e.revision + 1)) = e.saved.row := by
  have next : e.saved.Regular := ⟨regular.extras, regular.contextExtras⟩
  have present : "revision" ∈ (labelled .columns (e.fields .columns)).map Prod.fst := by
    rw [names_labelled, regular.fits.named]
    decide
  rw [row_eq regular, row_eq next, Entries.set_append_of_mem _ _ present]
  rfl

theorem update_row {v e : Execution} (regular : v.Regular) (keeps : v.Keeps e) :
    Entries.update v.row (Entries.set e.row "revision" (.int (e.revision + 1))) = e.saved.row := by
  have written : e.Regular := regular.keeps keeps
  have next : e.saved.Regular := ⟨written.extras, written.contextExtras⟩
  rw [row_saved written]
  refine Entries.update_of_same_names ?_ v.row_unique
  rw [row_eq next, row_eq regular, List.map_append, List.map_append, names_labelled, names_labelled,
    next.fits.named, regular.fits.named]
  change _ ++ e.extras.map Prod.fst = _
  rw [keeps.extras]

/-- What is known of an execution that was read. -/
theorem read_valid {doc : Row} {v : Execution} (reads : read (.record doc) = .valid v) :
    required Field.id asText doc = .valid v.id ∧
      withDefault Field.status .active readStatus doc = .valid v.status ∧
      withDefault Field.context {} Context.read doc = .valid v.context ∧
      withDefault Field.revision 0 asInt doc = .valid v.revision ∧
      v.extras = Document.extras names doc := by
  simp only [read, object, Validated.map_eq_valid, Validated.fmap_eq_valid,
    Validated.seq_eq_valid, ↓existsAndEq, and_true] at reads
  grind

theorem plain_of_read {row : Row} {v : Execution} (reads : read (.record row) = .valid v) :
    v.Plain := by
  obtain ⟨_, _, _, _, extras⟩ := read_valid reads
  refine ⟨?_, ?_, ?_⟩ <;> rw [extras] <;> exact plain_notMem_extras (by decide)

end Execution

namespace Ticket

theorem names_distinct : Distinct names := by decide

theorem readStatus_text (status : TicketStatus) :
    readStatus (.text status.text) = .valid status := by
  rw [readStatus, oneOf, TicketStatus.ofText?_text]

/-- A ticket is read back from what is written of it. -/
theorem read_write {naming : Naming} {ticket : Ticket} (kept : Kept naming names ticket.extras) :
    read (ticket.write naming) = .valid ticket := by
  rw [read, write]
  refine object_write rfl names_distinct kept fun fits => ?_
  rw [fits.required_eq (by simp [fields]) (asText_text ticket.id),
    fits.required_eq (by simp [fields]) (asText_text ticket.executionId),
    fits.required_eq (by simp [fields]) (asText_text ticket.flowId),
    fits.required_eq (by simp [fields]) (asText_text ticket.nodeId),
    fits.required_eq (by simp [fields]) (asText_text ticket.accountId),
    fits.required_eq (by simp [fields]) (asText_text ticket.senderId),
    fits.required_eq (by simp [fields]) (asTime_text ticket.executeAt),
    fits.withDefault_eq (by simp [fields]) (readStatus_text ticket.status),
    fits.maybe_eq (by simp [fields]) (nullable_ofTime? ticket.createdAt),
    fits.maybe_eq (by simp [fields]) (nullable_ofTime? ticket.processedAt),
    fits.maybe_eq (by simp [fields]) (nullable_ofText? ticket.error)]
  rfl

end Ticket
end MessageFlow
