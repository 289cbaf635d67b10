import MessageFlow.Flow.Document
import MessageFlow.Lead.Upsert
import MessageFlow.Proofs.Reading.Expressible
import MessageFlow.Store.Tables

/-!
Rows that are changed column by column. A row that could be read can be read after a change whose
values can be read.
-/

namespace MessageFlow

namespace Entries

variable {α : Type} {entries changes : Entries α} {name : String}

theorem get?_update_cases {value : α} (found : get? (update entries changes) name = some value) :
    (name, value) ∈ changes ∨ get? entries name = some value := by
  induction changes generalizing entries with
  | nil => exact .inr found
  | cons change changes ih =>
    obtain ⟨other, first⟩ := change
    rcases ih found with later | earlier
    · exact .inl (.tail _ later)
    · by_cases same : name = other
      · rw [same, get?_set_self] at earlier
        cases earlier
        rw [same]
        exact .inl (.head _)
      · rw [get?_set_of_ne entries same] at earlier
        exact .inr earlier

/-- No name is lost. -/
theorem get?_eq_none_of_update (absent : get? (update entries changes) name = none) :
    get? entries name = none := by
  induction changes generalizing entries with
  | nil => exact absent
  | cons change changes ih =>
    obtain ⟨other, first⟩ := change
    have earlier : get? (set entries other first) name = none := ih absent
    by_cases same : name = other
    · rw [same, get?_set_self] at earlier
      cases earlier
    · rwa [get?_set_of_ne entries same] at earlier

end Entries

namespace Document

variable {doc changes : Row} {name : FieldName} {α : Type} {read : ValueReader α} {a absent : α}
  {given : String} {value : Json}

/-- After a change a field takes a changed value, or the one that it took before. -/
theorem find?_update_cases (found : name.find? (Entries.update doc changes) = some (given, value)) :
    (given, value) ∈ changes ∨ name.find? doc = some (given, value) := by
  unfold FieldName.find? at found ⊢
  split at found
  · next other isKey =>
    cases found
    rcases Entries.get?_update_cases isKey with changed | before
    · exact .inl changed
    · right
      rw [before]
  · next noKey =>
    obtain ⟨other, isColumn, same⟩ := Option.map_eq_some_iff.mp found
    cases same
    rcases Entries.get?_update_cases isColumn with changed | before
    · exact .inl changed
    · right
      rw [Entries.get?_eq_none_of_update noKey, before]
      rfl

theorem isSome_find?_update (present : (name.find? doc).isSome = true) :
    (name.find? (Entries.update doc changes)).isSome = true := by
  unfold FieldName.find? at present ⊢
  cases key : Entries.get? (Entries.update doc changes) name.key with
  | some value => rfl
  | none =>
    cases column : Entries.get? (Entries.update doc changes) name.column with
    | some value => rfl
    | none =>
      rw [Entries.get?_eq_none_of_update key, Entries.get?_eq_none_of_update column] at present
      cases present

theorem find?_update_of_absent (column : name.column ∉ changes.map Prod.fst)
    (key : name.key ∉ changes.map Prod.fst) :
    name.find? (Entries.update doc changes) = name.find? doc := by
  unfold FieldName.find?
  rw [Entries.get?_update_of_absent column, Entries.get?_update_of_absent key]

theorem exists_withDefault : (∃ a, withDefault name absent read doc = .valid a) ↔
    ∀ given value, name.find? doc = some (given, value) → ∃ a, read value = .valid a := by
  unfold withDefault
  cases found : name.find? doc with
  | none => simp
  | some entry =>
    obtain ⟨given, value⟩ := entry
    simp [Validated.under_eq_valid]

theorem exists_required : (∃ a, required name read doc = .valid a) ↔
    (name.find? doc).isSome = true ∧
      ∀ given value, name.find? doc = some (given, value) → ∃ a, read value = .valid a := by
  unfold required
  cases found : name.find? doc with
  | none => simp
  | some entry =>
    obtain ⟨given, value⟩ := entry
    simp [Validated.under_eq_valid]

theorem required_update_iff (column : name.column ∉ changes.map Prod.fst)
    (key : name.key ∉ changes.map Prod.fst) :
    required name read (Entries.update doc changes) = .valid a ↔
      required name read doc = .valid a := by
  unfold required
  rw [find?_update_of_absent column key]
  cases name.find? doc with
  | none => simp
  | some entry => rfl

theorem withDefault_update_eq (column : name.column ∉ changes.map Prod.fst)
    (key : name.key ∉ changes.map Prod.fst) :
    withDefault name absent read (Entries.update doc changes) =
      withDefault name absent read doc := by
  unfold withDefault
  rw [find?_update_of_absent column key]

/-- A field can still be read if every change to it can be read. -/
theorem exists_withDefault_update (before : ∃ a, withDefault name absent read doc = .valid a)
    (changed : ∀ entry ∈ changes, (entry.1 = name.column ∨ entry.1 = name.key) →
      ∃ a, read entry.2 = .valid a) :
    ∃ a, withDefault name absent read (Entries.update doc changes) = .valid a := by
  rw [exists_withDefault] at before ⊢
  intro given value found
  rcases find?_update_cases found with change | earlier
  · exact changed _ change (find?_cases found).2
  · exact before given value earlier

end Document

theorem Document.nullable_columnText (t : Timestamp) :
    nullable asTime (.text t.columnText) = .valid (some t) := by
  have reads : asTime (.text t.columnText) = .valid t := by
    rw [asTime, timeOfText, Timestamp.read?_columnText]
    rfl
  rw [nullable]
  · rw [reads]
    rfl
  · intro none
    cases none

namespace Lead
open Document

/-- The fields of a lead with the values that each of them can be read from. -/
def checks : List (FieldName × (Json → Prop)) :=
  let text value := ∃ a, asText value = .valid a
  let maybeText value := ∃ a, nullable asText value = .valid a
  let texts value := ∃ a, listOf asText value = .valid a
  let maybeTime value := ∃ a, nullable asTime value = .valid a
  [(Field.id, maybeText), (Field.userId, maybeText), (Field.accountId, text),
   (Field.instagramUserId, text), (Field.username, maybeText), (Field.email, maybeText),
   (Field.phone, maybeText), (Field.name, maybeText), (Field.source, text),
   (Field.flowId, maybeText), (Field.tags, texts), (Field.createdAt, maybeTime),
   (Field.updatedAt, maybeTime)]

theorem exists_read_iff {doc : Row} : (∃ lead, read (.record doc) = .valid lead) ↔
    ((Field.accountId.find? doc).isSome = true ∧ (Field.instagramUserId.find? doc).isSome = true) ∧
      ∀ check ∈ checks, ∀ given value, check.1.find? doc = some (given, value) → check.2 value := by
  simp only [read, object, Validated.map_eq_valid, Validated.fmap_eq_valid, Validated.seq_eq_valid,
    ↓existsAndEq, and_true, maybe, exists_and_left, exists_and_right, exists_withDefault,
    exists_required, checks, List.forall_mem_cons]
  tauto

/-- The columns that are written of a lead. -/
inductive Column : String × Json → Prop
  | text (name text : String)
    (plain : name ∉ ["tags", "created_at", "createdAt", "updated_at", "updatedAt"]) :
    Column (name, .text text)
  | tags (tags : List String) : Column ("tags", .ofTexts tags)
  | time (name : String) (t : Timestamp) (ofTime : name ∈ ["created_at", "updated_at"]) :
    Column (name, .text t.columnText)

/-- What is written into a column can be read from it. -/
theorem Column.reads {entry : String × Json} (column : Column entry) :
    ∀ check ∈ checks, (entry.1 = check.1.column ∨ entry.1 = check.1.key) → check.2 entry.2 := by
  simp only [checks, List.forall_mem_cons]
  cases column with
  | text name text plain =>
    -- A text is refused by the tags and the times only, and has none of their names.
    and_intros
    all_goals first
      | exact fun _ => ⟨text, rfl⟩
      | exact fun _ => ⟨some text, rfl⟩
      | simp_all [Field.tags, Field.createdAt, Field.updatedAt, FieldName.plain]
  | tags tags =>
    and_intros
    all_goals first
      | exact fun _ => ⟨tags, listOf_ofTexts tags⟩
      | simp [Field.id, Field.userId, Field.accountId, Field.instagramUserId, Field.username,
          Field.email, Field.phone, Field.name, Field.source, Field.flowId, Field.createdAt,
          Field.updatedAt, FieldName.plain]
  | time name t ofTime =>
    and_intros
    all_goals first
      | exact fun _ => ⟨some t, nullable_columnText t⟩
      | exact fun _ => ⟨t.columnText, rfl⟩
      | exact fun _ => ⟨some t.columnText, rfl⟩
      | intro named
        simp_all [Field.tags, FieldName.plain]

theorem column_id (id : String) : Column ("id", .text id) := .text "id" id (by decide)

theorem exists_read_update {doc changes : Row} {lead : Lead}
    (reads : read (.record doc) = .valid lead) (columns : ∀ entry ∈ changes, Column entry) :
    ∃ lead, read (.record (Entries.update doc changes)) = .valid lead := by
  obtain ⟨⟨account, sender⟩, good⟩ := exists_read_iff.mp ⟨lead, reads⟩
  refine exists_read_iff.mpr ⟨⟨isSome_find?_update account, isSome_find?_update sender⟩, ?_⟩
  intro check isCheck given value found
  rcases find?_update_cases found with changed | before
  · have named := (find?_cases found).2
    exact (columns _ changed).reads check isCheck named
  · exact good check isCheck given value before

/-- A row of columns with an account and a sender is that of a lead. -/
theorem exists_read_of_columns {doc : Row} (columns : ∀ entry ∈ doc, Column entry)
    (account : (Field.accountId.find? doc).isSome = true)
    (sender : (Field.instagramUserId.find? doc).isSome = true) :
    ∃ lead, read (.record doc) = .valid lead := by
  refine exists_read_iff.mpr ⟨⟨account, sender⟩, ?_⟩
  intro check isCheck given value found
  obtain ⟨present, named⟩ := find?_cases found
  exact (columns _ present).reads check isCheck named

end Lead

namespace LeadReport
open Lead Document

theorem isSome_find? {doc : Row} {name : FieldName} {value : Json}
    (present : (name.column, value) ∈ doc) : (name.find? doc).isSome = true := by
  unfold FieldName.find?
  cases Entries.get? doc name.key with
  | some value => rfl
  | none =>
    cases column : Entries.get? doc name.column with
    | some value => rfl
    | none => exact absurd (List.lookup_eq_none_iff.mp column _ present) (by simp)

theorem column_ofText? {name : String} {text : Option String}
    (plain : name ∉ ["tags", "created_at", "createdAt", "updated_at", "updatedAt"])
    (given : Json.ofText? text ≠ .null) : Column (name, .ofText? text) := by
  cases text with
  | none => exact absurd rfl given
  | some text => exact .text name text plain

theorem column_of_given {report : LeadReport} {entry : String × Json}
    (listed : entry ∈ report.columns) (given : entry.2 ≠ .null) : Column entry := by
  simp only [columns, List.mem_cons, List.not_mem_nil, or_false] at listed
  rcases listed with rfl | rfl | rfl | rfl | rfl | rfl | rfl | rfl | rfl | rfl
  · exact column_ofText? (by decide) given
  · exact .text _ _ (by decide)
  · exact .text _ _ (by decide)
  · exact column_ofText? (by decide) given
  · exact column_ofText? (by decide) given
  · exact column_ofText? (by decide) given
  · exact column_ofText? (by decide) given
  · exact .text _ _ (by decide)
  · exact column_ofText? (by decide) given
  · cases isTags : report.tags with
    | none =>
      rw [isTags] at given
      exact absurd rfl given
    | some tags => exact .tags tags

theorem column_of_news {report : LeadReport} : ∀ entry ∈ report.news, Column entry := by
  intro entry present
  obtain ⟨listed, truthy⟩ := List.mem_filter.mp present
  have among : entry ∈ report.columns := by
    simp only [List.mem_cons, List.not_mem_nil, or_false] at listed
    simp only [columns, List.mem_cons, List.not_mem_nil, or_false]
    tauto
  apply column_of_given among
  intro none
  simp [none, Json.isTruthy] at truthy

theorem column_of_creation {report : LeadReport} {now : Timestamp} :
    ∀ entry ∈ report.creation now.columnText, Column entry := by
  intro entry present
  have given (listed : entry ∈ report.columns.filter fun entry => entry.2 != .null) :
      Column entry := by
    obtain ⟨listed, notNull⟩ := List.mem_filter.mp listed
    exact column_of_given listed (by simpa using notNull)
  rcases List.mem_append.mp present with tagged | times
  · split at tagged
    · exact given tagged
    · rcases List.mem_append.mp tagged with listed | none
      · exact given listed
      · rw [List.mem_singleton.mp none]
        exact .tags []
  · simp only [List.mem_cons, List.not_mem_nil, or_false] at times
    rcases times with rfl | rfl
    · exact .time "created_at" now (by decide)
    · exact .time "updated_at" now (by decide)

/-- What is reported of a new sender is read as a lead. -/
theorem exists_read_creation (report : LeadReport) (now : Timestamp) :
    ∃ lead, Lead.read (.record (report.creation now.columnText)) = .valid lead := by
  have kept {entry : String × Json} (listed : entry ∈ report.columns) (given : entry.2 ≠ .null) :
      entry ∈ report.creation now.columnText := by
    have kept : entry ∈ report.columns.filter fun entry => entry.2 != .null :=
      List.mem_filter.mpr ⟨listed, by simpa using given⟩
    apply List.mem_append_left
    split
    · exact kept
    · exact List.mem_append_left _ kept
  have account : ("account_id", Json.text report.accountId) ∈ report.columns := by simp [columns]
  have sender : ("instagram_user_id", Json.text report.instagramUserId) ∈ report.columns := by
    simp [columns]
  exact exists_read_of_columns column_of_creation (isSome_find? (kept account (by simp)))
    (isSome_find? (kept sender (by simp)))

end LeadReport

/-- A lead is stored as it is, or under an id of the table. -/
theorem Lead.exists_read_insert {row : Row} {lead : Lead} (reads : read (.record row) = .valid lead)
    (content : TableRows) (table : Table) :
    ∃ lead, read (.record (content.insert table row).1) = .valid lead := by
  unfold TableRows.insert
  split
  · exact ⟨lead, reads⟩
  · change ∃ lead, read (.record (Entries.update row [("id", _)])) = .valid lead
    apply exists_read_update reads
    intro entry present
    rw [List.mem_singleton.mp present]
    exact column_id _

namespace Flow
open Document

/-- The columns by which a start is counted. -/
def countColumns (count : Int) (time : Timestamp) : Row :=
  [("trigger_count", .int count), ("last_triggered_at", .text time.columnText)]

/-- The other columns are read as before. -/
theorem required_count_iff {α : Type} {name : FieldName} {read : ValueReader α} {a : α} {row : Row}
    {count : Int} {time : Timestamp}
    (column : name.column ∉ ["trigger_count", "last_triggered_at"])
    (key : name.key ∉ ["trigger_count", "last_triggered_at"]) :
    required name read (Entries.update row (countColumns count time)) = .valid a ↔
      required name read row = .valid a := required_update_iff column key

theorem withDefault_count_eq {α : Type} {name : FieldName} {read : ValueReader α} {absent : α}
    {row : Row} {count : Int} {time : Timestamp}
    (column : name.column ∉ ["trigger_count", "last_triggered_at"])
    (key : name.key ∉ ["trigger_count", "last_triggered_at"]) :
    withDefault name absent read (Entries.update row (countColumns count time)) =
      withDefault name absent read row := withDefault_update_eq column key

/-- A flow keeps its graph when a start is counted. -/
theorem exists_read_count {row : Row} {flow : Flow} (reads : read (.record row) = .valid flow)
    (count : Int) (time : Timestamp) :
    ∃ flow', read (.record (Entries.update row (countColumns count time))) = .valid flow' ∧
      flow'.nodes = flow.nodes ∧ flow'.edges = flow.edges := by
  simp only [read, object, Validated.map_eq_valid, Validated.fmap_eq_valid,
    Validated.seq_eq_valid, ↓existsAndEq, and_true] at reads ⊢
  have counted : ∃ a, withDefault Field.triggerCount 0 asInt
      (Entries.update row (countColumns count time)) = .valid a := by
    apply exists_withDefault_update
    · grind
    · simp [countColumns, Field.triggerCount, asInt]
  have timed : ∃ a, maybe Field.lastTriggeredAt asTime
      (Entries.update row (countColumns count time)) = .valid a := by
    apply exists_withDefault_update
    · unfold maybe at reads
      grind
    · simp [countColumns, Field.lastTriggeredAt, nullable_columnText]
  obtain ⟨counter, counted⟩ := counted
  obtain ⟨last, timed⟩ := timed
  obtain ⟨updatedAt, createdAt, _, _, isActive, edges, nodes, description, name, accountId, userId,
    id, fields, rfl⟩ := reads
  simp (disch := decide) only [maybe, required_count_iff, withDefault_count_eq] at fields timed ⊢
  simp [fields, counted, timed]

end Flow
end MessageFlow
