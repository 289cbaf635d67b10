import MessageFlow.Proofs.Validation.Watch

/-!
The queries that keep the tables in order.
-/

namespace MessageFlow
open Document

namespace Entries

variable {α : Type} {entries changes : Entries α} {entry : String × α}

theorem mem_set {name : String} {value : α} (present : entry ∈ set entries name value) :
    entry ∈ entries ∨ entry = (name, value) := by
  induction entries with
  | nil => exact .inr (List.mem_singleton.mp present)
  | cons first rest ih =>
    obtain ⟨other, old⟩ := first
    by_cases same : other = name
    · rw [set, if_pos same] at present
      rcases List.mem_cons.mp present with rfl | later
      · exact .inr (by rw [same])
      · exact .inl (.tail _ later)
    · rw [set, if_neg same] at present
      rcases List.mem_cons.mp present with rfl | later
      · exact .inl (.head _)
      · rcases ih later with before | new
        · exact .inl (.tail _ before)
        · exact .inr new

theorem mem_update (present : entry ∈ update entries changes) :
    entry ∈ entries ∨ entry ∈ changes := by
  induction changes generalizing entries with
  | nil => exact .inl present
  | cons change changes ih =>
    rcases ih present with before | later
    · rcases mem_set before with old | new
      · exact .inl old
      · exact .inr (new ▸ .head _)
    · exact .inr (.tail _ later)

theorem mem_names_update {name : String} (present : name ∈ (update entries changes).map Prod.fst) :
    name ∈ entries.map Prod.fst ∨ name ∈ changes.map Prod.fst := by
  obtain ⟨entry, isEntry, rfl⟩ := List.mem_map.mp present
  rcases mem_update isEntry with before | changed
  · exact .inl (List.mem_map_of_mem before)
  · exact .inr (List.mem_map_of_mem changed)

end Entries

namespace Json

theorem haveFinite_update {row changes : Row} (before : haveFinite row = true)
    (changed : haveFinite changes = true) : haveFinite (Entries.update row changes) = true := by
  rw [haveFinite_iff] at before changed ⊢
  intro entry present
  rcases Entries.mem_update present with old | new
  · exact before entry old
  · exact changed entry new

@[simp] theorem isFinite_ofText? (text : Option String) : (ofText? text).isFinite = true := by
  cases text <;> rfl

@[simp] theorem isFinite_ofTime? (time : Option Timestamp) : (ofTime? time).isFinite = true := by
  cases time <;> rfl

@[simp] theorem isFinite_ofTexts (texts : List String) : (ofTexts texts).isFinite = true := by
  unfold ofTexts isFinite
  induction texts with
  | nil => rfl
  | cons text texts ih => exact ih

end Json

namespace Document

variable {doc : Row} {name : FieldName} {given : String} {value : Json} {α : Type}
  {read : ValueReader α} {a absent : α}

theorem required_eq_read (found : name.find? doc = some (given, value))
    (reads : required name read doc = .valid a) : read value = .valid a := by
  rw [required, found] at reads
  exact Validated.under_eq_valid.mp reads

theorem withDefault_eq_read (found : name.find? doc = some (given, value))
    (reads : withDefault name absent read doc = .valid a) : read value = .valid a := by
  rw [withDefault, found] at reads
  exact Validated.under_eq_valid.mp reads

end Document

/-- No custom field is a number without a text. -/
def Context.IsFinite (context : Context) : Prop :=
  ∀ entry ∈ context.customFields, entry.2.write.isFinite = true

namespace Context

variable {context : Context}

theorem IsFinite.write (finite : context.IsFinite) : (context.write .columns).isFinite = true := by
  have customFields : (FieldValue.writeMap context.customFields).isFinite = true := by
    unfold FieldValue.writeMap Json.isFinite
    rw [Json.haveFinite_iff]
    intro entry present
    obtain ⟨field, isField, rfl⟩ := List.mem_map.mp present
    exact finite field isField
  have labels : Json.haveFinite (labelled .columns context.fields) = true := by
    simp [labelled, fields, Json.haveFinite, customFields]
  exact Json.haveFinite_update labels (Json.haveFinite_finiteFields context.extras)

theorem IsFinite.setFlag (finite : context.IsFinite) (key : String) (value : Bool) :
    (context.setFlag key value).IsFinite := by
  intro entry present
  rcases Entries.mem_set present with before | new
  · exact finite entry before
  · rw [new]
    rfl

theorem isFinite_of_read {doc : Row} (finite : Json.haveFinite doc = true)
    (reads : read (.record doc) = .valid context) : context.IsFinite := by
  obtain ⟨_, customFields, _, _⟩ := read_valid reads
  rcases withDefault_cases customFields with none | ⟨given, value, present, readsMap⟩
  · intro entry isField
    rw [none] at isField
    cases isField
  · have ofValue : value.isFinite = true := Json.haveFinite_iff.mp finite _ present
    cases value with
    | record members =>
      have written := Json.record.inj (FieldValue.writeMap_of_readEntries readsMap)
      rw [Json.isFinite, Json.haveFinite_iff, ← written] at ofValue
      intro entry isField
      exact ofValue _ (List.mem_map_of_mem isField)
    | null | bool | int | real | text | list => cases readsMap

end Context

namespace Execution

variable {owners : Owners} {v e : Execution} {row : Row}

/-- An execution object of a known flow from which rows in order are written. -/
structure Proper (owners : Owners) (e : Execution) : Prop where
  owned : (e.id, e.flowId) ∈ owners
  column : ∀ name ∈ names, name.column ∉ e.extras.map Prod.fst
  key : ∀ name ∈ names, name.key ∉ e.extras.map Prod.fst
  finite : e.context.IsFinite

theorem Proper.mono {later : Owners} (proper : e.Proper owners) (grows : owners ⊆ later) :
    e.Proper later :=
  ⟨grows proper.owned, proper.column, proper.key, proper.finite⟩

/-- The object may change, but for its identity, its flow and its extras. -/
theorem Proper.of_same (proper : v.Proper owners) (id : e.id = v.id) (flowId : e.flowId = v.flowId)
    (extras : e.extras = v.extras) (finite : e.context.IsFinite) : e.Proper owners where
  owned := by
    rw [id, flowId]
    exact proper.owned
  column := by
    rw [extras]
    exact proper.column
  key := by
    rw [extras]
    exact proper.key
  finite := finite

theorem Proper.plain (proper : e.Proper owners) : e.Plain where
  id := proper.column Field.id (by decide)
  status := proper.column Field.status (by decide)
  revision := proper.column Field.revision (by decide)

theorem Proper.haveFinite_row (proper : e.Proper owners) : Json.haveFinite e.row = true := by
  have labels : Json.haveFinite (labelled .columns (e.fields .columns)) = true := by
    simp [labelled, fields, Json.haveFinite, Json.isFinite, proper.finite.write]
  exact Json.haveFinite_update labels (Json.haveFinite_finiteFields e.extras)

theorem Proper.isColumnar_row (proper : e.Proper owners) : Row.IsColumnar e.row := by
  intro name isField different present
  rcases Entries.mem_names_update present with label | extra
  · change name.key ∈ (labelled .columns (e.fields .columns)).map Prod.fst at label
    rw [names_labelled] at label
    obtain ⟨other, isOther, same⟩ := List.mem_map.mp label
    have equal : other = name := names_distinct.2.2 name isField other isOther same
    exact different (by rw [← same, equal]; rfl)
  · rw [names_finiteFields] at extra
    exact proper.key name isField extra

/-- What a row in columns says of an execution is read from the columns. -/
theorem find?_of_columnar {name : FieldName} {value : Json} (columnar : row.IsColumnar)
    (isField : name ∈ names) (found : Entries.get? row name.column = some value) :
    ∃ given, name.find? row = some (given, value) := by
  unfold FieldName.find?
  by_cases plain : name.key = name.column
  · rw [plain, found]
    exact ⟨_, rfl⟩
  · rw [Entries.get?_eq_none (columnar name isField plain), found]
    exact ⟨_, rfl⟩

/-- What a row says of the flow of an execution and of how it ended. -/
structure Tells (row : Row) (v : Execution) : Prop where
  id : required Field.id asText row = .valid v.id
  flowId : required Field.flowId asText row = .valid v.flowId
  currentNodeId : required Field.currentNodeId asText row = .valid v.currentNodeId
  status : withDefault Field.status .active readStatus row = .valid v.status
  lastError : maybe Field.lastError asText row = .valid v.lastError

theorem tells_of_read (reads : read (.record row) = .valid v) : v.Tells row := by
  simp only [read, object, Validated.map_eq_valid, Validated.fmap_eq_valid,
    Validated.seq_eq_valid, ↓existsAndEq, and_true] at reads
  constructor <;> grind

theorem proper_of_read (columnar : row.IsColumnar) (finite : Json.haveFinite row = true)
    (owned : (v.id, v.flowId) ∈ owners) (reads : read (.record row) = .valid v) :
    v.Proper owners := by
  obtain ⟨_, _, context, _, extras⟩ := read_valid reads
  refine ⟨owned, ?_, ?_, ?_⟩
  · intro name isField present
    rw [extras] at present
    obtain ⟨entry, kept, same⟩ := List.mem_map.mp present
    obtain ⟨_, free⟩ := List.mem_filter.mp kept
    simp only [Bool.not_eq_true', List.any_eq_false] at free
    apply free name isField
    by_cases plain : name.key = name.column
    · simp [FieldName.takes, same, plain]
    · have noKey : Entries.get? row name.key = none :=
        Entries.get?_eq_none (columnar name isField plain)
      simp [FieldName.takes, same, noKey]
  · intro name isField present
    rw [extras] at present
    obtain ⟨entry, kept, same⟩ := List.mem_map.mp present
    obtain ⟨_, free⟩ := List.mem_filter.mp kept
    simp only [Bool.not_eq_true', List.any_eq_false] at free
    exact free name isField (by simp [FieldName.takes, same])
  · rcases withDefault_cases context with none | ⟨given, value, present, readsContext⟩
    · rw [none]
      exact fun entry isField => absurd isField List.not_mem_nil
    · obtain ⟨doc, rfl⟩ := exists_record readsContext
      have ofDoc : (Json.record doc).isFinite = true := Json.haveFinite_iff.mp finite _ present
      exact Context.isFinite_of_read ofDoc readsContext

/-- The fields of an object that is written over a row in columns are read back from it. -/
theorem Proper.tells_writeOver (proper : e.Proper owners) (columnar : (e.writeOver row).IsColumnar)
    (tells : v.Tells (e.writeOver row)) :
    v.id = e.id ∧ v.flowId = e.flowId ∧ v.currentNodeId = e.currentNodeId ∧
      v.status = e.status ∧ v.lastError = e.lastError := by
  have given {name : FieldName} {value : Json} (isField : name ∈ names)
      (written : (name, value) ∈ e.fields .columns) (other : name.column ≠ "revision") :
      ∃ given, name.find? (e.writeOver row) = some (given, value) := by
    apply find?_of_columnar columnar isField
    exact get?_writeOver (get?_row written (proper.column name isField)) other
  have ofText {name : FieldName} {text again : String} (isField : name ∈ names)
      (written : (name, Json.text text) ∈ e.fields .columns) (other : name.column ≠ "revision")
      (told : required name asText (e.writeOver row) = .valid again) : again = text := by
    obtain ⟨_, found⟩ := given isField written other
    have same : Validated.valid text = .valid again := required_eq_read found told
    exact (Validated.valid.inj same).symm
  refine ⟨?_, ?_, ?_, ?_, ?_⟩
  · exact ofText (by decide) (by simp [fields]) (by decide) tells.id
  · exact ofText (by decide) (by simp [fields]) (by decide) tells.flowId
  · exact ofText (by decide) (by simp [fields]) (by decide) tells.currentNodeId
  · obtain ⟨_, found⟩ :=
      @given Field.status (.text e.status.text) (by decide) (by simp [fields]) (by decide)
    have same := withDefault_eq_read found tells.status
    rw [readStatus_text] at same
    exact (Validated.valid.inj same).symm
  · obtain ⟨_, found⟩ :=
      @given Field.lastError (.ofText? e.lastError) (by decide) (by simp [fields]) (by decide)
    have same := withDefault_eq_read found tells.lastError
    rw [nullable_ofText?] at same
    exact (Validated.valid.inj same).symm

end Execution

theorem TableRows.rows_insert (content : TableRows) (table : Table) (row : Row) :
    (content.insert table row).2.rows = content.rows ++ [(content.insert table row).1] := by
  unfold insert
  split <;> rfl

/-- Every stored lead can be read. -/
def Tables.ReadsLeads (tables : Tables) : Prop :=
  ∀ row ∈ tables.rows .leads, ∃ lead, Lead.read (.record row) = .valid lead

namespace Tables.ReadsLeads

variable {tables : Tables}

theorem update (leads : tables.ReadsLeads) (filters : List Filter) {changes : Row}
    (columns : ∀ entry ∈ changes, Lead.Column entry) :
    ((Query.update .leads filters changes).run tables).2.ReadsLeads := by
  have rows : ((Query.update .leads filters changes).run tables).2.rows .leads =
      (tables.rows .leads).map fun row =>
        if selects filters row then Entries.update row changes else row := tables.rows_put .leads _
  unfold ReadsLeads
  rw [rows]
  intro updated present
  obtain ⟨row, isRow, rfl⟩ := List.mem_map.mp present
  obtain ⟨lead, reads⟩ := leads row isRow
  split
  · exact Lead.exists_read_update reads columns
  · exact ⟨lead, reads⟩

theorem insert (leads : tables.ReadsLeads) {row : Row} {lead : Lead}
    (reads : Lead.read (.record row) = .valid lead) :
    ((Query.insert .leads row).run tables).2.ReadsLeads := by
  have rows : ((Query.insert .leads row).run tables).2.rows .leads =
      ((tables.get .leads).insert .leads row).2.rows := tables.rows_put .leads _
  unfold ReadsLeads
  rw [rows, TableRows.rows_insert]
  intro stored present
  rcases List.mem_append.mp present with old | new
  · exact leads stored old
  · rw [List.mem_singleton.mp new]
    exact Lead.exists_read_insert reads _ _

end Tables.ReadsLeads

namespace Watch

variable {watch : Watch} {owners later : Owners} {tables : Tables} {row : Row} {e : Execution}

theorem Admits.mono (admits : watch.Admits owners row) (grows : owners ⊆ later) :
    watch.Admits later row where
  columnar := admits.columnar
  finite := admits.finite
  owned v reads := grows (admits.owned v reads)
  spared := admits.spared

theorem Sound.grow (sound : watch.Sound owners tables) (grows : owners ⊆ later)
    (agree : later.Agree) : watch.Sound later tables where
  agree := agree
  executions row present := (sound.executions row present).mono grows
  kept := sound.kept
  flows := sound.flows
  leads := sound.leads
  accounts := sound.accounts

/-- A stored execution is a proper object. -/
theorem Sound.proper (sound : watch.Sound owners tables) (present : row ∈ tables.executionRows)
    (reads : Execution.read (.record row) = .valid e) : e.Proper owners :=
  have admits := sound.executions row present
  Execution.proper_of_read admits.columnar admits.finite (admits.owned e reads) reads

theorem Admits.writeOver (admits : watch.Admits owners row) (proper : e.Proper owners)
    (spared : watch.flow.Spares e) : watch.Admits owners (e.writeOver row) := by
  have columnar : (e.writeOver row).IsColumnar := by
    intro name isField different present
    rcases Entries.mem_names_update present with before | written
    · exact admits.columnar name isField different before
    · obtain ⟨entry, isEntry, same⟩ := List.mem_map.mp written
      rcases Entries.mem_set isEntry with ofRow | revision
      · exact proper.isColumnar_row name isField different
          (same ▸ List.mem_map_of_mem ofRow)
      · have plain : ∀ name ∈ Execution.names, name.key ≠ name.column → name.key ≠ "revision" := by
          decide
        exact plain name isField different (by rw [← same, revision])
  have finite : Json.haveFinite (e.writeOver row) = true := by
    apply Json.haveFinite_update admits.finite
    rw [Json.haveFinite_iff]
    intro entry present
    rcases Entries.mem_set present with ofRow | revision
    · exact Json.haveFinite_iff.mp proper.haveFinite_row entry ofRow
    · rw [revision]
      rfl
  refine ⟨columnar, finite, ?_, .inr ?_⟩
  · intro v reads
    obtain ⟨id, flowId, _⟩ := proper.tells_writeOver columnar (Execution.tells_of_read reads)
    rw [id, flowId]
    exact proper.owned
  · intro v reads
    obtain ⟨_, flowId, currentNodeId, status, lastError⟩ :=
      proper.tells_writeOver columnar (Execution.tells_of_read reads)
    unfold AcceptedFlow.Spares
    rw [flowId, currentNodeId, status, lastError]
    exact spared

/-- A new execution is stored in order. -/
theorem admits_row (proper : e.Proper owners) (isNew : e.IsNew) : watch.Admits owners e.row := by
  have reads := Execution.read_row (Execution.regular_of_isNew isNew)
  refine ⟨proper.isColumnar_row, proper.haveFinite_row, ?_, .inr ?_⟩
  · intro v readsV
    rw [reads] at readsV
    cases readsV
    exact proper.owned
  · intro v readsV _ failed
    rw [reads] at readsV
    cases readsV
    rw [isNew.status] at failed
    cases failed

/-- A query keeps the tables in order if it does so with its own table. -/
theorem Sound.run {q : Query} (sound : watch.Sound owners tables) (noAccount : q.table ≠ .accounts)
    (executions : q.table = .executions →
      (∀ row ∈ (q.run tables).2.executionRows, watch.Admits owners row) ∧
        ∀ row ∈ tables.executionRows, ∃ later ∈ (q.run tables).2.executionRows,
          later.get "id" = row.get "id")
    (flows : q.table = .flows → watch.Shows ((q.run tables).2.rows .flows))
    (leads : q.table = .leads → ∀ row ∈ (q.run tables).2.rows .leads, ∃ lead,
      Lead.read (.record row) = .valid lead) : watch.Sound owners (q.run tables).2 := by
  have sameElsewhere {table : Table} (elsewhere : q.table ≠ table) :
      (q.run tables).2.rows table = tables.rows table := q.rows_run_of_ne elsewhere
  constructor
  · exact sound.agree
  · by_cases here : q.table = .executions
    · exact (executions here).1
    · unfold Tables.executionRows
      rw [sameElsewhere here]
      exact sound.executions
  · by_cases here : q.table = .executions
    · intro row present
      obtain ⟨mid, stored, same⟩ := sound.kept row present
      obtain ⟨last, kept, alsoSame⟩ := (executions here).2 mid stored
      exact ⟨last, kept, alsoSame.trans same⟩
    · unfold Tables.executionRows
      rw [sameElsewhere here]
      exact sound.kept
  · by_cases here : q.table = .flows
    · exact flows here
    · rw [sameElsewhere here]
      exact sound.flows
  · by_cases here : q.table = .leads
    · exact leads here
    · rw [sameElsewhere here]
      exact sound.leads
  · rw [sameElsewhere noAccount]
    exact sound.accounts

theorem Sound.save (sound : watch.Sound owners tables) (proper : e.Proper owners)
    (spared : watch.flow.Spares e) : watch.Sound owners ((Store.saveQuery e).run tables).2 := by
  refine sound.run nofun (fun _ => ?_) nofun nofun
  rw [Execution.executionRows_run_save]
  constructor
  · intro written present
    obtain ⟨row, isRow, rfl⟩ := List.mem_map.mp present
    unfold Execution.overwrite
    split
    · exact (sound.executions row isRow).writeOver proper spared
    · exact sound.executions row isRow
  · intro row isRow
    exact ⟨_, List.mem_map_of_mem isRow, Execution.get_id_overwrite proper.plain row⟩

theorem Sound.create (sound : watch.Sound owners tables) (proper : e.Proper owners)
    (isNew : e.IsNew) : watch.Sound owners ((Query.insert .executions e.row).run tables).2 := by
  refine sound.run nofun (fun _ => ?_) nofun nofun
  rw [(Execution.run_insert isNew tables).2]
  constructor
  · intro row present
    rcases List.mem_append.mp present with old | new
    · exact sound.executions row old
    · rw [List.mem_singleton.mp new]
      exact admits_row proper isNew
  · intro row isRow
    exact ⟨row, List.mem_append_left _ isRow, rfl⟩

/-- Rows that are counted keep their ids. -/
theorem Sound.count (sound : watch.Sound owners tables) (id : String) (count : Int)
    (time : Timestamp) : watch.Sound owners
      ((Query.update .flows [Store.byId id] (Flow.countColumns count time)).run tables).2 := by
  refine sound.run nofun nofun (fun _ => ?_) nofun
  have rows : ((Query.update .flows [Store.byId id] (Flow.countColumns count time)).run
      tables).2.rows .flows = (tables.rows .flows).map fun row =>
        if selects [Store.byId id] row then Entries.update row (Flow.countColumns count time)
        else row := tables.rows_put .flows _
  have sameId (row : Row) :
      Row.get (Entries.update row (Flow.countColumns count time)) "id" = row.get "id" := by
    unfold Row.get
    rw [Entries.get?_update_of_absent (by simp [Flow.countColumns])]
  rw [rows]
  constructor
  · obtain ⟨row, present, isId⟩ := sound.flows.present
    refine ⟨_, List.mem_map_of_mem present, ?_⟩
    split
    · rw [sameId, isId]
    · exact isId
  · intro counted present isId
    obtain ⟨row, isRow, rfl⟩ := List.mem_map.mp present
    split at isId
    · rw [sameId] at isId
      obtain ⟨flow, reads, nodes, edges⟩ := sound.flows.reads row isRow isId
      obtain ⟨flow', readsCounted, sameNodes, sameEdges⟩ := Flow.exists_read_count reads count time
      next meant =>
        rw [if_pos meant]
        exact ⟨flow', readsCounted, sameNodes.trans nodes, sameEdges.trans edges⟩
    · next notMeant =>
        rw [if_neg notMeant]
        exact sound.flows.reads row isRow isId

theorem Sound.updateLeads (sound : watch.Sound owners tables) (filters : List Filter)
    {changes : Row} (columns : ∀ entry ∈ changes, Lead.Column entry) :
    watch.Sound owners ((Query.update .leads filters changes).run tables).2 :=
  sound.run nofun nofun nofun fun _ => Tables.ReadsLeads.update sound.leads filters columns

theorem Sound.insertLead (sound : watch.Sound owners tables) {lead : Lead}
    (reads : Lead.read (.record row) = .valid lead) :
    watch.Sound owners ((Query.insert .leads row).run tables).2 :=
  sound.run nofun nofun nofun fun _ => Tables.ReadsLeads.insert sound.leads reads

/-- Tickets and notifications may change in any way. -/
theorem Sound.aside {q : Query} (sound : watch.Sound owners tables)
    (aside : q.table = .tickets ∨ q.table = .notifications) :
    watch.Sound owners (q.run tables).2 := by
  have elsewhere {table : Table} (different : table ≠ .tickets ∧ table ≠ .notifications) :
      q.table ≠ table := by
    rintro rfl
    exact aside.elim different.1 different.2
  exact sound.run (elsewhere (by decide)) (fun here => absurd here (elsewhere (by decide)))
    (fun here => absurd here (elsewhere (by decide)))
    (fun here => absurd here (elsewhere (by decide)))

end Watch

end MessageFlow
