import MessageFlow.Proofs.Accounts.Service
import MessageFlow.Proofs.Validation.Columns
import MessageFlow.Simulation.World

/-!
What one report makes of the leads when no query fails: the lead of its account and sender is
created, or takes what the report adds.
-/

namespace MessageFlow

namespace Entries

variable {α : Type} {entries : Entries α} {name : String}

/-- A name keeps its value if the value is kept. -/
theorem get?_filter (unique : (entries.map Prod.fst).Nodup) (keep : α → Bool) (name : String) :
    get? (entries.filter fun entry => keep entry.2) name = (get? entries name).filter keep := by
  induction entries with
  | nil => rfl
  | cons entry rest ih =>
    obtain ⟨n, value⟩ := entry
    simp only [List.map_cons, List.nodup_cons] at unique
    by_cases same : name = n
    · rw [same, get?_cons_self, Option.filter_some]
      cases kept : keep value with
      | true => simp [kept, get?_cons_self]
      | false =>
        have gone : get? (rest.filter fun entry => keep entry.2) n = none := by
          rw [← same, ih unique.2, same, get?_eq_none unique.1]
          rfl
        simp [kept, gone]
    · rw [get?_cons_of_ne same, ← ih unique.2]
      cases kept : keep value with
      | true => simp [kept, get?_cons_of_ne same]
      | false => simp [kept]

end Entries

namespace World

/-- The store answers every query. -/
structure Serves (world : World) : Prop where
  connected : world.connected = true
  faultless : world.faults = []

variable {world : World}

theorem Serves.answerQuery (serves : world.Serves) (query : Query) :
    world.answerQuery query = (.ok (query.run world.tables).1, { world with
      tables := (query.run world.tables).2, queries := world.queries ++ [query] }) := by
  obtain ⟨connected, faultless⟩ := serves
  cases world
  subst connected faultless
  rfl

end World

namespace Operation

variable {α β : Type} {world : World}

theorem perform_bind_of_ok {operation : Operation α} {f : α → Operation β} {a : α} {after : World}
    (done : operation.perform world = (.ok a, after)) :
    (operation >>= f).perform world = (f a).perform after := by
  have sequence : (operation >>= f).perform world =
      Program.run (ExceptT.bindCont f (operation.perform world).1) (operation.perform world).2 :=
    Program.run_bind operation.run (ExceptT.bindCont f) world
  rw [sequence, done]
  rfl

theorem perform_now (world : World) : now.perform world = (.ok world.clock, world) := rfl

theorem perform_query (serves : world.Serves) (q : Query) :
    (query q).perform world = (.ok (q.run world.tables).1, { world with
      tables := (q.run world.tables).2, queries := world.queries ++ [q] }) :=
  serves.answerQuery q

theorem perform_parse [DocumentType α] {row : Row} {document : α}
    (reads : DocumentType.read (.record row) = .valid document) :
    (parse row : Operation α).perform world = (.ok document, world) := by
  rw [parse, reads]
  rfl

end Operation

/-- The account and the sender of a lead. -/
def Row.leadKey (row : Row) : Json × Json := (row.get "account_id", row.get "instagram_user_id")

/-- A report and the time at which it is made. -/
structure LeadCall where
  time : Timestamp
  report : LeadReport
  deriving DecidableEq

namespace LeadCall

/-- The account and the sender of a report. -/
def key (call : LeadCall) : Json × Json :=
  (.text call.report.accountId, .text call.report.instagramUserId)

/-- The columns of the lead that the report creates. -/
def creation (call : LeadCall) : Row := call.report.creation call.time.columnText

/-- The columns that the report changes in a lead. -/
def changes (call : LeadCall) : Row :=
  ("updated_at", .text call.time.columnText) :: call.report.news

def filters (call : LeadCall) : List Filter :=
  [.equals "account_id" (.text call.report.accountId),
   .equals "instagram_user_id" (.text call.report.instagramUserId)]

def leadQuery (call : LeadCall) : Query := .select .leads call.filters none (some 1)

theorem selects_filters {call : LeadCall} {row : Row} :
    selects call.filters row = true ↔ row.leadKey = call.key := by
  simp [filters, selects, Filter.holds, Json.same_text, Row.leadKey, key]

end LeadCall

namespace LeadReport

/-- The values that a report offers to a lead that is there. -/
def offered (report : LeadReport) : Row :=
  [("email", .ofText? report.email), ("phone", .ofText? report.phone),
   ("name", .ofText? report.name), ("tags", .ofOption .ofTexts report.tags),
   ("username", .ofText? report.username), ("flow_id", .ofText? report.flowId)]

theorem nodup_offered (report : LeadReport) : (report.offered.map Prod.fst).Nodup := by
  simp [offered]

theorem news_eq (report : LeadReport) :
    report.news = report.offered.filter fun entry => entry.2.isTruthy := rfl

theorem names_news {report : LeadReport} {name : String}
    (present : name ∈ report.news.map Prod.fst) : name ∈ report.offered.map Prod.fst := by
  rw [news_eq] at present
  exact (List.filter_sublist.map Prod.fst).mem present

/-- Of the columns those that have a value are written. -/
theorem get?_given (report : LeadReport) (name : String) :
    Entries.get? (report.columns.filter fun entry => entry.2 != .null) name =
      (Entries.get? report.columns name).filter (· != .null) :=
  Entries.get?_filter (by simp [columns]) (· != Json.null) name

end LeadReport

namespace LeadCall

variable {call : LeadCall} {row : Row} {name : String} {value : Json}

theorem nodup_changes (call : LeadCall) : (call.changes.map Prod.fst).Nodup := by
  rw [changes, List.map_cons, List.nodup_cons]
  constructor
  · intro present
    simpa [LeadReport.offered] using LeadReport.names_news present
  · rw [LeadReport.news_eq]
    exact (List.filter_sublist.map Prod.fst).nodup call.report.nodup_offered

/-- A value that is not empty replaces the stored one. -/
theorem get_update_of_offered (offered : (name, value) ∈ call.report.offered) :
    Row.get (Entries.update row call.changes) name =
      if value.isTruthy then value else row.get name := by
  have different : name ≠ "updated_at" := by
    rintro rfl
    have present := List.mem_map_of_mem (f := Prod.fst) offered
    simp [LeadReport.offered] at present
  have given : Entries.get? call.changes name = (some value).filter Json.isTruthy := by
    rw [changes, Entries.get?_cons_of_ne different, LeadReport.news_eq,
      Entries.get?_filter call.report.nodup_offered,
      Entries.get?_of_mem call.report.nodup_offered offered]
  split
  · next truthy =>
    rw [Option.filter_some, if_pos truthy] at given
    rw [Row.get, Entries.get?_update_of_get? call.nodup_changes given]
    rfl
  · next falsy =>
    rw [Option.filter_some, if_neg falsy] at given
    have absent : name ∉ call.changes.map Prod.fst := by
      intro present
      obtain ⟨entry, isChange, rfl⟩ := List.mem_map.mp present
      rw [Entries.get?_of_mem call.nodup_changes isChange] at given
      cases given
    exact Row.get_eq_of_get? (Entries.get?_update_of_absent absent)

/-- All other columns stay, the time of the update apart. -/
theorem get_update_of_fixed (fixed : name ∉ "updated_at" :: call.report.offered.map Prod.fst) :
    Row.get (Entries.update row call.changes) name = row.get name := by
  apply Row.get_eq_of_get?
  apply Entries.get?_update_of_absent
  intro present
  rcases List.mem_cons.mp present with time | news
  · exact fixed (time ▸ List.mem_cons_self)
  · exact fixed (List.mem_cons_of_mem _ (LeadReport.names_news news))

theorem leadKey_update : Row.leadKey (Entries.update row call.changes) = row.leadKey := by
  rw [Row.leadKey, get_update_of_fixed, get_update_of_fixed]
  · rfl
  · simp [LeadReport.offered]
  · simp [LeadReport.offered]

theorem get_id_update : Row.get (Entries.update row call.changes) "id" = row.get "id" :=
  get_update_of_fixed (by simp [LeadReport.offered])

theorem column_of_changes : ∀ entry ∈ call.changes, Lead.Column entry := by
  intro entry present
  rcases List.mem_cons.mp present with rfl | news
  · exact .time "updated_at" call.time (by decide)
  · exact LeadReport.column_of_news entry news

/-- A lead is created with the columns that have a value. -/
theorem get_creation (plain : name ∉ ["tags", "created_at", "updated_at"]) :
    Row.get call.creation name = Row.get call.report.columns name := by
  simp only [List.mem_cons, List.not_mem_nil, or_false, not_or] at plain
  obtain ⟨notTags, notCreated, notUpdated⟩ := plain
  have given : Entries.get? call.creation name =
      (Entries.get? call.report.columns name).filter (· != .null) := by
    rw [← LeadReport.get?_given, creation, LeadReport.creation, Entries.get?_append,
      Entries.get?_cons_of_ne notCreated, Entries.get?_cons_of_ne notUpdated,
      Entries.get?_nil, Option.or_none]
    split
    · rfl
    · rw [Entries.get?_append, Entries.get?_cons_of_ne notTags, Entries.get?_nil, Option.or_none]
  rw [Row.get, Row.get, given]
  cases Entries.get? call.report.columns name with
  | none => rfl
  | some value => by_cases none : value = .null <;> simp [Option.filter, none]

theorem get_tags_creation : Row.get call.creation "tags" = .ofTexts (call.report.tags.getD []) := by
  have given : Entries.get? (call.report.columns.filter fun entry => entry.2 != .null) "tags" =
      call.report.tags.map .ofTexts := by
    have listed : Entries.get? call.report.columns "tags" =
        some (.ofOption .ofTexts call.report.tags) :=
      Entries.get?_of_mem (by simp [LeadReport.columns]) (by simp [LeadReport.columns])
    rw [LeadReport.get?_given, listed]
    cases call.report.tags <;> rfl
  have stored : Entries.get? call.creation "tags" = some (.ofTexts (call.report.tags.getD [])) := by
    rw [creation, LeadReport.creation, Entries.get?_append]
    cases isTags : call.report.tags with
    | some tags =>
      rw [isTags] at given
      rw [if_pos (by rw [given]; rfl), given]
      rfl
    | none =>
      rw [isTags] at given
      rw [if_neg (by rw [given]; simp), Entries.get?_append, given]
      rfl
  rw [Row.get, stored]
  rfl

theorem get_created_at_creation :
    Row.get call.creation "created_at" = .text call.time.columnText := by
  have absent : Entries.get? (call.report.columns.filter fun entry => entry.2 != .null)
      "created_at" = none := by
    rw [LeadReport.get?_given, Entries.get?_eq_none (by simp [LeadReport.columns])]
    rfl
  have stored : Entries.get? call.creation "created_at" = some (.text call.time.columnText) := by
    rw [creation, LeadReport.creation, Entries.get?_append]
    split
    · rw [absent]
      rfl
    · rw [Entries.get?_append, absent]
      rfl
  rw [Row.get, stored]
  rfl

theorem id?_creation : Row.id? call.creation = none := by
  rw [Row.id?, get_creation (by decide), Row.get,
    Entries.get?_eq_none (by simp [LeadReport.columns])]
  rfl

end LeadCall

/-- The id of the lead that is created as the one of that number. -/
def leadId (number : Nat) : String := "leads-" ++ toString number

theorem leadId_inj {m n : Nat} (same : leadId m = leadId n) : m = n := by
  have digits : Nat.repr m = Nat.repr n := (String.append_right_inj _).mp same
  have read := congrArg (fun text : String => Nat.ofDigitChars 10 text.toList 0) digits
  simpa using read

/-- The rows of leads, of which no two are about one sender. -/
structure TableRows.AreLeads (content : TableRows) : Prop where
  keys : (content.rows.map Row.leadKey).Nodup
  unique : (content.rows.map fun row => row.get "id").Nodup
  numbered : ∀ row ∈ content.rows, ∃ n ≤ content.issued, row.get "id" = .text (leadId n)
  reads : ∀ row ∈ content.rows, ∃ lead, Lead.read (.record row) = .valid lead

theorem Lead.id_of_read {row : Row} {lead : Lead} {id : String}
    (reads : Lead.read (.record row) = .valid lead) (isId : row.get "id" = .text id) :
    lead.id = some id := by
  have read : Document.maybe Field.id Document.asText row = .valid lead.id := by
    simp only [Lead.read, Document.object, Validated.map_eq_valid, Validated.fmap_eq_valid,
      Validated.seq_eq_valid, ↓existsAndEq, and_true] at reads
    grind
  have found : Entries.get? row "id" = some (.text id) := by
    cases present : Entries.get? row "id" with
    | none =>
      rw [Row.get, present] at isId
      cases isId
    | some value =>
      rw [Row.get, present] at isId
      exact congrArg some isId
  have named : Field.id.find? row = some ("id", .text id) := by
    refine (Document.find?_plain "id" row).trans ?_
    rw [found]
    rfl
  rw [Document.maybe, Document.withDefault, named] at read
  exact (Validated.valid.inj read).symm

namespace LeadCall

variable {call : LeadCall} {world : World}

/-- The row after the report, which may be about another sender. -/
def revise (call : LeadCall) (row : Row) : Row :=
  if row.leadKey = call.key then Entries.update row call.changes else row

theorem perform_getLead_none (serves : world.Serves)
    (unknown : ∀ row ∈ world.tables.rows .leads, row.leadKey ≠ call.key) :
    (getLead call.report.accountId call.report.instagramUserId).perform world =
      (.ok none, { world with queries := world.queries ++ [call.leadQuery] }) := by
  have none : (world.tables.rows .leads).find? (selects call.filters) = none :=
    List.find?_eq_none.mpr fun row present meant => unknown row present (selects_filters.mp meant)
  rw [← Query.head_select, List.head?_eq_none_iff] at none
  have asks := Operation.perform_query serves call.leadQuery
  rw [leadQuery, none] at asks
  exact Operation.perform_bind_of_ok asks

theorem perform_getLead_some (serves : world.Serves) (leads : (world.tables.get .leads).AreLeads)
    {row : Row} (present : row ∈ world.tables.rows .leads) (isKey : row.leadKey = call.key)
    {lead : Lead} (reads : Lead.read (.record row) = .valid lead) :
    (getLead call.report.accountId call.report.instagramUserId).perform world =
      (.ok (some lead), { world with queries := world.queries ++ [call.leadQuery] }) := by
  have found : (world.tables.rows .leads).find? (selects call.filters) = some row := by
    cases found : (world.tables.rows .leads).find? (selects call.filters) with
    | none => exact absurd (selects_filters.mpr isKey) (List.find?_eq_none.mp found row present)
    | some other =>
      have otherKey := selects_filters.mp (List.find?_some found)
      exact congrArg some (List.inj_on_of_nodup_map leads.keys (List.mem_of_find?_eq_some found)
        present (otherKey.trans isKey.symm))
  rw [← Query.head_select, List.head?_eq_some_iff] at found
  obtain ⟨rest, rows⟩ := found
  have asks := Operation.perform_query serves call.leadQuery
  rw [leadQuery, rows] at asks
  rw [getLead]
  refine (Operation.perform_bind_of_ok asks).trans ?_
  exact Operation.perform_bind_of_ok (Operation.perform_parse (α := Lead) reads)

/-- A lead is found by its account and sender and updated by its id, which is the same row. -/
theorem run_update {tables : Tables} (leads : (tables.get .leads).AreLeads) {row : Row}
    {id : String} (present : row ∈ tables.rows .leads) (isKey : row.leadKey = call.key)
    (isId : row.get "id" = .text id) :
    ∃ rest, (Query.update .leads [Store.byId id] call.changes).run tables =
      (Entries.update row call.changes :: rest, tables.put .leads
        { tables.get .leads with rows := (tables.rows .leads).map call.revise }) := by
  have meant : ∀ other ∈ tables.rows .leads,
      (selects [Store.byId id] other = true ↔ other.leadKey = call.key) := by
    intro other isOther
    rw [Store.selects_byId]
    constructor
    · intro sameId
      rw [List.inj_on_of_nodup_map leads.unique isOther present (sameId.trans isId.symm), isKey]
    · intro sameKey
      rw [List.inj_on_of_nodup_map leads.keys isOther present (sameKey.trans isKey.symm), isId]
  have stored : (tables.rows .leads).map (·.revise [Store.byId id] call.changes) =
      (tables.rows .leads).map call.revise := by
    apply List.map_congr_left
    intro other isOther
    rw [Row.revise, LeadCall.revise]
    simp only [meant other isOther]
  have updated : ∃ rest, ((tables.rows .leads).filter (selects [Store.byId id])).map
      (Entries.update · call.changes) = Entries.update row call.changes :: rest := by
    have selected : row ∈ (tables.rows .leads).filter (selects [Store.byId id]) :=
      List.mem_filter.mpr ⟨present, (meant row present).mpr isKey⟩
    cases found : (tables.rows .leads).filter (selects [Store.byId id]) with
    | nil =>
      rw [found] at selected
      cases selected
    | cons first rest =>
      obtain ⟨isFirst, selects⟩ := List.mem_filter.mp (found ▸ List.mem_cons_self)
      have same : first = row := List.inj_on_of_nodup_map leads.keys isFirst present
        (((meant first isFirst).mp selects).trans isKey.symm)
      exact ⟨rest.map _, by rw [same, List.map_cons]⟩
  obtain ⟨rest, updated⟩ := updated
  refine ⟨rest, ?_⟩
  rw [← updated, ← stored]
  rfl

end LeadCall

namespace LeadCall

variable {call : LeadCall} {number : Nat} {name : String}

/-- The row of the lead that the report creates as the one of that number. -/
def created (call : LeadCall) (number : Nat) : Row :=
  Entries.set call.creation "id" (.text (leadId number))

theorem insert_creation (call : LeadCall) (content : TableRows) :
    content.insert .leads call.creation = (call.created (content.issued + 1),
      ⟨content.rows ++ [call.created (content.issued + 1)], content.issued + 1⟩) := by
  rw [TableRows.insert, id?_creation]
  rfl

theorem exists_read_created (call : LeadCall) (content : TableRows) :
    ∃ lead, Lead.read (.record (call.created (content.issued + 1))) = .valid lead := by
  obtain ⟨lead, reads⟩ := LeadReport.exists_read_creation call.report call.time
  have inserted := Lead.exists_read_insert reads content .leads
  rwa [← creation, insert_creation] at inserted

theorem get_id_created : (call.created number).get "id" = .text (leadId number) := by
  rw [created, Row.get, Entries.get?_set_self]
  rfl

theorem get_created (different : name ≠ "id") :
    (call.created number).get name = Row.get call.creation name :=
  Row.get_eq_of_get? (Entries.get?_set_of_ne call.creation different _)

theorem leadKey_created : (call.created number).leadKey = call.key := by
  rw [Row.leadKey, get_created (by decide), get_created (by decide), get_creation (by decide),
    get_creation (by decide)]
  rfl

theorem leadKey_revise {row : Row} : (call.revise row).leadKey = row.leadKey := by
  unfold revise
  split
  · exact leadKey_update
  · rfl

theorem get_id_revise {row : Row} : (call.revise row).get "id" = row.get "id" := by
  unfold revise
  split
  · exact get_id_update
  · rfl

end LeadCall

namespace TableRows

/-- What a report makes of the rows of the leads. -/
inductive Takes (before after : TableRows) (call : LeadCall) : Prop
  | new (unknown : ∀ row ∈ before.rows, row.leadKey ≠ call.key)
    (adds : after =
      ⟨before.rows ++ [call.created (before.issued + 1)], before.issued + 1⟩)
  | known (row : Row) (present : row ∈ before.rows) (isKey : row.leadKey = call.key)
    (changes : after = { before with rows := before.rows.map call.revise })

variable {before after : TableRows} {call : LeadCall}

theorem AreLeads.takes (leads : before.AreLeads) (takes : before.Takes after call) :
    after.AreLeads := by
  cases takes with
  | new unknown adds =>
    subst adds
    refine ⟨?_, ?_, ?_, ?_⟩
    · rw [List.map_append, List.nodup_append]
      refine ⟨leads.keys, List.nodup_singleton _, ?_⟩
      intro key isKey other isOther
      obtain ⟨row, present, rfl⟩ := List.mem_map.mp isKey
      rw [List.mem_singleton.mp isOther, LeadCall.leadKey_created]
      exact unknown row present
    · apply nodup_ids_append leads.unique
      intro other present same
      obtain ⟨n, known, isId⟩ := leads.numbered other present
      rw [isId, LeadCall.get_id_created] at same
      have number := leadId_inj (Json.text.inj same)
      omega
    · intro row present
      rcases List.mem_append.mp present with old | new
      · obtain ⟨n, known, isId⟩ := leads.numbered row old
        exact ⟨n, Nat.le_succ_of_le known, isId⟩
      · rw [List.mem_singleton.mp new]
        exact ⟨before.issued + 1, Nat.le_refl _, LeadCall.get_id_created⟩
    · intro row present
      rcases List.mem_append.mp present with old | new
      · exact leads.reads row old
      · rw [List.mem_singleton.mp new]
        exact call.exists_read_created before
  | known row present isKey changes =>
    subst changes
    have same {α : Type} {f : Row → α} (kept : ∀ row, f (call.revise row) = f row) :
        (before.rows.map call.revise).map f = before.rows.map f := by
      rw [List.map_map]
      exact List.map_congr_left fun row _ => kept row
    refine ⟨?_, ?_, ?_, ?_⟩
    · rw [same fun _ => LeadCall.leadKey_revise]
      exact leads.keys
    · rw [same fun _ => LeadCall.get_id_revise]
      exact leads.unique
    · intro row present
      obtain ⟨earlier, old, rfl⟩ := List.mem_map.mp present
      rw [LeadCall.get_id_revise]
      exact leads.numbered earlier old
    · intro row present
      obtain ⟨earlier, old, rfl⟩ := List.mem_map.mp present
      obtain ⟨lead, reads⟩ := leads.reads earlier old
      unfold LeadCall.revise
      split
      · exact Lead.exists_read_update reads call.column_of_changes
      · exact ⟨lead, reads⟩

end TableRows

namespace World

/-- A report at its time. -/
def report (world : World) (call : LeadCall) : Except Failure Lead × World :=
  (upsertLead call.report).perform { world with clock := call.time }

variable {world : World} {call : LeadCall}

/-- The first report of a sender adds a row, and returns what is read from it. -/
theorem report_new (serves : world.Serves)
    (unknown : ∀ row ∈ world.tables.rows .leads, row.leadKey ≠ call.key) :
    let number := (world.tables.get .leads).issued + 1
    (∃ lead, Lead.read (.record (call.created number)) = .valid lead ∧
        (world.report call).1 = .ok lead) ∧
      (world.report call).2.tables.get .leads =
        ⟨world.tables.rows .leads ++ [call.created number], number⟩ ∧
      (world.report call).2.Serves := by
  intro number
  obtain ⟨lead, reads⟩ := call.exists_read_created (world.tables.get .leads)
  let added : TableRows := ⟨world.tables.rows .leads ++ [call.created number], number⟩
  let insert : Query := .insert .leads call.creation
  have ran : insert.run world.tables = ([call.created number], world.tables.put .leads added) := by
    simp only [insert, Query.run, LeadCall.insert_creation]
    rfl
  let now : World := { world with clock := call.time }
  let asked : World := { now with queries := now.queries ++ [call.leadQuery] }
  have servesNow : now.Serves := ⟨serves.connected, serves.faultless⟩
  have servesAsked : asked.Serves := ⟨serves.connected, serves.faultless⟩
  have looks := LeadCall.perform_getLead_none servesNow unknown
  have inserts := Operation.perform_query servesAsked insert
  rw [show insert.run asked.tables = _ from ran] at inserts
  have runs : world.report call = (.ok lead, { asked with
      tables := world.tables.put .leads added, queries := asked.queries ++ [insert] }) :=
    calc world.report call
      _ = _ := Operation.perform_bind_of_ok (Operation.perform_now now)
      _ = _ := Operation.perform_bind_of_ok looks
      _ = _ := Operation.perform_bind_of_ok inserts
      _ = _ := Operation.perform_parse (α := Lead) reads
  rw [runs]
  exact ⟨⟨lead, reads, rfl⟩, world.tables.get_put .leads added, serves.connected, serves.faultless⟩

/-- A later report changes the row of its sender, and returns what is read from it. -/
theorem report_known (serves : world.Serves) (leads : (world.tables.get .leads).AreLeads)
    {row : Row} (present : row ∈ world.tables.rows .leads) (isKey : row.leadKey = call.key) :
    (∃ lead, Lead.read (.record (call.revise row)) = .valid lead ∧
        (world.report call).1 = .ok lead) ∧
      (world.report call).2.tables.get .leads =
        { world.tables.get .leads with rows := (world.tables.rows .leads).map call.revise } ∧
      (world.report call).2.Serves := by
  obtain ⟨earlier, readsEarlier⟩ := leads.reads row present
  obtain ⟨lead, reads⟩ := Lead.exists_read_update readsEarlier call.column_of_changes
  obtain ⟨n, -, isId⟩ := leads.numbered row present
  obtain ⟨rest, ran⟩ := LeadCall.run_update leads present isKey isId
  let revised : TableRows :=
    { world.tables.get .leads with rows := (world.tables.rows .leads).map call.revise }
  let now : World := { world with clock := call.time }
  let asked : World := { now with queries := now.queries ++ [call.leadQuery] }
  have servesNow : now.Serves := ⟨serves.connected, serves.faultless⟩
  have servesAsked : asked.Serves := ⟨serves.connected, serves.faultless⟩
  let update : Query := .update .leads [Store.byId (leadId n)] call.changes
  have looks := LeadCall.perform_getLead_some servesNow leads present isKey readsEarlier
  have updates : (Operation.query (.update .leads [.equals "id" (.ofText? earlier.id)]
      call.changes)).perform asked = (.ok (Entries.update row call.changes :: rest), { asked with
        tables := world.tables.put .leads revised, queries := asked.queries ++ [update] }) := by
    rw [Lead.id_of_read readsEarlier isId]
    have asks := Operation.perform_query servesAsked update
    rw [show update.run asked.tables = _ from ran] at asks
    exact asks
  have runs : world.report call = (.ok lead, { asked with
      tables := world.tables.put .leads revised, queries := asked.queries ++ [update] }) :=
    calc world.report call
      _ = _ := Operation.perform_bind_of_ok (Operation.perform_now now)
      _ = _ := Operation.perform_bind_of_ok looks
      _ = _ := Operation.perform_bind_of_ok updates
      _ = _ := Operation.perform_parse (α := Lead) reads
  rw [runs, LeadCall.revise, if_pos isKey]
  exact ⟨⟨lead, reads, rfl⟩, world.tables.get_put .leads revised, serves.connected,
    serves.faultless⟩

/-- What a report does to the leads, and that it returns the lead of its sender. -/
theorem report_takes (serves : world.Serves) (leads : (world.tables.get .leads).AreLeads)
    (call : LeadCall) :
    (world.tables.get .leads).Takes ((world.report call).2.tables.get .leads) call ∧
      (world.report call).2.Serves ∧
      ∃ row ∈ (world.report call).2.tables.rows .leads, row.leadKey = call.key ∧
        ∃ lead, Lead.read (.record row) = .valid lead ∧ (world.report call).1 = .ok lead := by
  by_cases known : ∃ row ∈ world.tables.rows .leads, row.leadKey = call.key
  · obtain ⟨row, present, isKey⟩ := known
    obtain ⟨returns, stored, after⟩ := report_known serves leads present isKey
    refine ⟨.known row present isKey stored, after, call.revise row, ?_,
      LeadCall.leadKey_revise.trans isKey, returns⟩
    rw [Tables.rows, stored]
    exact List.mem_map_of_mem present
  · have unknown : ∀ row ∈ world.tables.rows .leads, row.leadKey ≠ call.key :=
      fun row present isKey => known ⟨row, present, isKey⟩
    obtain ⟨returns, stored, after⟩ := report_new serves unknown
    refine ⟨.new unknown stored, after, _, ?_, LeadCall.leadKey_created, returns⟩
    rw [Tables.rows, stored]
    exact List.mem_append_right _ (List.mem_singleton_self _)

end World

end MessageFlow
