import MessageFlow.Proofs.Errand.Frame

/-!
Starts of some flows beside those of others. What such a start asks of the flows, the executions and
the tickets is about rows of those flows: in two states of the tables that have these rows in common
it is answered in the same way, and the rows of the other flows stay as they are.
-/

namespace MessageFlow
open Store

/-- The column that tells of which flow a row is. -/
def Table.flowColumn : Table → String
  | .flows => "id"
  | _ => "flow_id"

/-- The tables with rows of flows. -/
def Table.ofFlows : List Table := [.flows, .executions, .tickets]

/-- Flows that are started, told by their ids, the ids that are drawn for that, and those that are
drawn for other flows. -/
structure Launch where
  isMine : Json → Bool
  ids : Set String
  foreign : Set String
  apart : ∀ id ∈ ids, id ∉ foreign

namespace Launch

variable {launch : Launch} {tables tables' : Tables} {table : Table} {q : Query} {e : Execution}

/-- The starts of the other flows. -/
def others (launch : Launch) : Launch where
  isMine id := !launch.isMine id
  ids := launch.foreign
  foreign := launch.ids
  apart id theirs ours := launch.apart id ours theirs

theorem others_others (launch : Launch) : launch.others.others = launch := by
  obtain ⟨isMine, ids, foreign, apart⟩ := launch
  simp only [others, Bool.not_not]

def claims (launch : Launch) (table : Table) (row : Row) : Bool :=
  launch.isMine (row.get table.flowColumn)

theorem claims_others (launch : Launch) (table : Table) (row : Row) :
    launch.others.claims table row = !launch.claims table row := rfl

/-- The rows of those flows. -/
def mine (launch : Launch) (tables : Tables) (table : Table) : List Row :=
  (tables.rows table).filter (launch.claims table)

/-- Executions with an id that was drawn are of those flows, or of the others. -/
def Fits (launch : Launch) (tables : Tables) : Prop :=
  ∀ row ∈ tables.executionRows, ∀ id, row.get "id" = .text id →
    (id ∈ launch.ids → launch.claims .executions row = true) ∧
      (id ∈ launch.foreign → launch.claims .executions row = false)

theorem Fits.others (fits : launch.Fits tables) : launch.others.Fits tables := by
  intro row present id isId
  obtain ⟨own, foreign⟩ := fits row present id isId
  rw [claims_others, Bool.not_eq_true', Bool.not_eq_false']
  exact ⟨foreign, own⟩

theorem Fits.of_others (fits : launch.others.Fits tables) : launch.Fits tables :=
  launch.others_others ▸ fits.others

/-- What a start of those flows may ask. -/
inductive Allows (launch : Launch) : Request → Prop
  | other (request : Request) (noQuery : ∀ q, request ≠ .query q) : Allows launch request
  | create (e : Execution) (isNew : e.IsNew) (drawn : e.id ∈ launch.ids)
    (own : launch.isMine (.text e.flowId) = true) :
    Allows launch (.query (.insert .executions e.row))
  | write (e : Execution) (drawn : e.id ∈ launch.ids)
    (own : launch.isMine (.text e.flowId) = true) (extras : e.extras = []) :
    Allows launch (.query (saveQuery e))
  | file (ticket : Ticket) (isNew : ticket.IsNew) (drawn : ticket.id ∈ launch.ids)
    (own : launch.isMine (.text ticket.flowId) = true) :
    Allows launch (.query (.insert .tickets ticket.row))
  | look (id : String) (own : launch.isMine (.text id) = true) :
    Allows launch (.query (flowQuery id))
  | count (id : String) (own : launch.isMine (.text id) = true) (count : Int) (time : Timestamp) :
    Allows launch (.query (.update .flows [byId id] (Flow.countColumns count time)))

/-- A traversal for a start asks what a start may ask. -/
theorem allows_of_errand {errand : Errand} {request : Request} (allowed : errand.Allows request)
    (own : launch.isMine (.text errand.flow) = true) (known : errand.executions ⊆ launch.ids)
    (drawn : errand.ids ⊆ launch.ids) (extras : errand.extras = []) : launch.Allows request := by
  cases allowed with
  | other _ noQuery => exact .other _ noQuery
  | write e carried =>
    exact .write e (known carried.known) (carried.flowId ▸ own) (carried.extras.trans extras)
  | file ticket isNew among flowId => exact .file ticket isNew (drawn among) (flowId ▸ own)

/-- A query of rows of those flows only. -/
inductive Concerns (launch : Launch) (tables : Tables) : Query → Prop
  | look {table : Table} {filters : List Filter} {limit : Option Int}
    (own : ∀ row ∈ tables.rows table, selects filters row = true → launch.claims table row = true) :
    Concerns launch tables (.select table filters none limit)
  | update {table : Table} {filters : List Filter} {changes : Row}
    (own : ∀ row ∈ tables.rows table, selects filters row = true → launch.claims table row = true)
    (stays : ∀ row, selects filters row = true →
      Row.get (Entries.update row changes) "id" = row.get "id" ∧
        launch.claims table (Entries.update row changes) = true) :
    Concerns launch tables (.update table filters changes)
  | insert {table : Table} {row : Row} {id : String} (named : row.get "id" = .text id)
    (drawn : id ∈ launch.ids) (own : launch.claims table row = true) :
    Concerns launch tables (.insert table row)

/-- What a start asks of the store is about rows of its flows. -/
theorem Allows.concerns (allowed : launch.Allows (.query q)) (fits : launch.Fits tables) :
    launch.Concerns tables q ∧ q.table ∈ Table.ofFlows := by
  have ofFlows : Table.flows ∈ Table.ofFlows ∧ .executions ∈ Table.ofFlows ∧
      .tickets ∈ Table.ofFlows := by decide
  have meant {id : String} (own : launch.isMine (.text id) = true) (row : Row)
      (isMeant : selects [byId id] row = true) : launch.claims .flows row = true :=
    (congrArg launch.isMine (selects_byId.mp isMeant)).trans own
  cases allowed with
  | other _ noQuery => exact absurd rfl (noQuery q)
  | create e isNew drawn own =>
    refine ⟨.insert (Execution.regular_of_isNew isNew).get_id drawn ?_, ofFlows.2.1⟩
    have isFlow : Row.get e.row "flow_id" = .text e.flowId := by
      rw [Row.get, Execution.get?_flowId (by simp [isNew.extras])]
      rfl
    exact (congrArg launch.isMine isFlow).trans own
  | write e drawn own extras =>
    have plain : e.Plain := ⟨by simp [extras], by simp [extras], by simp [extras]⟩
    have isFlow (row : Row) : (e.writeOver row).get "flow_id" = .text e.flowId := by
      rw [Row.get, Execution.get?_writeOver (Execution.get?_flowId (by simp [extras])) (by decide)]
      rfl
    refine ⟨.update (fun row present isMeant => ?_) fun row isMeant => ⟨?_, ?_⟩, ofFlows.2.1⟩
    · exact (fits row present e.id (Execution.isWrittenOver_iff.mp isMeant).1).1 drawn
    · exact Execution.get_id_writeOver plain (Execution.isWrittenOver_iff.mp isMeant).1
    · exact (congrArg launch.isMine (isFlow row)).trans own
  | file ticket isNew drawn own =>
    refine ⟨.insert isNew.get_id drawn ?_, ofFlows.2.2⟩
    exact (congrArg launch.isMine isNew.get_flowId).trans own
  | look id own => exact ⟨.look fun row _ => meant own row, ofFlows.1⟩
  | count id own count time =>
    have sameId (row : Row) :
        Row.get (Entries.update row (Flow.countColumns count time)) "id" = row.get "id" :=
      Row.get_eq_of_get? (Entries.get?_update_of_absent (by simp [Flow.countColumns]))
    refine ⟨.update (fun row _ => meant own row) fun row isMeant => ⟨sameId row, ?_⟩, ofFlows.1⟩
    exact (congrArg launch.isMine (sameId row)).trans (meant own row isMeant)

namespace Concerns

variable {filters : List Filter} {changes row : Row}

/-- The rows that an update is meant for stay rows of those flows. -/
theorem claims_revise
    (own : ∀ row ∈ tables.rows table, selects filters row = true → launch.claims table row = true)
    (stays : ∀ row, selects filters row = true →
      Row.get (Entries.update row changes) "id" = row.get "id" ∧
        launch.claims table (Entries.update row changes) = true)
    (present : row ∈ tables.rows table) :
    launch.claims table (row.revise filters changes) = launch.claims table row := by
  unfold Row.revise
  split
  · next meant => exact (stays row meant).2.trans (own row present meant).symm
  · rfl

theorem rows_revised (tables : Tables) (table : Table) {claims : Row → Bool}
    (same : ∀ row ∈ tables.rows table, claims (row.revise filters changes) = claims row) :
    (((Query.update table filters changes).run tables).2.rows table).filter claims =
      ((tables.rows table).filter claims).map (·.revise filters changes) := by
  have revised : ((Query.update table filters changes).run tables).2.rows table =
      (tables.rows table).map (·.revise filters changes) := tables.rows_put table _
  rw [revised, List.filter_map]
  exact congrArg _ (List.filter_congr same)

/-- The rows of the other flows stay as they are. -/
theorem mine_others (concerns : launch.Concerns tables q) (table : Table) :
    launch.others.mine (q.run tables).2 table = launch.others.mine tables table := by
  by_cases here : q.table = table
  · cases concerns with
    | look own => rfl
    | @update asked filters changes own stays =>
      obtain rfl : asked = table := here
      refine (rows_revised tables asked fun row present =>
        congrArg (!·) (claims_revise own stays present)).trans ?_
      refine (List.map_congr_left fun row present => Row.revise_of_not fun meant => ?_).trans
        (List.map_id _)
      obtain ⟨among, foreign⟩ := List.mem_filter.mp present
      rw [claims_others, own row among meant] at foreign
      cases foreign
    | @insert asked row id named drawn own =>
      obtain rfl : asked = table := here
      unfold mine
      rw [(Query.run_insert named).2, List.filter_append, List.filter_cons, claims_others, own]
      exact List.append_nil _
  · rw [mine, mine, Query.rows_run_of_ne here]

/-- Ids that were drawn stay those of executions of their flows. -/
theorem fits (concerns : launch.Concerns tables q) (fits : launch.Fits tables) :
    launch.Fits (q.run tables).2 := by
  by_cases here : q.table = .executions
  · cases concerns with
    | look own => exact fits
    | @update asked filters changes own stays =>
      obtain rfl : asked = .executions := here
      have revised : ((Query.update .executions filters changes).run tables).2.executionRows =
          tables.executionRows.map (·.revise filters changes) := tables.rows_put .executions _
      intro row present id isId
      rw [revised] at present
      obtain ⟨earlier, among, rfl⟩ := List.mem_map.mp present
      have sameId : (earlier.revise filters changes).get "id" = earlier.get "id" := by
        unfold Row.revise
        split
        · next meant => exact (stays earlier meant).1
        · rfl
      rw [claims_revise own stays among]
      exact fits earlier among id (sameId ▸ isId)
    | @insert asked row id named drawn own =>
      obtain rfl : asked = .executions := here
      intro other present id' isId
      rw [Tables.executionRows, (Query.run_insert named).2] at present
      rcases List.mem_append.mp present with old | new
      · exact fits other old id' isId
      · obtain rfl := List.mem_singleton.mp new
        obtain rfl : id = id' := Json.text.inj (named.symm.trans isId)
        exact ⟨fun _ => own, fun elsewhere => absurd elsewhere (launch.apart id drawn)⟩
  · intro row present
    rw [Tables.executionRows, Query.rows_run_of_ne here] at present
    exact fits row present

/-- Where the rows of those flows are the same, it is answered in the same way, and they are the
same afterwards. -/
theorem alike (concerns : launch.Concerns tables q) (concerns' : launch.Concerns tables' q)
    (same : ∀ table ∈ Table.ofFlows, launch.mine tables table = launch.mine tables' table)
    (inside : q.table ∈ Table.ofFlows) : (q.run tables).1 = (q.run tables').1 ∧
      ∀ table ∈ Table.ofFlows,
        launch.mine (q.run tables).2 table = launch.mine (q.run tables').2 table := by
  have selected {tables : Tables} {table : Table} {filters : List Filter}
      (own : ∀ row ∈ tables.rows table, selects filters row = true →
        launch.claims table row = true) :
      (tables.rows table).filter (selects filters) =
        (launch.mine tables table).filter (selects filters) := by
    rw [mine, List.filter_filter]
    refine List.filter_congr fun row present => ?_
    cases meant : selects filters row with
    | false => rfl
    | true => rw [own row present meant]; rfl
  have elsewhere
      (here : launch.mine (q.run tables).2 q.table = launch.mine (q.run tables').2 q.table)
      (table : Table) (isOne : table ∈ Table.ofFlows) :
      launch.mine (q.run tables).2 table = launch.mine (q.run tables').2 table := by
    by_cases isThis : q.table = table
    · exact isThis ▸ here
    · rw [mine, mine, Query.rows_run_of_ne isThis, Query.rows_run_of_ne isThis]
      exact same table isOne
  cases concerns with
  | @look asked filters limit own =>
    cases concerns' with
    | look own' =>
      refine ⟨?_, same⟩
      simp only [Query.run, selected own, selected own', same asked inside]
  | @update asked filters changes own stays =>
    cases concerns' with
    | update own' stays' =>
      refine ⟨?_, elsewhere ?_⟩
      · have answer {tables : Tables} : ((Query.update asked filters changes).run tables).1 =
            ((tables.rows asked).filter (selects filters)).map (Entries.update · changes) := rfl
        rw [answer, answer, selected own, selected own', same asked inside]
      · refine (rows_revised tables asked fun row => claims_revise own stays).trans ?_
        refine Eq.trans ?_ (rows_revised tables' asked fun row => claims_revise own' stays').symm
        exact congrArg _ (same asked inside)
  | @insert asked row id named drawn own =>
    refine ⟨(Query.run_insert named).1.trans (Query.run_insert named).1.symm, elsewhere ?_⟩
    unfold mine
    rw [Query.table, (Query.run_insert named).2, (Query.run_insert named).2, List.filter_append,
      List.filter_append]
    exact congrArg (· ++ _) (same asked inside)

end Concerns

/-- Two states of the tables with the same rows of those flows. -/
structure Alike (launch : Launch) (tables tables' : Tables) : Prop where
  rows : ∀ table ∈ Table.ofFlows, launch.mine tables table = launch.mine tables' table
  fits : launch.Fits tables
  fits' : launch.Fits tables'
  leads : tables.ReadsLeads
  leads' : tables'.ReadsLeads

end Launch

/-- A query beside the starts finds leads that can be read, and keeps them so. -/
theorem Query.IsBeside.leads {q : Query} {tables : Tables} (beside : q.IsBeside)
    (reads : tables.ReadsLeads) : q.Tells (q.run tables).1 ∧ (q.run tables).2.ReadsLeads := by
  cases beside with
  | look filters limit => exact ⟨fun _ row found => reads row (mem_of_mem_select found), reads⟩
  | revise filters changes columns =>
    refine ⟨fun _ updated found => ?_, reads.update filters columns⟩
    obtain ⟨row, selected, rfl⟩ := List.mem_map.mp found
    obtain ⟨lead, isLead⟩ := reads row (List.mem_filter.mp selected).1
    exact Lead.exists_read_update isLead columns
  | report row lead isLead =>
    have stored := Lead.exists_read_insert isLead (tables.get .leads) .leads
    exact ⟨fun _ other found => List.mem_singleton.mp found ▸ stored, reads.insert isLead⟩
  | note row => exact ⟨nofun, reads⟩

namespace Launch

variable {launch : Launch} {tables tables' after : Tables} {q q' : Query}

/-- What keeps the rows of those flows and the executions with ids in one of both. -/
theorem Alike.of_left (alike : launch.Alike tables tables')
    (rows : ∀ table ∈ Table.ofFlows, launch.mine after table = launch.mine tables table)
    (fits : launch.Fits after) (leads : after.ReadsLeads) : launch.Alike after tables' where
  rows table isOne := (rows table isOne).trans (alike.rows table isOne)
  fits := fits
  fits' := alike.fits'
  leads := leads
  leads' := alike.leads'

theorem Alike.symm (alike : launch.Alike tables tables') : launch.Alike tables' tables :=
  ⟨fun table isOne => (alike.rows table isOne).symm, alike.fits', alike.fits, alike.leads',
    alike.leads⟩

theorem readsLeads_run (inside : q.table ∈ Table.ofFlows) (leads : tables.ReadsLeads) :
    (q.run tables).2.ReadsLeads := by
  have elsewhere : q.table ≠ .leads := fun here => absurd (here ▸ inside) (by decide)
  unfold Tables.ReadsLeads
  rw [Query.rows_run_of_ne elsewhere]
  exact leads

/-- A query that the starts of the flows may ask, in both. -/
theorem Alike.allowed (alike : launch.Alike tables tables') (allowed : launch.Allows (.query q)) :
    (q.run tables).1 = (q.run tables').1 ∧
      launch.Alike (q.run tables).2 (q.run tables').2 := by
  obtain ⟨concerns, inside⟩ := allowed.concerns alike.fits
  obtain ⟨concerns', _⟩ := allowed.concerns alike.fits'
  obtain ⟨answers, rows⟩ := concerns.alike concerns' alike.rows inside
  exact ⟨answers, rows, concerns.fits alike.fits, concerns'.fits alike.fits',
    readsLeads_run inside alike.leads, readsLeads_run inside alike.leads'⟩

/-- A query beside the starts, in one of both. -/
theorem Alike.beside (alike : launch.Alike tables tables') (beside : q.IsBeside) :
    launch.Alike (q.run tables).2 tables' := by
  have elsewhere {table : Table} (isOne : table ∈ Table.ofFlows) : q.table ≠ table := by
    rintro rfl
    cases beside with
    | look | revise | report | note => exact absurd isOne (by simp [Table.ofFlows, Query.table])
  refine alike.of_left (fun table isOne => ?_) ?_ (beside.leads alike.leads).2
  · rw [mine, mine, Query.rows_run_of_ne (elsewhere isOne)]
  · unfold Fits
    rw [Tables.executionRows, Query.rows_run_of_ne (elsewhere (by decide))]
    exact alike.fits

/-- A query that the starts of the other flows may ask, in one of both. -/
theorem Alike.aside (alike : launch.Alike tables tables')
    (aside : launch.others.Allows (.query q) ∨ q.IsBeside) :
    launch.Alike (q.run tables).2 tables' := by
  rcases aside with allowed | beside
  · obtain ⟨concerns, inside⟩ := allowed.concerns alike.fits.others
    refine alike.of_left (fun table _ => ?_) (concerns.fits alike.fits.others).of_others
      (readsLeads_run inside alike.leads)
    have same := concerns.mine_others table
    rwa [others_others] at same
  · exact alike.beside beside

end Launch

/-- What a program sends while it runs alone. -/
def Program.sent {α : Type} (setting : Setting) : Program α → Tables → Nat → List Request
  | .done _, _, _ => []
  | .ask _ request next, tables, asked =>
    let served := setting.serve asked tables request
    let later := (next served.1).sent setting served.2 (asked + 1)
    if request.isOutward then request :: later else later

/-- How a program has run alone, and what it has sent. -/
structure Course (α : Type) where
  value : α
  tables : Tables
  /-- How many requests were asked so far. -/
  asked : Nat
  sent : List Request

def Program.course {α : Type} (setting : Setting) (p : Program α) (tables : Tables) (asked : Nat) :
    Course α where
  value := (p.alone setting tables asked).value
  tables := (p.alone setting tables asked).tables
  asked := (p.alone setting tables asked).asked
  sent := p.sent setting tables asked

theorem Program.course_bind {α β : Type} (setting : Setting) (p : Program α) (f : α → Program β)
    (tables : Tables) (asked : Nat) : (p.bind f).course setting tables asked =
      let first := p.course setting tables asked
      let rest := (f first.value).course setting first.tables first.asked
      { rest with sent := first.sent ++ rest.sent } := by
  have sends : (p.bind f).sent setting tables asked = p.sent setting tables asked ++
      (f (p.alone setting tables asked).value).sent setting (p.alone setting tables asked).tables
        (p.alone setting tables asked).asked := by
    induction p generalizing tables asked with
    | done a => rfl
    | ask traversed request next ih =>
      simp only [bind, sent, alone, ih]
      split
      · exact List.cons_append.symm
      · rfl
  simp only [course, alone_bind, sends]

/-- An operation that succeeds, and the rest. -/
theorem Operation.course_bind {α β : Type} {setting : Setting} {operation : Operation α}
    {f : α → Operation β} {a : α} {tables : Tables} {asked : Nat}
    (succeeds : (operation.run.course setting tables asked).value = .ok a) :
    (operation >>= f).run.course setting tables asked =
      let first := operation.run.course setting tables asked
      let rest := (f a).run.course setting first.tables first.asked
      { rest with sent := first.sent ++ rest.sent } := by
  have same : (operation >>= f).run = operation.run.bind (ExceptT.bindCont f) := rfl
  rw [same, Program.course_bind]
  simp only [succeeds]
  rfl

theorem Operation.course_query {setting : Setting} {asked : Nat}
    (served : setting.refused asked = none) (q : Query) (tables : Tables) :
    (query q).run.course setting tables asked =
      ⟨.ok (q.run tables).1, (q.run tables).2, asked + 1, []⟩ := by
  have serves : setting.serve asked tables (.query q) =
      (.ok (q.run tables).1, (q.run tables).2) := by
    simp only [Setting.serve, served]
  change Course.mk (setting.serve asked tables (.query q)).1
    (setting.serve asked tables (.query q)).2 (asked + 1) [] = _
  rw [serves]

/-- From those numbers of requests on, as many are answered in the same way outside of the store and
are refused in the same way. -/
def Setting.Agrees (setting setting' : Setting) (asked asked' count : Nat) : Prop :=
  ∀ n < count, setting'.told (asked' + n) = setting.told (asked + n) ∧
    setting'.refused (asked' + n) = setting.refused (asked + n)

variable {α β : Type} {launch : Launch} {tables tables' : Tables} {setting setting' : Setting}
  {asked asked' : Nat}

theorem Setting.Agrees.first {count : Nat}
    (agrees : setting.Agrees setting' asked asked' (count + 1)) :
    setting'.told asked' = setting.told asked ∧ setting'.refused asked' = setting.refused asked :=
  agrees 0 (Nat.succ_pos count)

theorem Setting.Agrees.later {count : Nat}
    (agrees : setting.Agrees setting' asked asked' (count + 1)) :
    setting.Agrees setting' (asked + 1) (asked' + 1) count := by
  intro n before
  have same := agrees (n + 1) (Nat.succ_lt_succ before)
  rwa [Nat.add_comm n 1, ← Nat.add_assoc, ← Nat.add_assoc] at same

theorem Launch.Alike.serve (alike : launch.Alike tables tables') {request : Request}
    (allowed : launch.Allows request) (told : setting'.told asked' = setting.told asked)
    (refused : setting'.refused asked' = setting.refused asked) :
    (setting'.serve asked' tables' request).1 = (setting.serve asked tables request).1 ∧
      launch.Alike (setting.serve asked tables request).2
        (setting'.serve asked' tables' request).2 := by
  cases request with
  | query q =>
    obtain ⟨answers, after⟩ := alike.allowed allowed
    simp only [Setting.serve, refused]
    cases setting.refused asked with
    | some failure => exact ⟨rfl, alike⟩
    | none => exact ⟨congrArg Except.ok answers.symm, after⟩
  | now | freshId | post | announce | complete | remembered | remember | forget =>
    exact ⟨congrFun told _, alike⟩

theorem Program.exists_further {p : Program α} {count : Nat}
    (length : (p.course setting tables (asked + 1)).asked = asked + count) :
    ∃ later, count = later + 1 ∧
      (p.course setting tables (asked + 1)).asked = asked + 1 + later := by
  have further : asked + 1 ≤ (p.course setting tables (asked + 1)).asked :=
    p.le_asked setting tables (asked + 1)
  exact ⟨count - 1, by omega, by omega⟩

theorem drawn_later {ids : Set String} {count : Nat}
    (drawn : ∀ n < count + 1, setting.told (asked + n) .freshId ∈ ids) :
    ∀ n < count, setting.told (asked + 1 + n) .freshId ∈ ids := by
  intro n before
  have among := drawn (n + 1) (Nat.succ_lt_succ before)
  rwa [Nat.add_comm n 1, ← Nat.add_assoc] at among

/-- The course of two programs on tables with the same rows of those flows. -/
structure Launch.Parallel (launch : Launch) (related : α → β → Prop) (first : Course α)
    (second : Course β) : Prop where
  value : related first.value second.value
  tables : launch.Alike first.tables second.tables
  sent : second.sent = first.sent

/-- Programs that are in step run in the same way on tables with the same rows of those flows. -/
theorem Program.InStep.runs {related : α → β → Prop} {p : Program α} {q : Program β}
    (inStep : p.InStep launch.Allows launch.ids related q) (alike : launch.Alike tables tables')
    {count : Nat} (length : (p.course setting tables asked).asked = asked + count)
    (agrees : setting.Agrees setting' asked asked' count)
    (drawn : ∀ n < count, setting.told (asked + n) .freshId ∈ launch.ids) :
    launch.Parallel related (p.course setting tables asked) (q.course setting' tables' asked') ∧
      (q.course setting' tables' asked').asked = asked' + count := by
  induction inStep generalizing tables tables' asked asked' count with
  | done holds =>
    obtain rfl : count = 0 := by
      have same : asked = asked + count := length
      omega
    exact ⟨⟨holds, alike, rfl⟩, rfl⟩
  | @both traversed request next next' allowed rest ih =>
    obtain ⟨count, rfl, further⟩ := exists_further length
    obtain ⟨told, refused⟩ := agrees.first
    obtain ⟨answers, after⟩ := alike.serve allowed told refused
    have draws := setting.draws_serve asked tables request (drawn 0 (Nat.succ_pos count))
    obtain ⟨⟨value, tables, same⟩, asked⟩ := ih _ draws after further agrees.later
      (drawn_later drawn)
    simp only [course] at value tables same asked ⊢
    simp only [alone, sent]
    rw [answers]
    exact ⟨⟨value, tables, by rw [same]⟩, asked.trans (by omega)⟩
  | @beside traversed q q' next next' first second served refused same ihServed ihRefused ihSame =>
    obtain ⟨count, rfl, further⟩ := exists_further length
    have sameRefusal := agrees.first.2
    simp only [course, alone, sent, Request.isOutward, Bool.false_eq_true, if_false]
    cases refuses : setting.refused asked with
    | some failure =>
      have isRefused (q : Query) :
          setting.serve asked tables (.query q) = (.error failure, tables) := by
        simp only [Setting.serve, refuses]
      have isRefused' (q : Query) :
          setting'.serve asked' tables' (.query q) = (.error failure, tables') := by
        simp only [Setting.serve, sameRefusal, refuses]
      rw [isRefused] at further
      rw [isRefused, isRefused']
      obtain ⟨parallel, asked⟩ := ihRefused failure alike further agrees.later
        (drawn_later drawn)
      exact ⟨parallel, asked.trans (by omega)⟩
    | none =>
      have isServed (q : Query) :
          setting.serve asked tables (.query q) = (.ok (q.run tables).1, (q.run tables).2) := by
        simp only [Setting.serve, refuses]
      have isServed' (q : Query) :
          setting'.serve asked' tables' (.query q) =
            (.ok (q.run tables').1, (q.run tables').2) := by
        simp only [Setting.serve, sameRefusal, refuses]
      rw [isServed] at further
      rw [isServed, isServed']
      have after := ((alike.beside first).symm.beside second).symm
      obtain ⟨parallel, asked⟩ := ihServed _ _ (first.leads alike.leads).1
        (second.leads alike.leads').1 after further agrees.later (drawn_later drawn)
      exact ⟨parallel, asked.trans (by omega)⟩

end MessageFlow
