import MessageFlow.Proofs.Interleaving.Desk
import MessageFlow.Proofs.Interleaving.System

/-!
The stored tickets and what the queries on them do. Tickets are added and marked with a status, and
never removed; a mark leaves alone what a ticket is for, and whoever reads the row learns that.
-/

namespace MessageFlow
open Document

theorem TicketStatus.text_injective : Function.Injective text := by
  intro status other same
  have read := ofText?_text status
  rw [same, ofText?_text] at read
  exact (Option.some.inj read).symm

namespace Tables

/-- The stored tickets. -/
def ticketRows (tables : Tables) : List Row := tables.rows .tickets

/-- The row of the ticket with that id. -/
def ticketRow? (tables : Tables) (id : String) : Option Row :=
  rowOf? tables.ticketRows id

end Tables

namespace Row

def IsPending (row : Row) : Prop := row.get "status" = .text TicketStatus.pending.text

/-- The row after an update, which may be meant for other rows. -/
def revise (row : Row) (filters : List Filter) (changes : Row) : Row :=
  if selects filters row then Entries.update row changes else row

theorem revise_of_not {row changes : Row} {filters : List Filter}
    (notMeant : ¬ selects filters row = true) : row.revise filters changes = row := if_neg notMeant

/-- The columns that a mark may change. -/
def markColumns : List String := ["status", "processed_at", "error"]

theorem not_isPending_of_status {row : Row} {status : TicketStatus}
    (given : row.get "status" = .text status.text) (active : status ≠ .pending) :
    ¬ row.IsPending := by
  intro isPending
  rw [IsPending, given] at isPending
  exact active (TicketStatus.text_injective (Json.text.inj isPending))

theorem get_eq_of_get? {row other : Row} {column : String}
    (same : Entries.get? row column = Entries.get? other column) :
    row.get column = other.get column := by
  rw [get, get, same]

/-- A column that an update does not name stays. -/
theorem get?_revise {row changes : Row} {filters : List Filter} {column : String}
    (absent : column ∉ changes.map Prod.fst) :
    Entries.get? (row.revise filters changes) column = Entries.get? row column := by
  unfold revise
  split
  · exact Entries.get?_update_of_absent absent
  · rfl

end Row

/-- An update of tickets that gives a status to those it is meant for. -/
structure Query.Marks (query : Query) (filters : List Filter) (changes : Row)
    (status : TicketStatus) : Prop where
  asks : query = .update .tickets filters changes
  gives : Entries.get? changes "status" = some (.text status.text)
  unique : (changes.map Prod.fst).Nodup
  names : ∀ column ∈ changes.map Prod.fst, column ∈ Row.markColumns

namespace Query.Marks

variable {query : Query} {filters : List Filter} {changes row : Row} {status : TicketStatus}

/-- All columns but those of a mark stay. -/
theorem get?_revise (marks : query.Marks filters changes status) {column : String}
    (fixed : column ∉ Row.markColumns) :
    Entries.get? (row.revise filters changes) column = Entries.get? row column :=
  Row.get?_revise fun changed => fixed (marks.names column changed)

theorem get_revise (marks : query.Marks filters changes status) {column : String}
    (fixed : column ∉ Row.markColumns) : (row.revise filters changes).get column = row.get column :=
  Row.get_eq_of_get? (marks.get?_revise fixed)

theorem get_id_revise (marks : query.Marks filters changes status) :
    (row.revise filters changes).get "id" = row.get "id" := marks.get_revise (by decide)

theorem status_of_selects (marks : query.Marks filters changes status)
    (meant : selects filters row = true) :
    (row.revise filters changes).get "status" = .text status.text := by
  have given : Entries.get? (Entries.update row changes) "status" = some (.text status.text) :=
    Entries.get?_update_of_get? marks.unique marks.gives
  rw [Row.revise, if_pos meant, Row.get, given]
  rfl

theorem run_fst (marks : query.Marks filters changes status) (tables : Tables) :
    (query.run tables).1 =
      (tables.ticketRows.filter (selects filters)).map (Entries.update · changes) := by
  rw [marks.asks]
  rfl

theorem ticketRows_run (marks : query.Marks filters changes status) (tables : Tables) :
    (query.run tables).2.ticketRows = tables.ticketRows.map (·.revise filters changes) := by
  rw [marks.asks]
  exact tables.rows_put .tickets _

theorem unique_mark {others : List Filter} {otherChanges : Row} {otherStatus : TicketStatus}
    (marks : query.Marks filters changes status)
    (also : query.Marks others otherChanges otherStatus) :
    filters = others ∧ status = otherStatus := by
  injection marks.asks.symm.trans also.asks with _ sameFilters sameChanges
  have given := marks.gives
  rw [sameChanges, also.gives] at given
  exact ⟨sameFilters, (TicketStatus.text_injective (Json.text.inj (Option.some.inj given))).symm⟩

end Query.Marks

/-- What a mark makes of the ticket with an id. -/
theorem Query.Marks.ticketRow? {query : Query} {filters : List Filter} {changes : Row}
    {status : TicketStatus} {before after : Tables} {answer : Except Failure (List Row)}
    (marks : query.Marks filters changes status) (handles : query.Handles before after answer)
    (id : String) : after.ticketRow? id = before.ticketRow? id ∨
      after.ticketRow? id = (before.ticketRow? id).map (·.revise filters changes) := by
  rcases handles.after_cases with rfl | rfl
  · exact .inl rfl
  · right
    rw [Tables.ticketRow?, marks.ticketRows_run]
    exact rowOf?_map (fun row _ => marks.get_id_revise) id

namespace Store

theorem selects_claim {id : String} {row : Row} :
    selects [byId id, pending] row = true ↔ row.get "id" = .text id ∧ row.IsPending := by
  simp [selects, Filter.holds, byId, pending, Json.same_text, Row.IsPending]

theorem selects_pendingOf {flowId : String} {row : Row} :
    selects [.equals "flow_id" (.text flowId), pending] row = true ↔
      row.get "flow_id" = .text flowId ∧ row.IsPending := by
  simp [selects, Filter.holds, pending, Json.same_text, Row.IsPending]

theorem selects_byId {id : String} {row : Row} :
    selects [byId id] row = true ↔ row.get "id" = .text id := by
  simp [selects, Filter.holds, byId, Json.same_text]

theorem selects_byId_eq (id : String) :
    selects [byId id] = fun row => decide (row.get "id" = .text id) := by
  funext row
  rw [Bool.eq_iff_iff, selects_byId, decide_eq_true_iff]

/-- A query for the row with an id finds the first one. -/
theorem head_byId (table : Table) (id : String) (tables : Tables) :
    ((Query.select table [byId id] none (some 1)).run tables).1.head? =
      rowOf? (tables.rows table) id := by
  have run : ((Query.select table [byId id] none (some 1)).run tables).1 =
      ((tables.rows table).filter (selects [byId id])).take 1 := rfl
  rw [run, List.head?_take, if_neg (by decide), List.head?_filter, selects_byId_eq]
  rfl

theorem claimQuery_marks (id : String) : (claimQuery id).Marks [byId id, pending]
    [("status", .text TicketStatus.processing.text)] .processing where
  asks := rfl
  gives := rfl
  unique := by decide
  names := by decide

/-- The columns that the end of a ticket changes. -/
def finishColumns (status : TicketStatus) (time : Timestamp) (error : Option String) : Row :=
  [("status", .text status.text), ("processed_at", .text time.columnText)] ++
    match error with
    | some text => if text.isEmpty then [] else [("error", .text text)]
    | none => []

theorem finishQuery_marks (id : String) (status : TicketStatus) (time : Timestamp)
    (error : Option String) : (finishQuery id status time error).Marks [byId id]
      (finishColumns status time error) status := by
  have names : (finishColumns status time error).map Prod.fst = ["status", "processed_at"] ∨
      (finishColumns status time error).map Prod.fst = ["status", "processed_at", "error"] := by
    unfold finishColumns
    split
    · split
      · exact .inl rfl
      · exact .inr rfl
    · exact .inl rfl
  refine ⟨rfl, rfl, ?_, ?_⟩
  · rcases names with same | same
    · rw [same]
      decide
    · rw [same]
      decide
  · rcases names with same | same
    · rw [same]
      decide
    · rw [same]
      decide

theorem failPendingQuery_marks (flowId : String) (time : Timestamp) (error : String) :
    (failPendingQuery flowId time error).Marks [.equals "flow_id" (.text flowId), pending]
      [("status", .text TicketStatus.failed.text), ("processed_at", .text time.columnText),
        ("error", .text error)] .failed where
  asks := rfl
  gives := rfl
  unique := by simp
  names := by simp [Row.markColumns]

end Store

namespace Ticket

theorem IsNew.fits {ticket : Ticket} (isNew : ticket.IsNew) :
    Fits .columns names ticket.fields ticket.extras := by
  rw [isNew.extras]
  exact ⟨rfl, names_distinct, (clean_nil names).kept⟩

theorem IsNew.get?_row {ticket : Ticket} (isNew : ticket.IsNew) {name : FieldName} {value : Json}
    (written : (name, value) ∈ ticket.fields) :
    Entries.get? ticket.row name.column = some value := by
  rw [row, isNew.fits.members_eq]
  exact isNew.fits.get?_label written

theorem IsNew.get_id {ticket : Ticket} (isNew : ticket.IsNew) :
    Row.get ticket.row "id" = .text ticket.id := by
  have written : (Field.id, Json.text ticket.id) ∈ ticket.fields := by simp [fields]
  rw [Row.get, show Entries.get? ticket.row "id" = _ from isNew.get?_row written]
  rfl

theorem IsNew.get_flowId {ticket : Ticket} (isNew : ticket.IsNew) :
    Row.get ticket.row "flow_id" = .text ticket.flowId := by
  have written : (Field.flowId, Json.text ticket.flowId) ∈ ticket.fields := by simp [fields]
  rw [Row.get, show Entries.get? ticket.row "flow_id" = _ from isNew.get?_row written]
  rfl

theorem IsNew.isPending {ticket : Ticket} (isNew : ticket.IsNew) : Row.IsPending ticket.row := by
  have written : (Field.status, Json.text TicketStatus.pending.text) ∈ ticket.fields := by
    simp [fields, isNew.status]
  rw [Row.IsPending, Row.get, show Entries.get? ticket.row "status" = _ from isNew.get?_row written]
  rfl

end Ticket

/-- No two stored tickets have the same id. -/
def Tables.UniqueTickets (tables : Tables) : Prop :=
  (tables.ticketRows.map fun row => row.get "id").Nodup

/-- What a query of a client may do to the stored tickets. -/
inductive Event.Files (event : Event) : Prop
  | aside (same : event.after.ticketRows = event.before.ticketRows)
  | entry (ticket : Ticket) (isNew : ticket.IsNew)
    (asks : event.query = .insert .tickets ticket.row)
    (unknown : ∀ row ∈ event.before.ticketRows, row.get "id" ≠ .text ticket.id)
    (stores : event.after.ticketRows = event.before.ticketRows ++ [ticket.row])
  | mark (filters : List Filter) (changes : Row) (status : TicketStatus)
    (marks : event.query.Marks filters changes status) (active : status ≠ .pending)
    (stores : event.after.ticketRows = event.before.ticketRows.map (·.revise filters changes))

namespace Event.Files

variable {event : Event}

/-- The ids of stored tickets stay, and at most one is new. -/
theorem ids (files : event.Files) {row : Row} (present : row ∈ event.after.ticketRows) :
    (∃ earlier ∈ event.before.ticketRows, earlier.get "id" = row.get "id") ∨
      ∃ ticket : Ticket, ticket.IsNew ∧ event.query = .insert .tickets ticket.row ∧
        row = ticket.row := by
  cases files with
  | aside same =>
    rw [same] at present
    exact .inl ⟨row, present, rfl⟩
  | entry ticket isNew asks unknown stores =>
    rw [stores] at present
    rcases List.mem_append.mp present with old | new
    · exact .inl ⟨row, old, rfl⟩
    · exact .inr ⟨ticket, isNew, asks, List.mem_singleton.mp new⟩
  | mark filters changes status marks active stores =>
    rw [stores] at present
    obtain ⟨earlier, old, rfl⟩ := List.mem_map.mp present
    exact .inl ⟨earlier, old, marks.get_id_revise.symm⟩

/-- A stored ticket stays stored, with the same id. -/
theorem stays (files : event.Files) {row : Row} (present : row ∈ event.before.ticketRows) :
    ∃ later ∈ event.after.ticketRows, later.get "id" = row.get "id" := by
  cases files with
  | aside same => exact ⟨row, same ▸ present, rfl⟩
  | entry ticket isNew asks unknown stores =>
    exact ⟨row, stores ▸ List.mem_append_left _ present, rfl⟩
  | mark filters changes status marks active stores =>
    exact ⟨_, stores ▸ List.mem_map_of_mem present, marks.get_id_revise⟩

theorem unique (files : event.Files) (unique : event.before.UniqueTickets) :
    event.after.UniqueTickets := by
  cases files with
  | aside same =>
    rw [Tables.UniqueTickets, same]
    exact unique
  | entry ticket isNew asks unknown stores =>
    rw [Tables.UniqueTickets, stores]
    refine nodup_ids_append unique fun other present => ?_
    rw [isNew.get_id]
    exact unknown other present
  | mark filters changes status marks active stores =>
    have ids : (event.before.ticketRows.map (·.revise filters changes)).map
        (fun row => row.get "id") = event.before.ticketRows.map fun row => row.get "id" := by
      rw [List.map_map]
      exact List.map_congr_left fun row _ => marks.get_id_revise
    rw [Tables.UniqueTickets, stores, ids]
    exact unique

/-- What becomes of the ticket with an id. -/
theorem ticketRow? (files : event.Files) (id : String) :
    event.after.ticketRow? id = event.before.ticketRow? id ∨
      (∃ ticket : Ticket, ticket.IsNew ∧ ticket.id = id ∧ event.before.ticketRow? id = none ∧
        event.after.ticketRow? id = some ticket.row) ∨
      ∃ filters changes status, event.query.Marks filters changes status ∧ status ≠ .pending ∧
        event.after.ticketRow? id =
          (event.before.ticketRow? id).map (·.revise filters changes) := by
  cases files with
  | aside same =>
    left
    rw [Tables.ticketRow?, same]
    rfl
  | entry ticket isNew asks unknown stores =>
    have after : rowOf? (event.before.ticketRows ++ [ticket.row]) id = _ :=
      rowOf?_append (isNew.get_id ▸ unknown) id
    rw [← stores, isNew.get_id] at after
    by_cases mine : ticket.id = id
    · subst mine
      rw [if_pos rfl] at after
      exact .inr (.inl ⟨ticket, isNew, rfl, rowOf?_eq_none.mpr unknown, after⟩)
    · rw [if_neg fun same => mine (Json.text.inj same)] at after
      exact .inl after
  | mark filters changes status marks active stores =>
    refine .inr (.inr ⟨filters, changes, status, marks, active, ?_⟩)
    rw [Tables.ticketRow?, stores]
    exact rowOf?_map (fun row _ => marks.get_id_revise) id

end Event.Files

/-- What a ticket is for. -/
structure Terms where
  id : String
  executionId : String
  nodeId : String
  executeAt : Timestamp

namespace Ticket

def terms (ticket : Ticket) : Terms :=
  ⟨ticket.id, ticket.executionId, ticket.nodeId, ticket.executeAt⟩

/-- What is known of a ticket that was read from a row. -/
theorem read_valid {row : Row} {ticket : Ticket} (reads : read (.record row) = .valid ticket) :
    required Field.id asText row = .valid ticket.id ∧
      required Field.executionId asText row = .valid ticket.executionId ∧
      required Field.nodeId asText row = .valid ticket.nodeId ∧
      required Field.executeAt asTime row = .valid ticket.executeAt := by
  simp only [read, object, Validated.map_eq_valid, Validated.fmap_eq_valid,
    Validated.seq_eq_valid, ↓existsAndEq, and_true] at reads
  grind

end Ticket

namespace Row

/-- The row is that of a ticket with these terms. -/
structure Bears (row : Row) (terms : Terms) : Prop where
  id : row.get "id" = .text terms.id
  executionId : row.get "execution_id" = .text terms.executionId
  nodeId : row.get "node_id" = .text terms.nodeId
  executeAt : row.get "execute_at" = .text terms.executeAt.text

theorem Bears.unique {row : Row} {terms other : Terms} (bears : row.Bears terms)
    (also : row.Bears other) : terms = other := by
  have time : terms.executeAt = other.executeAt := by
    have same := Json.text.inj (bears.executeAt.symm.trans also.executeAt)
    have read := Timestamp.read?_text terms.executeAt
    rw [same, Timestamp.read?_text] at read
    exact (Option.some.inj read).symm
  cases terms
  cases other
  cases Json.text.inj (bears.id.symm.trans also.id)
  cases Json.text.inj (bears.executionId.symm.trans also.executionId)
  cases Json.text.inj (bears.nodeId.symm.trans also.nodeId)
  cases time
  rfl

/-- The row was stored for the new ticket, and may have been marked since. -/
structure IsFiled (row : Row) (ticket : Ticket) : Prop where
  isNew : ticket.IsNew
  same : ∀ column ∉ markColumns, Entries.get? row column = Entries.get? ticket.row column

end Row

theorem Ticket.IsNew.isFiled {ticket : Ticket} (isNew : ticket.IsNew) :
    Row.IsFiled ticket.row ticket := ⟨isNew, fun _ _ => rfl⟩

namespace Row.IsFiled

variable {row : Row} {ticket : Ticket}

theorem revise {query : Query} {filters : List Filter} {changes : Row} {status : TicketStatus}
    (filed : row.IsFiled ticket) (marks : query.Marks filters changes status) :
    (row.revise filters changes).IsFiled ticket :=
  ⟨filed.isNew, fun column fixed => (marks.get?_revise fixed).trans (filed.same column fixed)⟩

theorem get_column (filed : row.IsFiled ticket) (name : FieldName) {value : Json}
    (written : (name, value) ∈ ticket.fields) (fixed : name.column ∉ markColumns) :
    row.get name.column = value := by
  rw [Row.get, filed.same _ fixed, filed.isNew.get?_row written]
  rfl

theorem bears (filed : row.IsFiled ticket) : row.Bears ticket.terms where
  id := filed.get_column Field.id (by simp [Ticket.fields, Ticket.terms]) (by decide)
  executionId :=
    filed.get_column Field.executionId (by simp [Ticket.fields, Ticket.terms]) (by decide)
  nodeId := filed.get_column Field.nodeId (by simp [Ticket.fields, Ticket.terms]) (by decide)
  executeAt := filed.get_column Field.executeAt (by simp [Ticket.fields, Ticket.terms]) (by decide)

/-- Fields that no mark changes are read as they were stored. -/
theorem required_eq {α : Type} {read : ValueReader α} {a : α} (filed : row.IsFiled ticket)
    (name : FieldName) {value : Json} (written : (name, value) ∈ ticket.fields)
    (fixed : name.column ∉ markColumns) (alsoFixed : name.key ∉ markColumns)
    (reads : read value = .valid a) : required name read row = .valid a := by
  obtain ⟨given, found⟩ := filed.isNew.fits.find?_eq written
  have same : name.find? row = some (given, value) := by
    rw [FieldName.find?, filed.same _ alsoFixed, filed.same _ fixed, Ticket.row,
      filed.isNew.fits.members_eq]
    exact found
  rw [required, same]
  simp only [reads]
  rfl

/-- Whoever reads the row learns the terms. -/
theorem terms_of_read (filed : row.IsFiled ticket) {other : Ticket}
    (reads : Ticket.read (.record row) = .valid other) : other.terms = ticket.terms := by
  obtain ⟨id, executionId, nodeId, executeAt⟩ := Ticket.read_valid reads
  rw [filed.required_eq Field.id (by simp [Ticket.fields]) (by decide) (by decide)
    (asText_text ticket.id)] at id
  rw [filed.required_eq Field.executionId (by simp [Ticket.fields]) (by decide) (by decide)
    (asText_text ticket.executionId)] at executionId
  rw [filed.required_eq Field.nodeId (by simp [Ticket.fields]) (by decide) (by decide)
    (asText_text ticket.nodeId)] at nodeId
  rw [filed.required_eq Field.executeAt (by simp [Ticket.fields]) (by decide) (by decide)
    (asTime_text ticket.executeAt)] at executeAt
  rw [Ticket.terms, Ticket.terms, Validated.valid.inj id, Validated.valid.inj executionId,
    Validated.valid.inj nodeId, Validated.valid.inj executeAt]

end Row.IsFiled

end MessageFlow
