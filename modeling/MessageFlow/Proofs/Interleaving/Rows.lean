import Mathlib.Data.List.Find
import Mathlib.Data.List.Nodup
import MessageFlow.Proofs.Reading.Execution
import MessageFlow.Store.Executions
import MessageFlow.Store.Tables

/-!
How stored rows and the copies of executions that clients hold are related: loosely, for rows of any
form, by identity, status and revision; exactly, for rows in the form in which the program writes
them. What a query does to the rows.
-/

namespace MessageFlow

section view
open Document

namespace Row

/-- The status with which the row is read. -/
def status? (row : Row) : Option Status :=
  (withDefault Field.status .active Execution.readStatus row).toOption

/-- The revision with which the row is read. -/
def revision? (row : Row) : Option Int := (withDefault Field.revision 0 asInt row).toOption

/-- The row has the identity, the status and the revision of the execution. -/
structure Heads (row : Row) (v : Execution) : Prop where
  id : row.get "id" = .text v.id
  status : row.status? = some v.status
  revision : row.revision? = some v.revision

variable {row : Row}

theorem status?_of_get? {status : Status}
    (found : Entries.get? row "status" = some (.text status.text)) :
    row.status? = some status := by
  have given : Field.status.find? row = some ("status", .text status.text) := by
    rw [Field.status, find?_plain, found]
    rfl
  rw [status?, withDefault, given]
  simp only [Execution.readStatus_text]
  rfl

theorem revision?_of_get? {n : Int} (found : Entries.get? row "revision" = some (.int n)) :
    row.revision? = some n := by
  have given : Field.revision.find? row = some ("revision", .int n) := by
    rw [Field.revision, find?_plain, found]
    rfl
  rw [revision?, withDefault, given]
  rfl

theorem get?_of_get {name : String} {value : Json} (found : row.get name = value)
    (different : value ≠ .null) : Entries.get? row name = some value := by
  unfold get at found
  cases given : Entries.get? row name with
  | none =>
    rw [given] at found
    exact absurd found.symm different
  | some other =>
    rw [given] at found
    exact congrArg some found

theorem get_id_of_required {id : String} (reads : required Field.id asText row = .valid id) :
    row.get "id" = .text id := by
  rw [required, Field.id, find?_plain] at reads
  cases found : Entries.get? row "id" with
  | none =>
    rw [found] at reads
    cases reads
  | some value =>
    rw [found] at reads
    have given : asText value = .valid id := Validated.under_eq_valid.mp reads
    rw [get, found]
    cases value with
    | text text =>
      cases given
      rfl
    | null | bool | int | real | list | record => cases given

theorem heads_of_read {v : Execution} (reads : Execution.read (.record row) = .valid v) :
    row.Heads v := by
  obtain ⟨id, status, _, revision, _⟩ := Execution.read_valid reads
  refine ⟨?_, ?_, ?_⟩
  · exact get_id_of_required id
  · rw [status?, status]
    rfl
  · rw [revision?, revision]
    rfl

end Row

namespace Execution

/-- The row after a write of the execution over it. -/
def writeOver (e : Execution) (row : Row) : Row :=
  Entries.update row (Entries.set e.row "revision" (.int (e.revision + 1)))

variable {e : Execution} {row : Row}

theorem get?_writeOver {name : String} {value : Json} (found : Entries.get? e.row name = some value)
    (other : name ≠ "revision") : Entries.get? (e.writeOver row) name = some value := by
  refine Entries.get?_update_of_get? (Entries.nodup_set _ e.row_unique) ?_
  rw [Entries.get?_set_of_ne _ other, found]

theorem get_revision_writeOver (e : Execution) (row : Row) :
    (e.writeOver row).get "revision" = .int (e.revision + 1) := by
  have found : Entries.get? (e.writeOver row) "revision" = some (.int (e.revision + 1)) :=
    Entries.get?_update_of_get? (Entries.nodup_set _ e.row_unique)
      (Entries.get?_set_self e.row "revision" _)
  rw [Row.get, found]
  rfl

theorem heads_writeOver (plain : e.Plain) (row : Row) : (e.writeOver row).Heads e.saved := by
  refine ⟨?_, ?_, ?_⟩
  · rw [Row.get, get?_writeOver (get?_id plain) (by decide)]
    rfl
  · exact Row.status?_of_get? (get?_writeOver (get?_status plain) (by decide))
  · exact Row.revision?_of_get? (Row.get?_of_get (e.get_revision_writeOver row) (by simp))

theorem heads_row (plain : e.Plain) : Row.Heads e.row e := by
  refine ⟨?_, Row.status?_of_get? (get?_status plain), Row.revision?_of_get? (get?_revision plain)⟩
  rw [Row.get, get?_id plain]
  rfl

theorem Regular.get_id (regular : e.Regular) : Row.get e.row "id" = .text e.id :=
  (heads_row regular.plain).id

theorem Plain.keeps {v : Execution} (plain : v.Plain) (keeps : v.Keeps e) : e.Plain := by
  obtain ⟨id, status, revision⟩ := plain
  rw [← keeps.extras] at id status revision
  exact ⟨id, status, revision⟩

theorem Plain.saved (plain : e.Plain) : e.saved.Plain := ⟨plain.id, plain.status, plain.revision⟩

end Execution

/-- A way to relate stored rows and copies. -/
structure View where
  form : Row → Prop
  shows : Row → Execution → Prop
  reads : ∀ {row v}, form row → Execution.read (.record row) = .valid v → shows row v
  heads : ∀ {row v}, shows row v → row.Heads v
  creates : ∀ {e}, e.IsNew → form e.row ∧ shows e.row e
  writes : ∀ {row v e}, form row → shows row v → v.Keeps e →
    form (e.writeOver row) ∧ shows (e.writeOver row) e.saved

namespace View

/-- Rows of any form; only the version of a copy is compared. -/
def loose : View where
  form _ := True
  shows row v := row.Heads v ∧ v.Plain
  reads _ reads := ⟨Row.heads_of_read reads, Execution.plain_of_read reads⟩
  heads shown := shown.1
  creates isNew :=
    have plain := (Execution.regular_of_isNew isNew).plain
    ⟨trivial, Execution.heads_row plain, plain⟩
  writes {row _ _} _ shown keeps :=
    have plain := shown.2.keeps keeps
    ⟨trivial, Execution.heads_writeOver plain row, plain.saved⟩

/-- Rows in the form in which the program writes them; a copy shows all of its row. -/
def exact : View where
  form row := ∃ v : Execution, v.Regular ∧ row = v.row
  shows row v := v.Regular ∧ row = v.row
  reads := by
    intro _ v formed reads
    obtain ⟨w, regular, rfl⟩ := formed
    rw [Execution.read_row regular] at reads
    cases reads
    exact ⟨regular, rfl⟩
  heads := by
    intro _ v shown
    obtain ⟨regular, rfl⟩ := shown
    exact Execution.heads_row regular.plain
  creates isNew :=
    have regular := Execution.regular_of_isNew isNew
    ⟨⟨_, regular, rfl⟩, regular, rfl⟩
  writes := by
    intro _ v e _ shown keeps
    obtain ⟨regular, rfl⟩ := shown
    have written : e.saved.Regular :=
      ⟨(regular.keeps keeps).extras, (regular.keeps keeps).contextExtras⟩
    have whole : e.writeOver v.row = e.saved.row := Execution.update_row regular keeps
    exact ⟨⟨e.saved, written, whole⟩, written, whole⟩

end View

end view

/-!
What a query does to the stored executions.
-/

namespace Json

theorem same_text {value : Json} {text : String} :
    same value (.text text) = true ↔ value = .text text := by
  cases value <;> simp [same, number?]

theorem same_int {n m : Int} : same (.int n) (.int m) = true ↔ n = m := by
  simp [same, number?, Number.same, Number.compare?]

end Json

/-- The row with that id. -/
def rowOf? (rows : List Row) (id : String) : Option Row :=
  rows.find? fun row => row.get "id" = .text id

section rowOf

variable {rows : List Row} {id : String} {row : Row}

theorem mem_of_rowOf? (found : rowOf? rows id = some row) :
    row ∈ rows ∧ row.get "id" = .text id := by
  have isId := List.find?_some found
  exact ⟨List.mem_of_find?_eq_some found, of_decide_eq_true isId⟩

theorem rowOf?_eq_none : rowOf? rows id = none ↔ ∀ row ∈ rows, row.get "id" ≠ .text id := by
  rw [rowOf?, List.find?_eq_none]
  simp only [decide_eq_true_eq, ne_eq]

theorem rowOf?_eq_some (unique : (rows.map fun row => row.get "id").Nodup) (present : row ∈ rows)
    (isId : row.get "id" = .text id) : rowOf? rows id = some row := by
  cases found : rowOf? rows id with
  | none => exact absurd isId (rowOf?_eq_none.mp found row present)
  | some other =>
    obtain ⟨otherPresent, isAlso⟩ := mem_of_rowOf? found
    have same := List.inj_on_of_nodup_map unique otherPresent present (isAlso.trans isId.symm)
    exact congrArg some same

theorem rowOf?_append (unknown : ∀ other ∈ rows, other.get "id" ≠ row.get "id") (id : String) :
    rowOf? (rows ++ [row]) id = if row.get "id" = .text id then some row else rowOf? rows id := by
  rw [rowOf?, List.find?_append, ← rowOf?]
  by_cases new : row.get "id" = .text id
  · rw [if_pos new, rowOf?_eq_none.mpr (new ▸ unknown), Option.none_or]
    exact List.find?_cons_of_pos (decide_eq_true new)
  · have notNew : [row].find? (fun row => row.get "id" = .text id) = none :=
      List.find?_cons_of_neg (by simpa using new)
    rw [if_neg new, notNew, Option.or_none]

theorem rowOf?_map {f : Row → Row} (same : ∀ row ∈ rows, (f row).get "id" = row.get "id")
    (id : String) : rowOf? (rows.map f) id = (rowOf? rows id).map f := by
  rw [rowOf?, rowOf?, List.find?_map]
  refine congrArg (Option.map f) (List.find?_congr ?_)
  intro row present
  exact congrArg (fun id' : Json => decide (id' = .text id)) (same row present)

/-- A row under a new id keeps the ids apart. -/
theorem nodup_ids_append (unique : (rows.map fun row => row.get "id").Nodup)
    (unknown : ∀ other ∈ rows, other.get "id" ≠ row.get "id") :
    ((rows ++ [row]).map fun row => row.get "id").Nodup := by
  rw [List.map_append, List.nodup_append]
  refine ⟨unique, List.nodup_singleton _, ?_⟩
  intro a isId b isNewId
  obtain ⟨other, present, rfl⟩ := List.mem_map.mp isId
  rw [List.mem_singleton.mp isNewId]
  exact unknown other present

end rowOf

namespace Tables

/-- The stored executions. -/
def executionRows (tables : Tables) : List Row := tables.rows .executions

theorem rows_put (tables : Tables) (table : Table) (content : TableRows) :
    (tables.put table content).rows table = content.rows := by
  rw [rows, get_put]

theorem rows_put_of_ne (tables : Tables) {table other : Table} (elsewhere : table ≠ other)
    (content : TableRows) : (tables.put table content).rows other = tables.rows other := by
  rw [rows, get_put_of_ne tables elsewhere.symm]
  rfl

end Tables

namespace Query

variable {tables : Tables}

/-- A query leaves the other tables alone. -/
theorem rows_run_of_ne {query : Query} {table : Table} (elsewhere : query.table ≠ table) :
    (query.run tables).2.rows table = tables.rows table := by
  cases query with
  | select asked filters order limit => rfl
  | insert asked row => exact tables.rows_put_of_ne elsewhere _
  | update asked filters changes => exact tables.rows_put_of_ne elsewhere _
  | delete asked filters => exact tables.rows_put_of_ne elsewhere _

/-- A row with an id is inserted as it is. -/
theorem run_insert {table : Table} {row : Row} {id : String} (named : row.get "id" = .text id) :
    ((Query.insert table row).run tables).1 = [row] ∧
      ((Query.insert table row).run tables).2.rows table = tables.rows table ++ [row] := by
  have given : Row.id? row = some (.text id) := by
    rw [Row.id?, named]
  rw [run, TableRows.insert, given]
  exact ⟨rfl, tables.rows_put table _⟩

theorem mem_of_mem_clip {α : Type} {count : Int} {items : List α} {item : α}
    (present : item ∈ clip count items) : item ∈ items := by
  unfold clip at present
  split at present
  · exact List.mem_of_mem_take present
  · exact List.mem_of_mem_take present

theorem selected_of_mem_select {table : Table} {filters : List Filter} {order : Option SortOrder}
    {limit : Option Int} {row : Row}
    (found : row ∈ ((Query.select table filters order limit).run tables).1) :
    row ∈ tables.rows table ∧ selects filters row = true := by
  have kept : row ∈ (tables.rows table).filter (selects filters) := by
    cases order with
    | none =>
      cases limit with
      | none => exact found
      | some limit => exact mem_of_mem_clip found
    | some order =>
      have sorted := sortBy_perm order.precedes ((tables.rows table).filter (selects filters))
      cases limit with
      | none => exact sorted.mem_iff.mp found
      | some limit => exact sorted.mem_iff.mp (mem_of_mem_clip found)
  exact List.mem_filter.mp kept

theorem mem_of_mem_select {table : Table} {filters : List Filter} {order : Option SortOrder}
    {limit : Option Int} {row : Row}
    (found : row ∈ ((Query.select table filters order limit).run tables).1) :
    row ∈ tables.rows table := (selected_of_mem_select found).1

end Query

namespace Execution

variable {e : Execution} {row : Row}

/-- The row that a write of the execution is meant for. -/
def isWrittenOver (e : Execution) (row : Row) : Bool :=
  selects [Store.byId e.id, .equals "revision" (.int e.revision)] row

theorem isWrittenOver_iff : e.isWrittenOver row = true ↔
    row.get "id" = .text e.id ∧ Json.same (row.get "revision") (.int e.revision) = true := by
  simp [isWrittenOver, selects, Filter.holds, Store.byId, Json.same_text]

/-- The row after a write of the execution, which may be meant for another row. -/
def overwrite (e : Execution) (row : Row) : Row :=
  if e.isWrittenOver row then e.writeOver row else row

theorem run_save (e : Execution) (tables : Tables) :
    ((Store.saveQuery e).run tables).1 =
      (tables.executionRows.filter e.isWrittenOver).map e.writeOver := rfl

theorem executionRows_run_save (e : Execution) (tables : Tables) :
    ((Store.saveQuery e).run tables).2.executionRows = tables.executionRows.map e.overwrite :=
  tables.rows_put .executions _

/-- A new execution is stored as it is. -/
theorem run_insert (isNew : e.IsNew) (tables : Tables) :
    ((Query.insert .executions e.row).run tables).1 = [e.row] ∧
      ((Query.insert .executions e.row).run tables).2.executionRows =
        tables.executionRows ++ [e.row] :=
  Query.run_insert (heads_row (regular_of_isNew isNew).plain).id

theorem get_id_writeOver (plain : e.Plain) (same : row.get "id" = .text e.id) :
    (e.writeOver row).get "id" = row.get "id" := by
  rw [(heads_writeOver plain row).id, same]
  rfl

/-- A write leaves all identities as they are. -/
theorem get_id_overwrite (plain : e.Plain) (row : Row) :
    (e.overwrite row).get "id" = row.get "id" := by
  unfold overwrite
  split
  · next meant => exact get_id_writeOver plain (isWrittenOver_iff.mp meant).1
  · rfl

end Execution

end MessageFlow
