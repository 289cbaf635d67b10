import MessageFlow.Json.Printer
import MessageFlow.Store.Tables

/-!
What distinguishes two states of the tables: new rows in full, deleted rows, and of changed rows the
columns with another value.
-/

namespace MessageFlow

inductive RowChange where
  | added (row : Row)
  | changed (columns : Row)
  | removed
  deriving DecidableEq

/-- The columns that have another value than before. -/
def Row.changes (before after : Row) : Row :=
  after.filter fun (key, value) =>
    match Entries.get? before key with
    | some earlier => !Json.alike earlier value
    | none => true

/-- The last row with the id. -/
def rowWithId? (rows : List Row) (id : String) : Option Row :=
  rows.reverse.find? fun row => (Row.get row "id").display == id

def rowIds (rows : List Row) : List String :=
  (rows.map fun row => (Row.get row "id").display).eraseDups

def tableChanges (before after : List Row) : List (String × RowChange) :=
  let kept := (rowIds after).filterMap fun id => do
    let row ← rowWithId? after id
    match rowWithId? before id with
    | none => some (id, RowChange.added row)
    | some earlier =>
      let columns := Row.changes earlier row
      if columns.isEmpty then none else some (id, .changed columns)
  let removed := (rowIds before).filter fun id => (rowWithId? after id).isNone
  kept ++ removed.map fun id => (id, RowChange.removed)

/-- The changed tables with their changes. -/
def Tables.changes (before after : Tables) : List (Table × List (String × RowChange)) :=
  Table.all.filterMap fun table =>
    let changes := tableChanges (before.rows table) (after.rows table)
    if changes.isEmpty then none else some (table, changes)

end MessageFlow
