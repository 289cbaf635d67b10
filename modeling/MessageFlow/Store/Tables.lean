import MessageFlow.Message.Length
import MessageFlow.Store.Query
import MessageFlow.Time.Text

/-!
The tables and what a query does to them. Rows keep the order in which they were inserted.
-/

namespace MessageFlow

/-- The rows of a table and the number of ids it has given out. -/
structure TableRows where
  rows : List Row := []
  issued : Nat := 0
  deriving DecidableEq

structure Tables where
  flows : TableRows := {}
  executions : TableRows := {}
  tickets : TableRows := {}
  accounts : TableRows := {}
  leads : TableRows := {}
  notifications : TableRows := {}
  deriving DecidableEq

namespace Tables

def get (tables : Tables) : Table → TableRows
  | .flows => tables.flows
  | .executions => tables.executions
  | .tickets => tables.tickets
  | .accounts => tables.accounts
  | .leads => tables.leads
  | .notifications => tables.notifications

def put (tables : Tables) (table : Table) (content : TableRows) : Tables :=
  match table with
  | .flows => { tables with flows := content }
  | .executions => { tables with executions := content }
  | .tickets => { tables with tickets := content }
  | .accounts => { tables with accounts := content }
  | .leads => { tables with leads := content }
  | .notifications => { tables with notifications := content }

@[simp] theorem get_put (tables : Tables) (table : Table) (content : TableRows) :
    (tables.put table content).get table = content := by cases table <;> rfl

theorem get_put_of_ne (tables : Tables) {table other : Table} (different : other ≠ table)
    (content : TableRows) : (tables.put table content).get other = tables.get other := by
  cases table <;> cases other <;> first | rfl | exact absurd rfl different

def rows (tables : Tables) (table : Table) : List Row := (tables.get table).rows

end Tables

/-- The instant written in a column. -/
def Json.instant? : Json → Option Int
  | .text value => (Timestamp.read? value).map (·.instant)
  | _ => none

def Filter.holds (filter : Filter) (row : Row) : Bool :=
  match filter with
  | .equals column value => Json.same (Row.get row column) value
  | .oneOf column values => values.any fun value => Json.same (Row.get row column) (.text value)
  | .notAfter column time => (Row.get row column).instant?.any (· ≤ time.instant)

def selects (filters : List Filter) (row : Row) : Bool := filters.all (·.holds row)

/-- Places an item before the first one that it may precede. -/
def insertBy (precedes : α → α → Bool) (item : α) : List α → List α
  | [] => [item]
  | other :: rest =>
    if precedes item other then item :: other :: rest
    else other :: insertBy precedes item rest

theorem insertBy_perm (precedes : α → α → Bool) (item : α) (items : List α) :
    (insertBy precedes item items).Perm (item :: items) := by
  induction items with
  | nil => exact .refl _
  | cons other rest ih =>
    by_cases first : precedes item other = true
    · simp [insertBy, first]
    · simpa [insertBy, first] using (ih.cons other).trans (.swap item other rest)

/-- A stable sort. -/
def sortBy (precedes : α → α → Bool) (items : List α) : List α :=
  items.foldr (insertBy precedes) []

theorem sortBy_perm (precedes : α → α → Bool) (items : List α) :
    (sortBy precedes items).Perm items := by
  induction items with
  | nil => exact .refl _
  | cons item rest ih => exact (insertBy_perm precedes item _).trans (ih.cons item)

namespace SortOrder

/-- Ascending order puts missing instants last, descending order first. -/
def precedes (order : SortOrder) (a b : Row) : Bool :=
  match (Row.get a order.column).instant?, (Row.get b order.column).instant? with
  | some x, some y => if order.descending then y ≤ x else x ≤ y
  | some _, none => !order.descending
  | none, some _ => order.descending
  | none, none => true

end SortOrder

/-- The id of a row, if it has one. -/
def Row.id? (row : Row) : Option Json :=
  match Row.get row "id" with
  | .null => none
  | id => some id

namespace TableRows

/-- Adds a row; one without an id is given the next number of the table. -/
def insert (content : TableRows) (table : Table) (row : Row) : Row × TableRows :=
  match Row.id? row with
  | some _ => (row, { content with rows := content.rows ++ [row] })
  | none =>
    let issued := content.issued + 1
    let row := Entries.set row "id" (.text (table.shortName ++ "-" ++ toString issued))
    (row, ⟨content.rows ++ [row], issued⟩)

end TableRows

namespace Query

/-- The rows that a query returns and the tables after it. -/
def run (query : Query) (tables : Tables) : List Row × Tables :=
  match query with
  | .select table filters order limit =>
    let found := (tables.rows table).filter (selects filters)
    let sorted := match order with
      | some order => sortBy order.precedes found
      | none => found
    let limited := match limit with
      | some limit => clip limit sorted
      | none => sorted
    (limited, tables)
  | .insert table row =>
    let (row, content) := (tables.get table).insert table row
    ([row], tables.put table content)
  | .update table filters changes =>
    let content := tables.get table
    let updated := (content.rows.filter (selects filters)).map (Entries.update · changes)
    let rows := content.rows.map fun row =>
      if selects filters row then Entries.update row changes else row
    (updated, tables.put table { content with rows })
  | .delete table filters =>
    let content := tables.get table
    (content.rows.filter (selects filters),
      tables.put table { content with rows := content.rows.filter fun row => !selects filters row })

end Query
end MessageFlow
