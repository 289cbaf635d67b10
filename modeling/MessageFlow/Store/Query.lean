import MessageFlow.Json.Basic
import MessageFlow.Time.Timestamp

/-!
Queries on the stored tables. A query is one atomic step of an operation.
-/

namespace MessageFlow

inductive Table where
  | flows
  | executions
  | tickets
  | accounts
  | leads
  | notifications
  deriving DecidableEq, Repr

namespace Table

/-- The name under which the database knows the table. -/
def name : Table → String
  | .flows => "dmflow_flows"
  | .executions => "dmflow_flow_executions"
  | .tickets => "dmflow_scheduled_executions"
  | .accounts => "dmflow_accounts"
  | .leads => "dmflow_leads"
  | .notifications => "dmflow_notifications"

def shortName : Table → String
  | .flows => "flows"
  | .executions => "executions"
  | .tickets => "tickets"
  | .accounts => "accounts"
  | .leads => "leads"
  | .notifications => "notifications"

def all : List Table := [.flows, .executions, .tickets, .accounts, .leads, .notifications]

def ofShortName? (s : String) : Option Table := all.find? (·.shortName == s)

end Table

/-- A condition on one column of a row. -/
inductive Filter where
  | equals (column : String) (value : Json)
  | oneOf (column : String) (values : List String)
  | notAfter (column : String) (time : Timestamp)
  deriving DecidableEq

structure SortOrder where
  column : String
  descending : Bool
  deriving DecidableEq, Repr

inductive Query where
  | select (table : Table) (filters : List Filter) (order : Option SortOrder) (limit : Option Int)
  | insert (table : Table) (row : Row)
  | update (table : Table) (filters : List Filter) (changes : Row)
  | delete (table : Table) (filters : List Filter)
  deriving DecidableEq

inductive Verb where
  | select
  | insert
  | update
  | delete
  deriving DecidableEq, Repr

namespace Verb

def text : Verb → String
  | .select => "select"
  | .insert => "insert"
  | .update => "update"
  | .delete => "delete"

def all : List Verb := [.select, .insert, .update, .delete]

def ofText? (s : String) : Option Verb := all.find? (·.text == s)

end Verb

namespace Query

def table : Query → Table
  | .select table .. | .insert table _ | .update table .. | .delete table _ => table

def verb : Query → Verb
  | .select .. => .select
  | .insert .. => .insert
  | .update .. => .update
  | .delete .. => .delete

end Query
end MessageFlow
