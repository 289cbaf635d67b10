import MessageFlow.Json.Basic
import MessageFlow.Time.Fault

/-!
Checked reading: a document is either read or refused with every issue found in it, in the order of
its fields.
-/

namespace MessageFlow

/-- One step from a document to a part of it. -/
inductive PathStep where
  | key (name : String)
  | index (position : Nat)
  deriving DecidableEq, Repr

inductive IssueKind where
  | missing
  | textType
  | boolType
  | boolParsing
  | intType
  | intParsing
  | intParsingSize
  | intFromReal
  | finiteNumber
  | realType
  | realParsing
  | listType
  | recordType
  /-- No object, where a document of the type of that title was expected. -/
  | modelType (title : String)
  | attributesType
  /-- None of the allowed words. -/
  | choice (allowed : List String)
  | timeType
  | timeParsing (fault : TimeFault)
  | timeFromDateParsing (fault : TimeFault)
  deriving DecidableEq, Repr

/-- The word by which an issue is reported. -/
def IssueKind.code : IssueKind → String
  | .missing => "missing"
  | .textType => "string_type"
  | .boolType => "bool_type"
  | .boolParsing => "bool_parsing"
  | .intType => "int_type"
  | .intParsing => "int_parsing"
  | .intParsingSize => "int_parsing_size"
  | .intFromReal => "int_from_float"
  | .finiteNumber => "finite_number"
  | .realType => "float_type"
  | .realParsing => "float_parsing"
  | .listType => "list_type"
  | .recordType => "dict_type"
  | .modelType _ => "model_type"
  | .attributesType => "model_attributes_type"
  | .choice _ => "enum"
  | .timeType => "datetime_type"
  | .timeParsing _ => "datetime_parsing"
  | .timeFromDateParsing _ => "datetime_from_date_parsing"

structure Issue where
  kind : IssueKind
  path : List PathStep
  /-- The value that was refused, or the object that lacks a member. -/
  input : Json
  deriving DecidableEq, Repr

inductive Validated (α : Type) where
  | valid (value : α)
  | invalid (issues : List Issue)
  deriving DecidableEq, Repr

namespace Validated

def refuse (kind : IssueKind) (input : Json) : Validated α := .invalid [⟨kind, [], input⟩]

def map (f : α → β) : Validated α → Validated β
  | .valid a => .valid (f a)
  | .invalid issues => .invalid issues

/-- Both sides are read, and the issues of both are kept. -/
def seq (f : Validated (α → β)) (a : Unit → Validated α) : Validated β :=
  match f, a () with
  | .valid f, .valid a => .valid (f a)
  | .valid _, .invalid issues => .invalid issues
  | .invalid issues, .valid _ => .invalid issues
  | .invalid first, .invalid second => .invalid (first ++ second)

instance : Applicative Validated where
  pure := .valid
  map := map
  seq := seq

/-- Reports the issues of a part at its place in the whole. -/
def under (step : PathStep) : Validated α → Validated α
  | .valid a => .valid a
  | .invalid issues => .invalid (issues.map fun issue => { issue with path := step :: issue.path })

/-- Reads all items, numbered from `start` on. -/
def items (read : α → Validated β) (start : Nat) : List α → Validated (List β)
  | [] => .valid []
  | a :: as => (· :: ·) <$> (read a).under (.index start) <*> items read (start + 1) as

def toOption : Validated α → Option α
  | .valid a => some a
  | .invalid _ => none

@[simp] theorem map_valid (f : α → β) (a : α) : f <$> Validated.valid a = .valid (f a) := rfl

@[simp] theorem seq_valid (f : α → β) (a : α) :
    (Validated.valid f <*> Validated.valid a) = .valid (f a) := rfl

end Validated
end MessageFlow
