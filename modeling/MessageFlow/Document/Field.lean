import MessageFlow.Document.Scalar
import MessageFlow.Json.Expressible

/-!
Fields of documents. A field has two names: the column of a stored row and the key of an authored
document. Reading accepts both and the key wins; members that name no field are kept as extras.
-/

namespace MessageFlow

structure FieldName where
  column : String
  key : String
  deriving DecidableEq, Repr

namespace FieldName

/-- A field with one name for both. -/
def plain (name : String) : FieldName := ⟨name, name⟩

/-- The member that gives the field its value, with the name it was given under. -/
def find? (name : FieldName) (doc : Row) : Option (String × Json) :=
  match doc.get? name.key with
  | some value => some (name.key, value)
  | none => (doc.get? name.column).map (name.column, ·)

/-- Whether the member named `key` gives the field its value. -/
def takes (name : FieldName) (doc : Row) (key : String) : Bool :=
  key == name.key || (key == name.column && (doc.get? name.key).isNone)

end FieldName

/-- The two ways to name the members of a written document. -/
inductive Naming where
  | columns
  | keys
  deriving DecidableEq, Repr

def FieldName.under (name : FieldName) : Naming → String
  | .columns => name.column
  | .keys => name.key

namespace Document

def required (name : FieldName) (read : ValueReader α) (doc : Row) : Validated α :=
  match name.find? doc with
  | some (key, value) => (read value).under (.key key)
  | none => .invalid [⟨.missing, [.key name.key], .record doc⟩]

def withDefault (name : FieldName) (absent : α) (read : ValueReader α) (doc : Row) : Validated α :=
  match name.find? doc with
  | some (key, value) => (read value).under (.key key)
  | none => .valid absent

/-- A field that may be absent or null. -/
def maybe (name : FieldName) (read : ValueReader α) (doc : Row) : Validated (Option α) :=
  withDefault name none (nullable read) doc

/-- The members that give no field its value. -/
def extras (names : List FieldName) (doc : Row) : Row :=
  doc.filter fun (key, _) => !names.any fun name => name.takes doc key

/-- Reads an object: `build` reads its fields and takes the extras last. -/
def object (title : String) (names : List FieldName) (build : Row → Validated (Row → α)) :
    ValueReader α
  | .record doc => (build doc).map fun complete => complete (extras names doc)
  | value => .refuse (.modelType title) value

/-- Reads an object whose unknown members are ignored. -/
def closedObject (title : String) (build : Row → Validated α) : ValueReader α
  | .record doc => build doc
  | value => .refuse (.modelType title) value

/-- The members of a written document; an extra replaces a field of the same name. Extras are
written as far as JSON text can express them. -/
def members (naming : Naming) (fields : List (FieldName × Json)) (extras : Row) : Row :=
  Entries.update (fields.map fun (name, value) => (name.under naming, value))
    (Json.finiteFields extras)

def write (naming : Naming) (fields : List (FieldName × Json)) (extras : Row) : Json :=
  .record (members naming fields extras)

/-- A time in the form used inside documents. -/
def ofTime? : Option Timestamp → Json := Json.ofOption fun t => .text t.text

/-- How deep a value that no field describes may be nested to be written. -/
def maxDepth : Nat := 254

end Document

/-- A type of documents. -/
class DocumentType (α : Type) where
  /-- The name of the type in reports. -/
  title : String
  read : ValueReader α
  write : Naming → α → Json
  /-- The values that are kept as they were given. -/
  loose : α → List Json

/-- Whether the document can be written: no value kept as it was given is nested too deep. -/
def DocumentType.isWritable [DocumentType α] (document : α) : Bool :=
  (DocumentType.loose document).all fun value => decide (value.depth ≤ Document.maxDepth)

def PathStep.json : PathStep → Json
  | .key name => .text name
  | .index position => .int position

/-- An issue as it is reported. -/
def Issue.json (issue : Issue) : Json :=
  .record [("type", .text issue.kind.code), ("loc", .list (issue.path.map PathStep.json))]

end MessageFlow
