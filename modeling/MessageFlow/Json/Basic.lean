import MessageFlow.Entries
import MessageFlow.Number.Basic

/-!
JSON values. Integers and binary numbers are different values, and the members of an object keep
their order.
-/

namespace MessageFlow

inductive Json where
  | null
  | bool (value : Bool)
  | int (value : Int)
  | real (value : Binary64)
  | text (value : String)
  | list (items : List Json)
  | record (fields : List (String × Json))
  deriving Repr, Inhabited

/-- The members of an object, or the columns of a stored row. -/
abbrev Row := Entries Json

namespace Json

mutual

def decideEq : (a b : Json) → Decidable (a = b)
  | .null, .null => isTrue rfl
  | .bool a, .bool b => if h : a = b then isTrue (by rw [h]) else isFalse (by simpa using h)
  | .int a, .int b => if h : a = b then isTrue (by rw [h]) else isFalse (by simpa using h)
  | .real a, .real b => if h : a = b then isTrue (by rw [h]) else isFalse (by simpa using h)
  | .text a, .text b => if h : a = b then isTrue (by rw [h]) else isFalse (by simpa using h)
  | .list a, .list b =>
    match decideEqItems a b with
    | isTrue h => isTrue (by rw [h])
    | isFalse h => isFalse (by simpa using h)
  | .record a, .record b =>
    match decideEqFields a b with
    | isTrue h => isTrue (by rw [h])
    | isFalse h => isFalse (by simpa using h)
  | .null, .bool _ | .null, .int _ | .null, .real _ | .null, .text _
  | .null, .list _ | .null, .record _ | .bool _, .null | .bool _, .int _
  | .bool _, .real _ | .bool _, .text _ | .bool _, .list _ | .bool _, .record _
  | .int _, .null | .int _, .bool _ | .int _, .real _ | .int _, .text _
  | .int _, .list _ | .int _, .record _ | .real _, .null | .real _, .bool _
  | .real _, .int _ | .real _, .text _ | .real _, .list _ | .real _, .record _
  | .text _, .null | .text _, .bool _ | .text _, .int _ | .text _, .real _
  | .text _, .list _ | .text _, .record _ | .list _, .null | .list _, .bool _
  | .list _, .int _ | .list _, .real _ | .list _, .text _ | .list _, .record _
  | .record _, .null | .record _, .bool _ | .record _, .int _ | .record _, .real _
  | .record _, .text _ | .record _, .list _ => isFalse (by simp)

def decideEqItems : (a b : List Json) → Decidable (a = b)
  | [], [] => isTrue rfl
  | [], _ :: _ => isFalse (by simp)
  | _ :: _, [] => isFalse (by simp)
  | a :: as, b :: bs =>
    match decideEq a b, decideEqItems as bs with
    | isTrue h, isTrue hs => isTrue (by rw [h, hs])
    | isFalse h, _ => isFalse (by simp [h])
    | _, isFalse hs => isFalse (by simp [hs])

def decideEqFields : (a b : Row) → Decidable (a = b)
  | [], [] => isTrue rfl
  | [], _ :: _ => isFalse (by simp)
  | _ :: _, [] => isFalse (by simp)
  | (k, a) :: as, (l, b) :: bs =>
    if hk : k = l then
      match decideEq a b, decideEqFields as bs with
      | isTrue h, isTrue hs => isTrue (by rw [hk, h, hs])
      | isFalse h, _ => isFalse (by simp [h])
      | _, isFalse hs => isFalse (by simp [hs])
    else isFalse (by simp [hk])

end

instance : DecidableEq Json := decideEq

def ofOption (encode : α → Json) : Option α → Json
  | none => .null
  | some a => encode a

def ofTexts (texts : List String) : Json := .list (texts.map .text)

def ofText? : Option String → Json := ofOption .text

/-- Empty and zero values count as false. -/
def isTruthy : Json → Bool
  | .null => false
  | .bool value => value
  | .int value => value != 0
  | .real value => !value.isZero
  | .text value => !value.isEmpty
  | .list items => !items.isEmpty
  | .record fields => !fields.isEmpty

/-- The value as a number, a truth value counting as 1 or 0. -/
def number? : Json → Option Number
  | .bool value => some (.int (if value then 1 else 0))
  | .int value => some (.int value)
  | .real value => some (.real value)
  | _ => none

mutual

/-- Equality of stored values: numbers by value, objects without regard to order. -/
def same : Json → Json → Bool
  | .null, b => match b with
    | .null => true
    | _ => false
  | .text a, b => match b with
    | .text b => a == b
    | _ => false
  | .list as, b => match b with
    | .list bs => sameItems as bs
    | _ => false
  | .record as, b => match b with
    | .record bs => as.length == bs.length && sameFields as bs
    | _ => false
  | .bool a, b => b.number?.any (Number.same (.int (if a then 1 else 0)))
  | .int a, b => b.number?.any (Number.same (.int a))
  | .real a, b => b.number?.any (Number.same (.real a))
termination_by structural a => a

def sameItems : List Json → List Json → Bool
  | [], bs => bs.isEmpty
  | a :: as, bs => match bs with
    | [] => false
    | b :: bs => same a b && sameItems as bs
termination_by structural as => as

/-- Whether every member has an equal one in the other object. -/
def sameFields : Row → Row → Bool
  | [], _ => true
  | (key, a) :: as, bs => (match Entries.get? bs key with
    | some b => same a b
    | none => false) && sameFields as bs
termination_by structural as => as

end

mutual

/-- Whether two values are written alike: numbers of different kinds differ, and the members of an
object have no order. -/
def alike : Json → Json → Bool
  | .list as, b => match b with
    | .list bs => alikeItems as bs
    | _ => false
  | .record as, b => match b with
    | .record bs => as.length == bs.length && alikeFields as bs
    | _ => false
  | a, b => decide (a = b)
termination_by structural a => a

def alikeItems : List Json → List Json → Bool
  | [], bs => bs.isEmpty
  | a :: as, bs => match bs with
    | [] => false
    | b :: bs => alike a b && alikeItems as bs
termination_by structural as => as

def alikeFields : Row → Row → Bool
  | [], _ => true
  | (key, a) :: as, bs => (match Entries.get? bs key with
    | some b => alike a b
    | none => false) && alikeFields as bs
termination_by structural as => as

end

end Json

namespace Row

/-- The column, null when it is absent. -/
def get (row : Row) (key : String) : Json := (Entries.get? row key).getD .null

end Row
end MessageFlow
