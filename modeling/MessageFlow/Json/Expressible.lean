import MessageFlow.Json.Basic

/-!
What JSON text can express of a value: it has no word for a number that is not finite, and writers
follow a value only to a limited depth.
-/

namespace MessageFlow.Json

mutual

/-- How deep lists and objects are nested; a plain value has depth 0. -/
def depth : Json → Nat
  | .list items => depthOfItems items + 1
  | .record fields => depthOfFields fields + 1
  | _ => 0
termination_by structural value => value

def depthOfItems : List Json → Nat
  | [] => 0
  | item :: items => max (depth item) (depthOfItems items)
termination_by structural items => items

def depthOfFields : Row → Nat
  | [] => 0
  | (_, value) :: fields => max (depth value) (depthOfFields fields)
termination_by structural fields => fields

end

mutual

/-- The value with null for every number that is not finite. -/
def finite : Json → Json
  | .real value => if value.isFinite then .real value else .null
  | .list items => .list (finiteItems items)
  | .record fields => .record (finiteFields fields)
  | value => value
termination_by structural value => value

def finiteItems : List Json → List Json
  | [] => []
  | item :: items => finite item :: finiteItems items
termination_by structural items => items

def finiteFields : Row → Row
  | [] => []
  | (key, value) :: fields => (key, finite value) :: finiteFields fields
termination_by structural fields => fields

end

mutual

/-- Whether every number in the value is finite. -/
def isFinite : Json → Bool
  | .real value => value.isFinite
  | .list items => areFinite items
  | .record fields => haveFinite fields
  | _ => true
termination_by structural value => value

def areFinite : List Json → Bool
  | [] => true
  | item :: items => isFinite item && areFinite items
termination_by structural items => items

def haveFinite : Row → Bool
  | [] => true
  | (_, value) :: fields => isFinite value && haveFinite fields
termination_by structural fields => fields

end

mutual

theorem isFinite_finite : (value : Json) → value.finite.isFinite = true
  | .real value => by
    by_cases small : value.isFinite = true
    · simp [finite, small, isFinite]
    · simp [finite, small, isFinite]
  | .list items => by simpa [finite, isFinite] using areFinite_finiteItems items
  | .record fields => by simpa [finite, isFinite] using haveFinite_finiteFields fields
  | .null | .bool _ | .int _ | .text _ => by simp [finite, isFinite]

theorem areFinite_finiteItems : (items : List Json) → areFinite (finiteItems items) = true
  | [] => rfl
  | item :: items => by
    simp [finiteItems, areFinite, isFinite_finite item, areFinite_finiteItems items]

theorem haveFinite_finiteFields : (fields : Row) → haveFinite (finiteFields fields) = true
  | [] => rfl
  | (key, value) :: fields => by
    simp [finiteFields, haveFinite, isFinite_finite value, haveFinite_finiteFields fields]

end

end MessageFlow.Json
