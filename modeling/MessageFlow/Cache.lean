/-!
A cache whose entries expire a fixed time after they were stored. Expired entries are dropped when
they are next looked up.
-/

namespace MessageFlow

structure CacheEntry (Time Value : Type) where
  key : String
  value : Value
  storedAt : Time
  deriving DecidableEq, Repr

/-- Entries with distinct keys. -/
abbrev Cache (Time Value : Type) := List (CacheEntry Time Value)

namespace Cache

variable {Time Value : Type}

def empty : Cache Time Value := []

def find? (cache : Cache Time Value) (key : String) : Option (CacheEntry Time Value) :=
  List.find? (·.key == key) cache

def remove (cache : Cache Time Value) (key : String) : Cache Time Value :=
  List.filter (·.key != key) cache

/-- Stores a value, in place of an earlier one with the same key. -/
def store (cache : Cache Time Value) (now : Time) (key : String) (value : Value) :
    Cache Time Value :=
  ⟨key, value, now⟩ :: cache.remove key

@[simp] theorem find?_remove_self (cache : Cache Time Value) (key : String) :
    (cache.remove key).find? key = none := by
  simp [find?, remove]

theorem find?_remove_of_ne (cache : Cache Time Value) {key other : String}
    (different : other ≠ key) : (cache.remove key).find? other = cache.find? other := by
  induction cache with
  | nil => rfl
  | cons entry rest ih =>
    by_cases dropped : entry.key = key
    · have passed : (key == other) = false := beq_false_of_ne (Ne.symm different)
      simpa [find?, remove, dropped, List.find?, passed] using ih
    · by_cases found : entry.key = other
      · simp [find?, remove, found, different]
      · simpa [find?, remove, dropped, found] using ih

@[simp] theorem find?_store_self (cache : Cache Time Value) (now : Time) (key : String)
    (value : Value) : (cache.store now key value).find? key = some ⟨key, value, now⟩ := by
  simp [find?, store]

theorem find?_store_of_ne (cache : Cache Time Value) (now : Time) {key other : String}
    (different : other ≠ key) (value : Value) :
    (cache.store now key value).find? other = cache.find? other := by
  have passed : ¬ key = other := fun same => different same.symm
  simpa [find?, store, passed] using find?_remove_of_ne cache different

/-- The value stored less than `lifetime` ago; an older entry is dropped. -/
def lookup [Sub Time] [LE Time] [DecidableLE Time] (cache : Cache Time Value) (lifetime now : Time)
    (key : String) : Option Value × Cache Time Value :=
  match cache.find? key with
  | none => (none, cache)
  | some entry =>
    if lifetime ≤ now - entry.storedAt then (none, cache.remove key) else (some entry.value, cache)

/-- Whether a lookup finds a value. It drops an older entry as well. -/
def contains [Sub Time] [LE Time] [DecidableLE Time] (cache : Cache Time Value)
    (lifetime now : Time) (key : String) : Bool × Cache Time Value :=
  let (found, cache) := cache.lookup lifetime now key
  (found.isSome, cache)

/-- Drops an entry and tells whether there was one. -/
def invalidate (cache : Cache Time Value) (key : String) : Bool × Cache Time Value :=
  ((cache.find? key).isSome, cache.remove key)

end Cache
end MessageFlow
