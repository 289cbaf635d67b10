import Mathlib.Order.Lattice
import MessageFlow.Cache

/-!
What the operations on a cache leave under each key.
-/

namespace MessageFlow

namespace Cache

variable {Time Value : Type} {cache : Cache Time Value}

theorem find?_remove (cache : Cache Time Value) (key other : String) :
    (cache.remove key).find? other = if other = key then none else cache.find? other := by
  split
  · next same => rw [same, find?_remove_self]
  · next different => exact cache.find?_remove_of_ne different

theorem find?_store (cache : Cache Time Value) (now : Time) (key other : String) (value : Value) :
    (cache.store now key value).find? other =
      if other = key then some ⟨key, value, now⟩ else cache.find? other := by
  split
  · next same => rw [same, find?_store_self]
  · next different => exact cache.find?_store_of_ne now different value

section lookup

variable [Sub Time] [LinearOrder Time] {lifetime now : Time} {key other : String}
  {entry : CacheEntry Time Value}

/-- A lookup finds an entry that has not expired, or it leaves no entry under its key. -/
theorem lookup_cases (cache : Cache Time Value) (lifetime now : Time) (key : String) :
    (∃ entry, cache.find? key = some entry ∧ now - entry.storedAt < lifetime ∧
        cache.lookup lifetime now key = (some entry.value, cache)) ∨
      (cache.lookup lifetime now key).1 = none ∧
        (cache.lookup lifetime now key).2.find? key = none := by
  unfold lookup
  cases found : cache.find? key with
  | none => exact .inr ⟨rfl, found⟩
  | some entry =>
    dsimp only
    by_cases expired : lifetime ≤ now - entry.storedAt
    · rw [if_pos expired]
      exact .inr ⟨rfl, cache.find?_remove_self key⟩
    · rw [if_neg expired]
      exact .inl ⟨entry, rfl, lt_of_not_ge expired, rfl⟩

/-- A lookup leaves the entries as they are, but for one under its key that has expired. -/
theorem find?_lookup_iff : (cache.lookup lifetime now key).2.find? other = some entry ↔
    cache.find? other = some entry ∧ (other = key → now - entry.storedAt < lifetime) := by
  unfold lookup
  cases found : cache.find? key with
  | none =>
    refine ⟨fun present => ⟨present, ?_⟩, And.left⟩
    rintro rfl
    cases found.symm.trans present
  | some old =>
    dsimp only
    split
    · next expired =>
      rw [find?_remove]
      split
      · next same =>
        refine ⟨nofun, fun ⟨present, live⟩ => ?_⟩
        rw [same] at present
        cases found.symm.trans present
        exact absurd expired (not_le_of_gt (live same))
      · next different =>
        exact ⟨fun present => ⟨present, fun same => absurd same different⟩, And.left⟩
    · next live =>
      refine ⟨fun present => ⟨present, ?_⟩, And.left⟩
      rintro rfl
      cases found.symm.trans present
      exact lt_of_not_ge live

/-- A lookup adds nothing. -/
theorem find?_of_find?_lookup
    (present : (cache.lookup lifetime now key).2.find? other = some entry) :
    cache.find? other = some entry := (find?_lookup_iff.mp present).1

/-- A lookup drops only what has expired. -/
theorem find?_lookup_of_live (present : cache.find? other = some entry)
    (live : now - entry.storedAt < lifetime) :
    (cache.lookup lifetime now key).2.find? other = some entry :=
  find?_lookup_iff.mpr ⟨present, fun _ => live⟩

/-- A lookup gives the value of an entry that has not expired. -/
theorem lookup_eq_some_iff {value : Value} : (cache.lookup lifetime now key).1 = some value ↔
    ∃ entry, cache.find? key = some entry ∧ now - entry.storedAt < lifetime ∧
      entry.value = value := by
  rcases cache.lookup_cases lifetime now key with ⟨entry, found, live, looks⟩ | ⟨none, dropped⟩
  · rw [looks]
    constructor
    · rintro ⟨⟩
      exact ⟨entry, found, live, rfl⟩
    · rintro ⟨other, also, -, rfl⟩
      cases found.symm.trans also
      rfl
  · rw [none]
    refine ⟨nofun, fun ⟨entry, found, live, _⟩ => ?_⟩
    cases dropped.symm.trans (find?_lookup_of_live found live)

end lookup

section distinct

variable (distinct : (cache.map (·.key)).Nodup) (now : Time) (key : String)
include distinct

theorem distinct_remove : ((cache.remove key).map (·.key)).Nodup :=
  (List.filter_sublist.map _).nodup distinct

theorem distinct_store (value : Value) : ((cache.store now key value).map (·.key)).Nodup := by
  refine List.nodup_cons.mpr ⟨fun present => ?_, distinct_remove distinct key⟩
  obtain ⟨entry, kept, named⟩ := List.mem_map.mp present
  exact absurd named (by simpa using (List.mem_filter.mp kept).2)

theorem distinct_lookup [Sub Time] [LinearOrder Time] (lifetime : Time) :
    ((cache.lookup lifetime now key).2.map (·.key)).Nodup := by
  unfold lookup
  split
  · exact distinct
  · split
    · exact distinct_remove distinct key
    · exact distinct

end distinct

/-- Stores a value under several keys. -/
def storeAll (cache : Cache Time Value) (now : Time) (keys : List String) (value : Value) :
    Cache Time Value :=
  keys.foldl (fun cache key => cache.store now key value) cache

def removeAll (cache : Cache Time Value) (keys : List String) : Cache Time Value :=
  keys.foldl (fun cache key => cache.remove key) cache

theorem find?_storeAll (cache : Cache Time Value) (now : Time) (keys : List String) (value : Value)
    (other : String) : (cache.storeAll now keys value).find? other =
      if other ∈ keys then some ⟨other, value, now⟩ else cache.find? other := by
  induction keys generalizing cache with
  | nil => rfl
  | cons key keys ih =>
    rw [storeAll, List.foldl_cons, ← storeAll, ih, find?_store]
    by_cases same : other = key
    · simp [same]
    · simp [same]

theorem find?_removeAll (cache : Cache Time Value) (keys : List String) (other : String) :
    (cache.removeAll keys).find? other = if other ∈ keys then none else cache.find? other := by
  induction keys generalizing cache with
  | nil => rfl
  | cons key keys ih =>
    rw [removeAll, List.foldl_cons, ← removeAll, ih, find?_remove]
    by_cases same : other = key
    · simp [same]
    · simp [same]

end Cache
end MessageFlow
