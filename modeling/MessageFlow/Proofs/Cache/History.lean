import Mathlib.Algebra.Order.BigOperators.Group.List
import Mathlib.Data.List.Induction
import Mathlib.Data.Set.Card
import Mathlib.Tactic.Abel
import MessageFlow.Proofs.Cache.Lookup

/-!
A cache answers as its history tells. What a lookup gives, the history of stores, invalidations and
clearings decides, and the time that has passed; lookups have no part in it. Which entries are left,
and so the size of the cache and the answers of invalidations, depends on lookups too: one that
comes too late drops the entry.
-/

namespace MessageFlow.Cache

/-- What is asked of a cache, one thing at a time, and the time that passes meanwhile. -/
inductive Call (Time Value : Type) [Zero Time] [LE Time] where
  | store (key : String) (value : Value)
  | lookup (key : String)
  | contains (key : String)
  | invalidate (key : String)
  | clear
  | elapse (amount : Time) (forward : 0 ≤ amount)

variable {Time Value : Type} [AddCommGroup Time] [LinearOrder Time]

namespace Call

/-- The call puts an end to what was stored under the key before. -/
def Ends (call : Call Time Value) (key : String) : Prop :=
  match call with
  | .store other _ | .invalidate other => other = key
  | .clear => True
  | .lookup _ | .contains _ | .elapse _ _ => False

/-- The call looks the key up. -/
def LooksUp (call : Call Time Value) (key : String) : Prop :=
  match call with
  | .lookup other | .contains other => other = key
  | .store _ _ | .invalidate _ | .clear | .elapse _ _ => False

/-- The call only reads the cache. -/
def Reads (call : Call Time Value) : Prop := ∃ key, call.LooksUp key

def duration : Call Time Value → Time
  | .elapse amount _ => amount
  | .store _ _ | .lookup _ | .contains _ | .invalidate _ | .clear => 0

theorem duration_of_reads {call : Call Time Value} (reads : call.Reads) : call.duration = 0 := by
  obtain ⟨key, looksUp⟩ := reads
  cases call with
  | elapse amount forward => exact looksUp.elim
  | store | lookup | contains | invalidate | clear => rfl

theorem not_ends_of_reads {call : Call Time Value} (reads : call.Reads) (key : String) :
    ¬ call.Ends key := by
  obtain ⟨looked, looksUp⟩ := reads
  cases call with
  | store | invalidate | clear => exact looksUp.elim
  | lookup | contains | elapse => exact id

theorem duration_nonneg (call : Call Time Value) : 0 ≤ call.duration := by
  cases call with
  | elapse amount forward => exact forward
  | store | lookup | contains | invalidate | clear => exact le_rfl

end Call

/-- The time that passes during the calls. -/
def elapsed (calls : List (Call Time Value)) : Time := (calls.map Call.duration).sum

/-- The key was last stored with this value, right before the later calls, and is neither
invalidated nor cleared in them. -/
def LastStored (calls : List (Call Time Value)) (key : String) (value : Value)
    (later : List (Call Time Value)) : Prop :=
  (∃ earlier, calls = earlier ++ .store key value :: later) ∧ ∀ call ∈ later, ¬ call.Ends key

/-- The key was last stored with this value, that long ago, and is not dropped since. -/
def StoredFor (calls : List (Call Time Value)) (key : String) (value : Value) (age : Time) : Prop :=
  ∃ later, LastStored calls key value later ∧ elapsed later = age

/-- No lookup of the key comes when its lifetime is over. -/
def LookedUpInTime (lifetime : Time) (key : String) (later : List (Call Time Value)) : Prop :=
  ∀ before call after, later = before ++ call :: after → call.LooksUp key →
    elapsed before < lifetime

/-- The key is held since it was last stored, for that long. -/
def HeldFor (lifetime : Time) (calls : List (Call Time Value)) (key : String) (value : Value)
    (age : Time) : Prop :=
  ∃ later, LastStored calls key value later ∧ LookedUpInTime lifetime key later ∧
    elapsed later = age

/-- The key is held, be its lifetime over or not. -/
def Holds (lifetime : Time) (calls : List (Call Time Value)) (key : String) : Prop :=
  ∃ value later, LastStored calls key value later ∧ LookedUpInTime lifetime key later

/-- Cutting a list at an item: at its last one, or before that. -/
theorem concat_eq_append_cons_iff {α : Type} {items front back : List α} {last item : α} :
    items ++ [last] = front ++ item :: back ↔
      (back = [] ∧ items = front ∧ last = item) ∨
        ∃ rest, back = rest ++ [last] ∧ items = front ++ item :: rest := by
  rcases List.eq_nil_or_concat' back with rfl | ⟨rest, other, rfl⟩
  · simp
  · have cut : items ++ [last] = front ++ item :: (rest ++ [other]) ↔
        items = front ++ item :: rest ∧ last = other := by
      rw [← List.cons_append, ← List.append_assoc, ← List.concat_eq_append, ← List.concat_eq_append,
        List.concat_inj]
    rw [cut]
    constructor
    · rintro ⟨same, rfl⟩
      exact .inr ⟨rest, rfl, same⟩
    · rintro (⟨none, -⟩ | ⟨others, same, front⟩)
      · exact absurd none (by simp)
      · obtain ⟨rfl, ends⟩ := List.append_inj' same rfl
        exact ⟨front, (List.cons.inj ends).1.symm⟩

section history

variable {calls later : List (Call Time Value)} {call : Call Time Value} {key : String}
  {value : Value} {age lifetime : Time}

theorem elapsed_append (calls later : List (Call Time Value)) :
    elapsed (calls ++ later) = elapsed calls + elapsed later := by
  rw [elapsed, List.map_append, List.sum_append]
  rfl

theorem elapsed_concat (calls : List (Call Time Value)) (call : Call Time Value) :
    elapsed (calls ++ [call]) = elapsed calls + call.duration := by
  rw [elapsed_append]
  exact congrArg (elapsed calls + ·) List.sum_singleton

/-- The last call has stored the key, or it lets the key be. -/
theorem lastStored_concat : LastStored (calls ++ [call]) key value later ↔
    (call = .store key value ∧ later = []) ∨
      ∃ before, later = before ++ [call] ∧ ¬ call.Ends key ∧ LastStored calls key value before := by
  constructor
  · rintro ⟨⟨earlier, split⟩, spared⟩
    rcases concat_eq_append_cons_iff.mp split with ⟨rfl, -, isStore⟩ | ⟨before, rfl, front⟩
    · exact .inl ⟨isStore, rfl⟩
    · exact .inr ⟨before, rfl, spared call (by simp), ⟨earlier, front⟩,
        fun other present => spared other (List.mem_append_left _ present)⟩
  · rintro (⟨rfl, rfl⟩ | ⟨before, rfl, lets, ⟨earlier, rfl⟩, spared⟩)
    · exact ⟨⟨calls, rfl⟩, fun _ none => absurd none List.not_mem_nil⟩
    · refine ⟨⟨earlier, by simp⟩, fun other present => ?_⟩
      rcases List.mem_append.mp present with early | last
      · exact spared other early
      · rw [List.mem_singleton.mp last]
        exact lets

theorem lookedUpInTime_nil (lifetime : Time) (key : String) :
    LookedUpInTime lifetime key ([] : List (Call Time Value)) := by
  intro before call after split
  simp at split

theorem lookedUpInTime_concat : LookedUpInTime lifetime key (later ++ [call]) ↔
    LookedUpInTime lifetime key later ∧ (call.LooksUp key → elapsed later < lifetime) := by
  constructor
  · intro inTime
    refine ⟨fun before other after split looks => ?_, inTime later call [] rfl⟩
    exact inTime before other (after ++ [call]) (by simp [split]) looks
  · rintro ⟨inTime, last⟩ before other after split looks
    rcases concat_eq_append_cons_iff.mp split with ⟨-, rfl, rfl⟩ | ⟨front, -, earlier⟩
    · exact last looks
    · exact inTime before other front earlier looks

/-- What holds since the key was last stored, after one call more. -/
theorem exists_lastStored_concat {holds : List (Call Time Value) → Prop} :
    (∃ later, LastStored (calls ++ [call]) key value later ∧ holds later) ↔
      (call = .store key value ∧ holds []) ∨
        (¬ call.Ends key ∧ ∃ later, LastStored calls key value later ∧ holds (later ++ [call])) := by
  constructor
  · rintro ⟨later, stored, since⟩
    rcases lastStored_concat.mp stored with ⟨isStore, rfl⟩ | ⟨before, rfl, lets, stored⟩
    · exact .inl ⟨isStore, since⟩
    · exact .inr ⟨lets, before, stored, since⟩
  · rintro (⟨isStore, since⟩ | ⟨lets, before, stored, since⟩)
    · exact ⟨[], lastStored_concat.mpr (.inl ⟨isStore, rfl⟩), since⟩
    · exact ⟨before ++ [call], lastStored_concat.mpr (.inr ⟨before, rfl, lets, stored⟩), since⟩

theorem elapsed_concat_eq_iff :
    elapsed (later ++ [call]) = age ↔ elapsed later = age - call.duration := by
  rw [elapsed_concat, eq_sub_iff_add_eq]

/-- What is stored after one call more. -/
theorem storedFor_concat : StoredFor (calls ++ [call]) key value age ↔
    (call = .store key value ∧ age = 0) ∨
      (¬ call.Ends key ∧ StoredFor calls key value (age - call.duration)) := by
  rw [StoredFor, exists_lastStored_concat]
  simp only [elapsed_concat_eq_iff]
  rw [StoredFor, eq_comm (a := age)]
  rfl

/-- What is held after one call more. -/
theorem heldFor_concat : HeldFor lifetime (calls ++ [call]) key value age ↔
    (call = .store key value ∧ age = 0) ∨
      (¬ call.Ends key ∧ (call.LooksUp key → age - call.duration < lifetime) ∧
        HeldFor lifetime calls key value (age - call.duration)) := by
  rw [HeldFor, exists_lastStored_concat]
  simp only [elapsed_concat_eq_iff, lookedUpInTime_concat]
  constructor
  · rintro (⟨isStore, -, rfl⟩ | ⟨lets, later, stored, ⟨inTime, last⟩, aged⟩)
    · exact .inl ⟨isStore, rfl⟩
    · exact .inr ⟨lets, aged ▸ last, later, stored, inTime, aged⟩
  · rintro (⟨isStore, rfl⟩ | ⟨lets, last, later, stored, inTime, aged⟩)
    · exact .inl ⟨isStore, lookedUpInTime_nil lifetime key, rfl⟩
    · exact .inr ⟨lets, later, stored, ⟨inTime, aged.symm ▸ last⟩, aged⟩

/-- What is stored does not depend on what is read. -/
theorem storedFor_append_cons (reads : call.Reads) (calls later : List (Call Time Value)) :
    StoredFor (calls ++ call :: later) key value age ↔
      StoredFor (calls ++ later) key value age := by
  induction later using List.reverseRecOn generalizing age with
  | nil =>
    have noStore : call ≠ .store key value := by
      rintro rfl
      exact Call.not_ends_of_reads reads key rfl
    rw [storedFor_concat, Call.duration_of_reads reads, sub_zero, List.append_nil]
    exact ⟨fun stored => (stored.resolve_left fun left => noStore left.1).2,
      fun stored => .inr ⟨Call.not_ends_of_reads reads key, stored⟩⟩
  | append_singleton later last ih =>
    rw [← List.cons_append, ← List.append_assoc, ← List.append_assoc, storedFor_concat,
      storedFor_concat, ih]

variable [IsOrderedAddMonoid Time]

theorem elapsed_nonneg (calls : List (Call Time Value)) : 0 ≤ elapsed calls := by
  apply List.sum_nonneg
  intro amount present
  obtain ⟨call, -, rfl⟩ := List.mem_map.mp present
  exact call.duration_nonneg

/-- As long as its lifetime is not over, no lookup has come too late. -/
theorem lookedUpInTime_of_elapsed (young : elapsed later < lifetime) :
    LookedUpInTime lifetime key later := by
  rintro before call after rfl -
  refine lt_of_le_of_lt ?_ young
  rw [elapsed_append]
  exact le_add_of_nonneg_right (elapsed_nonneg _)

end history

/-- A cache with its clock. -/
structure Clocked (Time Value : Type) where
  cache : Cache Time Value
  now : Time

namespace Clocked

variable {lifetime start : Time} {clocked : Clocked Time Value} {calls : List (Call Time Value)}

def after (lifetime : Time) (clocked : Clocked Time Value) :
    Call Time Value → Clocked Time Value
  | .store key value => { clocked with cache := clocked.cache.store clocked.now key value }
  | .lookup key => { clocked with cache := (clocked.cache.lookup lifetime clocked.now key).2 }
  | .contains key => { clocked with cache := (clocked.cache.contains lifetime clocked.now key).2 }
  | .invalidate key => { clocked with cache := (clocked.cache.invalidate key).2 }
  | .clear => { clocked with cache := .empty }
  | .elapse amount _ => { clocked with now := clocked.now + amount }

/-- What a lookup of the key gives now. -/
def get (lifetime : Time) (clocked : Clocked Time Value) (key : String) : Option Value :=
  (clocked.cache.lookup lifetime clocked.now key).1

/-- An empty cache after a history. -/
def run (lifetime start : Time) (calls : List (Call Time Value)) : Clocked Time Value :=
  calls.foldl (after lifetime) ⟨.empty, start⟩

theorem run_concat (lifetime start : Time) (calls : List (Call Time Value))
    (call : Call Time Value) :
    run lifetime start (calls ++ [call]) = (run lifetime start calls).after lifetime call := by
  rw [run, List.foldl_append]
  rfl

/-- There is an entry exactly for each key that the history holds, with its value and its age. -/
structure Tells (lifetime : Time) (calls : List (Call Time Value)) (clocked : Clocked Time Value) :
    Prop where
  distinct : (clocked.cache.map (·.key)).Nodup
  entry_iff : ∀ key entry, clocked.cache.find? key = some entry ↔ entry.key = key ∧
    HeldFor lifetime calls key entry.value (clocked.now - entry.storedAt)

namespace Tells

variable {key other : String} {value : Value} {age : Time} {entry : CacheEntry Time Value}

theorem empty (lifetime start : Time) :
    Tells lifetime [] (⟨.empty, start⟩ : Clocked Time Value) where
  distinct := List.nodup_nil
  entry_iff key entry := by
    constructor
    · intro found
      cases found
    · rintro ⟨-, later, ⟨⟨earlier, split⟩, -⟩, -⟩
      simp at split

/-- A call that looks up, by whatever name. -/
theorem after_lookup (tells : Tells lifetime calls clocked) {call : Call Time Value}
    {looked : String} (lets : ∀ key, ¬ call.Ends key)
    (looksUp : ∀ key, call.LooksUp key ↔ key = looked) (instant : call.duration = 0)
    (noStore : ∀ key value, call ≠ .store key value) :
    Tells lifetime (calls ++ [call])
      { clocked with cache := (clocked.cache.lookup lifetime clocked.now looked).2 } where
  distinct := distinct_lookup tells.distinct clocked.now looked lifetime
  entry_iff key entry := by
    rw [find?_lookup_iff, tells.entry_iff, heldFor_concat, instant, sub_zero, looksUp]
    constructor
    · rintro ⟨⟨named, held⟩, inTime⟩
      exact ⟨named, .inr ⟨lets key, inTime, held⟩⟩
    · rintro ⟨named, ⟨isStore, -⟩ | ⟨-, inTime, held⟩⟩
      · exact absurd isStore (noStore key entry.value)
      · exact ⟨⟨named, held⟩, inTime⟩

/-- What the history tells, it tells after one call more. -/
theorem after (tells : Tells lifetime calls clocked) (call : Call Time Value) :
    Tells lifetime (calls ++ [call]) (clocked.after lifetime call) := by
  cases call with
  | lookup looked =>
    exact tells.after_lookup (fun _ => id) (fun _ => eq_comm) rfl nofun
  | contains looked =>
    exact tells.after_lookup (fun _ => id) (fun _ => eq_comm) rfl nofun
  | store stored value =>
    refine ⟨distinct_store tells.distinct clocked.now stored value, fun key entry => ?_⟩
    obtain ⟨name, kept, time⟩ := entry
    rw [heldFor_concat, Clocked.after, find?_store]
    by_cases same : key = stored
    · simp [same, Call.Ends, sub_eq_zero, eq_comm]
    · simp [same, Ne.symm same, Call.Ends, Call.LooksUp, Call.duration, tells.entry_iff]
  | invalidate dropped =>
    refine ⟨distinct_remove tells.distinct dropped, fun key entry => ?_⟩
    rw [heldFor_concat, Clocked.after, invalidate, find?_remove]
    by_cases same : key = dropped
    · simp [same, Call.Ends]
    · simp [same, Ne.symm same, Call.Ends, Call.LooksUp, Call.duration, tells.entry_iff]
  | clear =>
    refine ⟨List.nodup_nil, fun key entry => ?_⟩
    rw [heldFor_concat]
    simp [Clocked.after, Cache.empty, Cache.find?, Call.Ends]
  | elapse amount forward =>
    refine ⟨tells.distinct, fun key entry => ?_⟩
    have aged : clocked.now + amount - entry.storedAt - amount = clocked.now - entry.storedAt := by
      abel
    rw [heldFor_concat]
    simp [Clocked.after, Call.Ends, Call.LooksUp, Call.duration, aged, tells.entry_iff]

theorem run (lifetime start : Time) (calls : List (Call Time Value)) :
    Tells lifetime calls (run lifetime start calls) := by
  induction calls using List.reverseRecOn with
  | nil => exact .empty lifetime start
  | append_singleton calls call ih =>
    rw [run_concat]
    exact ih.after call

end Tells

/-- A lookup gives what was stored last, as long as its lifetime is not over. -/
theorem get_run_iff [IsOrderedAddMonoid Time] {key : String} {value : Value} :
    (run lifetime start calls).get lifetime key = some value ↔
      ∃ age, StoredFor calls key value age ∧ age < lifetime := by
  rw [get, lookup_eq_some_iff]
  constructor
  · rintro ⟨entry, present, young, rfl⟩
    obtain ⟨-, later, stored, -, aged⟩ :=
      ((Tells.run lifetime start calls).entry_iff _ _).mp present
    exact ⟨_, ⟨later, stored, aged⟩, young⟩
  · rintro ⟨_, ⟨later, stored, rfl⟩, young⟩
    refine ⟨⟨key, value, (run lifetime start calls).now - elapsed later⟩, ?_, ?_, rfl⟩
    · refine ((Tells.run lifetime start calls).entry_iff _ _).mpr ⟨rfl, later, stored, ?_, ?_⟩
      · exact lookedUpInTime_of_elapsed young
      · rw [sub_sub_cancel]
    · rwa [sub_sub_cancel]

/-- There is an entry for each key that the history holds. -/
theorem isSome_find?_run_iff (lifetime start : Time) (calls : List (Call Time Value))
    (key : String) :
    ((run lifetime start calls).cache.find? key).isSome ↔ Holds lifetime calls key := by
  rw [Option.isSome_iff_exists]
  constructor
  · rintro ⟨entry, present⟩
    obtain ⟨-, later, stored, inTime, -⟩ :=
      ((Tells.run lifetime start calls).entry_iff _ _).mp present
    exact ⟨entry.value, later, stored, inTime⟩
  · rintro ⟨value, later, stored, inTime⟩
    refine ⟨⟨key, value, (run lifetime start calls).now - elapsed later⟩, ?_⟩
    refine ((Tells.run lifetime start calls).entry_iff _ _).mpr ⟨rfl, later, stored, inTime, ?_⟩
    rw [sub_sub_cancel]

/-- The size of the cache is the number of keys that the history holds. -/
theorem encard_holds : {key | Holds lifetime calls key}.encard =
    (run lifetime start calls).cache.length := by
  have keys : {key | Holds lifetime calls key} =
      {key | key ∈ (run lifetime start calls).cache.map (·.key)} := by
    ext key
    have held := isSome_find?_run_iff lifetime start calls key
    simp [← held, find?]
  rw [keys, ← List.coe_toFinset, Set.encard_coe_eq_coe_finsetCard,
    List.toFinset_card_of_nodup (Tells.run lifetime start calls).distinct, List.length_map]

end Clocked

open Clocked in
/-- A cache answers as its history tells. A lookup gives the value stored last under the key, if it
was stored less than the lifetime ago and is not dropped since; whether a key is contained agrees
with that. Dropping a key tells whether the history holds it, and the size of the cache counts the
keys held. Reading the cache does not change what any later lookup gives. -/
theorem answers_history [IsOrderedAddMonoid Time] (lifetime start : Time)
    (calls : List (Call Time Value)) :
    let clocked := run lifetime start calls
    (∀ key value, clocked.get lifetime key = some value ↔
      ∃ age, StoredFor calls key value age ∧ age < lifetime) ∧
    (∀ key, (clocked.cache.contains lifetime clocked.now key).1 =
      (clocked.get lifetime key).isSome) ∧
    (∀ key, (clocked.cache.invalidate key).1 = true ↔ Holds lifetime calls key) ∧
    {key | Holds lifetime calls key}.encard = clocked.cache.length ∧
    ∀ read : Call Time Value, read.Reads → ∀ later key,
      (run lifetime start (calls ++ read :: later)).get lifetime key =
        (run lifetime start (calls ++ later)).get lifetime key := by
  refine ⟨fun _ _ => get_run_iff, fun _ => rfl, isSome_find?_run_iff lifetime start calls,
    encard_holds, ?_⟩
  intro read reads later key
  ext value
  simp only [get_run_iff, storedFor_append_cons reads]

namespace Example

/-- A value whose lifetime of ten is over. -/
def late : List (Call Int Nat) := [.store "welcome" 3, .elapse 10 (by decide)]

def refreshed : List (Call Int Nat) := [.store "welcome" 4, .elapse 9 (by decide)]

end Example

open Clocked Example in
/-- The value that is over is held until it is looked up, and the lookup does not keep a new value
from being found. -/
theorem answers_history_late : Holds 10 late "welcome" ∧
    ¬ Holds 10 (late ++ [.lookup "welcome"]) "welcome" ∧ (.lookup "welcome" : Call Int Nat).Reads ∧
    (run 10 0 (late ++ .lookup "welcome" :: refreshed)).get 10 "welcome" = some 4 := by
  have reads : (.lookup "welcome" : Call Int Nat).Reads := ⟨"welcome", rfl⟩
  obtain ⟨-, -, drops, -, unread⟩ := answers_history (10 : Int) 0 late
  obtain ⟨-, -, dropsRead, -, -⟩ := answers_history (10 : Int) 0 (late ++ [.lookup "welcome"])
  refine ⟨(drops "welcome").mp (by decide), fun holds => ?_, reads, ?_⟩
  · exact absurd ((dropsRead "welcome").mpr holds) (by decide)
  · exact (unread _ reads refreshed "welcome").trans (by decide)

end MessageFlow.Cache
