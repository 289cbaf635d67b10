import Mathlib.Algebra.Order.Sub.Defs
import MessageFlow.Proofs.Accounts.Coherence

/-!
Lookups by Instagram id and the cache. Both lookups cache an account under both of its keys, and
only the lookup by Instagram id asks whether the account is active. So the cache shows through
exactly when a lookup by id can find an account that the lookup by its Instagram id does not.
-/

namespace MessageFlow

/-- What the store has for an Instagram id: the first active account. -/
def Tables.onInstagram (tables : Tables) (name : String) : Except Failure (Option Account) :=
  tables.firstAccount
    [.equals "instagram_account_id" (.text name), .equals "is_active" (.bool true)]

/-- Every account with an Instagram id is the one that is found by it. -/
def Tables.IsAddressed (tables : Tables) : Prop :=
  ∀ id account name, tables.account id = .ok (some account) →
    account.instagramAccountId = some name → name ≠ "" →
    tables.onInstagram name = .ok (some account)

/-- A save answers with an account of the id that it was asked to save. -/
theorem KeepsId.id_of_answer {id : String} {changes : Row} {tables : Tables} {fate : Query.Fate}
    (keeps : KeepsId id changes) {account : Account}
    (answered : ((Query.update .accounts [Store.byId id] changes).meet fate tables).1.bind
      (fun rows => Account.parsed? rows.head?) = .ok (some account)) : account.id = id := by
  cases fate with
  | served =>
    obtain ⟨row, isHead, reads⟩ := Account.parsed?_eq_some.mp answered
    obtain ⟨old, selected, rfl⟩ := List.mem_map.mp (List.mem_of_head? isHead)
    have named := Store.selects_byId.mp (List.mem_filter.mp selected).2
    have same := (Account.get_id_of_parsed reads).symm.trans (keeps.get_id_update named)
    cases same
    rfl
  | unmatched => cases answered
  | refused failure => cases answered
  | lost failure => cases answered

namespace AccountService
open AccountLookup

variable {Time : Type} [AddCommGroup Time] [LinearOrder Time] {service : AccountService Time}

/-- An account that is cached under an Instagram id has expired for good, or it is cached under its
own id since the same moment. -/
def Paired (service : AccountService Time) : Prop :=
  ∀ name entry, service.cache.find? (instagramKey name) = some entry →
    entry.value.instagramAccountId = some name ∧ name ≠ "" ∧
      (service.now - entry.storedAt < service.lifetime →
        service.cache.find? (idKey entry.value.id) =
          some ⟨idKey entry.value.id, entry.value, entry.storedAt⟩)

namespace Paired

theorem of_empty (service : AccountService Time) (fresh : service.cache = .empty) :
    service.Paired := by
  intro name entry present
  rw [fresh] at present
  cases present

theorem find (paired : service.Paired) (coherent : service.Coherent)
    (unique : service.tables.UniqueAccounts) (key : String) (filters : List Filter) :
    (service.perform .served (find key filters)).2.Paired := by
  rcases service.perform_find_cases key filters with
    ⟨_, _, _, performs⟩ | ⟨cache, rfl, _, performs⟩
  · rw [performs]
    exact paired
  rw [performs]
  intro name entry present
  dsimp only at present ⊢
  rcases Cache.find?_remembering_cases present with
    ⟨account, read, isKey, rfl⟩ | ⟨kept, noKey⟩
  · obtain ⟨given, filled⟩ := instagramKey_mem_keys.mp isKey
    refine ⟨given, filled, fun _ => ?_⟩
    have isAlsoKey : idKey account.id ∈ keys account := idKey_mem_keys.mpr rfl
    rw [read]
    exact (Cache.find?_storeAll ..).trans (if_pos isAlsoKey)
  · obtain ⟨given, filled, pair⟩ := paired name entry (Cache.find?_of_find?_lookup kept)
    refine ⟨given, filled, fun live => ?_⟩
    have looked : (service.cache.lookup service.lifetime service.now key).2.find?
        (idKey entry.value.id) = _ := Cache.find?_lookup_of_live (pair live) live
    cases read : found (service.tables.firstAccount filters) with
    | none => exact looked
    | some account =>
      -- what was read is the account of this entry only if its keys are renewed, all of them
      have notRenewed : idKey entry.value.id ∉ keys account := by
        intro isKey
        have current := Tables.account_of_firstAccount unique (found_eq_some.mp read)
        rw [← idKey_mem_keys.mp isKey, coherent _ _ (pair live)] at current
        cases current
        exact noKey _ read (instagramKey_mem_keys.mpr ⟨given, filled⟩)
      exact (Cache.find?_storeAll ..).trans ((if_neg notRenewed).trans looked)

theorem save (paired : service.Paired) (coherent : service.Coherent) {id : String} {changes : Row}
    (keeps : KeepsId id changes) (fate : Query.Fate) :
    (service.save fate id changes).2.Paired := by
  intro name entry present
  rw [save_eq] at present ⊢
  dsimp only at present ⊢
  obtain ⟨kept, notSaved⟩ := Cache.find?_forgetting.mp present
  obtain ⟨looked, notPrevious⟩ := Cache.find?_forgetting.mp kept
  obtain ⟨given, filled, pair⟩ := paired name entry (Cache.find?_of_find?_lookup looked)
  refine ⟨given, filled, fun live => ?_⟩
  have isKey : instagramKey name ∈ keys entry.value := instagramKey_mem_keys.mpr ⟨given, filled⟩
  have other : entry.value.id ≠ id := by
    rintro rfl
    rcases service.cache.lookup_cases service.lifetime service.now (idKey entry.value.id) with
      ⟨previous, isPrevious, _, looks⟩ | ⟨_, dropped⟩
    · cases isPrevious.symm.trans (pair live)
      exact notPrevious entry.value (by rw [looks]) isKey
    · cases dropped.symm.trans (Cache.find?_lookup_of_live (pair live) live)
  refine Cache.find?_forgetting.mpr ⟨Cache.find?_forgetting.mpr
    ⟨Cache.find?_lookup_of_live (pair live) live, ?_⟩, ?_⟩
  · intro previous looks isKey
    rcases service.cache.lookup_cases service.lifetime service.now (idKey id) with
      ⟨entry', isEntry, _, finds⟩ | ⟨none, _⟩
    · rw [finds] at looks
      cases looks
      exact other ((idKey_mem_keys.mp isKey).trans (coherent.named id entry' isEntry))
    · cases none.symm.trans looks
  · intro account saved isKey
    exact other ((idKey_mem_keys.mp isKey).trans (keeps.id_of_answer (found_eq_some.mp saved)))

variable [IsOrderedAddMonoid Time]

theorem after (paired : service.Paired) (coherent : service.Coherent)
    (unique : service.tables.UniqueAccounts) {action : Action Time} (own : action.IsOwn) :
    (service.after action).Paired := by
  cases action with
  | get id => exact paired.find coherent unique _ _
  | getByInstagramId name => exact paired.find coherent unique _ _
  | save id changes keeps fate => exact paired.save coherent keeps fate
  | elapse amount forward =>
    intro name entry present
    obtain ⟨given, filled, pair⟩ := paired name entry present
    refine ⟨given, filled, fun live => pair (lt_of_le_of_lt ?_ live)⟩
    exact sub_le_sub_right (le_add_of_nonneg_right forward) entry.storedAt
  | rewrite tables alsoUnique => exact own.elim

theorem run (paired : service.Paired) (coherent : service.Coherent)
    (unique : service.tables.UniqueAccounts) {actions : List (Action Time)}
    (own : ∀ action ∈ actions, action.IsOwn) : (service.run actions).Paired := by
  induction actions generalizing service with
  | nil => exact paired
  | cons action actions ih =>
    have isOwn := own action (.head _)
    exact ih (paired.after coherent unique isOwn) (coherent.after unique isOwn)
      (uniqueAccounts_after unique action) fun later present => own later (.tail _ present)

end Paired

/-- The service with nothing cached. -/
def bare (service : AccountService Time) : AccountService Time := { service with cache := .empty }

theorem getByInstagramId_of_empty (service : AccountService Time) (fresh : service.cache = .empty)
    (name : String) :
    (service.getByInstagramId name).1 = service.tables.onInstagram name := by
  unfold getByInstagramId AccountLookup.getByInstagramId
  rcases service.perform_find_cases (instagramKey name) _ with
    ⟨entry, isEntry, _, _⟩ | ⟨cache, _, _, performs⟩
  · rw [fresh] at isEntry
    cases isEntry
  · rw [performs]
    rfl

/-- A lookup by Instagram id gives what the store has for this id, or the present account of its
own id. -/
theorem getByInstagramId_cases (coherent : service.Coherent) (paired : service.Paired)
    (name : String) :
    (service.getByInstagramId name).1 = service.tables.onInstagram name ∨
      ∃ account, (service.getByInstagramId name).1 = .ok (some account) ∧
        service.tables.account account.id = .ok (some account) ∧
        account.instagramAccountId = some name ∧ name ≠ "" := by
  unfold getByInstagramId AccountLookup.getByInstagramId
  rcases service.perform_find_cases (instagramKey name) _ with
    ⟨entry, isEntry, live, performs⟩ | ⟨cache, _, _, performs⟩
  · obtain ⟨given, filled, pair⟩ := paired name entry isEntry
    have stored := coherent _ _ (pair live)
    exact .inr ⟨entry.value, by rw [performs], stored, given, filled⟩
  · refine .inl ?_
    rw [performs]
    rfl

/-- A lookup by id leaves the account under its Instagram id, too. -/
theorem getByInstagramId_after_get (service : AccountService Time) (fresh : service.cache = .empty)
    {id name : String}
    {account : Account} (stored : service.tables.account id = .ok (some account))
    (given : account.instagramAccountId = some name) (filled : name ≠ "") :
    ((service.after (.get id)).getByInstagramId name).1 = .ok (some account) := by
  have isKey : instagramKey name ∈ keys account := instagramKey_mem_keys.mpr ⟨given, filled⟩
  have caches : (service.after (.get id)).cache.find? (instagramKey name) =
        some ⟨instagramKey name, account, service.now⟩ ∧
      (service.after (.get id)).now = service.now := by
    rw [after, get, AccountLookup.get]
    rcases service.perform_find_cases (idKey id) [Store.byId id] with
      ⟨entry, isEntry, _, _⟩ | ⟨cache, _, _, performs⟩
    · rw [fresh] at isEntry
      cases isEntry
    · rw [performs, Tables.firstAccount_byId, stored]
      exact ⟨(Cache.find?_storeAll ..).trans (if_pos isKey), rfl⟩
  have live : (service.after (.get id)).now - service.now < (service.after (.get id)).lifetime := by
    rw [caches.2, lifetime_after, sub_self]
    exact service.positive
  generalize service.after (.get id) = later at caches live
  unfold getByInstagramId AccountLookup.getByInstagramId
  rcases later.perform_find_cases (instagramKey name) _ with
    ⟨entry, isEntry, _, performs⟩ | ⟨cache, rfl, dropped, _⟩
  · cases isEntry.symm.trans caches.1
    rw [performs]
  · cases dropped.symm.trans (Cache.find?_lookup_of_live caches.1 live)

/-- The cache does not show in lookups by Instagram id, whatever the service does on tables of this
kind and however long it waits in between. -/
def Transparent (service : AccountService Time) (kind : Tables → Prop) : Prop :=
  ∀ tables, kind tables → ∀ actions : List (Action Time), (∀ action ∈ actions, action.IsOwn) →
    (∀ earlier, earlier <+: actions → kind ({ service with tables }.run earlier).tables) →
    ∀ name, (({ service with tables }.run actions).getByInstagramId name).1 =
      (({ service with tables }.run actions).bare.getByInstagramId name).1

/-- The cache does not show on tables of a kind exactly if all of them are addressed. -/
theorem transparent_iff [IsOrderedAddMonoid Time] (service : AccountService Time)
    (fresh : service.cache = .empty) {kind : Tables → Prop}
    (unique : ∀ tables, kind tables → tables.UniqueAccounts) :
    service.Transparent kind ↔ ∀ tables, kind tables → tables.IsAddressed := by
  constructor
  · intro transparent tables isKind id account name stored given filled
    have same (earlier : List (Action Time)) (isEarlier : earlier <+: [.get id]) :
        ({ service with tables }.run earlier).tables = tables := by
      rcases List.prefix_cons_iff.mp isEarlier with rfl | ⟨rest, rfl, isRest⟩
      · rfl
      · rw [List.prefix_nil.mp isRest]
        exact tables_perform_find { service with tables } (idKey id) [Store.byId id]
    have shown := getByInstagramId_after_get { service with tables } fresh stored given filled
    have agrees := transparent tables isKind [.get id] (by simp [Action.IsOwn])
      (fun earlier isEarlier => (same earlier isEarlier).symm ▸ isKind) name
    rw [getByInstagramId_of_empty (bare _) rfl] at agrees
    rw [← same _ List.prefix_rfl]
    exact agrees.symm.trans shown
  · intro addressed tables isKind actions own stays name
    have coherent := Coherent.of_empty { service with tables } fresh
    have paired := (Paired.of_empty { service with tables } fresh).run coherent
      (unique tables isKind) own
    rw [getByInstagramId_of_empty (bare _) rfl]
    rcases getByInstagramId_cases (coherent.run (unique tables isKind) own) paired name with
      same | ⟨account, shown, stored, given, filled⟩
    · exact same
    · rw [shown]
      exact (addressed _ (stays actions List.prefix_rfl) _ account name stored given filled).symm

namespace Storefront

/-- The only account, active or not. -/
def rowOnInstagram (active : Bool) : Row :=
  [("id", .text "account"), ("username", .text "shop"), ("instagram_account_id", .text "ig"),
    ("is_active", .bool active)]

def onInstagram (active : Bool) : AccountService Int :=
  { shop with tables := { accounts := ⟨[rowOnInstagram active], 0⟩ } }

theorem unique_onInstagram (active : Bool) : (onInstagram active).tables.UniqueAccounts :=
  List.nodup_singleton _

theorem addressed_active : (onInstagram true).tables.IsAddressed := by
  intro id account name stored given filled
  obtain ⟨row, isRow, reads⟩ := Account.parsed?_eq_some.mp stored
  obtain rfl := List.mem_singleton.mp (mem_of_rowOf? isRow).1
  have isRead : Account.parsed (rowOnInstagram true) =
      .ok { id := "account", username := "shop", instagramAccountId := some "ig" } := by
    decide +kernel
  cases isRead.symm.trans reads
  cases given
  decide +kernel

end Storefront

open Storefront in
/-- An active account is alone on its Instagram id, and its row is not written. -/
theorem transparent_active : (onInstagram true).Transparent (· = (onInstagram true).tables) := by
  have unique (tables : Tables) (same : tables = (onInstagram true).tables) :
      tables.UniqueAccounts := same ▸ unique_onInstagram true
  refine (transparent_iff (onInstagram true) rfl unique).mpr ?_
  rintro tables rfl
  exact addressed_active

open Storefront in
/-- An inactive account that was looked up by its id is found by its Instagram id, too. -/
theorem not_always_transparent : ¬ ∀ (service : AccountService Int) (actions : List (Action Int)),
    service.tables.UniqueAccounts → service.cache = .empty → (∀ action ∈ actions, action.IsOwn) →
    ∀ name, ((service.run actions).getByInstagramId name).1 =
      ((service.run actions).bare.getByInstagramId name).1 := by
  intro always
  have same := always (onInstagram false) [.get "account"] (unique_onInstagram false) rfl
    (by simp [Action.IsOwn]) "ig"
  revert same
  decide +kernel

end AccountService
end MessageFlow
