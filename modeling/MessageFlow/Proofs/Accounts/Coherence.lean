import Mathlib.Data.List.Induction
import MessageFlow.Proofs.Accounts.Service
import MessageFlow.Simulation.World

/-!
The cache is coherent for lookups by id. As long as the accounts are written through the service,
a lookup gives what the current row reads as, and rows that are written past the service are shown
no later than the lifetime of a cached account.
-/

namespace MessageFlow

variable {Time : Type} [AddCommGroup Time] [LinearOrder Time]

namespace AccountService
open AccountLookup

variable {service : AccountService Time} {key id : String} {filters : List Filter}
  {entry : CacheEntry Time Account}

/-- A lookup answers with a cached account that has not expired, or with what the store has. -/
theorem perform_find_cases (service : AccountService Time) (key : String) (filters : List Filter) :
    (∃ entry, service.cache.find? key = some entry ∧
        service.now - entry.storedAt < service.lifetime ∧
        service.perform .served (find key filters) = (.ok (some entry.value), service)) ∨
      ∃ cache, (service.cache.lookup service.lifetime service.now key).2 = cache ∧
        cache.find? key = none ∧
        service.perform .served (find key filters) =
          (service.tables.firstAccount filters, { service with
            cache := cache.remembering service.now (found (service.tables.firstAccount filters)) })
    := by
  rw [perform_find]
  rcases service.cache.lookup_cases service.lifetime service.now key with
    ⟨entry, isEntry, live, looked⟩ | ⟨none, dropped⟩
  · refine .inl ⟨entry, isEntry, live, ?_⟩
    rw [looked]
  · refine .inr ⟨_, rfl, dropped, ?_⟩
    generalize service.cache.lookup service.lifetime service.now key = looked at none
    obtain ⟨account?, cache⟩ := looked
    cases none
    rfl

theorem tables_perform_find (service : AccountService Time) (key : String) (filters : List Filter) :
    (service.perform .served (find key filters)).2.tables = service.tables := by
  rcases service.perform_find_cases key filters with
    ⟨entry, _, _, performs⟩ | ⟨cache, _, _, performs⟩
  · rw [performs]
  · rw [performs]

/-- What is cached after a lookup was cached before, or the lookup has just read it. -/
theorem find?_perform_find {other : String}
    (present : (service.perform .served (find key filters)).2.cache.find? other = some entry) :
    service.cache.find? other = some entry ∨
      ∃ account, service.tables.firstAccount filters = .ok (some account) ∧
        other ∈ keys account ∧ entry = ⟨other, account, service.now⟩ := by
  rcases service.perform_find_cases key filters with
    ⟨old, _, _, performs⟩ | ⟨cache, rfl, _, performs⟩
  · rw [performs] at present
    exact .inl present
  · rw [performs] at present
    rcases Cache.find?_remembering_cases present with ⟨account, read, isKey, isEntry⟩ | ⟨kept, _⟩
    · exact .inr ⟨account, found_eq_some.mp read, isKey, isEntry⟩
    · exact .inl (Cache.find?_of_find?_lookup kept)

/-- An account that is cached under an id has that id. -/
def Named (service : AccountService Time) : Prop :=
  ∀ id entry, service.cache.find? (idKey id) = some entry → entry.value.id = id

/-- A save leaves nothing cached under the id of the account. -/
theorem find?_save (named : service.Named) {fate : Query.Fate} {changes : Row} {other : String}
    (present : (service.save fate id changes).2.cache.find? other = some entry) :
    service.cache.find? other = some entry ∧ other ≠ idKey id := by
  rw [save_eq] at present
  dsimp only at present
  have kept := (Cache.find?_forgetting.mp present).1
  obtain ⟨looked, notPrevious⟩ := Cache.find?_forgetting.mp kept
  refine ⟨Cache.find?_of_find?_lookup looked, ?_⟩
  rintro rfl
  rcases service.cache.lookup_cases service.lifetime service.now (idKey id) with
    ⟨previous, isPrevious, _, looks⟩ | ⟨_, dropped⟩
  · refine notPrevious previous.value (by rw [looks]) ?_
    exact idKey_mem_keys.mpr (named id previous isPrevious).symm
  · cases dropped.symm.trans looked

/-- What is cached under an id after an action was cached before, and the service leaves its row
alone, or it has just been read. -/
theorem find?_after (unique : service.tables.UniqueAccounts) (named : service.Named)
    {action : Action Time}
    (present : (service.after action).cache.find? (idKey id) = some entry) :
    (service.cache.find? (idKey id) = some entry ∧
        (action.IsOwn → (service.after action).tables.account id = service.tables.account id)) ∨
      (entry.storedAt = service.now ∧ (service.after action).tables = service.tables ∧
        service.tables.account id = .ok (some entry.value)) := by
  have looks {key : String} {filters : List Filter}
      (present :
        (service.perform .served (find key filters)).2.cache.find? (idKey id) = some entry) :
      (service.cache.find? (idKey id) = some entry ∧
        ((service.perform .served (find key filters)).2.tables.account id =
          service.tables.account id)) ∨
      (entry.storedAt = service.now ∧
        (service.perform .served (find key filters)).2.tables = service.tables ∧
        service.tables.account id = .ok (some entry.value)) := by
    rw [tables_perform_find]
    rcases find?_perform_find present with before | ⟨account, read, isKey, rfl⟩
    · exact .inl ⟨before, rfl⟩
    · cases idKey_mem_keys.mp isKey
      exact .inr ⟨rfl, rfl, Tables.account_of_firstAccount unique read⟩
  cases action with
  | get other => exact (looks present).imp_left fun ⟨before, same⟩ => ⟨before, fun _ => same⟩
  | getByInstagramId name =>
    exact (looks present).imp_left fun ⟨before, same⟩ => ⟨before, fun _ => same⟩
  | save other changes keeps fate =>
    obtain ⟨before, different⟩ := find?_save named present
    refine .inl ⟨before, fun _ => ?_⟩
    rw [after, save_eq]
    exact keeps.account_meet_of_ne fun same => different (congrArg idKey same)
  | elapse amount forward => exact .inl ⟨present, fun _ => rfl⟩
  | rewrite tables alsoUnique => exact .inl ⟨present, fun own => own.elim⟩

/-- Unique ids stay unique. -/
theorem uniqueAccounts_after (unique : service.tables.UniqueAccounts) (action : Action Time) :
    (service.after action).tables.UniqueAccounts := by
  cases action with
  | get other =>
    rw [after, get, AccountLookup.get, tables_perform_find]
    exact unique
  | getByInstagramId name =>
    rw [after, getByInstagramId, AccountLookup.getByInstagramId, tables_perform_find]
    exact unique
  | save other changes keeps fate =>
    rw [after, save_eq]
    exact keeps.uniqueAccounts_meet unique
  | elapse amount forward => exact unique
  | rewrite tables alsoUnique => exact alsoUnique

theorem uniqueAccounts_run (unique : service.tables.UniqueAccounts)
    (actions : List (Action Time)) : (service.run actions).tables.UniqueAccounts := by
  induction actions generalizing service with
  | nil => exact unique
  | cons action actions ih => exact ih (uniqueAccounts_after unique action)

theorem lifetime_after (service : AccountService Time) (action : Action Time) :
    (service.after action).lifetime = service.lifetime := by
  have looks (key : String) (filters : List Filter) :
      (service.perform .served (find key filters)).2.lifetime = service.lifetime := by
    rcases service.perform_find_cases key filters with
      ⟨entry, _, _, performs⟩ | ⟨cache, _, _, performs⟩
    · rw [performs]
    · rw [performs]
  cases action with
  | get id => exact looks _ _
  | getByInstagramId name => exact looks _ _
  | save id changes keeps fate => rw [after, save_eq]
  | elapse amount forward => rfl
  | rewrite tables unique => rfl

theorem lifetime_run (service : AccountService Time) (actions : List (Action Time)) :
    (service.run actions).lifetime = service.lifetime := by
  induction actions generalizing service with
  | nil => rfl
  | cons action actions ih =>
    exact (ih (service.after action)).trans (service.lifetime_after action)

/-- An account that is cached under its id is the one that the store has. -/
def Coherent (service : AccountService Time) : Prop :=
  ∀ id entry, service.cache.find? (idKey id) = some entry →
    service.tables.account id = .ok (some entry.value)

namespace Coherent

theorem of_empty (service : AccountService Time) (fresh : service.cache = .empty) :
    service.Coherent := by
  intro id entry present
  rw [fresh] at present
  cases present

theorem named (coherent : service.Coherent) : service.Named :=
  fun id entry present => Tables.id_of_account (coherent id entry present)

theorem after (coherent : service.Coherent) (unique : service.tables.UniqueAccounts)
    {action : Action Time} (own : action.IsOwn) : (service.after action).Coherent := by
  intro id entry present
  rcases find?_after unique coherent.named present with ⟨before, same⟩ | ⟨_, same, read⟩
  · rw [same own]
    exact coherent id entry before
  · rw [same]
    exact read

theorem run (coherent : service.Coherent) (unique : service.tables.UniqueAccounts)
    {actions : List (Action Time)} (own : ∀ action ∈ actions, action.IsOwn) :
    (service.run actions).Coherent := by
  induction actions generalizing service with
  | nil => exact coherent
  | cons action actions ih =>
    exact ih (coherent.after unique (own action (.head _))) (uniqueAccounts_after unique action)
      fun later present => own later (.tail _ present)

theorem get (coherent : service.Coherent) (id : String) :
    (service.get id).1 = service.tables.account id := by
  unfold AccountService.get AccountLookup.get
  rcases service.perform_find_cases (idKey id) [Store.byId id] with
    ⟨entry, isEntry, _, performs⟩ | ⟨cache, _, _, performs⟩
  · rw [performs, coherent id entry isEntry]
  · rw [performs, Tables.firstAccount_byId]

end Coherent

/-- An account that is cached under its id is the one that the store had when it was cached. -/
def Recalls (service : AccountService Time) (actions : List (Action Time)) : Prop :=
  ∀ id entry, (service.run actions).cache.find? (idKey id) = some entry →
    ∃ earlier, earlier <+: actions ∧ (service.run earlier).now = entry.storedAt ∧
      (service.run earlier).tables.account id = .ok (some entry.value)

/-- A fresh service only caches what it has read. -/
theorem recalls_run (unique : service.tables.UniqueAccounts) (fresh : service.cache = .empty)
    (actions : List (Action Time)) : service.Recalls actions := by
  induction actions using List.reverseRecOn with
  | nil =>
    intro id entry present
    rw [run, List.foldl_nil, fresh] at present
    cases present
  | append_singleton actions action ih =>
    intro id entry present
    have named : (service.run actions).Named := by
      intro id entry present
      obtain ⟨earlier, _, _, read⟩ := ih id entry present
      exact Tables.id_of_account read
    rw [run_append] at present
    rcases find?_after (uniqueAccounts_run unique actions) named present with
      ⟨before, _⟩ | ⟨now, _, read⟩
    · obtain ⟨earlier, isEarlier, rest⟩ := ih id entry before
      exact ⟨earlier, isEarlier.trans (List.prefix_append _ _), rest⟩
    · exact ⟨actions, List.prefix_append _ _, now.symm, read⟩

/-- A lookup by id after any history. If all writes went through the service, it gives what the
current row reads as; in any case, an account that it gives was the current one at a moment less
than the lifetime of a cached account ago. -/
theorem get_coherent (unique : service.tables.UniqueAccounts) (fresh : service.cache = .empty)
    (actions : List (Action Time)) (id : String) :
    ((∀ action ∈ actions, action.IsOwn) →
        ((service.run actions).get id).1 = (service.run actions).tables.account id) ∧
      ∀ account, ((service.run actions).get id).1 = .ok (some account) →
        ∃ earlier, earlier <+: actions ∧
          (service.run earlier).tables.account id = .ok (some account) ∧
          (service.run actions).now - (service.run earlier).now < service.lifetime := by
  constructor
  · intro own
    exact ((Coherent.of_empty service fresh).run unique own).get id
  · intro account given
    unfold get AccountLookup.get at given
    rcases (service.run actions).perform_find_cases (idKey id) [Store.byId id] with
      ⟨entry, isEntry, live, performs⟩ | ⟨cache, _, _, performs⟩
    · rw [performs] at given
      cases given
      obtain ⟨earlier, isEarlier, now, read⟩ := recalls_run unique fresh actions id entry isEntry
      rw [lifetime_run] at live
      exact ⟨earlier, isEarlier, read, now ▸ live⟩
    · rw [performs, Tables.firstAccount_byId] at given
      refine ⟨actions, List.prefix_rfl, given, ?_⟩
      rw [sub_self]
      exact service.positive

namespace Storefront

def shopRow : Row := [("id", .text "account"), ("username", .text "shop")]

def shop : AccountService Int where
  tables := { accounts := ⟨[shopRow], 0⟩ }
  now := 0
  lifetime := 300
  positive := by decide
  told request := (World.answer request { clock := default, cacheLifetime := .int 300 }).1

/-- The account is read and cached; a save takes effect, and its answer is lost. -/
def lostSave : List (Action Int) :=
  [.get "account", .elapse 200 (by decide),
    .save "account" [("username", .text "store")] (by simp [KeepsId])
      (.lost (.store "database unavailable"))]

/-- The account is read and cached; its row is renamed past the service. -/
def renamed : List (Action Int) :=
  [.get "account", .rewrite { accounts := ⟨[Entries.set shopRow "username" (.text "store")], 0⟩ }
    (by unfold Tables.UniqueAccounts; decide), .elapse 299 (by decide)]

end Storefront

open Storefront in
theorem get_coherent_shop :
    (shop.tables.UniqueAccounts ∧ shop.cache = .empty ∧ ∀ action ∈ lostSave, action.IsOwn) ∧
      ((shop.run lostSave).get "account").1 = (shop.run lostSave).tables.account "account" ∧
      (shop.run lostSave).tables.account "account" =
        .ok (some { id := "account", username := "store" }) ∧
      ((shop.run renamed).get "account").1 = .ok (some { id := "account", username := "shop" }) ∧
      ∃ earlier, earlier <+: renamed ∧
        (shop.run earlier).tables.account "account" =
          .ok (some { id := "account", username := "shop" }) ∧
        (shop.run renamed).now - (shop.run earlier).now < shop.lifetime := by
  have unique : shop.tables.UniqueAccounts := by
    unfold Tables.UniqueAccounts
    decide
  have own : ∀ action ∈ lostSave, action.IsOwn := by
    simp [lostSave, Action.IsOwn]
  have stale : ((shop.run renamed).get "account").1 =
      .ok (some { id := "account", username := "shop" }) := by
    decide +kernel
  exact ⟨⟨unique, rfl, own⟩, (get_coherent unique rfl lostSave "account").1 own, by decide +kernel,
    stale, (get_coherent unique rfl renamed "account").2 _ stale⟩

end AccountService
end MessageFlow
