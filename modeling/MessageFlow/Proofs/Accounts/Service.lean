import Mathlib.Algebra.Order.Group.Int
import MessageFlow.Account.Lookup
import MessageFlow.Proofs.Cache.Lookup
import MessageFlow.Proofs.Tickets.Rows

/-!
One account service in the course of time: its lookups and saves run on an accounts table, on a
cache whose clock is exact, and with queries that may go wrong. Each operation is described once by
what it does to the table and to the cache.
-/

namespace MessageFlow

namespace AccountLookup

theorem idKey_inj {id other : String} (same : idKey id = idKey other) : id = other :=
  (String.append_right_inj _).mp same

theorem idKey_ne_instagramKey (id name : String) : idKey id ≠ instagramKey name := by
  intro same
  have heads := congrArg (fun key : String => key.toList.take 2) same
  simp [idKey, instagramKey] at heads

theorem instagramKey_inj {name other : String} (same : instagramKey name = instagramKey other) :
    name = other :=
  (String.append_right_inj _).mp same

theorem idKey_mem_keys {id : String} {account : Account} :
    idKey id ∈ keys account ↔ id = account.id := by
  have notInstagram (name : String) : ¬ instagramKey name = idKey id :=
    Ne.symm (idKey_ne_instagramKey id name)
  have same : idKey id = idKey account.id ↔ id = account.id :=
    ⟨idKey_inj, congrArg idKey⟩
  simp [keys, notInstagram, same]

theorem instagramKey_mem_keys {name : String} {account : Account} :
    instagramKey name ∈ keys account ↔ account.instagramAccountId = some name ∧ name ≠ "" := by
  have notId : ¬ instagramKey name = idKey account.id :=
    Ne.symm (idKey_ne_instagramKey account.id name)
  constructor
  · intro present
    simp only [keys, List.mem_cons, notId, false_or, Option.mem_toList, Option.map_eq_some_iff,
      Option.filter_eq_some_iff] at present
    obtain ⟨other, ⟨given, filled⟩, same⟩ := present
    cases instagramKey_inj same
    refine ⟨given, ?_⟩
    rintro rfl
    cases filled
  · rintro ⟨given, filled⟩
    have notEmpty : (!name.isEmpty) = true := by
      simpa [String.isEmpty_iff] using filled
    simp [keys, given, Option.filter, notEmpty]

/-- The part of a save that asks the store. -/
def write (id : String) (changes : Row) : Operation (Option Account) := do
  let rows ← Operation.query (.update .accounts [Store.byId id] changes)
  match rows with
  | [] => pure none
  | row :: _ =>
    let account ← Operation.parse row
    forgetAccount account
    pure (some account)

theorem save_eq_write (id : String) (changes : Row) : save id changes = (do
    match ← Operation.remembered (idKey id) with
    | some previous =>
      forgetAccount previous
      write id changes
    | none => write id changes) := by
  refine bind_congr fun previous? => ?_
  cases previous? with
  | none => rfl
  | some previous => rfl

end AccountLookup

/-- What becomes of a query. -/
inductive Query.Fate where
  | served
  /-- The query does nothing and finds nothing. -/
  | unmatched
  | refused (failure : Failure)
  /-- The query takes effect, and its answer is a failure all the same. -/
  | lost (failure : Failure)

/-- The answer to a query, and the tables after it. -/
def Query.meet (query : Query) (fate : Query.Fate) (tables : Tables) :
    Except Failure (List Row) × Tables :=
  match fate with
  | .served => (.ok (query.run tables).1, (query.run tables).2)
  | .unmatched => (.ok [], tables)
  | .refused failure => (.error failure, tables)
  | .lost failure => (.error failure, (query.run tables).2)

theorem Query.meet_after (query : Query) (fate : Query.Fate) (tables : Tables) :
    (query.meet fate tables).2 = tables ∨ (query.meet fate tables).2 = (query.run tables).2 := by
  cases fate with
  | served | lost => exact .inr rfl
  | unmatched | refused => exact .inl rfl

/-- A query for one row finds the first that the filters select. -/
theorem Query.head_select (table : Table) (filters : List Filter) (tables : Tables) :
    ((Query.select table filters none (some 1)).run tables).1.head? =
      (tables.rows table).find? (selects filters) := by
  have run : ((Query.select table filters none (some 1)).run tables).1 =
      ((tables.rows table).filter (selects filters)).take 1 := rfl
  rw [run, List.head?_take, if_neg (by decide), List.head?_filter]

namespace Account

/-- What a stored row reads as. -/
def parsed (row : Row) : Except Failure Account :=
  match read (.record row) with
  | .valid account => .ok account
  | .invalid issues => .error (.invalidDocument title issues)

theorem run_parse (row : Row) :
    (Operation.parse row : Operation Account).run = .done (parsed row) := by
  have documents : DocumentType.read (α := Account) (.record row) = read (.record row) := rfl
  unfold Operation.parse Operation.ofValidated parsed
  rw [documents]
  cases read (.record row) with
  | valid account => rfl
  | invalid issues => rfl

theorem read_of_parsed {row : Row} {account : Account} (reads : parsed row = .ok account) :
    read (.record row) = .valid account := by
  unfold parsed at reads
  split at reads
  · next valid =>
    cases reads
    exact valid
  · cases reads

/-- An account has the id of its row. -/
theorem get_id_of_parsed {row : Row} {account : Account} (reads : parsed row = .ok account) :
    row.get "id" = .text account.id := by
  have valid := read_of_parsed reads
  have id : Document.required Field.id Document.asText row = .valid account.id := by
    simp only [read, Document.object, Validated.map_eq_valid, Validated.fmap_eq_valid,
      Validated.seq_eq_valid, ↓existsAndEq, and_true] at valid
    grind
  exact Row.get_id_of_required id

/-- What a row reads as, if there is one. -/
def parsed? : Option Row → Except Failure (Option Account)
  | none => .ok none
  | some row => some <$> parsed row

theorem parsed?_eq_some {row? : Option Row} {account : Account} :
    parsed? row? = .ok (some account) ↔ ∃ row, row? = some row ∧ parsed row = .ok account := by
  cases row? with
  | none => simp [parsed?]
  | some row => cases reads : parsed row <;> simp [parsed?, reads]

end Account

namespace Cache

variable {Time : Type}

/-- The cache after an account was remembered, if there is one. -/
def remembering (cache : Cache Time Account) (now : Time) : Option Account → Cache Time Account
  | none => cache
  | some account => cache.storeAll now (AccountLookup.keys account) account

/-- The cache after an account was forgotten, if there is one. -/
def forgetting (cache : Cache Time Account) : Option Account → Cache Time Account
  | none => cache
  | some account => cache.removeAll (AccountLookup.keys account)

variable {cache : Cache Time Account} {now : Time} {account? : Option Account} {key : String}
  {entry : CacheEntry Time Account}

theorem find?_remembering_cases
    (present : (cache.remembering now account?).find? key = some entry) :
    (∃ account, account? = some account ∧ key ∈ AccountLookup.keys account ∧
        entry = ⟨key, account, now⟩) ∨
      cache.find? key = some entry ∧
        ∀ account, account? = some account → key ∉ AccountLookup.keys account := by
  cases account? with
  | none => exact .inr ⟨present, fun account same => by cases same⟩
  | some account =>
    rw [remembering, find?_storeAll] at present
    by_cases isKey : key ∈ AccountLookup.keys account
    · rw [if_pos isKey] at present
      exact .inl ⟨account, rfl, isKey, (Option.some.inj present).symm⟩
    · rw [if_neg isKey] at present
      refine .inr ⟨present, fun other same => ?_⟩
      rw [← Option.some.inj same]
      exact isKey

theorem find?_forgetting : (cache.forgetting account?).find? key = some entry ↔
    cache.find? key = some entry ∧
      ∀ account, account? = some account → key ∉ AccountLookup.keys account := by
  cases account? with
  | none => simp [forgetting]
  | some account =>
    rw [forgetting, find?_removeAll]
    by_cases isKey : key ∈ AccountLookup.keys account
    · simp [isKey]
    · simp [isKey]

end Cache

namespace Tables

/-- No two rows of the accounts have the same id. -/
def UniqueAccounts (tables : Tables) : Prop :=
  ((tables.rows .accounts).map fun row => row.get "id").Nodup

/-- What the first account that the filters select reads as. -/
def firstAccount (tables : Tables) (filters : List Filter) : Except Failure (Option Account) :=
  Account.parsed? ((tables.rows .accounts).find? (selects filters))

/-- What the account with that id reads as. -/
def account (tables : Tables) (id : String) : Except Failure (Option Account) :=
  Account.parsed? (rowOf? (tables.rows .accounts) id)

variable {tables : Tables} {filters : List Filter} {id : String} {account : Account}

theorem firstAccount_byId (tables : Tables) (id : String) :
    tables.firstAccount [Store.byId id] = tables.account id := by
  rw [firstAccount, Store.selects_byId_eq]
  rfl

/-- An account is found by its id, however it was found first. -/
theorem account_of_firstAccount (unique : tables.UniqueAccounts)
    (found : tables.firstAccount filters = .ok (some account)) :
    tables.account account.id = .ok (some account) := by
  obtain ⟨row, isRow, reads⟩ := Account.parsed?_eq_some.mp found
  refine Account.parsed?_eq_some.mpr ⟨row, ?_, reads⟩
  exact rowOf?_eq_some unique (List.mem_of_find?_eq_some isRow) (Account.get_id_of_parsed reads)

theorem id_of_account (found : tables.account id = .ok (some account)) : account.id = id := by
  obtain ⟨row, isRow, reads⟩ := Account.parsed?_eq_some.mp found
  have isId := (mem_of_rowOf? isRow).2
  rw [Account.get_id_of_parsed reads] at isId
  cases isId
  rfl

end Tables

/-- Whether the changes leave a row with that id its id. -/
def KeepsId (id : String) (changes : Row) : Prop :=
  ∀ value, ("id", value) ∈ changes → value = .text id

namespace KeepsId

variable {id : String} {changes : Row} {tables : Tables} {fate : Query.Fate}

theorem get_id_update (keeps : KeepsId id changes) {row : Row} (named : row.get "id" = .text id) :
    Row.get (Entries.update row changes) "id" = .text id := by
  unfold Entries.update
  induction changes generalizing row with
  | nil => exact named
  | cons change changes ih =>
    obtain ⟨column, value⟩ := change
    rw [List.foldl_cons]
    refine ih (fun value later => keeps value (.tail _ later)) ?_
    unfold Row.get
    by_cases isId : column = "id"
    · subst isId
      rw [Entries.get?_set_self, keeps value (.head _)]
      rfl
    · rw [Entries.get?_set_of_ne _ (Ne.symm isId)]
      exact named

/-- The accounts after a save, whatever became of its query. -/
theorem rows_meet (keeps : KeepsId id changes) (fate : Query.Fate) (tables : Tables) :
    ∃ f : Row → Row, (∀ row, (f row).get "id" = row.get "id" ∧
        (row.get "id" ≠ .text id → f row = row)) ∧
      ((Query.update .accounts [Store.byId id] changes).meet fate tables).2.rows .accounts =
        (tables.rows .accounts).map f := by
  rcases (Query.update .accounts [Store.byId id] changes).meet_after fate tables with same | written
  · exact ⟨fun row => row, fun row => ⟨rfl, fun _ => rfl⟩, by rw [same, List.map_id']⟩
  · refine ⟨fun row => if selects [Store.byId id] row then Entries.update row changes else row,
      ?_, by rw [written]; rfl⟩
    intro row
    dsimp only
    by_cases isMeant : selects [Store.byId id] row = true
    · have named := Store.selects_byId.mp isMeant
      rw [if_pos isMeant]
      exact ⟨(keeps.get_id_update named).trans named.symm, fun other => absurd named other⟩
    · rw [if_neg isMeant]
      exact ⟨rfl, fun _ => rfl⟩

/-- A save leaves the other accounts as they are. -/
theorem account_meet_of_ne (keeps : KeepsId id changes) {other : String} (different : other ≠ id) :
    ((Query.update .accounts [Store.byId id] changes).meet fate tables).2.account other =
      tables.account other := by
  obtain ⟨f, leaves, rows⟩ := keeps.rows_meet fate tables
  unfold Tables.account
  rw [rows, rowOf?_map fun row _ => (leaves row).1]
  refine congrArg Account.parsed? ?_
  cases isRow : rowOf? (tables.rows .accounts) other with
  | none => rfl
  | some row =>
    have named := (mem_of_rowOf? isRow).2
    refine congrArg some ((leaves row).2 ?_)
    rw [named]
    intro same
    cases same
    exact different rfl

theorem uniqueAccounts_meet (keeps : KeepsId id changes) (unique : tables.UniqueAccounts) :
    ((Query.update .accounts [Store.byId id] changes).meet fate tables).2.UniqueAccounts := by
  obtain ⟨f, leaves, rows⟩ := keeps.rows_meet fate tables
  have ids : ((tables.rows .accounts).map f).map (fun row => row.get "id") =
      (tables.rows .accounts).map fun row => row.get "id" := by
    rw [List.map_map]
    exact List.map_congr_left fun row _ => (leaves row).1
  rw [Tables.UniqueAccounts, rows, ids]
  exact unique

end KeepsId

/-- A service with the store that it asks. Its clock counts exactly. -/
structure AccountService (Time : Type) [AddCommGroup Time] [LinearOrder Time] where
  tables : Tables
  cache : Cache Time Account := .empty
  now : Time
  /-- How long an account is cached. -/
  lifetime : Time
  positive : 0 < lifetime
  /-- The answers to requests that concern neither the store nor the cache. -/
  told : (request : Request) → request.Answer

variable {Time : Type} [AddCommGroup Time] [LinearOrder Time]

namespace AccountService

/-- The answer to a request, and the service after it. -/
def answer (service : AccountService Time) (fate : Query.Fate) :
    (request : Request) → request.Answer × AccountService Time
  | .query query =>
    ((query.meet fate service.tables).1,
      { service with tables := (query.meet fate service.tables).2 })
  | .remembered key =>
    let (account, cache) := service.cache.lookup service.lifetime service.now key
    (account, { service with cache })
  | .remember key account =>
    ((), { service with cache := service.cache.store service.now key account })
  | .forget key => ((), { service with cache := (service.cache.invalidate key).2 })
  | request => (service.told request, service)

/-- Runs a program; its queries have the given fate. -/
def serve (service : AccountService Time) (fate : Query.Fate) :
    Program α → α × AccountService Time
  | .done value => (value, service)
  | .ask _ request next =>
    let (answer, service) := service.answer fate request
    service.serve fate (next answer)

def perform (service : AccountService Time) (fate : Query.Fate) (operation : Operation α) :
    Except Failure α × AccountService Time :=
  service.serve fate operation.run

def get (service : AccountService Time) (id : String) :
    Except Failure (Option Account) × AccountService Time :=
  service.perform .served (AccountLookup.get id)

def getByInstagramId (service : AccountService Time) (id : String) :
    Except Failure (Option Account) × AccountService Time :=
  service.perform .served (AccountLookup.getByInstagramId id)

def save (service : AccountService Time) (fate : Query.Fate) (id : String) (changes : Row) :
    Except Failure (Option Account) × AccountService Time :=
  service.perform fate (AccountLookup.save id changes)

section serving

variable {α β : Type} {service : AccountService Time} {fate : Query.Fate}

theorem serve_bind (p : Program α) (f : α → Program β) :
    service.serve fate (p.bind f) =
      (service.serve fate p).2.serve fate (f (service.serve fate p).1) := by
  induction p generalizing service with
  | done a => rfl
  | ask traversed request next ih => exact ih _

theorem perform_bind (operation : Operation α) (f : α → Operation β) :
    service.perform fate (operation >>= f) =
      match service.perform fate operation with
      | (.ok a, service) => service.perform fate (f a)
      | (.error failure, service) => (.error failure, service) := by
  change service.serve fate (operation.run.bind _) = _
  rw [serve_bind]
  unfold perform
  cases service.serve fate operation.run with
  | mk outcome service =>
    cases outcome with
    | ok a => rfl
    | error failure => rfl

theorem perform_query (query : Query) : service.perform fate (Operation.query query) =
    ((query.meet fate service.tables).1,
      { service with tables := (query.meet fate service.tables).2 }) := rfl

theorem perform_remembered (key : String) : service.perform fate (Operation.remembered key) =
    (.ok (service.cache.lookup service.lifetime service.now key).1,
      { service with cache := (service.cache.lookup service.lifetime service.now key).2 }) := rfl

theorem perform_parse (row : Row) :
    service.perform fate (Operation.parse row : Operation Account) =
      (Account.parsed row, service) := by
  rw [perform, Account.run_parse]
  rfl

theorem perform_rememberAccount (account : Account) :
    service.perform fate (AccountLookup.rememberAccount account) =
      (.ok (), { service with
        cache := service.cache.storeAll service.now (AccountLookup.keys account) account }) := by
  unfold AccountLookup.rememberAccount
  generalize AccountLookup.keys account = keys
  induction keys generalizing service with
  | nil => rfl
  | cons key keys ih =>
    rw [List.forM_eq_forM, List.forM_cons, perform_bind]
    exact ih

theorem perform_forgetAccount (account : Account) :
    service.perform fate (AccountLookup.forgetAccount account) =
      (.ok (), { service with cache := service.cache.removeAll (AccountLookup.keys account) }) := by
  unfold AccountLookup.forgetAccount
  generalize AccountLookup.keys account = keys
  induction keys generalizing service with
  | nil => rfl
  | cons key keys ih =>
    rw [List.forM_eq_forM, List.forM_cons, perform_bind]
    exact ih

open AccountLookup

/-- The account of an outcome. -/
def found : Except Failure (Option Account) → Option Account
  | .ok account? => account?
  | .error _ => none

theorem found_eq_some {outcome : Except Failure (Option Account)} {account : Account} :
    found outcome = some account ↔ outcome = .ok (some account) := by
  cases outcome with
  | error failure => simp [found]
  | ok account? => simp [found]

theorem perform_find (key : String) (filters : List Filter) :
    service.perform .served (find key filters) =
      match service.cache.lookup service.lifetime service.now key with
      | (some account, cache) => (.ok (some account), { service with cache })
      | (none, cache) => (service.tables.firstAccount filters, { service with
          cache :=
            cache.remembering service.now (found (service.tables.firstAccount filters)) }) := by
  unfold find
  rw [perform_bind, perform_remembered]
  dsimp only
  cases service.cache.lookup service.lifetime service.now key with
  | mk account? cache =>
    cases account? with
    | some account => rfl
    | none =>
      dsimp only
      rw [perform_bind, perform_query]
      unfold Tables.firstAccount
      rw [← Query.head_select]
      simp only [Query.meet]
      cases ((Query.select .accounts filters none (some 1)).run service.tables).1 with
      | nil => rfl
      | cons row rows =>
        dsimp only
        rw [perform_bind, perform_parse]
        simp only [List.head?_cons, Account.parsed?]
        cases Account.parsed row with
        | error failure => rfl
        | ok account =>
          dsimp only
          rw [perform_bind, perform_rememberAccount]
          rfl

theorem perform_write (fate : Query.Fate) (id : String) (changes : Row) :
    service.perform fate (write id changes) =
      let (answer, tables) :=
        (Query.update .accounts [Store.byId id] changes).meet fate service.tables
      let outcome := answer.bind fun rows => Account.parsed? rows.head?
      (outcome, { service with tables, cache := service.cache.forgetting (found outcome) }) := by
  unfold write
  rw [perform_bind, perform_query]
  cases (Query.update .accounts [Store.byId id] changes).meet fate service.tables with
  | mk answer tables =>
    cases answer with
    | error failure => rfl
    | ok rows =>
      cases rows with
      | nil => rfl
      | cons row rows =>
        dsimp only
        rw [perform_bind, perform_parse]
        simp only [Except.bind, List.head?_cons, Account.parsed?]
        cases Account.parsed row with
        | error failure => rfl
        | ok account =>
          dsimp only
          rw [perform_bind, perform_forgetAccount]
          rfl

theorem save_eq (fate : Query.Fate) (id : String) (changes : Row) :
    service.save fate id changes =
      let (previous?, cache) := service.cache.lookup service.lifetime service.now (idKey id)
      let (answer, tables) :=
        (Query.update .accounts [Store.byId id] changes).meet fate service.tables
      let outcome := answer.bind fun rows => Account.parsed? rows.head?
      (outcome, { service with
        tables, cache := (cache.forgetting previous?).forgetting (found outcome) }) := by
  rw [save, save_eq_write, perform_bind, perform_remembered]
  cases service.cache.lookup service.lifetime service.now (idKey id) with
  | mk previous? cache =>
    cases previous? with
    | none => exact perform_write fate id changes
    | some previous =>
      dsimp only
      rw [perform_bind, perform_forgetAccount]
      exact perform_write fate id changes

end serving

/-- What happens to a service, one thing at a time. -/
inductive Action (Time : Type) [AddCommGroup Time] [LinearOrder Time] where
  | get (id : String)
  | getByInstagramId (id : String)
  | save (id : String) (changes : Row) (keeps : KeepsId id changes) (fate : Query.Fate)
  | elapse (amount : Time) (forward : 0 ≤ amount)
  /-- The rows are written past the service. -/
  | rewrite (tables : Tables) (unique : tables.UniqueAccounts)

/-- Whether the service itself acts, or only time passes. -/
def Action.IsOwn : Action Time → Prop
  | .rewrite .. => False
  | _ => True

def after (service : AccountService Time) : Action Time → AccountService Time
  | .get id => (service.get id).2
  | .getByInstagramId id => (service.getByInstagramId id).2
  | .save id changes _ fate => (service.save fate id changes).2
  | .elapse amount _ => { service with now := service.now + amount }
  | .rewrite tables _ => { service with tables }

/-- The service after a history. -/
def run (service : AccountService Time) (actions : List (Action Time)) : AccountService Time :=
  actions.foldl after service

theorem run_append (service : AccountService Time) (earlier later : List (Action Time)) :
    service.run (earlier ++ later) = (service.run earlier).run later :=
  List.foldl_append

end AccountService
end MessageFlow
