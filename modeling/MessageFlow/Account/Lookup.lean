import MessageFlow.Account.Document
import MessageFlow.Store.Flows

/-!
Accounts by their own id or by the id under which events name them, read through the cache. Saving
an account drops it from the cache.
-/

namespace MessageFlow.AccountLookup
open Operation Store

def idKey (id : String) : String := "id:" ++ id

def instagramKey (id : String) : String := "ig:" ++ id

/-- The cache keys of an account. -/
def keys (account : Account) : List String :=
  idKey account.id :: ((account.instagramAccountId.filter (!·.isEmpty)).map instagramKey).toList

def rememberAccount (account : Account) : Operation Unit :=
  (keys account).forM fun key => remember key account

def forgetAccount (account : Account) : Operation Unit := (keys account).forM forget

/-- The cached account, or the first row that the filters select. -/
def find (key : String) (filters : List Filter) : Operation (Option Account) := do
  match ← remembered key with
  | some account => pure (some account)
  | none =>
    let rows ← query (.select .accounts filters none (some 1))
    match rows with
    | [] => pure none
    | row :: _ =>
      let account ← parse row
      rememberAccount account
      pure (some account)

def get (id : String) : Operation (Option Account) := find (idKey id) [byId id]

/-- The active account with the id that events give. -/
def getByInstagramId (id : String) : Operation (Option Account) :=
  find (instagramKey id)
    [.equals "instagram_account_id" (.text id), .equals "is_active" (.bool true)]

/-- Writes columns of an account. -/
def save (id : String) (changes : Row) : Operation (Option Account) := do
  if let some previous ← remembered (idKey id) then forgetAccount previous
  let rows ← query (.update .accounts [byId id] changes)
  match rows with
  | [] => pure none
  | row :: _ =>
    let account ← parse row
    forgetAccount account
    pure (some account)

end MessageFlow.AccountLookup
