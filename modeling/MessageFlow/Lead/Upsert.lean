import MessageFlow.Lead.Document
import MessageFlow.Store.Flows

/-!
One lead per account and sender: a new report creates the lead or fills in what it adds.
-/

namespace MessageFlow
open Operation

def getLead (accountId senderId : String) : Operation (Option Lead) := do
  let rows ← query (.select .leads
    [.equals "account_id" (.text accountId), .equals "instagram_user_id" (.text senderId)]
    none (some 1))
  match rows with
  | [] => pure none
  | row :: _ => some <$> parse row

namespace LeadReport

/-- The columns whose stored values give way to new ones that are not empty. -/
def news (report : LeadReport) : Row :=
  ([("email", .ofText? report.email), ("phone", .ofText? report.phone),
    ("name", .ofText? report.name), ("tags", .ofOption .ofTexts report.tags),
    ("username", .ofText? report.username), ("flow_id", .ofText? report.flowId)] : Row).filter
    fun (_, value) => value.isTruthy

/-- The columns of a new lead: those that have a value, and a list of tags. -/
def creation (report : LeadReport) (now : String) : Row :=
  let given := report.columns.filter fun (_, value) => value != .null
  let tagged := if (Entries.get? given "tags").isSome then given else given ++ [("tags", .list [])]
  tagged ++ [("created_at", .text now), ("updated_at", .text now)]

end LeadReport

/-- The text of a column, or the earlier value when the column is not written. -/
def changedText (changes : Row) (key : String) (earlier : Option String) : Option String :=
  match Entries.get? changes key with
  | some (.text text) => some text
  | _ => earlier

/-- The lead with the changed columns, for a store that does not return it. The time of the update
shows in the form in which it was to be stored, unless an extra of that name hides it. -/
def Lead.change (lead : Lead) (report : LeadReport) (changes : Row) (now : Timestamp) : Lead :=
  { lead with
    email := changedText changes "email" lead.email
    phone := changedText changes "phone" lead.phone
    name := changedText changes "name" lead.name
    username := changedText changes "username" lead.username
    flowId := changedText changes "flow_id" lead.flowId
    tags := match report.tags with
      | some tags => if tags.isEmpty then lead.tags else tags
      | none => lead.tags
    updatedAt := some now
    extras := if (Entries.get? lead.extras "updated_at").isSome then lead.extras
      else Entries.set lead.extras "updated_at" (.text now.columnText) }

/-- Creates the lead of the report's account and sender, or updates it. -/
def upsertLead (report : LeadReport) : Operation Lead := do
  let now ← now
  match ← getLead report.accountId report.instagramUserId with
  | some lead =>
    let changes := ("updated_at", .text now.columnText) :: report.news
    let rows ← query (.update .leads [.equals "id" (.ofText? lead.id)] changes)
    match rows with
    | [] => pure (lead.change report changes now)
    | row :: _ => parse row
  | none =>
    let columns := report.creation now.columnText
    let rows ← query (.insert .leads columns)
    match rows with
    | [] => parse columns
    | row :: _ => parse row

end MessageFlow
