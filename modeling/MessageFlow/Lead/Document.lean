import MessageFlow.Document.Names
import MessageFlow.Json.Basic
import MessageFlow.Time.Timestamp

/-!
Leads, what is known about a sender of an account, and how they are read and written. Reports have
one name for every field and ignore unknown members.
-/

namespace MessageFlow
open Document

/-- A stored lead. -/
structure Lead where
  id : Option String
  userId : Option String
  accountId : String
  instagramUserId : String
  username : Option String
  email : Option String
  phone : Option String
  name : Option String
  source : String
  flowId : Option String
  tags : List String
  createdAt : Option Timestamp
  updatedAt : Option Timestamp
  extras : Row
  deriving DecidableEq

/-- What a run learned about a sender. -/
structure LeadReport where
  userId : Option String
  accountId : String
  instagramUserId : String
  username : Option String
  email : Option String
  phone : Option String
  name : Option String
  source : String
  flowId : Option String
  tags : Option (List String)
  deriving DecidableEq

namespace Lead

def title : String := "Lead"

def names : List FieldName :=
  [Field.id, Field.userId, Field.accountId, Field.instagramUserId, Field.username, Field.email,
   Field.phone, Field.name, Field.source, Field.flowId, Field.tags, Field.createdAt,
   Field.updatedAt]

def read : ValueReader Lead := object title names fun doc =>
  Lead.mk <$> maybe Field.id asText doc
    <*> maybe Field.userId asText doc
    <*> required Field.accountId asText doc
    <*> required Field.instagramUserId asText doc
    <*> maybe Field.username asText doc
    <*> maybe Field.email asText doc
    <*> maybe Field.phone asText doc
    <*> maybe Field.name asText doc
    <*> withDefault Field.source "flow" asText doc
    <*> maybe Field.flowId asText doc
    <*> withDefault Field.tags [] (listOf asText) doc
    <*> maybe Field.createdAt asTime doc
    <*> maybe Field.updatedAt asTime doc

def write (naming : Naming) (lead : Lead) : Json :=
  Document.write naming
    [(Field.id, .ofText? lead.id),
     (Field.userId, .ofText? lead.userId),
     (Field.accountId, .text lead.accountId),
     (Field.instagramUserId, .text lead.instagramUserId),
     (Field.username, .ofText? lead.username),
     (Field.email, .ofText? lead.email),
     (Field.phone, .ofText? lead.phone),
     (Field.name, .ofText? lead.name),
     (Field.source, .text lead.source),
     (Field.flowId, .ofText? lead.flowId),
     (Field.tags, .ofTexts lead.tags),
     (Field.createdAt, ofTime? lead.createdAt),
     (Field.updatedAt, ofTime? lead.updatedAt)] lead.extras

instance : DocumentType Lead where
  title := title
  read := read
  write := write
  loose lead := lead.extras.map (·.2)

end Lead

namespace LeadReport

def title : String := "LeadCreate"

def read : ValueReader LeadReport := closedObject title fun doc =>
  LeadReport.mk <$> maybe (.plain "user_id") asText doc
    <*> required (.plain "account_id") asText doc
    <*> required (.plain "instagram_user_id") asText doc
    <*> maybe (.plain "username") asText doc
    <*> maybe (.plain "email") asText doc
    <*> maybe (.plain "phone") asText doc
    <*> maybe (.plain "name") asText doc
    <*> withDefault (.plain "source") "flow" asText doc
    <*> maybe (.plain "flow_id") asText doc
    <*> maybe (.plain "tags") (listOf asText) doc

def columns (report : LeadReport) : Row :=
  [("user_id", .ofText? report.userId),
   ("account_id", .text report.accountId),
   ("instagram_user_id", .text report.instagramUserId),
   ("username", .ofText? report.username),
   ("email", .ofText? report.email),
   ("phone", .ofText? report.phone),
   ("name", .ofText? report.name),
   ("source", .text report.source),
   ("flow_id", .ofText? report.flowId),
   ("tags", .ofOption .ofTexts report.tags)]

instance : DocumentType LeadReport where
  title := title
  read := read
  write _ report := .record report.columns
  loose _ := []

end LeadReport
end MessageFlow
