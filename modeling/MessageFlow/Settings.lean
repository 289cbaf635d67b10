import MessageFlow.Document.Field
import MessageFlow.Text.Lower

/-!
The settings of a deployment, read from values given under their names in any case.
-/

namespace MessageFlow
open Document

structure Settings where
  appName : String := "DM Flow"
  debug : Bool := false
  supabaseUrl : String := ""
  supabaseKey : String := ""
  openaiApiKey : String := ""
  openaiModel : String := "gpt-4o-mini"
  openaiTimeoutSeconds : Binary64 := .ofInt 15
  graphApiBaseUrl : String := "https://graph.instagram.com"
  graphApiVersion : String := "v21.0"
  graphApiTimeoutSeconds : Binary64 := .ofInt 15
  maxMessageLength : Int := 1000
  accountCacheTtlSeconds : Int := 300
  sweepEnabled : Bool := false
  sweepIntervalSeconds : Int := 60
  sweepBatchSize : Int := 50
  notificationWebhookUrl : Option String := none
  host : String := "0.0.0.0"
  port : Int := 8000
  deriving DecidableEq

namespace Settings

def names : List String :=
  ["APP_NAME", "DEBUG", "SUPABASE_URL", "SUPABASE_KEY", "OPENAI_API_KEY", "OPENAI_MODEL",
   "OPENAI_TIMEOUT_SECONDS", "GRAPH_API_BASE_URL", "GRAPH_API_VERSION", "GRAPH_API_TIMEOUT_SECONDS",
   "MAX_MESSAGE_LENGTH", "ACCOUNT_CACHE_TTL_SECONDS", "SWEEP_ENABLED", "SWEEP_INTERVAL_SECONDS",
   "SWEEP_BATCH_SIZE", "NOTIFICATION_WEBHOOK_URL", "HOST", "PORT"]

/-- The value given under a name; the exact name goes before its forms in another case. -/
def find? (doc : Row) (name : String) : Option Json :=
  (Entries.get? doc name).or
    ((doc.find? fun (key, _) => Text.lower key == Text.lower name).map (·.2))

/-- The values under the exact names. -/
def canonical (doc : Row) : Row :=
  names.filterMap fun name => (find? doc name).map (name, ·)

def read : ValueReader Settings := closedObject "Settings" fun values =>
  let doc := canonical values
  let defaults : Settings := {}
  Settings.mk <$> withDefault (.plain "APP_NAME") defaults.appName asText doc
    <*> withDefault (.plain "DEBUG") defaults.debug asBool doc
    <*> withDefault (.plain "SUPABASE_URL") defaults.supabaseUrl asText doc
    <*> withDefault (.plain "SUPABASE_KEY") defaults.supabaseKey asText doc
    <*> withDefault (.plain "OPENAI_API_KEY") defaults.openaiApiKey asText doc
    <*> withDefault (.plain "OPENAI_MODEL") defaults.openaiModel asText doc
    <*> withDefault (.plain "OPENAI_TIMEOUT_SECONDS") defaults.openaiTimeoutSeconds asReal doc
    <*> withDefault (.plain "GRAPH_API_BASE_URL") defaults.graphApiBaseUrl asText doc
    <*> withDefault (.plain "GRAPH_API_VERSION") defaults.graphApiVersion asText doc
    <*> withDefault (.plain "GRAPH_API_TIMEOUT_SECONDS") defaults.graphApiTimeoutSeconds asReal doc
    <*> withDefault (.plain "MAX_MESSAGE_LENGTH") defaults.maxMessageLength asInt doc
    <*> withDefault (.plain "ACCOUNT_CACHE_TTL_SECONDS") defaults.accountCacheTtlSeconds asInt doc
    <*> withDefault (.plain "SWEEP_ENABLED") defaults.sweepEnabled asBool doc
    <*> withDefault (.plain "SWEEP_INTERVAL_SECONDS") defaults.sweepIntervalSeconds asInt doc
    <*> withDefault (.plain "SWEEP_BATCH_SIZE") defaults.sweepBatchSize asInt doc
    <*> maybe (.plain "NOTIFICATION_WEBHOOK_URL") asText doc
    <*> withDefault (.plain "HOST") defaults.host asText doc
    <*> withDefault (.plain "PORT") defaults.port asInt doc

/-- The text without the slashes at its end. -/
def dropTrailingSlashes (s : String) : String :=
  String.ofList (s.toList.reverse.dropWhile (· == '/')).reverse

/-- The base address of the messaging service with its version. -/
def graphApiUrl (settings : Settings) : String :=
  dropTrailingSlashes settings.graphApiBaseUrl ++ "/" ++ settings.graphApiVersion

def columns (settings : Settings) : Row :=
  [("APP_NAME", .text settings.appName),
   ("DEBUG", .bool settings.debug),
   ("SUPABASE_URL", .text settings.supabaseUrl),
   ("SUPABASE_KEY", .text settings.supabaseKey),
   ("OPENAI_API_KEY", .text settings.openaiApiKey),
   ("OPENAI_MODEL", .text settings.openaiModel),
   ("OPENAI_TIMEOUT_SECONDS", .real settings.openaiTimeoutSeconds),
   ("GRAPH_API_BASE_URL", .text settings.graphApiBaseUrl),
   ("GRAPH_API_VERSION", .text settings.graphApiVersion),
   ("GRAPH_API_TIMEOUT_SECONDS", .real settings.graphApiTimeoutSeconds),
   ("MAX_MESSAGE_LENGTH", .int settings.maxMessageLength),
   ("ACCOUNT_CACHE_TTL_SECONDS", .int settings.accountCacheTtlSeconds),
   ("SWEEP_ENABLED", .bool settings.sweepEnabled),
   ("SWEEP_INTERVAL_SECONDS", .int settings.sweepIntervalSeconds),
   ("SWEEP_BATCH_SIZE", .int settings.sweepBatchSize),
   ("NOTIFICATION_WEBHOOK_URL", .ofText? settings.notificationWebhookUrl),
   ("HOST", .text settings.host),
   ("PORT", .int settings.port),
   ("GRAPH_API_URL", .text settings.graphApiUrl)]

end Settings
end MessageFlow
