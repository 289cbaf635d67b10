import MessageFlow.Settings

/-!
What operations need to know of the deployment they run in.
-/

namespace MessageFlow

structure Deployment where
  graphUrl : String
  maxMessageLength : Int
  hasAssistant : Bool
  assistantModel : String
  assistantTimeout : Binary64
  webhookUrl : String
  keepsNotifications : Bool
  batchSize : Int
  sweepEnabled : Bool
  appName : String
  deriving DecidableEq

/-- The deployment that the settings describe. -/
def Settings.deployment (settings : Settings) : Deployment where
  graphUrl := settings.graphApiUrl
  maxMessageLength := settings.maxMessageLength
  hasAssistant := !settings.openaiApiKey.isEmpty
  assistantModel := settings.openaiModel
  assistantTimeout := settings.openaiTimeoutSeconds
  webhookUrl := settings.notificationWebhookUrl.getD ""
  keepsNotifications := false
  batchSize := settings.sweepBatchSize
  sweepEnabled := settings.sweepEnabled
  appName := settings.appName

end MessageFlow
