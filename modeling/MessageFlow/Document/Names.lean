import MessageFlow.Document.Field

/-!
The names of all document fields.
-/

namespace MessageFlow.Field

def id : FieldName := .plain "id"
def type : FieldName := .plain "type"
def data : FieldName := .plain "data"
def position : FieldName := .plain "position"
def source : FieldName := .plain "source"
def target : FieldName := .plain "target"
def sourceHandle : FieldName := ⟨"source_handle", "sourceHandle"⟩
def label : FieldName := .plain "label"
def payload : FieldName := .plain "payload"
def triggerType : FieldName := ⟨"trigger_type", "triggerType"⟩
def keywords : FieldName := .plain "keywords"
def postIds : FieldName := ⟨"post_ids", "postIds"⟩
def replyToStory : FieldName := ⟨"reply_to_story", "replyToStory"⟩
def messageType : FieldName := ⟨"message_type", "messageType"⟩
def text : FieldName := .plain "text"
def quickReplies : FieldName := ⟨"quick_replies", "quickReplies"⟩
def buttons : FieldName := .plain "buttons"
def imageUrl : FieldName := ⟨"image_url", "imageUrl"⟩
def useAI : FieldName := ⟨"use_ai", "useAI"⟩
def aiPrompt : FieldName := ⟨"ai_prompt", "aiPrompt"⟩
def conditionType : FieldName := ⟨"condition_type", "conditionType"⟩
def delayType : FieldName := ⟨"delay_type", "delayType"⟩
def value : FieldName := .plain "value"
def actionType : FieldName := ⟨"action_type", "actionType"⟩
def tag : FieldName := .plain "tag"
def customMessage : FieldName := ⟨"custom_message", "customMessage"⟩
def notifyEmail : FieldName := ⟨"notify_email", "notifyEmail"⟩
def waitForReply : FieldName := ⟨"wait_for_reply", "waitForReply"⟩
def userId : FieldName := ⟨"user_id", "userId"⟩
def accountId : FieldName := ⟨"account_id", "accountId"⟩
def name : FieldName := .plain "name"
def description : FieldName := .plain "description"
def nodes : FieldName := .plain "nodes"
def edges : FieldName := .plain "edges"
def isActive : FieldName := ⟨"is_active", "isActive"⟩
def triggerCount : FieldName := ⟨"trigger_count", "triggerCount"⟩
def lastTriggeredAt : FieldName := ⟨"last_triggered_at", "lastTriggeredAt"⟩
def createdAt : FieldName := ⟨"created_at", "createdAt"⟩
def updatedAt : FieldName := ⟨"updated_at", "updatedAt"⟩
def email : FieldName := .plain "email"
def phone : FieldName := .plain "phone"
def tags : FieldName := .plain "tags"
def customFields : FieldName := ⟨"custom_fields", "customFields"⟩
def lastUserMessage : FieldName := ⟨"last_user_message", "lastUserMessage"⟩
def triggerPostId : FieldName := ⟨"trigger_post_id", "triggerPostId"⟩
def triggerCommentText : FieldName := ⟨"trigger_comment_text", "triggerCommentText"⟩
def triggerStoryId : FieldName := ⟨"trigger_story_id", "triggerStoryId"⟩
def selectedOptions : FieldName := ⟨"selected_options", "selectedOptions"⟩
def flowId : FieldName := ⟨"flow_id", "flowId"⟩
def senderId : FieldName := ⟨"sender_id", "senderId"⟩
def senderUsername : FieldName := ⟨"sender_username", "senderUsername"⟩
def currentNodeId : FieldName := ⟨"current_node_id", "currentNodeId"⟩
def previousNodeIds : FieldName := ⟨"previous_node_ids", "previousNodeIds"⟩
def status : FieldName := .plain "status"
def context : FieldName := .plain "context"
def scheduledAt : FieldName := ⟨"scheduled_at", "scheduledAt"⟩
def scheduledNodeId : FieldName := ⟨"scheduled_node_id", "scheduledNodeId"⟩
def lastError : FieldName := ⟨"last_error", "lastError"⟩
def revision : FieldName := .plain "revision"
def completedAt : FieldName := ⟨"completed_at", "completedAt"⟩
def executionId : FieldName := ⟨"execution_id", "executionId"⟩
def nodeId : FieldName := ⟨"node_id", "nodeId"⟩
def executeAt : FieldName := ⟨"execute_at", "executeAt"⟩
def processedAt : FieldName := ⟨"processed_at", "processedAt"⟩
def error : FieldName := .plain "error"
def userMessage : FieldName := ⟨"user_message", "userMessage"⟩
def assistantResponse : FieldName := ⟨"assistant_response", "assistantResponse"⟩
def systemPrompt : FieldName := ⟨"system_prompt", "systemPrompt"⟩
def tone : FieldName := .plain "tone"
def goals : FieldName := .plain "goals"
def customInstructions : FieldName := ⟨"custom_instructions", "customInstructions"⟩
def forbiddenTopics : FieldName := ⟨"forbidden_topics", "forbiddenTopics"⟩
def handoffKeywords : FieldName := ⟨"handoff_keywords", "handoffKeywords"⟩
def exampleConversations : FieldName := ⟨"example_conversations", "exampleConversations"⟩
def maxResponseLength : FieldName := ⟨"max_response_length", "maxResponseLength"⟩
def collectEmail : FieldName := ⟨"collect_email", "collectEmail"⟩
def collectPhone : FieldName := ⟨"collect_phone", "collectPhone"⟩
def emailPrompt : FieldName := ⟨"email_prompt", "emailPrompt"⟩
def phonePrompt : FieldName := ⟨"phone_prompt", "phonePrompt"⟩
def username : FieldName := .plain "username"
def instagramAccountId : FieldName := ⟨"instagram_account_id", "instagramAccountId"⟩
def pageId : FieldName := ⟨"page_id", "pageId"⟩
def accessToken : FieldName := ⟨"access_token", "accessToken"⟩
def aiPersonality : FieldName := ⟨"ai_personality", "aiPersonality"⟩
def settings : FieldName := .plain "settings"
def instagramUserId : FieldName := ⟨"instagram_user_id", "instagramUserId"⟩

end MessageFlow.Field
