import MessageFlow.Proofs.Discipline
import MessageFlow.Proofs.Manner

/-!
Operations that keep away from the stored executions and their tickets: they send, store leads, load
flows and accounts, and none of them fails with a conflict.
-/

namespace MessageFlow

/-- Asks neither for executions nor for tickets, nor for an id to name a new one. -/
def Request.IsApart : Request → Prop
  | .query q => q.table ≠ .executions ∧ q.table ≠ .tickets
  | .freshId => False
  | _ => True

/-- The discipline of what keeps apart and belongs to no traversal by itself. -/
def Discipline.apart : Discipline Unit := fun _ traversed request _ =>
  traversed = none ∧ request.IsApart

/-- Whoever stands here may ask for what keeps apart, and stands here afterwards. -/
def Discipline.Idles {σ : Type} (discipline : Discipline σ) (s : σ) : Prop :=
  ∀ request : Request, request.IsApart → discipline s none request fun _ => s

theorem Program.obeys_of_apart {σ α : Type} {discipline : Discipline σ} {s : σ} {p : Program α}
    {post : α → Prop} (apart : p.Obeys .apart () fun a _ => post a) (idles : discipline.Idles s) :
    p.Obeys discipline s fun a s' => s' = s ∧ post a := by
  induction p with
  | done value => exact ⟨rfl, apart⟩
  | ask traversed request next ih =>
    obtain ⟨_, ⟨rfl, permitted⟩, rest⟩ := apart
    exact ⟨fun _ => s, idles request permitted, fun answer may => ih answer (rest answer may)⟩

namespace Operation

variable {α β : Type}

def Apart (operation : Operation α) : Prop :=
  operation.Obeys .apart () fun outcome _ =>
    ∀ failure, outcome = .error failure → failure.isConflict = false

theorem Apart.obeys {σ : Type} {discipline : Discipline σ} {s : σ} {operation : Operation α}
    (apart : operation.Apart) (idles : discipline.Idles s) :
    operation.Obeys discipline s fun outcome s' =>
      s' = s ∧ ∀ failure, outcome = .error failure → failure.isConflict = false :=
  Program.obeys_of_apart apart idles

theorem apart_pure (a : α) : (pure a : Operation α).Apart := by
  intro failure same
  cases same

theorem apart_throw {failure : Failure} (other : failure.isConflict = false) :
    (throw failure : Operation α).Apart := by
  intro thrown same
  cases same
  exact other

theorem Apart.bind {operation : Operation α} {f : α → Operation β} (first : operation.Apart)
    (rest : ∀ a, (f a).Apart) : (operation >>= f).Apart := by
  refine obeys_bind (obeys_mono first ?_)
  intro outcome _ other
  rcases outcome with failure | a
  · intro thrown same
    cases same
    exact other failure rfl
  · exact rest a

theorem Apart.attempt {operation : Operation α} (apart : operation.Apart) :
    (attempt operation).Apart := by
  refine obeys_attempt (obeys_mono apart ?_)
  intro outcome _ _ failure same
  cases same

theorem apart_request (request : Request) (apart : request.IsApart) :
    Apart (ExceptT.lift (Program.request request)) := by
  apply obeys_request (fun _ => ()) ⟨rfl, apart⟩
  intro answer _ failure same
  cases same

theorem apart_now : now.Apart := apart_request .now trivial

theorem apart_query {q : Query}
    (elsewhere : (q.table == .executions || q.table == .tickets) = false) : (query q).Apart := by
  have apart : q.table ≠ .executions ∧ q.table ≠ .tickets := by
    rw [Bool.or_eq_false_iff, beq_eq_false_iff_ne, beq_eq_false_iff_ne] at elsewhere
    exact elsewhere
  apply obeys_query (fun _ => ()) ⟨rfl, apart⟩
  intro answer may failure same
  rcases may with ⟨tables, rfl⟩ | rfl | ⟨refusal, rfl, other⟩
  · cases same
  · cases same
  · cases same
    exact other

theorem apart_of_plain {operation : Operation α} (plain : operation.Plain) : operation.Apart := by
  cases plain with
  | pure a => exact apart_pure a
  | throw failure own => exact apart_throw (Failure.isConflict_of_isOwn own)

theorem apart_parse [DocumentType α] (row : Row) : (parse row : Operation α).Apart :=
  apart_of_plain (plain_parse row)

theorem apart_map {f : α → β} {operation : Operation α} (apart : operation.Apart) :
    (f <$> operation).Apart := by
  rw [← bind_pure_comp]
  exact apart.bind fun a => apart_pure (f a)

theorem apart_mapM {f : α → Operation β} (apart : ∀ a, (f a).Apart) (items : List α) :
    (items.mapM f).Apart := by
  induction items with
  | nil => exact apart_pure []
  | cons item items ih =>
    rw [List.mapM_cons]
    exact (apart item).bind fun b => ih.bind fun bs => apart_pure (b :: bs)

theorem apart_forM {f : α → Operation PUnit} (apart : ∀ a, (f a).Apart) (items : List α) :
    (items.forM f).Apart := by
  induction items with
  | nil => exact apart_pure _
  | cons item items ih =>
    exact (apart item).bind fun _ => ih

/-- The first row read as a document, unless there is none. -/
theorem apart_first [DocumentType α] (rows : List Row) :
    (match rows with
      | [] => pure none
      | row :: _ => some <$> parse row : Operation (Option α)).Apart := by
  cases rows with
  | nil => exact apart_pure none
  | cons row rows => exact apart_map (apart_parse row)

end Operation

open Operation

namespace Gateway

theorem apart_send (deployment : Deployment) (account : Account) (recipient : String)
    (content : MessageContent) : (send deployment account recipient content).Apart := by
  unfold send
  split
  · exact apart_pure _
  · exact (apart_of_plain (Delivery.plain_address _)).bind fun address =>
      (apart_of_plain (Delivery.plain_header _)).bind fun _ =>
        (apart_request (.post _) trivial).bind fun outcome =>
          apart_of_plain (Delivery.plain_isAccepted address _ outcome)

theorem apart_sendText (deployment : Deployment) (account : Account) (recipient text : String) :
    (sendText deployment account recipient text).Apart := apart_send ..

theorem apart_sendChoices (deployment : Deployment) (account : Account) (recipient text : String)
    (options : List ReplyOption) :
    (sendChoices deployment account recipient text options).Apart := apart_send ..

theorem apart_sendImage (deployment : Deployment) (account : Account) (recipient url : String) :
    (sendImage deployment account recipient url).Apart := apart_send ..

end Gateway

theorem Assistant.apart_reply (deployment : Deployment) (systemPrompt : String) (turns : List Turn)
    (maxTokens : Int) : (reply deployment systemPrompt turns maxTokens).Apart := by
  unfold reply
  split
  · exact (apart_request (.complete _) trivial).bind fun outcome => apart_pure _
  · exact apart_pure _

namespace Notification

theorem apart_announce (deployment : Deployment) (notification : Notification) :
    (announce deployment notification).Apart := by
  unfold announce
  exact (apart_of_plain (Delivery.plain_address _)).bind fun address =>
    (apart_of_plain (Delivery.plain_body _)).bind fun _ =>
      (apart_request (.announce _) trivial).bind fun outcome =>
        apart_of_plain (Delivery.plain_isAccepted address _ outcome)

theorem apart_send (deployment : Deployment) (execution : Execution) (recipient : Option String)
    (type : NotificationType) : (send deployment execution recipient type).Apart := by
  have told (notification : Notification) :
      (if deployment.webhookUrl.isEmpty then pure notification
        else do
          let delivered ← announce deployment notification
          pure { notification with delivered } : Operation Notification).Apart := by
    split
    · exact apart_pure _
    · exact (apart_announce _ _).bind fun delivered => apart_pure _
  refine (apart_of_plain (plain_ensureWritable _)).bind fun _ => apart_now.bind fun now => ?_
  by_cases keeps : deployment.keepsNotifications = true
  · simp only [keeps, if_true]
    exact (apart_query rfl).attempt.bind fun _ => told _
  · simp only [keeps]
    exact told _

end Notification

theorem apart_getLead (accountId senderId : String) : (getLead accountId senderId).Apart :=
  (apart_query rfl).bind fun rows => apart_first rows

theorem apart_upsertLead (report : LeadReport) : (upsertLead report).Apart := by
  unfold upsertLead
  refine apart_now.bind fun now => (apart_getLead _ _).bind fun found => ?_
  cases found with
  | some lead =>
    refine (apart_query rfl).bind fun rows => ?_
    cases rows with
    | nil => exact apart_pure _
    | cons row rows => exact apart_parse row
  | none =>
    refine (apart_query rfl).bind fun rows => ?_
    cases rows with
    | nil => exact apart_parse _
    | cons row rows => exact apart_parse row

theorem AccountLookup.apart_get (id : String) : (get id).Apart := by
  unfold get find
  refine (apart_request (.remembered _) trivial).bind fun cached => ?_
  cases cached with
  | some account => exact apart_pure _
  | none =>
    refine (apart_query rfl).bind fun rows => ?_
    cases rows with
    | nil => exact apart_pure none
    | cons row rows =>
      exact (apart_parse row).bind fun account =>
        (apart_forM (fun key => apart_request (.remember key account) trivial) _).bind fun _ =>
          apart_pure _

namespace Store

theorem apart_getFlow (id : String) : (getFlow id).Apart :=
  (apart_query rfl).bind fun rows => apart_first rows

theorem apart_listActiveFlows (accountId : String) : (listActiveFlows accountId).Apart :=
  (apart_query rfl).bind fun rows => apart_mapM apart_parse rows

theorem apart_recordTrigger (flow : Flow) (time : Timestamp) : (recordTrigger flow time).Apart :=
  (apart_getFlow _).bind fun _ => (apart_query rfl).bind fun _ => apart_pure _

theorem apart_deleteFlow (id : String) : (deleteFlow id).Apart :=
  (apart_query rfl).bind fun _ => apart_pure _

end Store
end MessageFlow
