import MessageFlow.Proofs.Errand.InStep
import MessageFlow.Proofs.Validation.Node
import MessageFlow.Run.Start

/-!
What is asked while an execution is traversed: the programs are in step with themselves.
-/

namespace MessageFlow
open Operation

variable {errand : Errand}

theorem Operation.inStep_now : now.InStep errand.Allows errand.ids :=
  inStep_ask .now (.other _ nofun)

theorem Gateway.inStep_send (deployment : Deployment) (account : Account) (recipient : String)
    (content : MessageContent) :
    (send deployment account recipient content).InStep errand.Allows errand.ids := by
  unfold send
  split
  · exact inStep_pure _
  · refine (inStep_of_plain (Delivery.plain_address _)).bind fun address => ?_
    refine (inStep_of_plain (Delivery.plain_header _)).bind fun _ => ?_
    exact InStep.bind (inStep_ask (.post _) (.other _ nofun)) fun outcome =>
      inStep_of_plain (Delivery.plain_isAccepted address _ outcome)

theorem Assistant.inStep_reply (deployment : Deployment) (systemPrompt : String)
    (turns : List Turn) (maxTokens : Int) :
    (reply deployment systemPrompt turns maxTokens).InStep errand.Allows errand.ids := by
  unfold reply
  split
  · exact InStep.bind (inStep_ask (.complete _) (.other _ nofun)) fun outcome => inStep_pure _
  · exact inStep_pure _

namespace Notification

theorem inStep_announce (deployment : Deployment) (notification : Notification) :
    (announce deployment notification).InStep errand.Allows errand.ids := by
  refine (inStep_of_plain (Delivery.plain_address _)).bind fun address => ?_
  refine (inStep_of_plain (Delivery.plain_body _)).bind fun _ => ?_
  exact InStep.bind (inStep_ask (.announce _) (.other _ nofun)) fun outcome =>
    inStep_of_plain (Delivery.plain_isAccepted address _ outcome)

/-- Whether the notification could be stored is not looked at. -/
theorem inStep_send (deployment : Deployment) (execution : Execution) (recipient : Option String)
    (type : NotificationType) :
    (send deployment execution recipient type).InStep errand.Allows errand.ids := by
  have told (notification : Notification) :
      (if deployment.webhookUrl.isEmpty then pure notification
        else do
          let delivered ← announce deployment notification
          pure { notification with delivered } : Operation Notification).InStep errand.Allows
            errand.ids := by
    split
    · exact inStep_pure _
    · exact (inStep_announce _ _).bind fun delivered => inStep_pure _
  refine (inStep_of_plain (plain_ensureWritable _)).bind fun _ => inStep_now.bind fun now => ?_
  by_cases keeps : deployment.keepsNotifications = true
  · simp only [keeps, if_true]
    exact .beside (.note _) (.note _) (fun _ _ _ _ => told _) (fun _ => told _) fun _ _ => told _
  · simp only [keeps]
    exact told _

end Notification

section Leads

/-- What becomes of rows that are read as leads. -/
theorem exists_first_lead {rows : List Row}
    (tells : ∀ row ∈ rows, ∃ lead, Lead.read (.record row) = .valid lead) :
    ∃ lead?, (match rows with
      | [] => pure none
      | row :: _ => some <$> parse row : Operation (Option Lead)) = pure lead? := by
  cases rows with
  | nil => exact ⟨none, rfl⟩
  | cons row rows =>
    obtain ⟨lead, reads⟩ := tells row (.head _)
    refine ⟨some lead, ?_⟩
    simp only [parse_of_valid (α := Lead) reads]
    rfl

theorem agrees_getLead (accountId senderId : String) :
    (getLead accountId senderId).Agrees errand.Allows errand.ids := by
  refine agreeing_beside (.look _ _) (.look _ _) (fun rows rows' tells tells' => ?_)
    fun _ rows => ?_
  · obtain ⟨_, first⟩ := exists_first_lead (tells rfl)
    obtain ⟨_, second⟩ := exists_first_lead (tells' rfl)
    exact agreeing_pure first second
  · cases rows with
    | nil => exact (inStep_pure none).agrees
    | cons row rows =>
      simp only [← bind_pure_comp]
      exact ((inStep_parse row).bind fun lead => inStep_pure (some lead)).agrees

/-- What is made of the row that was written for a lead, or without one. -/
theorem agreeing_stored {rows rows' : List Row} {lead lead' : Operation Lead}
    (tells : ∀ row ∈ rows, ∃ lead, Lead.read (.record row) = .valid lead)
    (tells' : ∀ row ∈ rows', ∃ lead, Lead.read (.record row) = .valid lead)
    (first : ∃ a, lead = pure a) (second : ∃ a, lead' = pure a) :
    Agreeing errand.Allows errand.ids
      (match rows with
        | [] => lead
        | row :: _ => parse row)
      (match rows' with
        | [] => lead'
        | row :: _ => parse row) := by
  have read {rows : List Row} {lead : Operation Lead} (unwritten : ∃ a, lead = pure a)
      (tells : ∀ row ∈ rows, ∃ lead, Lead.read (.record row) = .valid lead) :
      ∃ a, (match rows with
        | [] => lead
        | row :: _ => parse row : Operation Lead) = pure a := by
    cases rows with
    | nil => exact unwritten
    | cons row rows =>
      obtain ⟨a, reads⟩ := tells row (.head _)
      exact ⟨a, parse_of_valid (α := Lead) reads⟩
  obtain ⟨_, isFirst⟩ := read first tells
  obtain ⟨_, isSecond⟩ := read second tells'
  exact agreeing_pure isFirst isSecond

/-- A report ends in the same way, whether the sender was known or not. -/
theorem agrees_upsertLead (report : LeadReport) :
    (upsertLead report).Agrees errand.Allows errand.ids := by
  have created (now : Timestamp) : ∃ lead,
      (parse (report.creation now.columnText) : Operation Lead) = pure lead := by
    obtain ⟨lead, reads⟩ := LeadReport.exists_read_creation report now
    exact ⟨lead, parse_of_valid (α := Lead) reads⟩
  have columns (now : Timestamp) :
      ∀ entry ∈ ("updated_at", Json.text now.columnText) :: report.news, Lead.Column entry := by
    intro entry present
    rcases List.mem_cons.mp present with rfl | new
    · exact .time "updated_at" now (by decide)
    · exact LeadReport.column_of_news entry new
  have same (rows : List Row) {lead lead' : Operation Lead} (first : ∃ a, lead = pure a)
      (second : ∃ a, lead' = pure a) : Agreeing errand.Allows errand.ids
        (match rows with
          | [] => lead
          | row :: _ => parse row)
        (match rows with
          | [] => lead'
          | row :: _ => parse row) := by
    cases rows with
    | nil =>
      obtain ⟨_, first⟩ := first
      obtain ⟨_, second⟩ := second
      exact agreeing_pure first second
    | cons row rows => exact (inStep_parse row).agrees
  unfold upsertLead
  refine inStep_now.bindAgreeing fun now => (agrees_getLead _ _).bind fun known known' => ?_
  obtain ⟨lead, reads⟩ := LeadReport.exists_read_creation report now
  cases known with
  | none =>
    cases known' with
    | none =>
      exact agreeing_beside (.report _ lead reads) (.report _ lead reads)
        (fun _ _ tells tells' =>
          agreeing_stored (tells rfl) (tells' rfl) (created now) (created now))
        fun _ rows => same rows (created now) (created now)
    | some other =>
      exact agreeing_beside (.report _ lead reads) (.revise _ _ (columns now))
        (fun _ _ tells tells' => agreeing_stored (tells rfl) (tells' rfl) (created now) ⟨_, rfl⟩)
        nofun
  | some earlier =>
    cases known' with
    | none =>
      exact agreeing_beside (.revise _ _ (columns now)) (.report _ lead reads)
        (fun _ _ tells tells' => agreeing_stored (tells rfl) (tells' rfl) ⟨_, rfl⟩ (created now))
        nofun
    | some other =>
      exact agreeing_beside (.revise _ _ (columns now)) (.revise _ _ (columns now))
        (fun _ _ tells tells' => agreeing_stored (tells rfl) (tells' rfl) ⟨_, rfl⟩ ⟨_, rfl⟩)
        fun _ rows => same rows ⟨_, rfl⟩ ⟨_, rfl⟩

end Leads

namespace Store

theorem inStep_createTicket {ticket : Ticket} (isNew : ticket.IsNew)
    (drawn : ticket.id ∈ errand.ids) (flowId : ticket.flowId = errand.flow) :
    (createTicket ticket).InStep errand.Allows errand.ids := by
  refine (inStep_of_plain (plain_ensureWritable ticket)).bind fun _ =>
    (inStep_query _ (.file ticket isNew drawn flowId)).bind fun rows => ?_
  cases rows with
  | nil => exact inStep_pure ticket
  | cons row rows => exact inStep_parse row

theorem inStep_saveExecution : saveExecution.InStep errand := by
  refine Run.inStep_get fun e carried => ?_
  refine (Run.inStep_lift (inStep_of_plain (plain_ensureWritable e))).bind fun _ => ?_
  refine (Run.inStep_lift (inStep_query _ (.write e carried))).bind fun rows => ?_
  split
  · exact Run.inStep_throw _
  · exact Run.inStep_set ⟨carried.known, carried.flowId, carried.extras⟩

end Store

namespace Errand.Carries

variable {v e : Execution}

theorem of_same (carried : errand.Carries v) (id : e.id = v.id) (flowId : e.flowId = v.flowId)
    (extras : e.extras = v.extras) : errand.Carries e where
  known := id ▸ carried.known
  flowId := flowId.trans carried.flowId
  extras := extras.trans carried.extras

end Errand.Carries

namespace Run

variable {α : Type}

theorem inStep_now : (lift now).InStep errand := inStep_lift Operation.inStep_now

/-- A new id is one of those that may be drawn. -/
theorem inStep_draw {f : String → Run α} (rest : ∀ id ∈ errand.ids, (f id).InStep errand) :
    (lift freshId >>= f).InStep errand :=
  fun e carried => .both (.other _ nofun) fun id drawn => rest id drawn e carried

/-- A change that leaves alone what the errand is about. -/
theorem inStep_change {change : Execution → Execution}
    (id : ∀ e, (change e).id = e.id := by exact fun _ => rfl)
    (flowId : ∀ e, (change e).flowId = e.flowId := by exact fun _ => rfl)
    (extras : ∀ e, (change e).extras = e.extras := by exact fun _ => rfl) :
    (modify change : Run PUnit).InStep errand :=
  inStep_modify fun e carried => carried.of_same (id e) (flowId e) (extras e)

theorem inStep_save : save.InStep errand :=
  inStep_now.bind fun now => (inStep_change).bind fun _ => Store.inStep_saveExecution

theorem inStep_complete : complete.InStep errand :=
  inStep_now.bind fun now => (inStep_change).bind fun _ => inStep_save

theorem inStep_fail (error : String) : (fail error).InStep errand :=
  (inStep_change).bind fun _ => inStep_save

variable (deployment : Deployment) (account : Account)

theorem inStep_messageText (node : Node) :
    (messageText deployment account node).InStep errand := by
  refine inStep_get fun e _ => ?_
  split
  · exact inStep_lift (Assistant.inStep_reply ..)
  · exact inStep_pure _

theorem inStep_sendMessage (node : Node) : (sendMessage deployment account node).InStep errand := by
  have sends (recipient : String) (content : MessageContent) :
      (lift (Gateway.send deployment account recipient content)).InStep errand :=
    inStep_lift (Gateway.inStep_send ..)
  refine (inStep_messageText deployment account node).bind fun text => inStep_get fun e _ => ?_
  simp only
  split
  · refine (sends _ _).bind fun _ => ?_
    split
    · exact (sends _ _).bind fun _ => inStep_pure ()
    · exact inStep_pure ()
  · split
    · split
      · exact (sends _ _).bind fun _ => inStep_pure ()
      · exact (sends _ _).bind fun _ => inStep_pure ()
    · exact inStep_pure ()

theorem inStep_modifyContext (change : Context → Context) :
    (modifyContext change).InStep errand :=
  inStep_change

theorem inStep_performAction (data : NodeData) :
    (performAction deployment account data).InStep errand := by
  have prompts (text : String) : (sendPrompt deployment account text).InStep errand :=
    inStep_get fun e _ => (inStep_lift (Gateway.inStep_send ..)).bind fun _ => inStep_pure ()
  unfold performAction
  cases data.actionKind? with
  | none => exact inStep_pure ()
  | some kind =>
    cases kind with
    | collectEmail | collectPhone => exact (prompts _).bind fun _ => inStep_modifyContext _
    | addTag | removeTag | subscribe | unsubscribe => exact inStep_modifyContext _
    | createLead => exact inStep_get fun e _ => inStep_then (agrees_upsertLead _) (inStep_pure ())
    | notify =>
      exact inStep_get fun e _ =>
        (inStep_lift (Notification.inStep_send ..)).bind fun _ => inStep_pure ()

theorem inStep_ofDelay (result : Except DelayError α) : (ofDelay result).InStep errand := by
  cases result with
  | ok value => exact inStep_pure value
  | error error => exact inStep_throw _

variable {flow : Flow} (isFlow : flow.id = errand.flow)
include isFlow

theorem inStep_startDelay (node : Node) : (startDelay account flow node).InStep errand := by
  refine (inStep_ofDelay _).bind fun amount => inStep_now.bind fun now => ?_
  refine (inStep_ofDelay _).bind fun wake => inStep_draw fun id drawn => inStep_get fun e _ => ?_
  refine (inStep_lift (Store.inStep_createTicket ⟨rfl, rfl⟩ drawn isFlow)).bind fun _ => ?_
  exact inStep_change

theorem inStep_handleNode (node : Node) :
    (handleNode deployment account flow node).InStep errand := by
  unfold handleNode
  cases node.kind? with
  | none => exact inStep_pure _
  | some kind =>
    cases kind with
    | message => exact (inStep_sendMessage deployment account node).bind fun _ => inStep_pure _
    | condition => exact inStep_get fun e _ => inStep_pure _
    | delay => exact (inStep_startDelay account isFlow node).bind fun _ => inStep_pure _
    | action =>
      refine (inStep_performAction deployment account node.data).bind fun _ => ?_
      split
      · exact (inStep_change).bind fun _ => inStep_pure _
      · exact inStep_pure _
    | trigger => exact inStep_pure _

theorem inStep_executeNode (node : Node) :
    (executeNode deployment account flow node).InStep errand := by
  refine (inStep_handleNode deployment account isFlow node).attempt.bind fun outcome => ?_
  cases outcome with
  | ok outcome => exact inStep_pure outcome
  | error failure =>
    simp only
    split
    · exact inStep_throw failure
    · exact (inStep_fail _).bind fun _ => inStep_pure _

theorem inStep_visit (node : Node) : (visit deployment account flow node).InStep errand := by
  refine (inStep_change).bind fun _ =>
    (inStep_executeNode deployment account isFlow node).bind fun outcome => ?_
  cases outcome with
  | failed error => exact inStep_pure none
  | proceed | branch | suspend => exact inStep_save.bind fun _ => inStep_pure _

theorem inStep_walk (steps : Nat) (queue : List Node) (branch : Option Bool) :
    (walk deployment account flow steps queue branch).InStep errand :=
  walk_of (inStep_pure ()) inStep_complete (inStep_fail stepLimitError)
    (fun _ rest => inStep_get fun e _ => rest e)
    (fun node _ rest => (inStep_visit deployment account isFlow node).bind rest) steps queue branch

/-- A traversal with its flow in hand is in step with itself. -/
theorem inStep_resume : (resume deployment account (some flow)).InStep errand := by
  have traverses : (traverse deployment account (some flow)).InStep errand :=
    inStep_get fun e carried => inStep_walk deployment account isFlow maxSteps [] none
  refine InStep.traversing (traverses.attempt.bind fun outcome => ?_)
  cases outcome with
  | ok _ => exact inStep_pure ()
  | error failure =>
    simp only
    split
    · exact inStep_pure ()
    · exact inStep_throw failure

end Run
end MessageFlow
