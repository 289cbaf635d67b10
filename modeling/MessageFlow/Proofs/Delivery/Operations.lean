import MessageFlow.Proofs.Delivery.Posting
import MessageFlow.Proofs.Interleaving.Task

/-!
All tasks are steady, where the deployment reaches the accounts that they work with.
-/

namespace MessageFlow
open Operation

variable {fit : Account → Prop} {deployment : Deployment} {account : Account}

namespace Run

theorem quiet_messageText (deployment : Deployment) (account : Account) (node : Node) :
    (messageText deployment account node).Quiet := by
  refine quiet_get.bind fun e => ?_
  split
  · exact quiet_lift (Assistant.quiet_reply ..)
  · exact quiet_pure _

/-- A fixed text, or the fallback of a deployment without an assistant. -/
theorem steady_messageText (hasNone : deployment.hasAssistant = false) (node : Node) :
    (messageText deployment account node).Suits (.steady fit) := by
  refine suits_get.bind fun e => ?_
  split
  · exact suits_lift (Assistant.steady_reply hasNone ..)
  · exact suits_pure _

/-- Where every message is posted, nothing stops a message node. -/
theorem quiet_sendMessage (sends : ∀ recipient content,
    (Gateway.send deployment account recipient content).Quiet) (node : Node) :
    (sendMessage deployment account node).Quiet := by
  refine (quiet_messageText deployment account node).bind fun text => quiet_get.bind fun e => ?_
  simp only
  split
  · refine (quiet_lift (sends _ _)).bind fun _ => ?_
    split
    · exact (quiet_lift (sends _ _)).bind fun _ => quiet_pure ()
    · exact quiet_pure ()
  · split
    · split
      · exact (quiet_lift (sends _ _)).bind fun _ => quiet_pure ()
      · exact (quiet_lift (sends _ _)).bind fun _ => quiet_pure ()
    · exact quiet_pure ()

theorem steady_sendMessage (reaches : deployment.Reaches account) (node : Node) :
    (sendMessage deployment account node).Suits (.steady fit) := by
  -- With an assistant the texts of the two runs differ, and one of them may be blank: then no post
  -- may fail. Without one the texts are the same, and a post fails in both runs or in none.
  cases hasAssistant : deployment.hasAssistant with
  | true => exact (quiet_sendMessage (Gateway.quiet_send reaches hasAssistant) node).steady
  | false =>
    unfold sendMessage
    have sends (recipient : String) (content : MessageContent) :
        (Gateway.send deployment account recipient content).Settled fit :=
      Gateway.settled_send reaches recipient content
    refine (steady_messageText hasAssistant node).bind fun text => suits_get.bind fun e => ?_
    simp only
    split
    · refine steady_then (sends _ _) ?_
      split
      · exact steady_then (sends _ _) (suits_pure ())
      · exact suits_pure ()
    · split
      · split
        · exact steady_then (sends _ _) (suits_pure ())
        · exact steady_then (sends _ _) (suits_pure ())
      · exact suits_pure ()

theorem steady_sendPrompt (reaches : deployment.Reaches account) (text : String) :
    (sendPrompt deployment account text).Suits (.steady fit) :=
  suits_get.bind fun _ => steady_then (Gateway.settled_send reaches _ _) (suits_pure ())

theorem steady_performAction (reaches : deployment.Reaches account) (data : NodeData) :
    (performAction deployment account data).Suits (.steady fit) := by
  unfold performAction
  cases data.actionKind? with
  | none => exact suits_pure ()
  | some kind =>
    cases kind with
    | collectEmail | collectPhone =>
      exact (steady_sendPrompt reaches _).bind fun _ => suits_modifyContext _
    | addTag | removeTag | subscribe | unsubscribe => exact suits_modifyContext _
    | createLead =>
      exact suits_get.bind fun _ =>
        steady_then (settled_of_steady (suits_upsertLead _)) (suits_pure ())
    | notify =>
      exact suits_get.bind fun _ =>
        steady_then (Notification.settled_send reaches _ _ _) (suits_pure ())

theorem steady_handleNode (reaches : deployment.Reaches account) (flow : Flow) (node : Node) :
    (handleNode deployment account flow node).Suits (.steady fit) := by
  unfold handleNode
  cases node.kind? with
  | none => exact suits_pure _
  | some kind =>
    cases kind with
    | message => exact (steady_sendMessage reaches node).bind fun _ => suits_pure _
    | condition => exact suits_get.bind fun _ => suits_pure _
    | delay => exact (suits_startDelay account flow node).bind fun _ => suits_pure _
    | action =>
      refine (steady_performAction reaches node.data).bind fun _ => ?_
      split
      · exact (suits_modify _).bind fun _ => suits_pure _
      · exact suits_pure _
    | trigger => exact suits_pure _

theorem steady_executeNode (reaches : deployment.Reaches account) (flow : Flow) (node : Node) :
    (executeNode deployment account flow node).Suits (.steady fit) := by
  refine (steady_handleNode reaches flow node).attempt.bind fun outcome => ?_
  cases outcome with
  | ok outcome => exact suits_pure outcome
  | error failure =>
    simp only
    split
    · exact suits_throw failure
    · exact (suits_fail _).bind fun _ => suits_pure _

theorem steady_visit (reaches : deployment.Reaches account)
    (flow : Flow) (node : Node) : (visit deployment account flow node).Suits (.steady fit) := by
  refine (suits_modify _).bind fun _ =>
    (steady_executeNode reaches flow node).bind fun outcome => ?_
  cases outcome with
  | failed error => exact suits_pure none
  | proceed | branch | suspend => exact suits_save.bind fun _ => suits_pure _

theorem steady_resume (reaches : deployment.Reaches account) (flow : Option Flow) :
    (resume deployment account flow).Steady fit := by
  have steady : (resume deployment account flow).Suits (.steady fit) :=
    suits_resume (steady_visit reaches) flow
  exact steady

end Run

namespace AccountLookup

/-- Steady, and an account that is found is fit. -/
def FindsFit (fit : Account → Prop) (operation : Operation (Option Account)) : Prop :=
  operation.run.Twins fit
    (fun found found' => found = found' ∧ ∀ account, found = .ok (some account) → fit account)
    operation.run

theorem findsFit_throw (failure : Failure) : FindsFit fit (throw failure) :=
  .done ⟨rfl, fun _ same => by cases same⟩

theorem findsFit_none : FindsFit fit (pure none) := .done ⟨rfl, fun _ same => by cases same⟩

theorem findsFit_some {account : Account} (isFit : fit account) :
    FindsFit fit (pure (some account)) := by
  refine .done ⟨rfl, fun found same => ?_⟩
  cases same
  exact isFit

theorem findsFit_then {α : Type} {operation : Operation α} {f : α → Operation (Option Account)}
    (first : operation.Suits (.steady fit)) (rest : ∀ a, FindsFit fit (f a)) :
    FindsFit fit (operation >>= f) := by
  apply Program.Twins.bind first
  rintro (failure | a) _ rfl
  · exact findsFit_throw failure
  · exact rest a

theorem findsFit_read {title : String} (result : Validated Account)
    (fits : ∀ account ∈ result.toOption, fit account) :
    FindsFit fit (do
      let account ← ofValidated title result
      rememberAccount account
      pure (some account)) := by
  cases result with
  | invalid issues => exact findsFit_throw _
  | valid account =>
    have remembers := findsFit_then (suits_rememberAccount account) fun _ =>
      findsFit_some (fits account rfl)
    exact remembers

/-- The account that is found is one that was looked up. -/
theorem findsFit_get (id : String) : FindsFit fit (get id) := by
  refine .inside rfl fun cached fits => ?_
  cases cached with
  | some account => exact findsFit_some (fits account (.head []))
  | none =>
    refine .inside rfl fun answer fits => ?_
    rcases answer with failure | _ | ⟨row, rows⟩
    · exact findsFit_throw failure
    · exact findsFit_none
    · exact findsFit_read _ fun account isRead => fits account (Option.mem_toList.mpr isRead)

end AccountLookup

theorem Sweep.steady_resume (attempts : Nat) (ticket : Ticket) :
    (resume deployment attempts ticket).Suits (.steady deployment.Reaches) := by
  refine (Store.suits_getExecution ticket.executionId).bind fun found => ?_
  cases found with
  | none => exact suits_failTicket ticket executionNotFound
  | some e =>
    -- Not only the same account is found in both runs, but one that is reached.
    refine Program.Twins.bind (AccountLookup.findsFit_get ticket.accountId) ?_
    rintro (failure | _ | account) _ ⟨rfl, reaches⟩
    · exact .done rfl
    · have fails : (failTicket ticket accountNotFound).Suits (.steady deployment.Reaches) :=
        suits_failTicket ticket accountNotFound
      exact fails
    · have resumes (flow : Option Flow) :
          (Run.resume deployment account flow).Suits (.steady deployment.Reaches) :=
        Run.steady_resume (reaches account rfl) flow
      exact suits_resumeExecution resumes ticket attempts none e

namespace Task

/-- The account that a task is given. -/
def account? : Task → Option Account
  | .start account .. | .trigger account _ | .handle account .. | .route account ..
  | .dispatch account .. => some account
  | .sweep .. | .deleteFlow _ => none

/-- A task suits if the traversals that it begins do. -/
theorem suits_operation {manner : Manner} (task : Task)
    (resumes : ∀ account, task.account? = some account → ∀ flow,
      (Run.resume deployment account flow).Suits manner)
    (sweeps : task.account? = none → ∀ attempts ticket,
      (Sweep.resume deployment attempts ticket).Suits manner) :
    (task.operation deployment).Suits manner := by
  cases task with
  | start account flow event keywords =>
    exact (Run.suits_start (resumes account rfl) flow event keywords).bind fun _ => suits_pure _
  | trigger account event =>
    exact (Run.suits_trigger (resumes account rfl) event).bind fun _ => suits_pure _
  | handle account message attempts e =>
    exact ((Inbox.suits_handle (resumes account rfl) message attempts).on e).bind fun _ =>
      suits_pure _
  | route account senderId message attempts =>
    exact (Inbox.suits_route (resumes account rfl) senderId message attempts).bind fun _ =>
      suits_pure _
  | dispatch account senderId senderUsername message attempts =>
    exact (Inbox.suits_dispatch (resumes account rfl) senderId senderUsername message
      attempts).bind fun _ => suits_pure _
  | sweep attempts at? =>
    exact (Sweep.suits_process (sweeps rfl attempts) at?).bind fun _ => suits_pure _
  | deleteFlow flowId => exact (Run.suits_deleteFlow flowId).bind fun _ => suits_pure _

theorem steady_operation (task : Task)
    (reaches : ∀ account, task.account? = some account → deployment.Reaches account) :
    (task.operation deployment).Steady deployment.Reaches := by
  have steady : (task.operation deployment).Suits (.steady deployment.Reaches) :=
    task.suits_operation (fun account given flow => Run.steady_resume (reaches account given) flow)
      fun _ => Sweep.steady_resume
  exact steady

end Task
end MessageFlow
