import MessageFlow.Proofs.Apart
import MessageFlow.Proofs.Interleaving.Task

/-!
What a node makes of the execution object. Only a delay asks for tickets; every other node keeps
apart from executions and tickets.
-/

namespace MessageFlow

theorem Execution.isWaitingOnDelay_iff {e : Execution} : e.isWaitingOnDelay = true ↔
    e.status = .waiting ∧ ∃ nodeId, e.scheduledNodeId = some nodeId := by
  rw [isWaitingOnDelay, Bool.and_eq_true, beq_iff_eq, Option.isSome_iff_exists]

/-- Only a delay parks. -/
theorem Execution.isWaitingOnDelay_afterNode (e : Execution) {node : Node}
    (immediate : node.kind? ≠ some .delay) (active : e.status = .active) (wake : Timestamp) :
    (e.afterNode node wake).isWaitingOnDelay = false := by
  have busy (a : Execution) (same : a.status = e.status) : a.isWaitingOnDelay = false := by
    rw [isWaitingOnDelay, same, active]
    rfl
  unfold afterNode
  split
  · next kind => exact absurd kind immediate
  · simp only
    split
    · rfl
    · exact busy _ rfl
  · exact busy _ rfl

/-- A message neither parks an execution nor wakes it. -/
theorem Execution.isWaitingOnDelay_receive (v : Execution) (message : InboundMessage) :
    (v.receive message).isWaitingOnDelay = v.isWaitingOnDelay := by
  cases node : v.scheduledNodeId with
  | none => simp [Execution.isWaitingOnDelay, Execution.receive, node]
  | some nodeId =>
    simp [Execution.isWaitingOnDelay, Execution.isWaitingOnInput, Execution.receive, node]

namespace Run
open Document

variable {σ α : Type} {discipline : Discipline σ} {s : σ} {e : Execution}

theorem obeys_apart {operation : Operation α} (apart : operation.Apart)
    (idles : discipline.Idles s) :
    (lift operation).Obeys discipline e s fun outcome e' s' =>
      e' = e ∧ s' = s ∧ ∀ failure, outcome = .error failure → failure.isConflict = false := by
  refine obeys_lift (Operation.obeys_mono (apart.obeys idles) ?_)
  intro outcome s' holds
  obtain ⟨same, other⟩ := holds
  exact ⟨rfl, same, other⟩

/-- Nothing was written. If the run has failed, the object is as before and the failure is no
conflict. -/
def Stays (s : σ) (e : Execution) (after : α → Execution → Prop) :
    Except Failure α → Execution → σ → Prop
  | .ok a, e', s' => s' = s ∧ after a e'
  | .error failure, e', s' => s' = s ∧ e' = e ∧ failure.isConflict = false

/-- Not even the object was changed. -/
abbrev Idles (s : σ) (e : Execution) : Except Failure α → Execution → σ → Prop :=
  Stays s e fun _ e' => e' = e

theorem stays_lift {operation : Operation α} (apart : operation.Apart)
    (idles : discipline.Idles s) : (lift operation).Obeys discipline e s (Idles s e) := by
  apply obeys_mono (obeys_apart apart idles)
  intro outcome e' s' holds
  obtain ⟨rfl, rfl, other⟩ := holds
  rcases outcome with failure | a
  · exact ⟨rfl, rfl, other failure rfl⟩
  · exact ⟨rfl, rfl⟩

theorem stays_then {β : Type} {run : Run α} {f : α → Run β} {after : β → Execution → Prop}
    (first : run.Obeys discipline e s (Idles s e))
    (next : ∀ a, (f a).Obeys discipline e s (Stays s e after)) :
    (run >>= f).Obeys discipline e s (Stays s e after) := by
  apply obeys_then first
  · intro a e' s' holds
    obtain ⟨rfl, rfl⟩ := holds
    exact next a
  · intro failure e' s' stays
    exact stays

theorem messageText_stays (deployment : Deployment) (account : Account) (node : Node)
    (idles : discipline.Idles s) :
    (messageText deployment account node).Obeys discipline e s (Idles s e) := by
  refine stays_then (obeys_get ⟨rfl, rfl⟩) fun execution => ?_
  split
  · exact stays_lift (Assistant.apart_reply ..) idles
  · exact obeys_pure ⟨rfl, rfl⟩

theorem sendMessage_stays (deployment : Deployment) (account : Account) (node : Node)
    (idles : discipline.Idles s) :
    (sendMessage deployment account node).Obeys discipline e s (Idles s e) := by
  have sendText (recipient text : String) :
      (do let _ ← lift (Gateway.sendText deployment account recipient text) :
        Run PUnit).Obeys discipline e s (Idles s e) :=
    stays_then (stays_lift (Gateway.apart_sendText ..) idles) fun _ => obeys_pure ⟨rfl, rfl⟩
  have nothing : (pure PUnit.unit : Run PUnit).Obeys discipline e s (Idles s e) :=
    obeys_pure ⟨rfl, rfl⟩
  unfold sendMessage
  refine stays_then (messageText_stays deployment account node idles) fun text => ?_
  refine stays_then (obeys_get ⟨rfl, rfl⟩) fun execution => ?_
  simp only
  split
  · refine stays_then (stays_lift (Gateway.apart_sendImage ..) idles) fun _ => ?_
    split
    · exact sendText _ _
    · exact nothing
  · split
    · split
      · exact sendText _ _
      · exact stays_then (stays_lift (Gateway.apart_sendChoices ..) idles) fun _ => nothing
    · exact nothing

theorem sendPrompt_stays (deployment : Deployment) (account : Account) (text : String)
    (idles : discipline.Idles s) :
    (sendPrompt deployment account text).Obeys discipline e s (Idles s e) := by
  refine stays_then (obeys_get ⟨rfl, rfl⟩) fun execution => ?_
  exact stays_then (stays_lift (Gateway.apart_sendText ..) idles) fun _ => obeys_pure ⟨rfl, rfl⟩

theorem performAction_stays (deployment : Deployment) (account : Account) (data : NodeData)
    (idles : discipline.Idles s) :
    (performAction deployment account data).Obeys discipline e s
      (Stays s e fun _ e' => e' = { e with context := data.contextAfter e.context }) := by
  unfold performAction NodeData.contextAfter
  cases data.actionKind? with
  | none => exact obeys_pure ⟨rfl, rfl⟩
  | some kind =>
    cases kind with
    | collectEmail =>
      exact stays_then (sendPrompt_stays _ _ _ idles) fun _ => obeys_modify ⟨rfl, rfl⟩
    | collectPhone =>
      exact stays_then (sendPrompt_stays _ _ _ idles) fun _ => obeys_modify ⟨rfl, rfl⟩
    | addTag => exact obeys_modify ⟨rfl, rfl⟩
    | removeTag => exact obeys_modify ⟨rfl, rfl⟩
    | subscribe => exact obeys_modify ⟨rfl, rfl⟩
    | unsubscribe => exact obeys_modify ⟨rfl, rfl⟩
    | createLead =>
      refine stays_then (obeys_get ⟨rfl, rfl⟩) fun execution => ?_
      exact stays_then (stays_lift (apart_upsertLead _) idles) fun _ => obeys_pure ⟨rfl, rfl⟩
    | notify =>
      refine stays_then (obeys_get ⟨rfl, rfl⟩) fun execution => ?_
      exact stays_then (stays_lift (Notification.apart_send ..) idles) fun _ =>
        obeys_pure ⟨rfl, rfl⟩

theorem ofDelay_stays (holds : Except DelayError α) :
    (ofDelay holds).Obeys discipline e s (Idles s e) := by
  cases holds with
  | ok value => exact obeys_pure ⟨rfl, rfl⟩
  | error error => exact obeys_throw ⟨rfl, rfl, rfl⟩

/-- What a handled node makes of the execution, and whether the run goes on. -/
def Handled (node : Node) (e : Execution) (outcome : NodeOutcome) (e' : Execution) : Prop :=
  (∃ wake, e' = e.afterNode node wake) ∧ outcome.error? = none ∧
    (outcome.continues = (e'.status == .active))

/-- What a node other than a delay leaves, whatever the status with which it begins. -/
theorem handleNode_leaves (deployment : Deployment) (account : Account) (flow : Flow)
    (node : Node) (immediate : node.kind? ≠ some .delay) (idles : discipline.Idles s) :
    (handleNode deployment account flow node).Obeys discipline e s
      (Stays s e fun outcome e' => (∃ wake, e' = e.afterNode node wake) ∧
        (e.status = .active → Handled node e outcome e')) := by
  have unchanged (plain : ∀ wake, e.afterNode node wake = e) (outcome : NodeOutcome)
      (fine : outcome.error? = none) (continues : outcome.continues = true) :
      (∃ wake, e = e.afterNode node wake) ∧ (e.status = .active → Handled node e outcome e) := by
    refine ⟨⟨default, (plain _).symm⟩, fun active => ⟨⟨default, (plain _).symm⟩, fine, ?_⟩⟩
    rw [continues, active]
    rfl
  unfold handleNode
  cases kind : node.kind? with
  | none =>
    have plain : ∀ wake, e.afterNode node wake = e := fun wake => by rw [Execution.afterNode, kind]
    exact obeys_pure ⟨rfl, unchanged plain .proceed rfl rfl⟩
  | some kind' =>
    cases kind' with
    | trigger =>
      have plain : ∀ wake, e.afterNode node wake = e := fun wake => by
        rw [Execution.afterNode, kind]
      exact obeys_pure ⟨rfl, unchanged plain .proceed rfl rfl⟩
    | message =>
      have plain : ∀ wake, e.afterNode node wake = e := fun wake => by
        rw [Execution.afterNode, kind]
      exact stays_then (sendMessage_stays _ _ _ idles) fun _ =>
        obeys_pure ⟨rfl, unchanged plain .proceed rfl rfl⟩
    | condition =>
      have plain : ∀ wake, e.afterNode node wake = e := fun wake => by
        rw [Execution.afterNode, kind]
      exact stays_then (obeys_get ⟨rfl, rfl⟩) fun _ =>
        obeys_pure ⟨rfl, unchanged plain (.branch _) rfl rfl⟩
    | delay => exact absurd kind immediate
    | action =>
      apply obeys_then (performAction_stays deployment account node.data idles)
      · intro nothing e' s' holds
        cases nothing
        obtain ⟨rfl, rfl⟩ := holds
        by_cases awaits : awaitsReply node.data = true
        · rw [if_pos awaits]
          have wakes (wake : Timestamp) : e.afterNode node wake =
              { e with
                context := node.data.contextAfter e.context
                status := .waiting, scheduledAt := none, scheduledNodeId := none } := by
            simp only [Execution.afterNode, kind, awaits, if_true]
          exact obeys_bind (obeys_modify (obeys_pure ⟨rfl, ⟨default, (wakes _).symm⟩,
            fun _ => ⟨⟨default, (wakes _).symm⟩, rfl, rfl⟩⟩))
        · rw [if_neg awaits]
          have wakes (wake : Timestamp) : e.afterNode node wake =
              { e with context := node.data.contextAfter e.context } := by
            simp only [Execution.afterNode, kind, awaits]
            rfl
          refine obeys_pure ⟨rfl, ⟨default, (wakes _).symm⟩,
            fun active => ⟨⟨default, (wakes _).symm⟩, rfl, ?_⟩⟩
          rw [active]
          rfl
      · intro failure e' s' stays
        exact stays

theorem handleNode_stays (deployment : Deployment) (account : Account) (flow : Flow) (node : Node)
    (immediate : node.kind? ≠ some .delay) (idles : discipline.Idles s)
    (active : e.status = .active) :
    (handleNode deployment account flow node).Obeys discipline e s
      (Stays s e (Handled node e)) := by
  apply obeys_mono (handleNode_leaves deployment account flow node immediate idles)
  intro outcome e' s' stays
  rcases outcome with failure | outcome
  · exact stays
  · exact ⟨stays.1, stays.2.2 active⟩

end Run
end MessageFlow
