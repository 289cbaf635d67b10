import MessageFlow.Proofs.Interleaving.Traversal

/-!
Messages, starts and deletions keep to the discipline: they write an execution over a copy that they
have read, or over the version that their own traversal stored.
-/

namespace MessageFlow
open Station

variable {task : Task} {s : Station} {v : Execution}

theorem permits_intervene {e : Execution} (idle : s.walking = none) (held : v ∈ s.held)
    (change : task.Intervenes v e) (other : task.isSweep = false) :
    task.conduct s none (.query (Store.saveQuery e))
      (s.afterSave e (v.status == .waiting && e.status == .active)) :=
  ⟨(Standing.traversed_of_idle idle).symm, .intervene v e idle held change other⟩

theorem Task.isSweep_of_message {message : InboundMessage} (brings : task.message? = some message) :
    task.isSweep = false := by
  cases task with
  | sweep attempts at? => cases brings
  | start | trigger | handle | route | dispatch | deleteFlow => rfl

namespace Operation

variable {α : Type}

/-- An operation that keeps away from the executions, for a client at rest. -/
theorem Apart.rests {operation : Operation α} (apart : operation.Apart) (idle : s.walking = none) :
    operation.Obeys task.conduct s fun _ s' => s.Rests s' := by
  apply obeys_mono (apart.obeys (idles task idle))
  intro outcome s' holds
  obtain ⟨rfl, _⟩ := holds
  exact rests_self idle

/-- One operation after the other, both from rest; the second goes on with what the first gains. -/
theorem gains_then {β : Type} {operation : Operation α} {f : α → Operation β}
    {gains : α → Station → Prop}
    (first : operation.Obeys task.conduct s fun outcome s' =>
      s.Rests s' ∧ ∀ a, outcome = .ok a → gains a s')
    (next : ∀ a s', s.Rests s' → gains a s' →
      (f a).Obeys task.conduct s' fun _ s'' => s'.Rests s'') :
    (operation >>= f).Obeys task.conduct s fun _ s' => s.Rests s' := by
  apply obeys_then first
  · intro a s' holds
    obtain ⟨rests, gained⟩ := holds
    apply obeys_mono (next a s' rests (gained a rfl))
    intro _ s'' later
    exact rests.trans later
  · intro failure s' holds
    exact holds.1

theorem rests_then {β : Type} {operation : Operation α} {f : α → Operation β}
    (first : operation.Obeys task.conduct s fun _ s' => s.Rests s')
    (next : ∀ a s', s.Rests s' → (f a).Obeys task.conduct s' fun _ s'' => s'.Rests s'') :
    (operation >>= f).Obeys task.conduct s fun _ s' => s.Rests s' := by
  apply @gains_then task s α β operation f fun _ _ => True
  · apply obeys_mono first
    intro outcome s' rests
    exact ⟨rests, fun _ _ => trivial⟩
  · intro a s' rests _
    exact next a s' rests

theorem parseAll_obeys {σ δ : Type} [DocumentType δ] {discipline : Discipline σ} {s : σ}
    (rows : List Row) :
    (rows.mapM parse : Operation (List δ)).Obeys discipline s fun outcome s' =>
      s' = s ∧ ∀ copies, outcome = .ok copies →
        ∀ v ∈ copies, ∃ row ∈ rows, DocumentType.read (.record row) = .valid v := by
  apply obeys_mono (parseAll_reads rows)
  rintro outcome s' ⟨rfl, reads⟩
  exact ⟨rfl, fun copies same v present => exists_left_of_forall₂ (reads copies same) present⟩

end Operation

namespace Store

theorem getExecution_obeys (id : String) (idle : s.walking = none) :
    (getExecution id).Obeys task.conduct s fun outcome s' =>
      s.Rests s' ∧ ∀ found, outcome = .ok found → ∀ v ∈ found, v ∈ s'.held ∧ v.id = id := by
  have permitted : task.conduct s none
      (.query (.select .executions [byId id] none (some 1))) s.afterSelect :=
    ⟨(Standing.traversed_of_idle idle).symm, .select _ _ _⟩
  apply Operation.obeys_mono (getExecution_reads id permitted)
  rintro outcome s' ⟨answer, rfl, _, reads⟩
  refine ⟨rests_afterSelect idle answer, ?_⟩
  intro found same v gained
  cases gained
  obtain ⟨named, row, rows, rfl, copy⟩ := reads v same
  exact ⟨.inr ⟨row, .head rows, copy⟩, named⟩

theorem listOpenExecutions_obeys (flowId accountId senderId : Option String)
    (idle : s.walking = none) :
    (listOpenExecutions flowId accountId senderId).Obeys task.conduct s fun outcome s' =>
      s.Rests s' ∧ ∀ copies, outcome = .ok copies → ∀ v ∈ copies, v ∈ s'.held := by
  have permitted : task.conduct s none (.query (openQuery flowId accountId senderId))
      s.afterSelect := ⟨(Standing.traversed_of_idle idle).symm, .select _ _ _⟩
  apply Operation.obeys_mono (listOpenExecutions_reads flowId accountId senderId permitted)
  rintro outcome s' ⟨answer, _, rfl, reads⟩
  refine ⟨rests_afterSelect idle answer, ?_⟩
  intro copies same v present
  obtain ⟨rows, rfl, copied⟩ := reads copies same
  exact .inr (exists_left_of_forall₂ copied present)

end Store

namespace Inbox

variable (deployment : Deployment) (account : Account) {message : InboundMessage}

theorem goesOn_receive (message : InboundMessage) (now : Timestamp) :
    (v.status == .waiting && ((v.receive message).stamped now).status == .active) =
      v.isWaitingOnInput := by
  unfold Execution.stamped Execution.receive Execution.isWaitingOnInput
  cases v.status <;> cases v.scheduledNodeId <;> rfl

theorem handle_obeys (attempts : Nat) (brings : task.message? = some message)
    (idle : s.walking = none) (held : v ∈ s.held) :
    (handle deployment account message attempts).Obeys task.conduct v s
      fun _ _ s' => s.Rests s' := by
  induction attempts generalizing s v with
  | zero => exact Run.obeys_get (rests_self idle)
  | succ attempts ih =>
    unfold handle
    refine Run.obeys_bind (Run.obeys_get ?_)
    simp only
    by_cases terminal : v.isTerminal = true
    · rw [if_pos terminal]
      exact Run.obeys_pure (rests_self idle)
    · rw [if_neg terminal]
      have isOpen : v.isTerminal = false := by simpa using terminal
      refine Run.obeys_bind (Run.obeys_set ?_)
      refine Run.obeys_bind (Run.obeys_lift (Operation.obeys_request _
        (idles task idle .now trivial) ?_))
      intro now _
      refine Run.obeys_bind (Run.obeys_modify ?_)
      refine Run.obeys_bind (Run.obeys_attempt ?_)
      have permitted := permits_intervene idle held (.message message now brings isOpen)
        (Task.isSweep_of_message brings)
      rw [goesOn_receive] at permitted
      apply Run.obeys_mono (Run.saveExecution_rests permitted (.inr idle))
      intro outcome e' s' after
      rcases outcome with failure | ⟨⟩
      · by_cases conflict : failure.isConflict = true
        · simp only [conflict, if_true]
          have reloads := @Store.getExecution_obeys task s' v.id after.idle
          refine Run.obeys_bind (Run.obeys_lift (Operation.obeys_mono reloads ?_))
          intro outcome s'' holds
          obtain ⟨rests, gained⟩ := holds
          rcases outcome with refusal | found
          · exact after.trans rests
          · cases found with
            | none => exact Run.obeys_get (after.trans rests)
            | some reloaded =>
              refine Run.obeys_lift (Run.obeys_on ?_)
              apply Run.obeys_mono (ih rests.idle (gained _ rfl reloaded rfl).1)
              intro _ _ last later
              exact (after.trans rests).trans later
        · simp only [conflict]
          exact Run.obeys_throw after
      · obtain ⟨rfl, rfl, writable⟩ := after
        have gives {s' : Station} {e' : Execution} (rests : s.Rests s') :
            (get : Run Execution).Obeys task.conduct e' s' fun _ _ s'' => s.Rests s'' :=
          Run.obeys_get rests
        cases waits : v.isWaitingOnInput with
        | false => exact Run.obeys_bind (Run.obeys_pure (gives (rests_rest s)))
        | true =>
          have active : ((v.receive message).stamped now).saved.status = .active := by
            simp [Execution.saved, Execution.stamped, Execution.receive, waits]
          apply Run.obeys_then
            (Run.resume_obeys deployment account none rfl rfl active rfl writable)
          · intro nothing e' s' rests
            cases nothing
            exact gives rests.of_walk
          · intro failure e' s' rests
            exact rests.of_walk

theorem handleAll_obeys (attempts : Nat) (executions : List Execution)
    (brings : task.message? = some message) (idle : s.walking = none)
    (held : ∀ v ∈ executions, v ∈ s.held) :
    (handleAll deployment account message attempts executions).Obeys task.conduct s
      fun _ s' => s.Rests s' := by
  induction executions generalizing s with
  | nil => exact Operation.obeys_pure (rests_self idle)
  | cons v executions ih =>
    refine Operation.rests_then (Run.obeys_on
      (handle_obeys deployment account attempts brings idle (held v (.head executions)))) ?_
    intro handled s' rests
    refine Operation.rests_then (ih rests.idle fun w present =>
      rests.keeps (held w (.tail v present))) ?_
    intro others s'' later
    exact Operation.obeys_pure (rests_self later.idle)

theorem route_obeys (senderId : String) (attempts : Nat) (brings : task.message? = some message)
    (idle : s.walking = none) :
    (route deployment account senderId message attempts).Obeys task.conduct s
      fun _ s' => s.Rests s' := by
  apply Operation.gains_then (Store.listOpenExecutions_obeys _ _ _ idle)
  intro executions s' rests gained
  exact handleAll_obeys deployment account attempts executions brings rests.idle gained

end Inbox

namespace Run

variable (deployment : Deployment) (account : Account)

/-- What an event is read as makes an execution at the trigger, and nothing is asked for it. -/
theorem exists_initialExecution {event : TriggerEvent} {context : Context}
    {sender : String × Option String} (readsContext : event.context = .valid context)
    (readsSender : event.sender = .valid sender) (flow : Flow) (trigger : Node) (id : String)
    (now : Timestamp) : ∃ e, initialExecution flow trigger event id now = pure e ∧
      e.IsOutset flow trigger id := by
  obtain ⟨tags, customFields, selectedOptions, extras⟩ := Context.read_valid readsContext
  have tags : Validated.valid [] = .valid context.tags := tags
  have customFields : Validated.valid [] = .valid context.customFields := customFields
  have selectedOptions : Validated.valid [] = .valid context.selectedOptions := selectedOptions
  unfold initialExecution
  rw [readsContext, readsSender]
  exact ⟨_, rfl, ⟨rfl, rfl, rfl, rfl, rfl, rfl, rfl, (Validated.valid.inj selectedOptions).symm,
    extras, rfl⟩, rfl, rfl, rfl, (Validated.valid.inj tags).symm,
    (Validated.valid.inj customFields).symm⟩

theorem initialExecution_cases (flow : Flow) (trigger : Node) (event : TriggerEvent) (id : String)
    (now : Timestamp) :
    (∃ failure, initialExecution flow trigger event id now = throw failure) ∨
      ∃ e, initialExecution flow trigger event id now = pure e ∧ e.IsOutset flow trigger id := by
  cases readsContext : event.context with
  | invalid issues =>
    unfold initialExecution
    rw [readsContext]
    exact .inl ⟨_, rfl⟩
  | valid context =>
    cases readsSender : event.sender with
    | invalid issues =>
      unfold initialExecution
      rw [readsContext, readsSender]
      exact .inl ⟨_, rfl⟩
    | valid sender =>
      exact .inr (exists_initialExecution readsContext readsSender flow trigger id now)

theorem initialExecution_obeys {σ : Type} {discipline : Discipline σ} {s : σ} {flow : Flow}
    {trigger : Node} {event : TriggerEvent} {id : String} {now : Timestamp} :
    (initialExecution flow trigger event id now).Obeys discipline s fun outcome s' =>
      s' = s ∧ ∀ e, outcome = .ok e → e.IsOutset flow trigger id := by
  rcases initialExecution_cases flow trigger event id now with ⟨failure, fails⟩ | ⟨e, makes, outset⟩
  · rw [fails]
    refine Operation.obeys_throw ⟨rfl, fun e same => ?_⟩
    cases same
  · rw [makes]
    refine Operation.obeys_pure ⟨rfl, fun e' same => ?_⟩
    cases same
    exact outset

theorem createExecution_obeys {e : Execution} (idle : s.walking = none)
    (reserved : s.reserved = some e.id) (isNew : e.IsNew) :
    (Store.createExecution e).Obeys task.conduct s fun
      | .ok created, s' => created = e ∧ s' = s.walk e
      | .error _, s' => s.Rests s' := by
  have permitted : task.conduct s none (.query (.insert .executions e.row)) (s.afterCreation e) :=
    ⟨(Standing.traversed_of_idle idle).symm, .create e idle reserved isNew⟩
  apply Operation.obeys_mono (createExecution_reads isNew permitted)
  rintro (failure | created) s' after
  · obtain ⟨failure, rfl⟩ := after
    exact rests_rest s
  · obtain ⟨rfl, rows, rfl⟩ := after
    exact ⟨rfl, rfl⟩

/-- The traversal that follows a creation. -/
theorem firstTraversal_obeys {e : Execution} (flow : Flow) (now : Timestamp)
    (walks : s.walking = some e) (first : s.desk.opened = none) (isNew : e.IsNew) :
    (traversing do
      let _ ← Run.attempt (Run.lift (Store.recordTrigger flow now))
      resume deployment account (some flow)).Obeys task.conduct e s
        fun _ _ s' => s.Rests s' := by
  refine obeys_traversing (obeys_bind (obeys_attempt ?_))
  refine obeys_mono
    (obeys_apart (Store.apart_recordTrigger flow now) (idles_within task walks)) ?_
  intro outcome e' s' holds
  obtain ⟨rfl, rfl, _⟩ := holds
  exact resume_obeys deployment account (some flow) rfl walks isNew.status first
    (isWritable_of_isNew isNew)

theorem start_obeys (flow : Flow) (event : TriggerEvent) (keywords : List String)
    (idle : s.walking = none) :
    (start deployment account flow event keywords).Obeys task.conduct s
      fun _ s' => s.Rests s' := by
  unfold start
  cases event.triggers keywords flow with
  | nil => exact Operation.obeys_pure (rests_self idle)
  | cons trigger rest =>
    refine Operation.obeys_bind (Operation.obeys_request _ (idles task idle .now trivial) ?_)
    intro now _
    refine Operation.obeys_bind (Operation.obeys_request _
      ⟨(Standing.traversed_of_idle idle).symm, .reserve idle⟩ ?_)
    intro id _
    refine Operation.obeys_bind (Operation.obeys_mono initialExecution_obeys ?_)
    intro outcome s' holds
    obtain ⟨rfl, new⟩ := holds
    rcases outcome with failure | initial
    · exact Rests.of_reserve (rests_self idle)
    · obtain ⟨isNew, rfl, -⟩ := new initial rfl
      refine Operation.obeys_bind (Operation.obeys_mono
        (@createExecution_obeys task (s.reserve initial.id) initial idle rfl isNew) ?_)
      intro outcome s' after
      rcases outcome with failure | created
      · exact after.of_reserve
      · obtain ⟨rfl, rfl⟩ := after
        have begins := @firstTraversal_obeys task ((s.reserve created.id).walk created) deployment
          account created flow now rfl rfl isNew
        refine obeys_on (obeys_then begins ?_ ?_)
        · intro nothing e' s' rests
          cases nothing
          exact obeys_bind (obeys_get (obeys_pure rests.of_walk.of_reserve))
        · intro failure e' s' rests
          exact rests.of_walk.of_reserve

theorem startAll_obeys (event : TriggerEvent) (keywords : List String) (flows : List Flow)
    (idle : s.walking = none) :
    (startAll deployment account event keywords flows).Obeys task.conduct s
      fun _ s' => s.Rests s' := by
  induction flows generalizing s with
  | nil => exact Operation.obeys_pure (rests_self idle)
  | cons flow flows ih =>
    unfold startAll
    refine Operation.rests_then
      (Operation.obeys_attempt (start_obeys deployment account flow event keywords idle)) ?_
    intro started s' rests
    apply Operation.rests_then (ih rests.idle)
    intro others s'' later
    split
    · exact Operation.obeys_pure (rests_self later.idle)
    · exact Operation.obeys_pure (rests_self later.idle)

theorem trigger_obeys (event : TriggerEvent) (idle : s.walking = none) :
    (trigger deployment account event).Obeys task.conduct s fun _ s' => s.Rests s' := by
  unfold trigger
  cases event.keywords with
  | error value => exact Operation.obeys_throw (rests_self idle)
  | ok keywords =>
    apply Operation.rests_then ((Store.apart_listActiveFlows _).rests idle)
    intro flows s' rests
    exact startAll_obeys deployment account event keywords flows rests.idle

/-- Writing an execution off over a copy, from outside. -/
theorem failOver_obeys {reason : String} (idle : s.walking = none)
    (permitted : ∀ now, task.conduct s none
      (.query (Store.saveQuery ((v.failed reason).stamped now)))
      (s.afterSave ((v.failed reason).stamped now) false)) :
    (Run.on v (fail reason)).Obeys task.conduct s fun _ s' => s.Rests s' :=
  obeys_on (fail_obeys (idles task idle) permitted (.inr idle))

theorem forceFail_obeys {flowId : String} (attempts : Nat) (deletes : task = .deleteFlow flowId)
    (idle : s.walking = none) (held : v ∈ s.held) :
    (forceFail flowDeleted attempts v).Obeys task.conduct s fun _ s' => s.Rests s' := by
  induction attempts generalizing s v with
  | zero => exact Operation.obeys_pure (rests_self idle)
  | succ attempts ih =>
    unfold forceFail
    by_cases terminal : v.isTerminal = true
    · rw [if_pos terminal]
      exact Operation.obeys_pure (rests_self idle)
    · rw [if_neg terminal]
      have isOpen : v.isTerminal = false := by simpa using terminal
      have permitted (now : Timestamp) :
          task.conduct s none (.query (Store.saveQuery ((v.failed flowDeleted).stamped now)))
            (s.afterSave ((v.failed flowDeleted).stamped now) false) := by
        have isDeletion : task.isDeletion = true := by rw [deletes]; rfl
        have other : task.isSweep = false := by rw [deletes]; rfl
        have outside := permits_intervene idle held (.flowDeleted now isDeletion isOpen) other
        have never : (v.status == .waiting &&
            ((v.failed flowDeleted).stamped now).status == .active) = false := Bool.and_false _
        rw [never] at outside
        exact outside
      refine Operation.rests_then (Operation.obeys_attempt (failOver_obeys idle permitted)) ?_
      intro outcome s' rests
      cases outcome with
      | ok _ => exact Operation.obeys_pure (rests_self rests.idle)
      | error failure =>
        by_cases conflict : failure.isConflict = true
        · simp only [conflict, if_true]
          apply Operation.gains_then (Store.getExecution_obeys v.id rests.idle)
          intro found s'' later gained
          cases found with
          | none => exact Operation.obeys_pure (rests_self later.idle)
          | some reloaded => exact ih later.idle (gained reloaded rfl).1
        · simp only [conflict]
          exact Operation.obeys_throw (rests_self rests.idle)

theorem forceFailAll_obeys {flowId : String} (executions : List Execution)
    (deletes : task = .deleteFlow flowId) (idle : s.walking = none)
    (held : ∀ v ∈ executions, v ∈ s.held) :
    (forceFailAll flowDeleted executions).Obeys task.conduct s fun _ s' => s.Rests s' := by
  induction executions generalizing s with
  | nil => exact Operation.obeys_pure (rests_self idle)
  | cons v executions ih =>
    refine Operation.rests_then
      (forceFail_obeys forceFailAttempts deletes idle (held v (.head executions))) ?_
    intro failed s' rests
    refine Operation.rests_then (ih rests.idle fun w present =>
      rests.keeps (held w (.tail v present))) ?_
    intro others s'' later
    exact Operation.obeys_pure (rests_self later.idle)

theorem failPendingTickets_obeys {flowId : String} (now : Timestamp)
    (deletes : task = .deleteFlow flowId) (idle : s.walking = none) :
    (Store.failPendingTickets flowId now flowDeleted).Obeys task.conduct s
      fun _ s' => s.Rests s' := by
  refine Operation.obeys_bind (Operation.obeys_query _
    ⟨(Standing.traversed_of_idle idle).symm, .annul flowId now deletes⟩ ?_)
  intro answer _
  cases answer with
  | error failure => exact rests_self idle
  | ok rows => exact Operation.obeys_pure (rests_self idle)

theorem deleteFlow_obeys (flowId : String) (deletes : task = .deleteFlow flowId)
    (idle : s.walking = none) :
    (deleteFlow flowId).Obeys task.conduct s fun _ s' => s.Rests s' := by
  unfold deleteFlow
  apply Operation.rests_then (Operation.apart_now.rests idle)
  intro now s' rests
  apply Operation.gains_then (Store.listOpenExecutions_obeys _ _ _ rests.idle)
  intro executions s'' later gained
  apply Operation.rests_then (forceFailAll_obeys executions deletes later.idle gained)
  intro failed s₁ rests₁
  apply Operation.rests_then (failPendingTickets_obeys now deletes rests₁.idle)
  intro _ s₂ rests₂
  apply Operation.rests_then ((Store.apart_deleteFlow _).rests rests₂.idle)
  intro _ s₃ rests₃
  exact Operation.obeys_pure (rests_self rests₃.idle)

end Run

namespace Inbox

theorem dispatch_obeys (deployment : Deployment) (account : Account) (senderId : String)
    (senderUsername : Option String) {message : InboundMessage} (attempts : Nat)
    (brings : task.message? = some message) (idle : s.walking = none) :
    (dispatch deployment account senderId senderUsername message attempts).Obeys
      task.conduct s fun _ s' => s.Rests s' := by
  refine Operation.rests_then
    (route_obeys deployment account senderId attempts brings idle) ?_
  intro handled s₁ rests₁
  split
  · apply Operation.rests_then (Run.trigger_obeys deployment account _ rests₁.idle)
    intro started s₂ rests₂
    exact Operation.obeys_pure (rests_self rests₂.idle)
  · exact Operation.obeys_pure (rests_self rests₁.idle)

end Inbox
end MessageFlow
