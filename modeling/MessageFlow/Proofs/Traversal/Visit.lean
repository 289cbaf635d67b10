import MessageFlow.Proofs.Interleaving.Change
import MessageFlow.Proofs.Interleaving.Desk
import MessageFlow.Proofs.Interleaving.Node

/-!
What is asked between two writes of an execution, delays included: it spares the stored executions.
What a node that does not fail makes of the execution and of the run depends on nothing but the node
and the execution as it was, and the hour to which a delay leads.
-/

namespace MessageFlow

section sparing

/-- Whoever stands here may ask for anything but executions, and stands here afterwards. -/
def Discipline.Spares {σ : Type} (discipline : Discipline σ) (s : σ) : Prop :=
  ∀ request : Request, request.SparesExecutions → discipline s none request fun _ => s

theorem Discipline.Spares.idles {σ : Type} {discipline : Discipline σ} {s : σ}
    (spares : discipline.Spares s) : discipline.Idles s :=
  fun request apart => spares request apart.sparesExecutions

/-- The discipline of what spares the executions and belongs to no traversal by itself. -/
def Discipline.sparing : Discipline Unit := fun _ traversed request _ =>
  traversed = none ∧ request.SparesExecutions

namespace Operation

variable {σ α β : Type} {discipline : Discipline σ} {s : σ} {operation : Operation α}

def Sparing (operation : Operation α) : Prop := operation.Obeys .sparing () fun _ _ => True

theorem Sparing.obeys (sparing : operation.Sparing) (spares : discipline.Spares s) :
    operation.Obeys discipline s fun _ s' => s' = s := by
  have program {p : Program (Except Failure α)} (sparing : p.Obeys .sparing () fun _ _ => True) :
      p.Obeys discipline s fun _ s' => s' = s := by
    induction p with
    | done value => rfl
    | ask traversed request next ih =>
      obtain ⟨_, ⟨rfl, permitted⟩, rest⟩ := sparing
      exact ⟨fun _ => s, spares request permitted, fun answer may => ih answer (rest answer may)⟩
  exact program sparing

theorem Apart.sparing (apart : operation.Apart) : operation.Sparing := by
  have idles : Discipline.sparing.Idles () := fun request apart => ⟨rfl, apart.sparesExecutions⟩
  exact obeys_mono (apart.obeys idles) fun _ _ _ => trivial

theorem Sparing.bind {f : α → Operation β} (first : operation.Sparing)
    (rest : ∀ a, (f a).Sparing) : (operation >>= f).Sparing :=
  obeys_then first (fun a _ _ => rest a) fun _ _ _ => trivial

theorem sparing_request (request : Request) (spares : request.SparesExecutions) :
    Sparing (ExceptT.lift (Program.request request)) :=
  obeys_request (fun _ => ()) ⟨rfl, spares⟩ fun _ _ => trivial

theorem sparing_query {q : Query} (elsewhere : (q.table == .executions) = false) :
    (query q).Sparing :=
  obeys_query (fun _ => ()) ⟨rfl, beq_eq_false_iff_ne.mp elsewhere⟩ fun _ _ => trivial

end Operation

open Operation

theorem Store.sparing_createTicket (ticket : Ticket) : (Store.createTicket ticket).Sparing := by
  refine (apart_of_plain (plain_ensureWritable ticket)).sparing.bind fun _ =>
    (sparing_query rfl).bind fun rows => ?_
  cases rows with
  | nil => exact (apart_pure ticket).sparing
  | cons row rows => exact (apart_parse row).sparing

theorem Store.sparing_flowOr (known : Option Flow) (id : String) :
    (Store.flowOr known id).Sparing := by
  cases known with
  | some flow => exact (apart_pure (some flow)).sparing
  | none => exact (Store.apart_getFlow id).sparing

namespace Execution

/-- What holds of `v` and an execution object that was made of it without moving on. -/
structure Accompanies (v e : Execution) : Prop extends v.Keeps e where
  trail : e.trail = v.trail

theorem afterNode_accompanies (e : Execution) (node : Node) (wake : Timestamp) :
    e.Accompanies (e.afterNode node wake) where
  toKeeps := afterNode_keeps e node wake
  trail := by
    unfold afterNode
    split
    · rfl
    · simp only
      split
      · rfl
      · rfl
    · rfl

theorem accompanies_self (e : Execution) : e.Accompanies e where
  toKeeps := .of_same_context rfl rfl rfl rfl
  trail := rfl

end Execution

namespace Run

variable {σ α : Type} {discipline : Discipline σ} {s : σ} {e : Execution}

theorem lift_spares {operation : Operation α} (sparing : operation.Sparing)
    (spares : discipline.Spares s) :
    (lift operation).Obeys discipline e s fun _ e' s' => e' = e ∧ s' = s :=
  obeys_lift (Operation.obeys_mono (sparing.obeys spares) fun _ _ same => ⟨rfl, same⟩)

/-- An operation within a run, and what follows it. -/
theorem spares_then {β : Type} {run : Run α} {f : α → Run β}
    (first : run.Obeys discipline e s fun _ e' s' => e' = e ∧ s' = s)
    (next : ∀ a, (f a).Obeys discipline e s fun _ e' s' => e.Accompanies e' ∧ s' = s) :
    (run >>= f).Obeys discipline e s fun _ e' s' => e.Accompanies e' ∧ s' = s := by
  apply obeys_then first
  · rintro a e' s' ⟨rfl, rfl⟩
    exact next a
  · rintro failure e' s' ⟨rfl, rfl⟩
    exact ⟨e'.accompanies_self, rfl⟩

theorem ofDelay_spares (result : Except DelayError α) :
    (ofDelay result).Obeys discipline e s fun _ e' s' => e' = e ∧ s' = s := by
  cases result with
  | ok value => exact obeys_pure ⟨rfl, rfl⟩
  | error error => exact obeys_throw ⟨rfl, rfl⟩

theorem startDelay_spares (account : Account) (flow : Flow) (node : Node)
    (spares : discipline.Spares s) : (startDelay account flow node).Obeys discipline e s
      fun _ e' s' => e.Accompanies e' ∧ s' = s := by
  refine spares_then (ofDelay_spares _) fun amount => ?_
  refine spares_then (lift_spares apart_now.sparing spares) fun now => ?_
  refine spares_then (ofDelay_spares _) fun wake => ?_
  refine spares_then (lift_spares (sparing_request .freshId trivial) spares) fun id => ?_
  refine spares_then (obeys_get ⟨rfl, rfl⟩) fun execution => ?_
  refine spares_then (lift_spares (Store.sparing_createTicket _) spares) fun ticket => ?_
  exact obeys_modify ⟨⟨.of_same_context rfl rfl rfl rfl, rfl⟩, rfl⟩

theorem handleNode_spares (deployment : Deployment) (account : Account) (flow : Flow) (node : Node)
    (spares : discipline.Spares s) : (handleNode deployment account flow node).Obeys discipline e s
      fun _ e' s' => e.Accompanies e' ∧ s' = s := by
  by_cases delay : node.kind? = some .delay
  · unfold handleNode
    simp only [delay]
    apply obeys_then (startDelay_spares account flow node spares)
    · exact fun _ _ _ after => obeys_pure after
    · exact fun _ _ _ after => after
  · apply obeys_mono (handleNode_leaves deployment account flow node delay spares.idles)
    rintro (failure | outcome) e' s' stays
    · obtain ⟨rfl, rfl, _⟩ := stays
      exact ⟨e'.accompanies_self, rfl⟩
    · obtain ⟨rfl, ⟨wake, rfl⟩, _⟩ := stays
      exact ⟨e.afterNode_accompanies node wake, rfl⟩

end Run

end sparing

/-!
What a node that does not fail makes of the execution and of the run: both depend on nothing but the
node and the execution as it was, and the hour to which a delay leads.
-/

/-- How the run goes on after a node that did not fail. -/
def Node.outcome (node : Node) (context : Context) : NodeOutcome :=
  match node.kind? with
  | some .condition => .branch (node.data.holds context)
  | some .delay => .suspend
  | some .action => if Run.awaitsReply node.data then .suspend else .proceed
  | some .message | some .trigger | none => .proceed

theorem Node.outcome_ne_failed (node : Node) (context : Context) (error : String) :
    node.outcome context ≠ .failed error := by
  unfold Node.outcome
  split
  · exact NodeOutcome.noConfusion
  · exact NodeOutcome.noConfusion
  · split
    · exact NodeOutcome.noConfusion
    · exact NodeOutcome.noConfusion
  · exact NodeOutcome.noConfusion
  · exact NodeOutcome.noConfusion
  · exact NodeOutcome.noConfusion

namespace Execution

/-- A node that lets the run go on leaves the status alone, and any other one waits. -/
theorem status_afterNode (e : Execution) (node : Node) (wake : Timestamp) :
    (e.afterNode node wake).status =
      if (node.outcome e.context).continues then e.status else .waiting := by
  unfold afterNode Node.outcome
  cases node.kind? with
  | none => rfl
  | some kind =>
    cases kind with
    | trigger | message | condition | delay => rfl
    | action =>
      cases awaits : Run.awaitsReply node.data with
      | true => simp [NodeOutcome.continues]
      | false => simp [NodeOutcome.continues]

end Execution

namespace Run
open Operation

variable {σ α β : Type} {discipline : Discipline σ} {s : σ} {e : Execution}

/-- The object is as it was after a failure. -/
def Gives (s : σ) (e : Execution) (after : α → Execution → Prop) :
    Except Failure α → Execution → σ → Prop
  | .ok a, e', s' => s' = s ∧ after a e'
  | .error _, e', s' => s' = s ∧ e' = e

theorem Stays.gives {after : α → Execution → Prop} {outcome : Except Failure α} {e' : Execution}
    {s' : σ} (stays : Stays s e after outcome e' s') : Gives s e after outcome e' s' := by
  cases outcome with
  | error failure => exact ⟨stays.1, stays.2.1⟩
  | ok a => exact stays

theorem gives_then {run : Run α} {f : α → Run β} {after : β → Execution → Prop}
    (first : run.Obeys discipline e s fun _ e' s' => e' = e ∧ s' = s)
    (next : ∀ a, (f a).Obeys discipline e s (Gives s e after)) :
    (run >>= f).Obeys discipline e s (Gives s e after) := by
  apply obeys_then first
  · rintro a e' s' ⟨rfl, rfl⟩
    exact next a
  · rintro failure e' s' ⟨rfl, rfl⟩
    exact ⟨rfl, rfl⟩

variable (deployment : Deployment) (account : Account) (flow : Flow) (node : Node)

theorem startDelay_gives (delay : node.kind? = some .delay) (spares : discipline.Spares s) :
    (startDelay account flow node).Obeys discipline e s
      (Gives s e fun _ e' => ∃ wake, e' = e.afterNode node wake) := by
  refine gives_then (ofDelay_spares _) fun amount => ?_
  refine gives_then (lift_spares apart_now.sparing spares) fun now => ?_
  refine gives_then (ofDelay_spares _) fun wake => ?_
  refine gives_then (lift_spares (sparing_request .freshId trivial) spares) fun id => ?_
  refine gives_then (obeys_get ⟨rfl, rfl⟩) fun execution => ?_
  refine gives_then (lift_spares (Store.sparing_createTicket _) spares) fun ticket => ?_
  refine obeys_modify ⟨rfl, wake, ?_⟩
  rw [Execution.afterNode, delay]

/-- What a node that does not fail leaves, and how the run goes on after it. -/
theorem handleNode_gives (spares : discipline.Spares s) :
    (handleNode deployment account flow node).Obeys discipline e s
      (Gives s e fun outcome e' => outcome = node.outcome e.context ∧
        ∃ wake, e' = e.afterNode node wake) := by
  have idles := spares.idles
  have unchanged (plain : ∀ wake, e.afterNode node wake = e) {outcome : NodeOutcome}
      (same : outcome = node.outcome e.context) :
      outcome = node.outcome e.context ∧ ∃ wake, e = e.afterNode node wake :=
    ⟨same, default, (plain _).symm⟩
  unfold handleNode
  cases kind : node.kind? with
  | none =>
    refine obeys_pure ⟨rfl, unchanged (fun wake => ?_) ?_⟩
    · rw [Execution.afterNode, kind]
    · rw [Node.outcome, kind]
  | some kind' =>
    cases kind' with
    | trigger =>
      refine obeys_pure ⟨rfl, unchanged (fun wake => ?_) ?_⟩
      · rw [Execution.afterNode, kind]
      · rw [Node.outcome, kind]
    | message =>
      apply obeys_then (sendMessage_stays deployment account node idles)
      · rintro ⟨⟩ e' s' ⟨rfl, rfl⟩
        refine obeys_pure ⟨rfl, unchanged (fun wake => ?_) ?_⟩
        · rw [Execution.afterNode, kind]
        · rw [Node.outcome, kind]
      · exact fun failure e' s' stays => stays.gives
    | condition =>
      refine obeys_bind (obeys_get (obeys_pure ⟨rfl, unchanged (fun wake => ?_) ?_⟩))
      · rw [Execution.afterNode, kind]
      · rw [Node.outcome, kind]
    | delay =>
      apply obeys_then (startDelay_gives account flow node kind spares)
      · rintro ⟨⟩ e' s' ⟨rfl, after⟩
        refine obeys_pure ⟨rfl, ?_, after⟩
        rw [Node.outcome, kind]
      · exact fun failure e' s' gives => gives
    | action =>
      apply obeys_then (performAction_stays deployment account node.data idles)
      · rintro ⟨⟩ e' s' ⟨rfl, rfl⟩
        by_cases awaits : awaitsReply node.data = true
        · rw [if_pos awaits]
          refine obeys_bind (obeys_modify (obeys_pure ⟨rfl, ?_, default, ?_⟩))
          · simp only [Node.outcome, kind, awaits, if_true]
          · simp only [Execution.afterNode, kind, awaits, if_true]
        · rw [if_neg awaits]
          refine obeys_pure ⟨rfl, ?_, default, ?_⟩
          · simp only [Node.outcome, kind, awaits]
            rfl
          · simp only [Execution.afterNode, kind, awaits]
            rfl
      · exact fun failure e' s' stays => stays.gives

end Run

end MessageFlow
