import MessageFlow.Proofs.Interleaving.Answers
import MessageFlow.Proofs.Interleaving.Change
import MessageFlow.Proofs.Interleaving.Desk
import MessageFlow.Proofs.Interleaving.Node

/-!
A traversal keeps to the discipline: it writes only what it makes of the version stored last, it
parks an execution only on a ticket of its own, and it ends at rest.
-/

namespace MessageFlow
open Document Station

namespace Station

/-- The same but for the delay under way. -/
structure Near (s s' : Station) : Prop where
  standing : s'.toStanding = s.toStanding
  desk : s'.desk.leave = s.desk.leave

namespace Near

variable {s s' s'' : Station} {v : Execution}

theorem refl (s : Station) : s.Near s := ⟨rfl, rfl⟩

theorem trans (first : s.Near s') (second : s'.Near s'') : s.Near s'' :=
  ⟨second.standing.trans first.standing, second.desk.trans first.desk⟩

theorem walking (near : s.Near s') (walks : s.walking = some v) : s'.walking = some v := by
  rw [near.standing]
  exact walks

theorem walk (near : s.Near s') (v : Execution) : s'.walk v = s.walk v := by
  rw [Station.walk, near.standing, near.desk, Station.walk]

theorem rests (near : s.Near s') (rests : s'.Rests s'') : s.Rests s'' where
  idle := rests.idle
  keeps := by
    rw [← near.standing]
    exact rests.keeps
  lists := by
    change s.desk.leave.listed ⊆ _
    rw [← near.desk]
    exact rests.lists
  claims := by
    change _ = s.desk.leave.claim
    rw [← near.desk]
    exact rests.claims

end Near
end Station

namespace Run

/-- What a write leads to. -/
theorem saveExecution_obeys {σ : Type} {discipline : Discipline σ} {s : σ} {e : Execution}
    {after : Except Failure (List Row) → σ}
    (permitted : discipline s none (.query (Store.saveQuery e)) after) :
    Store.saveExecution.Obeys discipline e s fun
      | .ok _, e', s' => e' = e.saved ∧ DocumentType.isWritable e = true ∧
          ∃ row rows, s' = after (.ok (row :: rows))
      | .error _, _, s' => (s' = s ∧ DocumentType.isWritable e = false) ∨
          ∃ answer, Query.IsRefusal answer ∧ s' = after answer := by
  apply obeys_mono (saveExecution_reads permitted)
  rintro (failure | ⟨⟩) e' s' after
  · rcases after with ⟨same, tooDeep, _⟩ | ⟨answer, refusal, same, _⟩
    · exact .inl ⟨same, tooDeep⟩
    · exact .inr ⟨answer, refusal, same⟩
  · exact after

variable {discipline : Discipline Station} {s : Station} {v e : Execution} {α : Type}

/-- A write between two requests of a client; only a writable object may be written during a
traversal. -/
theorem saveExecution_rests {goesOn : Bool}
    (permitted : discipline s none (.query (Store.saveQuery e)) (s.afterSave e goesOn))
    (writable : DocumentType.isWritable e = true ∨ s.walking = none) :
    Store.saveExecution.Obeys discipline e s fun
      | .ok _, e', s' => e' = e.saved ∧ s' = (if goesOn then s.walk e.saved else s.rest) ∧
          DocumentType.isWritable e = true
      | .error _, _, s' => s.Rests s' := by
  apply obeys_mono (saveExecution_obeys permitted)
  intro outcome e' s' after
  rcases outcome with failure | ⟨⟩
  · rcases after with ⟨rfl, tooDeep⟩ | ⟨answer, refusal, rfl⟩
    · rw [tooDeep] at writable
      exact rests_self (writable.resolve_left nofun)
    · rw [afterSave_of_refusal refusal]
      exact rests_rest s
  · obtain ⟨rfl, fits, row, rows, rfl⟩ := after
    refine ⟨rfl, ?_, fits⟩
    cases goesOn with
    | false => rfl
    | true => rfl

theorem save_obeys {goesOn : Bool} (idles : discipline.Idles s)
    (permitted : ∀ now, discipline s none (.query (Store.saveQuery (e.stamped now)))
      (s.afterSave (e.stamped now) goesOn))
    (writable : DocumentType.isWritable e = true ∨ s.walking = none) :
    save.Obeys discipline e s fun
      | .ok _, e', s' => ∃ now, e' = (e.stamped now).saved ∧
          s' = (if goesOn then s.walk (e.stamped now).saved else s.rest)
      | .error _, _, s' => s.Rests s' := by
  refine obeys_bind (obeys_lift (Operation.obeys_request _ (idles .now trivial) ?_))
  intro now _
  refine obeys_bind (obeys_modify ?_)
  apply obeys_mono (saveExecution_rests (permitted now) writable)
  intro outcome e' s' after
  rcases outcome with failure | ⟨⟩
  · exact after
  · exact ⟨now, after.1, after.2.1⟩

theorem fail_obeys {reason : String} (idles : discipline.Idles s)
    (permitted : ∀ now, discipline s none (.query (Store.saveQuery ((e.failed reason).stamped now)))
      (s.afterSave ((e.failed reason).stamped now) false))
    (writable : DocumentType.isWritable e = true ∨ s.walking = none) :
    (fail reason).Obeys discipline e s fun _ _ s' => s.Rests s' := by
  refine obeys_bind (obeys_modify ?_)
  apply obeys_mono (save_obeys idles permitted writable)
  intro outcome e' s' after
  rcases outcome with failure | ⟨⟩
  · exact after
  · obtain ⟨now, _, rfl⟩ := after
    exact rests_rest s

theorem complete_obeys (idles : discipline.Idles s)
    (permitted : ∀ time now, discipline s none
      (.query (Store.saveQuery ((e.completed time).stamped now)))
      (s.afterSave ((e.completed time).stamped now) false))
    (writable : DocumentType.isWritable e = true ∨ s.walking = none) :
    complete.Obeys discipline e s fun _ _ s' => s.Rests s' := by
  refine obeys_bind (obeys_lift (Operation.obeys_request _ (idles .now trivial) ?_))
  intro time _
  refine obeys_bind (obeys_modify ?_)
  apply obeys_mono (save_obeys idles (permitted time) writable)
  intro outcome e' s' after
  rcases outcome with failure | ⟨⟩
  · exact after
  · obtain ⟨now, _, rfl⟩ := after
    exact rests_rest s

variable {task : Task}

theorem permits_advance (walks : s.walking = some v) (advance : v.Advance e)
    (suits : s.desk.Suits e) :
    task.conduct.within v.id s none (.query (Store.saveQuery e))
      (s.afterSave e (e.status == .active)) :=
  ⟨(Standing.traversed_of_walking walks).symm, .advance v e walks advance suits⟩

/-- The end of an execution needs no regard to the delay under way. -/
theorem permits_end (walks : s.walking = some v) (advance : v.Advance e)
    (terminal : e.isTerminal = true) :
    task.conduct.within v.id s none (.query (Store.saveQuery e)) (s.afterSave e false) := by
  have permitted : task.conduct.within v.id s none (.query (Store.saveQuery e)) _ :=
    permits_advance walks advance (Desk.suits_of_isTerminal terminal)
  have ends : (e.status == .active) = false := by
    rw [Execution.isTerminal, Status.isTerminal, Bool.or_eq_true, beq_iff_eq,
      beq_iff_eq] at terminal
    rcases terminal with completed | failed
    · rw [completed]
      rfl
    · rw [failed]
      rfl
  rw [ends] at permitted
  exact permitted

/-- The ticket of a delay is stored for the execution under traversal. -/
theorem createTicket_obeys {ticket : Ticket} (walks : s.walking = some v)
    (owner : ticket.executionId = v.id) (drawn : s.desk.drawn = some ticket.id)
    (first : s.desk.opened = none) (isNew : ticket.IsNew) :
    (Store.createTicket ticket).Obeys (task.conduct.within v.id) s fun
      | .ok _, s' => s.Near s' ∧ s'.desk.opened = some (ticket, true)
      | .error failure, s' => s.Near s' ∧ failure.isConflict = false := by
  have writable : DocumentType.isWritable ticket = true := by
    have none : DocumentType.loose ticket = [] := by
      change ticket.extras.map (·.2) = []
      rw [isNew.extras]
      rfl
    rw [DocumentType.isWritable, none]
    rfl
  unfold Store.createTicket Operation.ensureWritable
  rw [if_pos writable]
  refine Operation.obeys_bind (Operation.obeys_pure ?_)
  refine Operation.obeys_bind (Operation.obeys_query _
    ⟨(Standing.traversed_of_walking walks).symm, .enter v ticket walks owner drawn first isNew⟩ ?_)
  intro answer may
  have near : s.Near (s.withDesk (s.desk.afterOpening ticket answer)) := ⟨rfl, rfl⟩
  rcases answer with failure | rows
  · rcases may with ⟨tables, answered⟩ | answered | ⟨refusal, answered, other⟩
    · cases answered
    · cases answered
    · cases answered
      exact ⟨near, other⟩
  · cases rows with
    | nil => exact Operation.obeys_pure ⟨near, rfl⟩
    | cons row rows =>
      change (Operation.ofValidated _ (Ticket.read (.record row))).Obeys _ _ _
      cases Ticket.read (.record row) with
      | valid stored => exact Operation.obeys_pure ⟨near, rfl⟩
      | invalid issues => exact Operation.obeys_throw ⟨near, rfl⟩

/-- What a node leaves behind before anything is written: only a delay has opened a ticket, and the
execution is parked on that one. -/
def Prepared (s : Station) (node : Node) (e : Execution) :
    Except Failure NodeOutcome → Execution → Station → Prop
  | .ok outcome, e', s' => s.Near s' ∧ s'.desk.Suits e' ∧ Handled node e outcome e'
  | .error failure, e', s' => s.Near s' ∧ e' = e ∧ failure.isConflict = false

theorem startDelay_obeys (account : Account) (flow : Flow) (node : Node)
    (walks : s.walking = some v) (id : e.id = v.id) (first : s.desk.opened = none) :
    (startDelay account flow node).Obeys (task.conduct.within v.id) e s fun
      | .ok _, e', s' => s.Near s' ∧ ∃ ticket, s'.desk.opened = some (ticket, true) ∧
          ticket.nodeId = node.id ∧ e' = { e with
            status := .waiting, scheduledAt := some ticket.executeAt
            scheduledNodeId := some node.id }
      | .error failure, e', s' => s.Near s' ∧ e' = e ∧ failure.isConflict = false := by
  have idles := idles_within task walks
  have refuses {failure : Failure} {e' : Execution} {s' : Station}
      (stays : s' = s ∧ e' = e ∧ failure.isConflict = false) :
      s.Near s' ∧ e' = e ∧ failure.isConflict = false := by
    obtain ⟨rfl, unchanged, other⟩ := stays
    exact ⟨.refl s', unchanged, other⟩
  unfold startDelay
  apply obeys_then (ofDelay_stays _)
  case fails => exact fun failure e' s' => refuses
  rintro amount e' s' ⟨rfl, rfl⟩
  apply obeys_then (stays_lift Operation.apart_now idles)
  case fails => exact fun failure e' s' => refuses
  rintro now e' s' ⟨rfl, rfl⟩
  apply obeys_then (ofDelay_stays _)
  case fails => exact fun failure e' s' => refuses
  rintro wake e' s' ⟨rfl, rfl⟩
  refine obeys_bind (obeys_lift (Operation.obeys_request _
    ⟨(Standing.traversed_of_walking walks).symm, .draw⟩ ?_))
  intro ticketId _
  refine obeys_bind (obeys_get ?_)
  have drawn : s'.Near (s'.withDesk (s'.desk.draw ticketId)) := ⟨rfl, rfl⟩
  refine obeys_bind (obeys_lift (Operation.obeys_mono
    (createTicket_obeys (drawn.walking walks) id rfl first ⟨rfl, rfl⟩) ?_))
  intro outcome s'' after
  rcases outcome with failure | stored
  · exact ⟨drawn.trans after.1, rfl, after.2⟩
  · exact obeys_modify ⟨drawn.trans after.1, _, after.2, rfl, rfl⟩

theorem handleNode_obeys (deployment : Deployment) (account : Account) (flow : Flow) (node : Node)
    (walks : s.walking = some v) (id : e.id = v.id) (active : e.status = .active)
    (first : s.desk.opened = none) :
    (handleNode deployment account flow node).Obeys (task.conduct.within v.id) e s
      (Prepared s node e) := by
  by_cases delay : node.kind? = some .delay
  · unfold handleNode
    simp only [delay]
    apply obeys_then (startDelay_obeys account flow node walks id first)
    · rintro ⟨⟩ e' s' ⟨near, ticket, opened, on, rfl⟩
      refine obeys_pure ⟨near, ⟨?_, nofun⟩, ⟨ticket.executeAt, ?_⟩, rfl, rfl⟩
      · intro nodeId _ named
        cases named
        exact ⟨ticket, opened, on, rfl⟩
      · rw [Execution.afterNode, delay]
    · exact fun failure e' s' fails => fails
  · apply obeys_mono
      (handleNode_stays deployment account flow node delay (idles_within task walks) active)
    rintro (failure | outcome) e' s' stays
    · obtain ⟨rfl, unchanged, other⟩ := stays
      exact ⟨.refl s', unchanged, other⟩
    · obtain ⟨rfl, ⟨wake, rfl⟩, handled⟩ := stays
      have unparked := e.isWaitingOnDelay_afterNode delay active wake
      refine ⟨.refl s', ⟨?_, fun _ _ => first⟩, ⟨wake, rfl⟩, handled⟩
      intro nodeId waits named
      rw [Execution.isWaitingOnDelay, waits, named] at unparked
      cases unparked

theorem executeNode_obeys (deployment : Deployment) (account : Account) (flow : Flow) (node : Node)
    (walks : s.walking = some v) (active : v.status = .active) (first : s.desk.opened = none)
    (writable : DocumentType.isWritable v = true) :
    (executeNode deployment account flow node).Obeys (task.conduct.within v.id)
      (v.movedTo node) s fun
      | .ok outcome, e', s' => (s.Rests s' ∧ outcome.error?.isSome) ∨
          (s.Near s' ∧ s'.desk.Suits e' ∧ Handled node (v.movedTo node) outcome e')
      | .error _, _, s' => s.Rests s' := by
  unfold executeNode
  refine obeys_bind (obeys_attempt ?_)
  refine obeys_mono (handleNode_obeys deployment account flow node walks rfl active first) ?_
  intro outcome e' s' prepared
  rcases outcome with failure | outcome
  · obtain ⟨near, rfl, other⟩ := prepared
    have walks' := near.walking walks
    simp only [other]
    refine obeys_then (fail_obeys (idles_within task walks') (fun now => ?_) (.inl writable)) ?_ ?_
    · exact permits_end walks' (.failedNode node failure now active) rfl
    · rintro ⟨⟩ e' s'' rests
      exact obeys_pure (.inl ⟨near.rests rests, rfl⟩)
    · exact fun thrown e' s'' rests => near.rests rests
  · exact obeys_pure (.inr prepared)

/-- After a visit the traversal has a new version of its execution, or it rests. -/
def Visited (s : Station) (v : Execution) :
    Except Failure (Option NodeOutcome) → Execution → Station → Prop
  | .ok (some _), e', s' => s' = s.walk e' ∧ e'.id = v.id ∧ e'.status = .active ∧
      DocumentType.isWritable e' = true
  | .ok none, _, s' | .error _, _, s' => s.Rests s'

/-- The write after a node that did not fail. -/
theorem saveHandled_obeys (task : Task) {outcome : NodeOutcome} (walks : s.walking = some v)
    (advance : ∀ now, v.Advance (e.stamped now)) (suits : s.desk.Suits e) (id : e.id = v.id)
    (writable : DocumentType.isWritable e = true)
    (continues : outcome.continues = (e.status == .active)) :
    (save >>= fun _ => pure (if outcome.continues then some outcome else none) :
      Run (Option NodeOutcome)).Obeys (task.conduct.within v.id) e s (Visited s v) := by
  have permitted (now : Timestamp) :
      task.conduct.within v.id s none (.query (Store.saveQuery (e.stamped now)))
        (s.afterSave (e.stamped now) outcome.continues) := by
    rw [continues]
    exact permits_advance walks (advance now) ⟨suits.parks, suits.goesOn⟩
  apply obeys_then (save_obeys (idles_within task walks) permitted (.inl writable))
  · rintro ⟨⟩ e' s' ⟨now, rfl, rfl⟩
    by_cases goesOn : outcome.continues = true
    · rw [if_pos goesOn, if_pos goesOn]
      have active : e.status = .active := by
        rw [goesOn] at continues
        exact beq_iff_eq.mp continues.symm
      exact obeys_pure ⟨rfl, id, active, writable⟩
    · rw [if_neg goesOn, if_neg goesOn]
      exact obeys_pure (rests_rest s)
  · exact fun failure e' s' rests => rests

theorem Visited.of_near {s' : Station} (near : s.Near s')
    {outcome : Except Failure (Option NodeOutcome)} {s'' : Station}
    (visited : Visited s' v outcome e s'') : Visited s v outcome e s'' := by
  rcases outcome with failure | _ | outcome
  · exact near.rests visited
  · exact near.rests visited
  · obtain ⟨rfl, rest⟩ := visited
    exact ⟨near.walk e, rest⟩

theorem visit_obeys (deployment : Deployment) (account : Account) (flow : Flow) (node : Node)
    (walks : s.walking = some v) (active : v.status = .active) (first : s.desk.opened = none)
    (writable : DocumentType.isWritable v = true) :
    (visit deployment account flow node).Obeys (task.conduct.within v.id) v s (Visited s v) := by
  unfold visit
  refine obeys_bind (obeys_modify ?_)
  apply obeys_then (executeNode_obeys deployment account flow node walks active first writable)
  · rintro outcome e' s' (⟨rests, failed⟩ | ⟨near, suits, ⟨wake, rfl⟩, fine, continues⟩)
    · cases outcome with
      | failed error => exact obeys_pure rests
      | proceed => cases failed
      | branch condition => cases failed
      | suspend => cases failed
    · have keeps := Execution.afterNode_keeps (v.movedTo node) node wake
      have canWrite : DocumentType.isWritable ((v.movedTo node).afterNode node wake) = true := by
        rw [keeps.isWritable]
        exact writable
      have saves := obeys_mono (saveHandled_obeys task (near.walking walks)
        (fun now => .node node wake now active) suits keeps.id canWrite continues)
        fun _ _ _ visited => Visited.of_near near visited
      cases outcome with
      | failed error => cases fine
      | proceed => exact saves
      | branch condition => exact saves
      | suspend => exact saves
  · exact fun failure e' s' rests => rests

theorem upcoming_of_active (flow : Flow) (queue : List Node) (branch : Option Bool)
    (active : v.status = .active) : ∃ nodes, upcoming flow queue branch v = some nodes := by
  have isOpen : v.isTerminal = false := by
    rw [Execution.isTerminal, active]
    rfl
  unfold upcoming
  rw [isOpen]
  split
  · exact ⟨_, rfl⟩
  · exact ⟨_, rfl⟩

theorem complete_rests (task : Task) (walks : s.walking = some v) (active : v.status = .active)
    (writable : DocumentType.isWritable v = true) :
    complete.Obeys (task.conduct.within v.id) v s fun _ _ s' => s.Rests s' :=
  complete_obeys (idles_within task walks)
    (fun time now => permits_end walks (.completed time now active) rfl) (.inl writable)

theorem stop_rests (task : Task) {reason : String} (walks : s.walking = some v)
    (active : v.status = .active) (writable : DocumentType.isWritable v = true)
    (known : reason = stepLimitError ∨ reason = flowNotFound) :
    (fail reason).Obeys (task.conduct.within v.id) v s fun _ _ s' => s.Rests s' :=
  fail_obeys (idles_within task walks)
    (fun now => permits_end walks (.stopped reason now active known) rfl) (.inl writable)

theorem walk_obeys (deployment : Deployment) (account : Account) (flow : Flow) (steps : Nat)
    (queue : List Node) (branch : Option Bool) (walks : s.walking = some v)
    (active : v.status = .active) (first : s.desk.opened = none)
    (writable : DocumentType.isWritable v = true) :
    (walk deployment account flow steps queue branch).Obeys (task.conduct.within v.id) v s
      fun _ _ s' => s.Rests s' := by
  induction steps using Nat.strongRecOn generalizing s v queue branch with
  | ind steps ih =>
    obtain ⟨nodes, next⟩ := upcoming_of_active flow queue branch active
    unfold walk
    refine obeys_bind (obeys_get ?_)
    simp only [next]
    rcases nodes with _ | ⟨node, rest⟩
    · exact complete_rests task walks active writable
    cases steps with
    | zero => exact stop_rests task walks active writable (.inl rfl)
    | succ steps =>
      apply obeys_then (visit_obeys deployment account flow node walks active first writable)
      · intro outcome e' s' visited
        rcases outcome with _ | outcome
        · exact obeys_pure visited
        · obtain ⟨rfl, id, active', writable'⟩ := visited
          rw [← id]
          apply obeys_mono (ih steps (Nat.lt_succ_self steps) rest outcome.branch? rfl active' rfl
            writable')
          exact fun _ _ _ rests => rests.of_walk
      · exact fun failure e' s' rests => rests

/-- Loading a flow within a traversal. -/
theorem flowOr_obeys (known : Option Flow) (id : String) (walks : s.walking = some v) :
    (lift (Store.flowOr known id)).Obeys (task.conduct.within v.id) e s fun
      | .ok _, e', s' => e' = e ∧ s' = s
      | .error _, _, s' => s.Rests s' := by
  cases known with
  | some flow => exact obeys_lift (Operation.obeys_pure ⟨rfl, rfl⟩)
  | none =>
    have permitted : task.conduct.within v.id s none (.query (Store.flowQuery id)) s.afterSeek :=
      ⟨(Standing.traversed_of_walking walks).symm, .seek _ _ _⟩
    refine obeys_lift (Operation.obeys_bind (Operation.obeys_query _ permitted ?_))
    intro answer may
    cases answer with
    | error failure => exact rests_seek s
    | ok rows =>
      cases rows with
      | nil => exact Operation.obeys_pure ⟨rfl, rfl⟩
      | cons row rows =>
        change (some <$> Operation.ofValidated _ (Flow.read (.record row))).Obeys _
          (s.afterSeek (.ok (row :: rows))) _
        rw [← bind_pure_comp]
        cases reads : Flow.read (.record row) with
        | valid flow =>
          have stays : s.afterSeek (.ok (row :: rows)) = s := by
            rw [afterSeek, Standing.afterSeek, reads]
            rfl
          rw [stays]
          exact Operation.obeys_bind (Operation.obeys_pure (Operation.obeys_pure ⟨rfl, rfl⟩))
        | invalid issues =>
          have ends : s.afterSeek (.ok (row :: rows)) = ⟨s.toStanding.rest, s.desk⟩ := by
            rw [afterSeek, Standing.afterSeek, reads]
            rfl
          rw [ends]
          exact Operation.obeys_bind (Operation.obeys_throw (rests_seek s))

theorem traverse_obeys (deployment : Deployment) (account : Account) (flow : Option Flow)
    (walks : s.walking = some v) (active : v.status = .active) (first : s.desk.opened = none)
    (writable : DocumentType.isWritable v = true) :
    (traverse deployment account flow).Obeys (task.conduct.within v.id) v s
      fun _ _ s' => s.Rests s' := by
  unfold traverse
  refine obeys_bind (obeys_get ?_)
  refine obeys_bind (obeys_mono (flowOr_obeys flow v.flowId walks) ?_)
  intro outcome e' s' after
  rcases outcome with failure | found
  · exact after
  · obtain ⟨rfl, rfl⟩ := after
    cases found with
    | some flow =>
      exact walk_obeys deployment account flow maxSteps [] none walks active first writable
    | none => exact stop_rests task walks active writable (.inr rfl)

/-- A traversal ends at rest, however it ends; it may be part of a longer one. -/
theorem resume_obeys (deployment : Deployment) (account : Account) (flow : Option Flow)
    (within : discipline.within v.id = task.conduct.within v.id) (walks : s.walking = some v)
    (active : v.status = .active) (first : s.desk.opened = none)
    (writable : DocumentType.isWritable v = true) :
    (resume deployment account flow).Obeys discipline v s fun _ _ s' => s.Rests s' := by
  refine obeys_traversing (obeys_bind (obeys_attempt ?_))
  rw [within]
  apply obeys_mono (traverse_obeys deployment account flow walks active first writable)
  intro outcome e' s' rests
  rcases outcome with failure | ⟨⟩
  · by_cases conflict : failure.isConflict = true
    · simp only [conflict, if_true]
      exact obeys_pure rests
    · simp only [conflict]
      exact obeys_throw rests
  · exact obeys_pure rests

end Run
end MessageFlow
