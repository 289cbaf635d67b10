import MessageFlow.Proofs.Interleaving.Sweeping
import MessageFlow.Proofs.Trail.Track
import MessageFlow.Proofs.Validation.Start

/-!
A traversal stays on its track: it enters only nodes that follow the way which it has gone, along a
flow of its execution.
-/

namespace MessageFlow
open Track

variable {task : Task} {c : Track} {v e : Execution} {way : List Stop}

namespace Store

variable {discipline : Discipline Track}

/-- A loaded flow has the id for which it was loaded. -/
theorem getFlow_roams (id : String)
    (permitted : discipline c none (.query (flowQuery id)) c.afterSeek) :
    (getFlow id).Obeys discipline c fun outcome c' => c.Grows c' ∧ c'.way = c.way ∧
      ∀ flow, outcome = .ok (some flow) → flow ∈ c'.told ∧ flow.id = id := by
  refine Operation.obeys_bind (Operation.obeys_query _ permitted ?_)
  intro answer may
  cases answer with
  | error failure =>
    refine ⟨.refl c, rfl, ?_⟩
    intro flow same
    cases same
  | ok rows =>
    cases rows with
    | nil =>
      refine Operation.obeys_pure ⟨c.grows_learn [], rfl, ?_⟩
      intro flow same
      cases same
    | cons row rows =>
      have grows := c.grows_learn (row :: rows)
      change (some <$> Operation.ofValidated _ (Flow.read (.record row))).Obeys _ _ _
      rw [← bind_pure_comp]
      cases reads : Flow.read (.record row) with
      | invalid issues =>
        refine Operation.obeys_bind (Operation.obeys_throw ⟨grows, rfl, ?_⟩)
        intro flow same
        cases same
      | valid found =>
        refine Operation.obeys_bind (Operation.obeys_pure (Operation.obeys_pure ⟨grows, rfl, ?_⟩))
        intro flow same
        cases same
        refine ⟨.inr ⟨row, .head rows, reads⟩, ?_⟩
        rcases may with ⟨tables, answered⟩ | answered | ⟨failure, answered, _⟩
        · have selected := Query.selected_of_mem_select
            (Except.ok.inj answered ▸ List.mem_cons_self (a := row) (l := rows))
          have named : row.get "id" = .text id := selects_byId.mp selected.2
          rw [Row.get_id_of_readFlow reads] at named
          exact Json.text.inj named
        · cases answered
        · cases answered

/-- The flow that is known, or that of the execution. -/
theorem flowOr_roams {known : Option Flow} {id : String}
    (permitted : discipline c none (.query (flowQuery v.flowId)) c.afterSeek)
    (knows : ∀ flow ∈ known, task.Knows c flow id) (saw : c.Saw v) (same : v.id = id) :
    (flowOr known v.flowId).Obeys discipline c fun outcome c' => c.Grows c' ∧ c'.way = c.way ∧
      ∀ flow, outcome = .ok (some flow) → task.Knows c' flow id := by
  cases known with
  | some flow =>
    refine Operation.obeys_pure ⟨.refl c, rfl, ?_⟩
    intro found isFound
    cases isFound
    exact knows flow rfl
  | none =>
    apply Operation.obeys_mono (getFlow_roams v.flowId permitted)
    rintro outcome c' ⟨grows, sameWay, found⟩
    refine ⟨grows, sameWay, ?_⟩
    intro flow isFound
    obtain ⟨told, ofFlow⟩ := found flow isFound
    obtain ⟨u, seen, sameId, sameFlow⟩ := saw
    exact ⟨.inr told, u, grows.seen seen, sameId.trans same, sameFlow.trans ofFlow.symm⟩

end Store

namespace Run

variable {discipline : Discipline Track}

/-- What a write of the execution leads to. -/
theorem saveExecution_roams
    (permitted : discipline c none (.query (Store.saveQuery e)) (c.afterSave e way)) :
    Store.saveExecution.Obeys discipline e c fun
      | .ok _, e', c' => e' = e.saved ∧ c' = c.goOn e.saved way
      | .error _, _, c' => c' = c := by
  apply obeys_mono (saveExecution_obeys permitted)
  rintro (failure | ⟨⟩) e' c' after
  · rcases after with ⟨same, _⟩ | ⟨answer, refusal, same⟩
    · exact same
    · exact same.trans (afterSave_of_refusal refusal)
  · obtain ⟨rfl, _, row, rows, rfl⟩ := after
    exact ⟨rfl, rfl⟩

theorem save_roams (spares : discipline.Spares c)
    (permitted : ∀ now, discipline c none (.query (Store.saveQuery (e.stamped now)))
      (c.afterSave (e.stamped now) way)) :
    save.Obeys discipline e c fun
      | .ok _, e', c' => ∃ now, e' = (e.stamped now).saved ∧ c' = c.goOn e' way
      | .error _, _, c' => c' = c := by
  refine obeys_bind (obeys_lift (Operation.obeys_request _ (spares .now trivial) ?_))
  intro now _
  refine obeys_bind (obeys_modify ?_)
  apply obeys_mono (saveExecution_roams (permitted now))
  rintro (failure | ⟨⟩) e' c' after
  · exact after
  · obtain ⟨rfl, rfl⟩ := after
    exact ⟨now, rfl, rfl⟩

theorem save_grows (spares : discipline.Spares c)
    (permitted : ∀ now, discipline c none (.query (Store.saveQuery (e.stamped now)))
      (c.afterSave (e.stamped now) way)) :
    save.Obeys discipline e c fun _ _ c' => c.Grows c' := by
  apply obeys_mono (save_roams spares permitted)
  rintro (failure | ⟨⟩) e' c' after
  · rw [after]
    exact .refl c
  · obtain ⟨now, _, rfl⟩ := after
    exact c.grows_goOn e' way

theorem fail_roams {reason : String} (spares : discipline.Spares c)
    (permitted : ∀ now, discipline c none
      (.query (Store.saveQuery ((e.failed reason).stamped now)))
      (c.afterSave ((e.failed reason).stamped now) way)) :
    (fail reason).Obeys discipline e c fun _ _ c' => c.Grows c' :=
  obeys_bind (obeys_modify (save_grows spares permitted))

/-- An execution is stopped where it stands. -/
theorem stop_roams (task : Task) (reason : String) (walks : c.way = some (v, way)) :
    (fail reason).Obeys (task.roaming.within v.id) v c fun _ _ c' => c.Grows c' :=
  fail_roams (spares_within task c v.id) fun _ =>
    permits_stop task walks ⟨.of_same_context rfl rfl rfl rfl, rfl⟩ Status.noConfusion

theorem complete_roams (task : Task) (walks : c.way = some (v, way)) :
    complete.Obeys (task.roaming.within v.id) v c fun _ _ c' => c.Grows c' := by
  have spares := spares_within task c v.id
  refine obeys_bind (obeys_lift (Operation.obeys_request _ (spares .now trivial) ?_))
  intro time _
  have permitted (now : Timestamp) : task.roaming.within v.id c none
      (.query (Store.saveQuery ((v.completed time).stamped now)))
      (c.afterSave ((v.completed time).stamped now) way) :=
    permits_stop task walks ⟨.of_same_context rfl rfl rfl rfl, rfl⟩ Status.noConfusion
  exact obeys_bind (obeys_modify (save_grows spares permitted))

section traversal

variable (deployment : Deployment) (account : Account) (flow : Flow) (node : Node)

/-- An action that notes something does nothing else. -/
theorem performAction_of_note? {node : Node} {note : Note} (notes : node.note? = some note) :
    node.kind? = some .action ∧ awaitsReply node.data = false ∧
      performAction deployment account node.data = modifyContext node.data.contextAfter := by
  have acts {kind : ActionKind} (isKind : node.data.actionKind? = some kind)
      (silent : kind.asks = false) (change : Context → Context)
      (performs : performAction deployment account node.data = modifyContext change)
      (changes : ∀ context, change context = node.data.contextAfter context) :
      awaitsReply node.data = false ∧
        performAction deployment account node.data = modifyContext node.data.contextAfter := by
    refine ⟨?_, performs.trans (congrArg modifyContext (funext changes))⟩
    rw [awaitsReply, isKind, Option.any_some, silent, Bool.and_false]
  unfold Node.note? at notes
  split at notes
  case h_5 => cases notes
  all_goals
    next isAction isKind =>
    exact ⟨isAction, acts isKind rfl _ (by rw [performAction, isKind])
      fun context => by rw [NodeData.contextAfter, isKind]⟩

/-- A node that notes something does not fail. -/
theorem handleNode_notes {σ : Type} {discipline : Discipline σ} {s : σ}
    (spares : discipline.Spares s) :
    (handleNode deployment account flow node).Obeys discipline e s fun outcome e' s' =>
      Gives s e (fun outcome e' => outcome = node.outcome e.context ∧
        ∃ wake, e' = e.afterNode node wake) outcome e' s' ∧
      ∀ failure, outcome = .error failure → node.note? = none := by
  cases notes : node.note? with
  | none =>
    apply obeys_mono (handleNode_gives deployment account flow node spares)
    exact fun _ _ _ gives => ⟨gives, fun _ _ => rfl⟩
  | some note =>
    obtain ⟨isAction, silent, performs⟩ := performAction_of_note? deployment account notes
    unfold handleNode
    simp only [isAction, performs, silent]
    refine obeys_bind (obeys_modify (obeys_pure ⟨⟨rfl, ?_, default, ?_⟩, nofun⟩))
    · simp [Node.outcome, isAction, silent]
    · simp [Execution.afterNode, isAction, silent]

theorem executeNode_roams (walks : c.way = some (v, way)) (knows : task.Knows c flow v.id)
    (follows : flow.Follows way node) :
    (executeNode deployment account flow node).Obeys (task.roaming.within v.id) (v.movedTo node) c
      fun
      | .ok outcome, e', c' => (c.Grows c' ∧ outcome.error?.isSome) ∨
          (c' = c ∧ outcome = node.outcome v.context ∧
            ∃ wake, e' = (v.movedTo node).afterNode node wake)
      | .error _, _, c' => c.Grows c' := by
  have spares := spares_within task c v.id
  refine obeys_bind (obeys_attempt (obeys_mono
    (handleNode_notes deployment account flow node spares) ?_))
  rintro (failure | outcome) e' c' ⟨gives, silent⟩
  · obtain ⟨rfl, rfl⟩ := gives
    by_cases conflict : failure.isConflict = true
    · simp only [conflict, if_true]
      exact obeys_throw (.refl c')
    · simp only [conflict]
      have unmarked : v.context.marks = node.mark v.context.marks := by
        rw [Node.mark, silent failure rfl]
        rfl
      have permitted (now : Timestamp) : task.roaming.within v.id c' none
          (.query (Store.saveQuery (((v.movedTo node).failed failure.record).stamped now)))
          (c'.afterSave (((v.movedTo node).failed failure.record).stamped now)
            (way ++ [⟨node.id, node.branch? v.context⟩])) :=
        permits_visit task walks knows follows (.failed failure now) unmarked
      apply obeys_then (fail_roams spares permitted)
      · rintro ⟨⟩ e' c'' grows
        exact obeys_pure (.inl ⟨grows, rfl⟩)
      · exact fun _ _ _ grows => grows
  · exact obeys_pure (.inr gives)

/-- What a visit leads to: the way goes on over the node, or the traversal ends. -/
def Entered (c : Track) (v : Execution) (way : List Stop) (node : Node) :
    Except Failure (Option NodeOutcome) → Execution → Track → Prop
  | .ok (some outcome), e', c' => c.Grows c' ∧ e'.id = v.id ∧ e'.currentNodeId = node.id ∧
      c'.way = some (e', way ++ [⟨node.id, outcome.branch?⟩])
  | .ok none, _, c' | .error _, _, c' => c.Grows c'

/-- The write after a node that did not fail. -/
theorem saveHandled_roams {outcome : NodeOutcome} (walks : c.way = some (v, way))
    (knows : task.Knows c flow v.id) (follows : flow.Follows way node)
    (isOutcome : outcome = node.outcome v.context) (wake : Timestamp) :
    (save >>= fun _ => pure (if outcome.continues then some outcome else none) :
      Run (Option NodeOutcome)).Obeys (task.roaming.within v.id)
        ((v.movedTo node).afterNode node wake) c (Entered c v way node) := by
  have moved := Execution.afterNode_accompanies (v.movedTo node) node wake
  have taken : node.branch? ((v.movedTo node).afterNode node wake).context = outcome.branch? := by
    rw [Execution.branch_afterNode, isOutcome, node.branch?_outcome]
    rfl
  have permitted (now : Timestamp) : task.roaming.within v.id c none
      (.query (Store.saveQuery (((v.movedTo node).afterNode node wake).stamped now)))
      (c.afterSave (((v.movedTo node).afterNode node wake).stamped now)
        (way ++ [⟨node.id, outcome.branch?⟩])) := by
    rw [← taken]
    exact permits_visit task walks knows follows (.handled wake now)
      ((v.movedTo node).marks_afterNode node wake)
  apply obeys_then (save_roams (spares_within task c v.id) permitted)
  · rintro ⟨⟩ e' c' ⟨now, rfl, rfl⟩
    by_cases goesOn : outcome.continues = true
    · rw [if_pos goesOn]
      exact obeys_pure ⟨c.grows_goOn _ _, moved.id, moved.currentNodeId, rfl⟩
    · rw [if_neg goesOn]
      exact obeys_pure (c.grows_goOn _ _)
  · rintro failure e' c' rfl
    exact .refl c'

theorem visit_roams (walks : c.way = some (v, way)) (knows : task.Knows c flow v.id)
    (follows : flow.Follows way node) :
    (visit deployment account flow node).Obeys (task.roaming.within v.id) v c
      (Entered c v way node) := by
  unfold visit
  refine obeys_bind (obeys_modify ?_)
  apply obeys_then (executeNode_roams deployment account flow node walks knows follows)
  · rintro outcome e' c' (⟨grows, failed⟩ | ⟨rfl, isOutcome, wake, rfl⟩)
    · cases outcome with
      | failed error => exact obeys_pure grows
      | proceed => cases failed
      | branch condition => cases failed
      | suspend => cases failed
    · have saves := saveHandled_roams flow node walks knows follows isOutcome wake
      cases outcome with
      | failed error => exact absurd isOutcome.symm (node.outcome_ne_failed v.context error)
      | proceed => exact saves
      | branch condition => exact saves
      | suspend => exact saves
  · exact fun _ _ _ grows => grows

/-- The nodes to execute next follow the way; the last stop decides the next hop. -/
theorem follows_of_upcoming {queue nodes : List Node} {branch : Option Bool}
    (follows : ∀ node ∈ queue, flow.Follows way node) (last : ⟨v.currentNodeId, branch⟩ ∈ way)
    (next : upcoming flow queue branch v = some nodes) :
    ∀ node ∈ nodes, flow.Follows way node := by
  unfold upcoming at next
  split at next
  · split at next
    · cases next
    · cases next
      exact fun node present => ⟨_, last, present⟩
  · cases next
    exact follows

theorem walk_roams (steps : Nat) (queue : List Node) (branch : Option Bool)
    (walks : c.way = some (v, way)) (knows : task.Knows c flow v.id)
    (follows : ∀ node ∈ queue, flow.Follows way node) (last : ⟨v.currentNodeId, branch⟩ ∈ way) :
    (walk deployment account flow steps queue branch).Obeys (task.roaming.within v.id) v c
      fun _ _ c' => c.Grows c' := by
  induction steps using Nat.strongRecOn generalizing c v way queue branch with
  | ind steps ih =>
    unfold walk
    refine obeys_bind (obeys_get ?_)
    rcases next : upcoming flow queue branch v with _ | _ | ⟨node, rest⟩
    all_goals simp only [next]
    · exact obeys_pure (.refl c)
    · exact complete_roams task walks
    · cases steps with
      | zero => exact stop_roams task _ walks
      | succ steps =>
        have upcoming := follows_of_upcoming flow follows last next
        apply obeys_then
          (visit_roams deployment account flow node walks knows (upcoming node (.head rest)))
        · rintro (_ | outcome) e' c' entered
          · exact obeys_pure entered
          · obtain ⟨grows, sameId, here, walks'⟩ := entered
            rw [← sameId] at knows ⊢
            have still (other : Node) (present : other ∈ rest) :
                flow.Follows (way ++ [⟨node.id, outcome.branch?⟩]) other := by
              obtain ⟨stop, passed, next⟩ := upcoming other (.tail node present)
              exact ⟨stop, List.mem_append_left _ passed, next⟩
            apply obeys_mono (ih steps (Nat.lt_succ_self steps) rest outcome.branch? walks'
              (knows.mono grows) still ?_)
            · exact fun _ _ _ later => grows.trans later
            · rw [here]
              exact List.mem_append_right _ (List.mem_singleton_self _)
        · exact fun _ _ _ grows => grows

theorem traverse_roams (known : Option Flow) (walks : c.way = some (v, [v.outsetStop]))
    (knows : ∀ flow ∈ known, task.Knows c flow v.id) (saw : c.Saw v) :
    (traverse deployment account known).Obeys (task.roaming.within v.id) v c
      fun _ _ c' => c.Grows c' := by
  have permitted : task.roaming.within v.id c none (.query (Store.flowQuery v.flowId))
      c.afterSeek := .seek _ _ _
  have loads := Store.flowOr_roams permitted knows saw rfl
  unfold traverse
  refine obeys_bind (obeys_get (obeys_bind (obeys_lift (Operation.obeys_mono loads ?_))))
  rintro (failure | found) c' ⟨grows, sameWay, ofFlow⟩
  · exact grows
  have walks' := sameWay.trans walks
  cases found with
  | none =>
    exact obeys_mono (stop_roams task flowNotFound walks') fun _ _ _ grown => grows.trans grown
  | some flow =>
    have follows : ∀ node ∈ ([] : List Node), flow.Follows [v.outsetStop] node :=
      fun _ none => absurd none List.not_mem_nil
    have last : ⟨v.currentNodeId, none⟩ ∈ [v.outsetStop] := List.mem_singleton_self _
    refine obeys_mono (walk_roams deployment account flow maxSteps [] none walks' (ofFlow flow rfl)
      follows last) fun _ _ _ grown => grows.trans grown

/-- A traversal sets out where its execution stands; it may be part of a longer one. -/
theorem resume_roams {discipline : Discipline Track} (known : Option Flow)
    (within : discipline.within v.id = task.roaming.within v.id)
    (walks : c.way = some (v, [v.outsetStop])) (knows : ∀ flow ∈ known, task.Knows c flow v.id)
    (saw : c.Saw v) :
    (resume deployment account known).Obeys discipline v c fun _ _ c' => c.Grows c' := by
  refine obeys_traversing (obeys_bind (obeys_attempt ?_))
  rw [within]
  apply obeys_mono (traverse_roams deployment account known walks knows saw)
  rintro (failure | ⟨⟩) e' c' grows
  · by_cases conflict : failure.isConflict = true
    · simp only [conflict, if_true]
      exact obeys_pure grows
    · simp only [conflict]
      exact obeys_throw grows
  · exact obeys_pure grows

end traversal

end Run
end MessageFlow
