import MessageFlow.Proofs.Interleaving.Answers
import MessageFlow.Proofs.Traversal.Successors
import MessageFlow.Proofs.Validation.Node
import MessageFlow.Run.Traversal

/-!
The traversal of an accepted flow. It fails its execution at the step limit or with an excuse.
-/

namespace MessageFlow

variable {watch : Watch} {owners : Owners}

/-- The nodes to execute next are nodes of the flow. -/
theorem mem_of_upcoming {flow : Flow} {queue nodes : List Node} {branch : Option Bool}
    {e : Execution} (ofFlow : ∀ node ∈ queue, node ∈ flow.nodes)
    (next : Run.upcoming flow queue branch e = some nodes) : ∀ node ∈ nodes, node ∈ flow.nodes := by
  unfold Run.upcoming at next
  split at next
  · split at next
    · cases next
    · cases next
      intro node present
      obtain ⟨_, _, _, _, found⟩ := Flow.mem_successors.mp present
      exact List.mem_of_find?_eq_some found
  · cases next
    exact ofFlow

namespace Operation

/-- A row that is read as a document, if it can be. -/
theorem yields_parse {α : Type} [DocumentType α] {row : Row} {P : Option α → Owners → Prop}
    (reads : ∀ a, DocumentType.read (.record row) = .valid a → P (some a) owners) :
    (some <$> parse row : Operation (Option α)).Yields watch owners P := by
  unfold parse
  cases read : (DocumentType.read (.record row) : Validated α) with
  | invalid issues =>
    intro found same
    cases same
  | valid a =>
    intro found same
    cases same
    exact reads a read

end Operation

namespace Store
open Operation

/-- The stored flow of an execution; that of a watched one is there, and it is the accepted one. -/
theorem getFlow_yields (id : String) : (getFlow id).Yields watch owners fun found _ =>
    id = watch.flow.id → ∃ flow, found = some flow ∧ watch.flow.Matches flow := by
  unfold getFlow
  apply yields_then (P := fun rows _ => id = watch.flow.id → ∃ row rest flow,
    rows = row :: rest ∧ Flow.read (.record row) = .valid flow ∧ watch.flow.Matches flow)
  · apply yields_query
    intro later tables _ sound
    refine ⟨sound, ?_⟩
    rintro rfl
    cases answer : ((flowQuery watch.flow.id).run tables).1 with
    | nil =>
      obtain ⟨row, present, isId⟩ := sound.flows.present
      have found : row ∈ (tables.rows .flows).filter (selects [byId watch.flow.id]) :=
        List.mem_filter.mpr ⟨present, selects_byId.mpr isId⟩
      have none : ((tables.rows .flows).filter (selects [byId watch.flow.id])).take 1 = [] := answer
      rw [List.take_eq_nil_iff] at none
      rcases none with impossible | empty
      · cases impossible
      · rw [empty] at found
        cases found
    | cons row rest =>
      have among : row ∈ ((flowQuery watch.flow.id).run tables).1 := answer ▸ .head rest
      obtain ⟨present, selected⟩ := Query.selected_of_mem_select among
      obtain ⟨flow, reads, same⟩ := sound.flows.reads row present (selects_byId.mp selected)
      exact ⟨row, rest, flow, rfl, reads, same⟩
  · intro rows later _ shows
    cases rows with
    | nil =>
      apply yields_pure
      intro watched
      obtain ⟨_, _, _, none, _⟩ := shows watched
      cases none
    | cons row rest =>
      apply yields_parse
      intro flow reads watched
      obtain ⟨_, _, _, same, readsFlow, isFlow⟩ := shows watched
      cases same
      cases reads.symm.trans readsFlow
      exact ⟨flow, rfl, isFlow⟩

theorem flowOr_yields {known : Option Flow} {id : String}
    (isKnown : ∀ flow ∈ known, id = watch.flow.id → watch.flow.Matches flow) :
    (flowOr known id).Yields watch owners fun found _ =>
      id = watch.flow.id → ∃ flow, found = some flow ∧ watch.flow.Matches flow := by
  cases known with
  | some flow => exact yields_pure fun watched => ⟨flow, rfl, isKnown flow rfl watched⟩
  | none => exact getFlow_yields id

end Store

namespace Run
open Operation

variable {α : Type} {e : Execution} {flowId : String} {account : Account}

/-- An execution is written unless it cannot be, or has failed without an excuse. -/
theorem saveExecution_yields (proper : e.Proper owners)
    (spared : DocumentType.isWritable e = true → watch.flow.Spares e) :
    Store.saveExecution.Yields watch e owners fun _ e' _ => e' = e.saved := by
  unfold Store.saveExecution
  apply get_then
  apply yields_then (P := fun _ e' _ => e' = e ∧ DocumentType.isWritable e = true)
  · apply yields_lift
    unfold ensureWritable
    split
    · next writable => exact Operation.yields_pure ⟨rfl, writable⟩
    · exact Operation.yields_throw
  · intro _ e' later grows holds
    obtain ⟨rfl, writable⟩ := holds
    apply yields_then (P := fun _ e'' _ => e'' = e')
    · apply yields_lift
      apply Operation.yields_query
      intro last tables more sound
      exact ⟨sound.save (proper.mono (List.Subset.trans grows more)) (spared writable), rfl⟩
    · intro rows e'' last _ same
      cases same
      split
      · exact yields_throw
      · exact yields_set rfl

/-- An execution that goes on, written from outside a traversal. -/
theorem attemptSave_yields (goesOn : e.GoesOn owners e.flowId) :
    (attempt Store.saveExecution).Yields watch e owners fun outcome e' later =>
      outcome = .ok () → e' = e.saved ∧ e'.GoesOn later e'.flowId := by
  apply yields_attempt
  apply upholds_mono
    (saveExecution_yields goesOn.proper fun _ _ failed => absurd failed goesOn.unfailed)
  intro outcome e' later grows written same
  obtain rfl := written () same
  have still := goesOn.proper.mono grows
  exact ⟨rfl, still.of_same rfl rfl rfl still.finite, rfl, goesOn.unfailed⟩

theorem save_yields (proper : e.Proper owners)
    (spared : DocumentType.isWritable e = true → watch.flow.Spares e) :
    save.Yields watch e owners fun _ e' _ => ∃ now, e' = (e.stamped now).saved := by
  unfold save
  apply succeeds_then succeeds_now
  intro now later grows _
  apply modify_then
  have still : (e.stamped now).Proper later :=
    (proper.mono grows).of_same rfl rfl rfl proper.finite
  apply yields_mono (saveExecution_yields still spared)
  intro _ e' last _ same
  exact ⟨now, same⟩

/-- A failure with an excuse may be recorded. -/
theorem fail_yields {error : String} (proper : e.Proper owners)
    (excused : DocumentType.isWritable e = true → e.flowId = watch.flow.id →
      watch.flow.Excuses e.currentNodeId (some error)) :
    (fail error).Yields watch e owners fun _ _ _ => True := by
  unfold fail
  apply modify_then
  have still : (e.failed error).Proper owners := proper.of_same rfl rfl rfl proper.finite
  apply yields_mono (save_yields still _)
  · intro _ _ _ _ _
    trivial
  · intro writable watched _
    exact excused writable watched

theorem complete_yields (proper : e.Proper owners) :
    complete.Yields watch e owners fun _ _ _ => True := by
  unfold complete
  apply succeeds_then succeeds_now
  intro now later grows _
  apply modify_then
  have still : (e.completed now).Proper later :=
    (proper.mono grows).of_same rfl rfl rfl proper.finite
  apply yields_mono (save_yields still _)
  · intro _ _ _ _ _
    trivial
  · exact fun _ _ failed => nomatch failed

/-- A node leaves an execution that goes on, or one that it has recorded as failed. -/
theorem executeNode_yields (delivers : watch.deployment.Delivers account) (flow : Flow)
    {node : Node}
    (isHere : e.currentNodeId = node.id)
    (isNode : e.flowId = watch.flow.id → node ∈ watch.flow.nodes)
    (goesOn : e.GoesOn owners e.flowId) :
    (executeNode watch.deployment account flow node).Yields watch e owners fun outcome e' later =>
      (∃ error, outcome = .failed error) ∨ e'.GoesOn later e.flowId := by
  unfold executeNode
  apply yields_then (yields_attempt (handleNode_settles delivers flow isHere isNode goesOn))
  intro outcome e' later grows settles
  cases outcome with
  | ok outcome => exact yields_pure (.inr settles)
  | error failure =>
    obtain ⟨rfl, noConflict, excused⟩ := settles
    simp only [noConflict, Bool.false_eq_true, if_false]
    apply yields_then (fail_yields (goesOn.proper.mono grows) excused)
    intro _ e'' last _ _
    exact yields_pure (.inl ⟨_, rfl⟩)

theorem visit_yields (delivers : watch.deployment.Delivers account) (flow : Flow) {node : Node}
    (isNode : e.flowId = watch.flow.id → node ∈ watch.flow.nodes)
    (goesOn : e.GoesOn owners e.flowId) :
    (visit watch.deployment account flow node).Yields watch e owners fun outcome e' later =>
      ∀ known, outcome = some known → e'.GoesOn later e.flowId := by
  have moved : (e.movedTo node).GoesOn owners (e.movedTo node).flowId :=
    ⟨goesOn.proper.of_same rfl rfl rfl goesOn.proper.finite, rfl, goesOn.unfailed⟩
  unfold visit
  apply modify_then
  apply yields_then (e := e.movedTo node) (executeNode_yields delivers flow rfl isNode moved)
  intro outcome e' later _ left
  have saves (goes : e'.GoesOn later e.flowId) (known : NodeOutcome) :
      (do
        save
        pure (if known.continues then some known else none)).Yields watch e' later
          fun outcome e'' last => ∀ known, outcome = some known → e''.GoesOn last e.flowId := by
    apply yields_then (save_yields goes.proper fun _ _ failed => absurd failed goes.unfailed)
    intro _ e'' last grows holds
    obtain ⟨now, rfl⟩ := holds
    apply yields_pure
    intro _ _
    exact ⟨(goes.proper.mono grows).of_same rfl rfl rfl goes.proper.finite, goes.flowId,
      goes.unfailed⟩
  cases outcome with
  | failed error => exact yields_pure nofun
  | proceed | branch | suspend =>
    rcases left with ⟨error, failed⟩ | goes
    · cases failed
    · exact saves goes _

/-- A walk through the nodes of the flow keeps the tables in order. -/
theorem walk_yields (delivers : watch.deployment.Delivers account) (flow : Flow)
    (isFlow : flowId = watch.flow.id → watch.flow.Matches flow) (steps : Nat) {queue : List Node}
    (ofFlow : ∀ node ∈ queue, node ∈ flow.nodes) (branch : Option Bool)
    (goesOn : e.GoesOn owners flowId) :
    (walk watch.deployment account flow steps queue branch).Yields watch e owners
      fun _ _ _ => True := by
  induction steps using Nat.strongRecOn generalizing queue branch e owners with
  | ind steps ih =>
    unfold walk
    apply get_then
    rcases next : upcoming flow queue branch e with _ | _ | ⟨node, rest⟩
    · exact yields_pure trivial
    · exact complete_yields goesOn.proper
    · cases steps with
      | zero => exact fail_yields goesOn.proper fun _ _ => .stepLimit
      | succ steps =>
        have among := mem_of_upcoming ofFlow next
        have isNode : e.flowId = watch.flow.id → node ∈ watch.flow.nodes := by
          intro watched
          rw [goesOn.flowId] at watched
          rw [← (isFlow watched).1]
          exact among node (.head rest)
        apply yields_then (visit_yields delivers flow isNode (goesOn.flowId ▸ goesOn))
        intro outcome e' later _ goes
        cases outcome with
        | none => exact yields_pure trivial
        | some outcome =>
          have still : e'.GoesOn later flowId := goesOn.flowId ▸ goes outcome rfl
          exact ih steps (Nat.lt_succ_self steps)
            (fun other later => among other (.tail node later)) _ still

theorem traverse_yields (delivers : watch.deployment.Delivers account) {known : Option Flow}
    (isKnown : ∀ flow ∈ known, e.flowId = watch.flow.id → watch.flow.Matches flow)
    (goesOn : e.GoesOn owners e.flowId) :
    (traverse watch.deployment account known).Yields watch e owners fun _ _ _ => True := by
  unfold traverse
  apply get_then
  apply yields_then (P := fun found e' later => e' = e ∧ owners ⊆ later ∧
    (e.flowId = watch.flow.id → ∃ flow, found = some flow ∧ watch.flow.Matches flow))
  · apply yields_lift
    apply Operation.yields_mono (Store.flowOr_yields isKnown)
    intro found later grows shows
    exact ⟨rfl, grows, shows⟩
  · intro found e' later _ holds
    obtain ⟨rfl, grows, shows⟩ := holds
    have still := goesOn.mono grows
    cases found with
    | none =>
      apply fail_yields still.proper
      intro _ watched
      obtain ⟨_, none, _⟩ := shows watched
      cases none
    | some flow =>
      have isFlow : e'.flowId = watch.flow.id → watch.flow.Matches flow := by
        intro watched
        obtain ⟨_, same, isAccepted⟩ := shows watched
        cases same
        exact isAccepted
      exact walk_yields delivers flow isFlow maxSteps (fun _ none => absurd none List.not_mem_nil)
        none still

theorem resume_yields (delivers : watch.deployment.Delivers account) {known : Option Flow}
    (isKnown : ∀ flow ∈ known, e.flowId = watch.flow.id → watch.flow.Matches flow)
    (goesOn : e.GoesOn owners e.flowId) :
    (resume watch.deployment account known).Yields watch e owners fun _ _ _ => True := by
  unfold resume
  apply yields_traversing
  apply yields_then (P := fun _ _ _ => True)
  · apply yields_attempt
    exact upholds_mono (traverse_yields delivers isKnown goesOn) fun _ _ _ _ _ => trivial
  · intro outcome e' later _ _
    split
    · exact yields_pure trivial
    · split
      · exact yields_pure trivial
      · exact yields_throw

end Run

end MessageFlow
