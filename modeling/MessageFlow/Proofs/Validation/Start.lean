import MessageFlow.Proofs.Interleaving.Obedience
import MessageFlow.Proofs.Validation.Traversal

/-!
Starting flows. A new execution is one of the flow that is started, and it begins in order.
-/

namespace MessageFlow

variable {watch : Watch} {owners : Owners}

namespace Operation

variable {α β : Type}

/-- Rows of which all that can be read is of that kind. -/
theorem yields_parseAll [DocumentType α] {rows : List Row} {P : α → Prop}
    (reads : ∀ row ∈ rows, ∀ a, DocumentType.read (.record row) = .valid a → P a) :
    (rows.mapM parse : Operation (List α)).Yields watch owners fun found _ =>
      ∀ a ∈ found, P a := by
  induction rows generalizing owners with
  | nil => exact yields_pure fun a none => absurd none List.not_mem_nil
  | cons row rows ih =>
    rw [List.mapM_cons]
    apply yields_then (P := fun first _ => P first)
    · unfold parse
      cases read : (DocumentType.read (.record row) : Validated α) with
      | invalid issues => exact yields_throw
      | valid a => exact yields_pure (reads row (.head rows) a read)
    · intro first later _ isKind
      apply yields_then (P := fun found _ => ∀ a ∈ found, P a)
      · exact ih fun other present => reads other (.tail row present)
      · intro others last _ areKind
        apply yields_pure
        intro a present
        rcases List.mem_cons.mp present with rfl | other
        · exact isKind
        · exact areKind a other

/-- The new id goes to an execution of that flow. -/
theorem yields_freshId (flowId : String) :
    freshId.Yields watch owners fun id later => (id, flowId) ∈ later := by
  intro later grows
  refine ⟨flowId, ?_⟩
  intro id _ value same
  cases same
  exact .head later

end Operation

open Operation

theorem Row.get_id_of_readFlow {row : Row} {flow : Flow}
    (reads : Flow.read (.record row) = .valid flow) : row.get "id" = .text flow.id := by
  have id : Document.required Field.id Document.asText row = .valid flow.id := by
    simp only [Flow.read, Document.object, Validated.map_eq_valid, Validated.fmap_eq_valid,
      Validated.seq_eq_valid, ↓existsAndEq, and_true] at reads
    grind
  exact get_id_of_required id

namespace Store

/-- The accepted flow is read from its rows only. -/
theorem listActiveFlows_yields (accountId : String) :
    (listActiveFlows accountId).Yields watch owners fun flows _ =>
      ∀ flow ∈ flows, flow.id = watch.flow.id → watch.flow.Matches flow := by
  unfold listActiveFlows
  apply yields_then (P := fun rows _ => ∀ row ∈ rows, ∀ flow,
    Flow.read (.record row) = .valid flow → flow.id = watch.flow.id → watch.flow.Matches flow)
  · apply yields_query
    intro later tables _ sound
    refine ⟨sound, ?_⟩
    intro row selected flow reads watched
    have isId : Row.get row "id" = .text watch.flow.id := watched ▸ Row.get_id_of_readFlow reads
    obtain ⟨stored, readsStored, isAccepted⟩ :=
      sound.flows.reads row (Query.mem_of_mem_select selected) isId
    cases reads.symm.trans readsStored
    exact isAccepted
  · intro rows later _ reads
    exact yields_parseAll reads

theorem recordTrigger_yields (flow : Flow) (time : Timestamp) :
    (recordTrigger flow time).Yields watch owners fun _ _ => True := by
  unfold recordTrigger
  apply yields_then (getFlow_yields flow.id)
  intro current later _ _
  apply yields_then (P := fun _ _ => True)
  · apply yields_query
    intro last tables _ sound
    exact ⟨sound.count flow.id _ time, trivial⟩
  · intro _ last _ _
    exact yields_pure trivial

theorem createExecution_yields {e : Execution} (proper : e.Proper owners) (isNew : e.IsNew) :
    (createExecution e).Yields watch owners fun created _ => created = e := by
  have reads : DocumentType.read (.record e.row) = .valid e :=
    Execution.read_row (Execution.regular_of_isNew isNew)
  unfold createExecution ensureWritable
  rw [if_pos (Run.isWritable_of_isNew isNew), pure_bind]
  apply yields_then (P := fun rows _ => rows = [e.row])
  · apply yields_query
    intro later tables grows sound
    exact ⟨sound.create (proper.mono grows) isNew, (Execution.run_insert isNew tables).1⟩
  · intro rows later _ stored
    rw [stored]
    simp only [parse_of_valid (α := Execution) reads]
    exact yields_pure rfl

end Store

namespace Run

variable {account : Account}

theorem proper_of_isOutset {e : Execution} {flow : Flow} {trigger : Node} {id : String}
    (outset : e.IsOutset flow trigger id) (owned : (id, flow.id) ∈ owners) : e.Proper owners where
  owned := by rwa [outset.id, outset.flowId]
  column := by
    rw [outset.isNew.extras]
    exact fun _ _ => List.not_mem_nil
  key := by
    rw [outset.isNew.extras]
    exact fun _ _ => List.not_mem_nil
  finite := by
    intro entry present
    rw [outset.customFields] at present
    cases present

theorem initialExecution_yields (flow : Flow) (trigger : Node) (event : TriggerEvent) {id : String}
    (now : Timestamp) (owned : (id, flow.id) ∈ owners) :
    (initialExecution flow trigger event id now).Yields watch owners fun e later =>
      e.Proper later ∧ e.IsNew ∧ e.flowId = flow.id := by
  rcases initialExecution_cases flow trigger event id now with ⟨failure, fails⟩ | ⟨e, makes, outset⟩
  · rw [fails]
    exact Operation.yields_throw
  · rw [makes]
    exact Operation.yields_pure ⟨proper_of_isOutset outset owned, outset.isNew, outset.flowId⟩

theorem start_yields (delivers : watch.deployment.Delivers account) {flow : Flow}
    (isFlow : flow.id = watch.flow.id → watch.flow.Matches flow) (event : TriggerEvent)
    (keywords : List String) :
    (start watch.deployment account flow event keywords).Yields watch owners
      fun _ _ => True := by
  unfold start
  split
  · exact Operation.yields_pure trivial
  · apply Operation.yields_then (P := fun _ _ => True) (Operation.yields_now fun _ _ _ => trivial)
    intro now later _ _
    apply Operation.yields_then (Operation.yields_freshId flow.id)
    intro id known _ owned
    apply Operation.yields_then (initialExecution_yields flow _ event now owned)
    intro initial mid _ holds
    obtain ⟨proper, isNew, ofFlow⟩ := holds
    apply Operation.yields_then (P := fun created after => created = initial ∧ created.Proper after)
    · apply Operation.yields_mono (Store.createExecution_yields proper isNew)
      intro created after grows same
      exact ⟨same, same ▸ proper.mono grows⟩
    · intro created after _ holds
      obtain ⟨rfl, stored⟩ := holds
      have unfailed : created.status ≠ .failed := by
        rw [isNew.status]
        nofun
      apply yields_on
      apply Run.yields_then (P := fun _ _ _ => True)
      · apply yields_traversing
        apply Run.yields_then (P := fun _ e' last => e' = created ∧ created.Proper last)
        · apply Run.yields_attempt
          apply upholds_lift
          apply Operation.upholds_mono (Store.recordTrigger_yields flow now)
          intro _ last grows _
          exact ⟨rfl, stored.mono grows⟩
        · intro _ e' last _ holds
          obtain ⟨rfl, proper⟩ := holds
          apply resume_yields delivers _ ⟨proper, rfl, unfailed⟩
          intro known same watched
          cases same
          exact isFlow (ofFlow ▸ watched)
      · intro _ e' last _ _
        apply get_then
        exact Run.yields_pure trivial

theorem startAll_yields (delivers : watch.deployment.Delivers account) (event : TriggerEvent)
    (keywords : List String) {flows : List Flow}
    (areFlows : ∀ flow ∈ flows, flow.id = watch.flow.id → watch.flow.Matches flow) :
    (startAll watch.deployment account event keywords flows).Yields watch owners
      fun _ _ => True := by
  induction flows generalizing owners with
  | nil => exact Operation.yields_pure trivial
  | cons flow flows ih =>
    unfold startAll
    apply Operation.yields_then (P := fun _ _ => True)
    · apply Operation.yields_passOver
      exact start_yields delivers (areFlows flow (.head flows)) event keywords
    · intro started later _ _
      apply Operation.yields_then (ih fun other present => areFlows other (.tail flow present))
      intro others last _ _
      split
      · exact Operation.yields_pure trivial
      · exact Operation.yields_pure trivial

theorem trigger_yields (delivers : watch.deployment.Delivers account) (event : TriggerEvent) :
    (trigger watch.deployment account event).Yields watch owners fun _ _ => True := by
  unfold trigger
  cases event.keywords with
  | error value => exact Operation.yields_throw
  | ok keywords =>
    apply Operation.yields_then (Store.listActiveFlows_yields account.id)
    intro flows later _ areFlows
    exact startAll_yields delivers event keywords areFlows

end Run

end MessageFlow
