import MessageFlow.Proofs.Apart
import MessageFlow.Proofs.Interleaving.Rows

/-!
What operations on the stored executions give, by the answer of the store. The discipline and the
standings do not matter here.
-/

namespace MessageFlow

variable {σ : Type} {discipline : Discipline σ} {s : σ} {after : Except Failure (List Row) → σ}

theorem exists_left_of_forall₂ {α β : Type} {related : α → β → Prop} {as : List α} {bs : List β}
    (all : List.Forall₂ related as bs) {b : β} (present : b ∈ bs) : ∃ a ∈ as, related a b := by
  induction all with
  | nil => cases present
  | @cons a _ as _ first _ ih =>
    rcases List.mem_cons.mp present with rfl | later
    · exact ⟨a, .head as, first⟩
    · obtain ⟨other, isOther, relates⟩ := ih later
      exact ⟨other, .tail a isOther, relates⟩

/-- Rows that can all be read, one by one. -/
theorem Operation.parseAll_reads {δ : Type} [DocumentType δ] (rows : List Row) :
    (rows.mapM parse : Operation (List δ)).Obeys discipline s fun outcome s' =>
      s' = s ∧ ∀ copies, outcome = .ok copies →
        List.Forall₂ (fun row v => DocumentType.read (.record row) = .valid v) rows copies := by
  induction rows with
  | nil =>
    refine obeys_pure ⟨rfl, ?_⟩
    intro copies same
    cases same
    exact .nil
  | cons row rows ih =>
    rw [List.mapM_cons]
    unfold parse
    cases reads : (DocumentType.read (.record row) : Validated δ) with
    | invalid issues =>
      refine obeys_bind (obeys_throw ⟨rfl, ?_⟩)
      intro copies same
      cases same
    | valid first =>
      refine obeys_bind (obeys_pure (obeys_then ih ?_ ?_))
      · intro others s' holds
        obtain ⟨rfl, read⟩ := holds
        refine obeys_pure ⟨rfl, ?_⟩
        intro copies same
        cases same
        exact .cons reads (read others rfl)
      · intro failure s' holds
        obtain ⟨rfl, _⟩ := holds
        refine ⟨rfl, ?_⟩
        intro copies same
        cases same

namespace Store

theorem getExecution_reads (id : String)
    (permitted : discipline s none (.query (.select .executions [byId id] none (some 1))) after) :
    (getExecution id).Obeys discipline s fun outcome s' => ∃ answer, s' = after answer ∧
      (outcome = .ok none → answer = .ok []) ∧
      ∀ v, outcome = .ok (some v) → v.id = id ∧ ∃ row rows, answer = .ok (row :: rows) ∧
        Execution.read (.record row) = .valid v := by
  refine Operation.obeys_bind (Operation.obeys_query _ permitted ?_)
  intro answer may
  cases answer with
  | error failure =>
    refine ⟨.error failure, rfl, ?_, ?_⟩
    · intro same
      cases same
    · intro v same
      cases same
  | ok rows =>
    cases rows with
    | nil =>
      refine Operation.obeys_pure ⟨.ok [], rfl, ?_, ?_⟩
      · intro _
        rfl
      · intro v same
        cases same
    | cons row rows =>
      change (some <$> Operation.ofValidated _ (Execution.read (.record row))).Obeys _ _ _
      rw [← bind_pure_comp]
      cases reads : Execution.read (.record row) with
      | invalid issues =>
        refine Operation.obeys_bind (Operation.obeys_throw ⟨.ok (row :: rows), rfl, ?_, ?_⟩)
        · intro same
          cases same
        · intro v same
          cases same
      | valid copy =>
        refine Operation.obeys_bind (Operation.obeys_pure (Operation.obeys_pure
          ⟨.ok (row :: rows), rfl, ?_, ?_⟩))
        · intro same
          cases same
        intro v same
        cases same
        refine ⟨?_, row, rows, rfl, reads⟩
        rcases may with ⟨tables, answered⟩ | answered | ⟨failure, answered, _⟩
        · have selected := Query.selected_of_mem_select
            (Except.ok.inj answered ▸ List.mem_cons_self (a := row) (l := rows))
          have named : row.get "id" = .text id := by
            simpa [selects, Filter.holds, byId, Json.same_text] using selected.2
          rw [(Row.heads_of_read reads).id] at named
          exact Json.text.inj named
        · cases answered
        · cases answered

/-- The query for the active and waiting executions. -/
def openQuery (flowId accountId senderId : Option String) : Query :=
  .select .executions
    (.oneOf "status" [Status.active.text, Status.waiting.text] ::
      (optionalFilter "flow_id" flowId ++ optionalFilter "account_id" accountId ++
        optionalFilter "sender_id" senderId))
    (some ⟨"created_at", true⟩) none

theorem listOpenExecutions_reads (flowId accountId senderId : Option String)
    (permitted : discipline s none (.query (openQuery flowId accountId senderId)) after) :
    (listOpenExecutions flowId accountId senderId).Obeys discipline s fun outcome s' =>
      ∃ answer, (openQuery flowId accountId senderId).MayAnswer answer ∧ s' = after answer ∧
        ∀ copies, outcome = .ok copies → ∃ rows, answer = .ok rows ∧
          List.Forall₂ (fun row v => Execution.read (.record row) = .valid v) rows copies := by
  refine Operation.obeys_bind (Operation.obeys_query _ permitted ?_)
  intro answer may
  cases answer with
  | error failure =>
    refine ⟨.error failure, may, rfl, ?_⟩
    intro copies same
    cases same
  | ok rows =>
    apply Operation.obeys_mono (Operation.parseAll_reads rows)
    rintro outcome s' ⟨rfl, reads⟩
    exact ⟨.ok rows, may, rfl, fun copies same => ⟨rows, rfl, reads copies same⟩⟩

end Store

namespace Run

/-- What a write leads to, and which answer makes a conflict of it. -/
theorem saveExecution_reads {e : Execution}
    (permitted : discipline s none (.query (Store.saveQuery e)) after) :
    Store.saveExecution.Obeys discipline e s fun
      | .ok _, e', s' => e' = e.saved ∧ DocumentType.isWritable e = true ∧
          ∃ row rows, s' = after (.ok (row :: rows))
      | .error failure, _, s' =>
          (s' = s ∧ DocumentType.isWritable e = false ∧ failure.isConflict = false) ∨
            ∃ answer, Query.IsRefusal answer ∧ s' = after answer ∧
              (failure.isConflict = true → answer = .ok []) := by
  refine obeys_bind (obeys_get ?_)
  refine obeys_bind (obeys_lift ?_)
  unfold Operation.ensureWritable
  by_cases fits : DocumentType.isWritable e = true
  · rw [if_pos fits]
    apply Operation.obeys_pure
    refine obeys_bind (obeys_lift (Operation.obeys_query _ permitted ?_))
    intro answer may
    cases answer with
    | error failure =>
      rcases may with ⟨tables, answered⟩ | answered | ⟨refusal, answered, other⟩
      · cases answered
      · cases answered
      · cases answered
        refine .inr ⟨_, .inr ⟨failure, rfl, other⟩, rfl, ?_⟩
        intro conflict
        rw [other] at conflict
        cases conflict
    | ok rows =>
      cases rows with
      | nil => exact .inr ⟨_, .inl rfl, rfl, fun _ => rfl⟩
      | cons row rows => exact ⟨rfl, fits, row, rows, rfl⟩
  · rw [if_neg fits]
    apply Operation.obeys_throw
    exact .inl ⟨rfl, by simpa using fits, rfl⟩

theorem isWritable_of_noExtras {e : Execution} (ofContext : e.context.extras = [])
    (extras : e.extras = []) : DocumentType.isWritable e = true := by
  have none : DocumentType.loose e = [] := by
    change (e.context.extras ++ e.extras).map (·.2) = []
    rw [ofContext, extras]
    rfl
  rw [DocumentType.isWritable, none]
  rfl

theorem isWritable_of_isNew {e : Execution} (isNew : e.IsNew) :
    DocumentType.isWritable e = true :=
  isWritable_of_noExtras isNew.contextExtras isNew.extras

theorem createExecution_reads {e : Execution} (isNew : e.IsNew)
    (permitted : discipline s none (.query (.insert .executions e.row)) after) :
    (Store.createExecution e).Obeys discipline s fun
      | .ok created, s' => created = e ∧ ∃ rows, s' = after (.ok rows)
      | .error _, s' => ∃ failure, s' = after (.error failure) := by
  have reads : DocumentType.read (.record e.row) = .valid e :=
    Execution.read_row (Execution.regular_of_isNew isNew)
  unfold Store.createExecution Operation.ensureWritable
  rw [if_pos (isWritable_of_isNew isNew)]
  refine Operation.obeys_bind (Operation.obeys_pure ?_)
  refine Operation.obeys_bind (Operation.obeys_query _ permitted ?_)
  intro answer may
  rcases may with ⟨tables, rfl⟩ | rfl | ⟨failure, rfl, _⟩
  · rw [(Execution.run_insert isNew tables).1]
    change (Operation.ofValidated _ (DocumentType.read (.record e.row))).Obeys _ _ _
    rw [reads]
    exact Operation.obeys_pure ⟨rfl, _, rfl⟩
  · exact Operation.obeys_pure ⟨rfl, _, rfl⟩
  · exact ⟨failure, rfl⟩

end Run
end MessageFlow
