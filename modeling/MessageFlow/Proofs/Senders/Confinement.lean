import MessageFlow.Proofs.Interleaving.Obedience
import MessageFlow.Proofs.Traversal.Pace

/-!
Which executions a message reaches. Its client first lists the open executions of the sender, and
from then on writes only executions that were listed and such that it creates itself.
-/

namespace MessageFlow

/-- The ids of the answered rows. -/
def idsOf : Except Failure (List Row) → Set String
  | .ok rows => { id | ∃ row ∈ rows, row.get "id" = .text id }
  | .error _ => ∅

/-- What may be asked when only the executions with those ids may be written. A new id is one of
them from then on. -/
inductive Confines (ids : Set String) : (request : Request) → (request.Answer → Set String) → Prop
  | aside (request : Request) (spares : request.SparesExecutions) :
    Confines ids request fun _ => ids
  | select (filters : List Filter) (order : Option SortOrder) (limit : Option Int) :
    Confines ids (.query (.select .executions filters order limit)) fun _ => ids
  | draw : Confines ids .freshId fun id => insert id ids
  | create (e : Execution) (known : e.id ∈ ids) (isNew : e.IsNew) :
    Confines ids (.query (.insert .executions e.row)) fun _ => ids
  | write (e : Execution) (known : e.id ∈ ids) :
    Confines ids (.query (Store.saveQuery e)) fun _ => ids

def Discipline.confined : Discipline (Set String) :=
  fun ids _ request after => Confines ids request after

/-- What may be asked for a message: first the list of the open executions of its sender, then what
is confined to these. -/
inductive Heeds (account : Account) (senderId : String) : Option (Set String) →
    (request : Request) → (request.Answer → Option (Set String)) → Prop
  | list : Heeds account senderId none
      (.query (Store.openQuery none (some account.id) (some senderId)))
      fun answer => some (idsOf answer)
  | confined (ids : Set String) (request : Request) (after : request.Answer → Set String)
    (confines : Confines ids request after) :
    Heeds account senderId (some ids) request fun answer => some (after answer)

def Discipline.heeding (account : Account) (senderId : String) : Discipline (Option (Set String)) :=
  fun s _ request after => Heeds account senderId s request after

variable {ids : Set String} {v : Execution}

theorem spares_confined (ids : Set String) : Discipline.confined.Spares ids :=
  fun request spares => .aside request spares

namespace Operation

variable {α β : Type}

/-- One operation after the other; ids are only added. -/
theorem grows_then {operation : Operation α} {f : α → Operation β}
    (first : operation.Obeys .confined ids fun _ ids' => ids ⊆ ids')
    (next : ∀ a ids', ids ⊆ ids' → (f a).Obeys .confined ids' fun _ ids'' => ids' ⊆ ids'') :
    (operation >>= f).Obeys .confined ids fun _ ids' => ids ⊆ ids' := by
  apply obeys_then first
  · intro a ids' grown
    exact obeys_mono (next a ids' grown) fun _ _ later => grown.trans later
  · exact fun _ _ grown => grown

theorem Sparing.grows {operation : Operation α} (sparing : operation.Sparing) :
    operation.Obeys .confined ids fun _ ids' => ids ⊆ ids' :=
  obeys_mono (sparing.obeys (spares_confined ids)) fun _ _ same => same.symm.subset

end Operation

namespace Run

variable (deployment : Deployment) (account : Account)

theorem resume_confined (flow : Option Flow) (known : v.id ∈ ids) :
    (resume deployment account flow).Obeys .confined v ids fun _ _ ids' => ids' = ids :=
  resume_writes deployment account flow v (fun request spares => .aside request spares)
    fun e same => .write e (same ▸ known)

end Run

namespace Inbox

variable (deployment : Deployment) (account : Account) (message : InboundMessage)

theorem handle_confined (attempts : Nat) (known : v.id ∈ ids) :
    (handle deployment account message attempts).Obeys .confined v ids
      fun _ _ ids' => ids' = ids := by
  induction attempts generalizing v with
  | zero => exact Run.obeys_get rfl
  | succ attempts ih =>
    unfold handle
    refine Run.obeys_bind (Run.obeys_get ?_)
    simp only
    by_cases terminal : v.isTerminal = true
    · rw [if_pos terminal]
      exact Run.obeys_pure rfl
    · rw [if_neg terminal]
      refine Run.obeys_bind (Run.obeys_set ?_)
      refine Run.obeys_bind (Run.obeys_lift (Operation.obeys_request _
        (spares_confined ids .now trivial) ?_))
      intro now _
      refine Run.obeys_bind (Run.obeys_modify ?_)
      refine Run.obeys_bind (Run.obeys_attempt ?_)
      have permitted : Discipline.confined ids none
          (.query (Store.saveQuery ((v.receive message).stamped now))) fun _ => ids :=
        .write _ known
      apply Run.obeys_mono (Run.saveExecution_obeys permitted)
      intro outcome e' s' after
      rcases outcome with failure | ⟨⟩
      · obtain rfl : s' = ids := by
          rcases after with ⟨same, _⟩ | ⟨_, _, same⟩
          · exact same
          · exact same
        by_cases conflict : failure.isConflict = true
        · simp only [conflict, if_true]
          have selects : Discipline.confined s' none
              (.query (.select .executions [Store.byId v.id] none (some 1))) fun _ => s' :=
            .select _ _ _
          have reloads := Store.getExecution_reads v.id selects
          refine Run.obeys_bind (Run.obeys_lift (Operation.obeys_mono reloads ?_))
          rintro (refusal | _ | reloaded) s'' ⟨answer, rfl, _, reads⟩
          · rfl
          · exact Run.obeys_get rfl
          · refine Run.obeys_lift (Run.obeys_on (ih ?_))
            rw [(reads reloaded rfl).1]
            exact known
        · simp only [conflict]
          exact Run.obeys_throw rfl
      · obtain ⟨rfl, _, row, rows, same⟩ := after
        have gives {e' : Execution} :
            (get : Run Execution).Obeys .confined e' s' fun _ _ ids' => ids' = ids :=
          Run.obeys_get same
        cases v.isWaitingOnInput with
        | false => exact Run.obeys_bind (Run.obeys_pure gives)
        | true =>
          have knows : ((v.receive message).stamped now).saved.id ∈ s' := same ▸ known
          apply Run.obeys_then (Run.resume_confined deployment account none knows)
          · rintro ⟨⟩ e' ids' rfl
            exact gives
          · rintro failure e' ids' rfl
            exact same

theorem handleAll_confined (attempts : Nat) (executions : List Execution)
    (known : ∀ v ∈ executions, v.id ∈ ids) :
    (handleAll deployment account message attempts executions).Obeys .confined ids
      fun _ ids' => ids' = ids := by
  induction executions with
  | nil => exact Operation.obeys_pure rfl
  | cons v executions ih =>
    apply Operation.obeys_then (Run.obeys_on
      (handle_confined deployment account message attempts (known v (.head executions))))
    · rintro handled ids' rfl
      apply Operation.obeys_then (ih fun w present => known w (.tail v present))
      · exact fun _ _ same => Operation.obeys_pure same
      · exact fun _ _ same => same
    · exact fun _ _ same => same

end Inbox

namespace Run

variable (deployment : Deployment) (account : Account)

theorem start_confined (flow : Flow) (event : TriggerEvent) (keywords : List String) :
    (start deployment account flow event keywords).Obeys .confined ids
      fun _ ids' => ids ⊆ ids' := by
  unfold start
  cases event.triggers keywords flow with
  | nil => exact Operation.obeys_pure subset_rfl
  | cons trigger rest =>
    refine Operation.grows_then Operation.apart_now.sparing.grows fun now ids₁ grown => ?_
    refine Operation.obeys_bind (Operation.obeys_request _ .draw ?_)
    intro id _
    have drawn : ids₁ ⊆ insert id ids₁ := Set.subset_insert id ids₁
    refine Operation.obeys_bind (Operation.obeys_mono initialExecution_obeys ?_)
    rintro (failure | initial) ids₂ ⟨rfl, new⟩
    · exact drawn
    · obtain ⟨isNew, rfl, -⟩ := new initial rfl
      have known : initial.id ∈ insert initial.id ids₁ := Set.mem_insert initial.id ids₁
      refine Operation.obeys_bind (Operation.obeys_mono
        (createExecution_reads isNew (.create initial known isNew)) ?_)
      rintro (failure | created) ids₃ after
      · obtain ⟨_, rfl⟩ := after
        exact drawn
      · obtain ⟨rfl, _, rfl⟩ := after
        have traverses : (traversing do
            let _ ← Run.attempt (Run.lift (Store.recordTrigger flow now))
            resume deployment account (some flow)).Obeys .confined created (insert created.id ids₁)
              fun _ _ ids' => ids' = insert created.id ids₁ := by
          refine obeys_traversing (obeys_bind (obeys_attempt ?_))
          have idles : (Discipline.confined.within created.id).Idles (insert created.id ids₁) :=
            fun request apart => .aside request apart.sparesExecutions
          apply obeys_mono (obeys_apart (Store.apart_recordTrigger flow now) idles)
          rintro outcome e' ids' ⟨rfl, rfl, _⟩
          exact resume_confined deployment account (some flow) known
        refine obeys_on (obeys_then traverses ?_ ?_)
        · rintro ⟨⟩ e' ids' rfl
          exact obeys_bind (obeys_get (obeys_pure drawn))
        · rintro failure e' ids' rfl
          exact drawn

theorem startAll_confined (event : TriggerEvent) (keywords : List String) (flows : List Flow) :
    (startAll deployment account event keywords flows).Obeys .confined ids
      fun _ ids' => ids ⊆ ids' := by
  induction flows generalizing ids with
  | nil => exact Operation.obeys_pure subset_rfl
  | cons flow flows ih =>
    unfold startAll
    refine Operation.grows_then (Operation.obeys_attempt
      (start_confined deployment account flow event keywords)) fun started ids₁ _ => ?_
    refine Operation.grows_then ih fun others ids₂ _ => ?_
    split
    · exact Operation.obeys_pure subset_rfl
    · exact Operation.obeys_pure subset_rfl

theorem trigger_confined (event : TriggerEvent) :
    (trigger deployment account event).Obeys .confined ids fun _ ids' => ids ⊆ ids' := by
  unfold trigger
  cases event.keywords with
  | error value => exact Operation.obeys_throw subset_rfl
  | ok keywords =>
    exact Operation.grows_then (Store.apart_listActiveFlows _).sparing.grows fun flows ids₁ _ =>
      startAll_confined deployment account event keywords flows

end Run

namespace Inbox

variable (deployment : Deployment) (account : Account) (senderId : String)
  (message : InboundMessage)

/-- After the listing. -/
theorem heeds_of_confined {α : Type} {operation : Operation α}
    {post : Except Failure α → Set String → Prop} (confined : operation.Obeys .confined ids post) :
    operation.Obeys (.heeding account senderId) (some ids) fun outcome s' =>
      ∃ ids', s' = some ids' ∧ post outcome ids' := by
  apply Program.obeys_project some
  · exact fun ids _ request after confines => .confined ids request after confines
  · exact Program.obeys_mono confined fun _ ids' holds => ⟨ids', rfl, holds⟩

theorem route_heeds (attempts : Nat) :
    (route deployment account senderId message attempts).Obeys (.heeding account senderId) none
      fun _ s' => ∃ ids, s' = some ids := by
  have permitted : Discipline.heeding account senderId none none
      (.query (Store.openQuery none (some account.id) (some senderId)))
        fun answer => some (idsOf answer) := .list
  have lists := Store.listOpenExecutions_reads none (some account.id) (some senderId) permitted
  refine Operation.obeys_bind (Operation.obeys_mono lists ?_)
  rintro (failure | executions) s' ⟨answer, _, rfl, reads⟩
  · exact ⟨_, rfl⟩
  · obtain ⟨rows, rfl, copied⟩ := reads executions rfl
    have known (v : Execution) (present : v ∈ executions) : v.id ∈ idsOf (.ok rows) := by
      obtain ⟨row, isRow, copy⟩ := exists_left_of_forall₂ copied present
      exact ⟨row, isRow, (Row.heads_of_read copy).id⟩
    refine Operation.obeys_mono (heeds_of_confined account senderId
      (handleAll_confined deployment account message attempts executions known)) ?_
    rintro outcome s' ⟨ids, rfl, _⟩
    exact ⟨ids, rfl⟩

theorem dispatch_heeds (senderUsername : Option String) (attempts : Nat) :
    (dispatch deployment account senderId senderUsername message attempts).Obeys
      (.heeding account senderId) none fun _ s' => ∃ ids, s' = some ids := by
  apply Operation.obeys_then (route_heeds deployment account senderId message attempts)
  · rintro handled s' ⟨ids, rfl⟩
    split
    · apply Operation.obeys_then (heeds_of_confined account senderId
        (Run.trigger_confined deployment account _))
      · rintro started s' ⟨ids', rfl, _⟩
        exact Operation.obeys_pure ⟨ids', rfl⟩
      · rintro failure s' ⟨ids', rfl, _⟩
        exact ⟨ids', rfl⟩
    · exact Operation.obeys_pure ⟨ids, rfl⟩
  · exact fun _ _ listed => listed

end Inbox
end MessageFlow
