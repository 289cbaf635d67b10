import MessageFlow.Program.Basic
import MessageFlow.Store.Tables

/-!
Disciplines that programs obey. A discipline says which requests a client may ask in its present
standing and what its standing is after each answer. That a program obeys it is proved part by part
along the way in which the program is put together.
-/

namespace MessageFlow

/-- No rows, or a failure of the store. -/
def Query.IsRefusal (answer : Except Failure (List Row)) : Prop :=
  answer = .ok [] ∨ ∃ failure : Failure, answer = .error failure ∧ failure.isConflict = false

/-- The answers a store may give: the rows that some tables hold, or a refusal. -/
def Query.MayAnswer (query : Query) (answer : Except Failure (List Row)) : Prop :=
  (∃ tables, answer = .ok (query.run tables).1) ∨ IsRefusal answer

def Request.MayAnswer : (request : Request) → request.Answer → Prop
  | .query q, answer => q.MayAnswer answer
  | _, _ => True

/-- What is no query may be answered in any way. -/
theorem Request.mayAnswer_of_noQuery {request : Request} (noQuery : ∀ q, request ≠ .query q)
    (answer : request.Answer) : request.MayAnswer answer := by
  cases request with
  | query q => exact absurd rfl (noQuery q)
  | now | freshId | post | announce | complete | remembered | remember | forget => trivial

/-- Relates a standing and a request, with the execution for whose traversal it is asked, to the
standings that follow the answers. -/
abbrev Discipline (σ : Type) :=
  σ → Option String → (request : Request) → (request.Answer → σ) → Prop

/-- The discipline of what is asked while an execution is traversed. -/
def Discipline.within (discipline : Discipline σ) (execution : String) : Discipline σ :=
  fun s _ request after => discipline s (some execution) request after

variable {σ α β : Type} {discipline : Discipline σ} {s : σ}

namespace Program

/-- Every request is permitted, and `post` holds of the result and the last standing. -/
def Obeys (discipline : Discipline σ) : Program α → σ → (α → σ → Prop) → Prop
  | .done value, s, post => post value s
  | .ask traversed request next, s, post =>
    ∃ after, discipline s traversed request after ∧
      ∀ answer, request.MayAnswer answer → (next answer).Obeys discipline (after answer) post

theorem obeys_mono {p : Program α} {post weaker : α → σ → Prop}
    (obeys : p.Obeys discipline s post) (implies : ∀ a s', post a s' → weaker a s') :
    p.Obeys discipline s weaker := by
  induction p generalizing s with
  | done value => exact implies value s obeys
  | ask traversed request next ih =>
    obtain ⟨after, permitted, rest⟩ := obeys
    exact ⟨after, permitted, fun answer may => ih answer (rest answer may)⟩

theorem obeys_bind {p : Program α} {f : α → Program β} {post : β → σ → Prop} :
    (p.bind f).Obeys discipline s post ↔
      p.Obeys discipline s fun a s' => (f a).Obeys discipline s' post := by
  induction p generalizing s with
  | done value => rfl
  | ask traversed request next ih =>
    exact exists_congr fun after => and_congr_right fun _ =>
      forall_congr' fun answer => imp_congr_right fun _ => ih answer

theorem obeys_map {p : Program α} {f : α → β} {post : β → σ → Prop} :
    (f <$> p).Obeys discipline s post ↔ p.Obeys discipline s fun a s' => post (f a) s' := by
  rw [← bind_pure_comp]
  exact obeys_bind

theorem obeys_traversing {p : Program α} {execution : String} {post : α → σ → Prop} :
    (p.traversing execution).Obeys discipline s post ↔
      p.Obeys (discipline.within execution) s post := by
  induction p generalizing s with
  | done value => rfl
  | ask traversed request next ih =>
    exact exists_congr fun after => and_congr_right fun _ =>
      forall_congr' fun answer => imp_congr_right fun _ => ih answer

/-- A program that obeys a discipline obeys every coarser one. -/
theorem obeys_project {τ : Type} {coarser : Discipline τ} (view : σ → τ)
    (coarsens : ∀ s traversed request after, discipline s traversed request after →
      coarser (view s) traversed request fun answer => view (after answer))
    {p : Program α} {post : α → τ → Prop}
    (obeys : p.Obeys discipline s fun a s' => post a (view s')) :
    p.Obeys coarser (view s) post := by
  induction p generalizing s with
  | done value => exact obeys
  | ask traversed request next ih =>
    obtain ⟨after, permitted, rest⟩ := obeys
    exact ⟨_, coarsens s traversed request after permitted,
      fun answer may => ih answer (rest answer may)⟩

end Program

namespace Operation

def Obeys (discipline : Discipline σ) (operation : Operation α) (s : σ)
    (post : Except Failure α → σ → Prop) : Prop :=
  (ExceptT.run operation).Obeys discipline s post

variable {post : Except Failure α → σ → Prop}

theorem obeys_mono {operation : Operation α} {weaker : Except Failure α → σ → Prop}
    (obeys : operation.Obeys discipline s post) (implies : ∀ a s', post a s' → weaker a s') :
    operation.Obeys discipline s weaker :=
  Program.obeys_mono obeys implies

theorem obeys_pure {a : α} (holds : post (.ok a) s) :
    (pure a : Operation α).Obeys discipline s post := holds

theorem obeys_throw {failure : Failure} (holds : post (.error failure) s) :
    (throw failure : Operation α).Obeys discipline s post := holds

theorem obeys_bind {operation : Operation α} {f : α → Operation β}
    {post : Except Failure β → σ → Prop}
    (obeys : operation.Obeys discipline s fun
      | .ok a, s' => (f a).Obeys discipline s' post
      | .error failure, s' => post (.error failure) s') :
    (operation >>= f).Obeys discipline s post := by
  refine Program.obeys_bind.mpr (Program.obeys_mono obeys ?_)
  intro outcome s' holds
  rcases outcome with failure | a
  · exact holds
  · exact holds

theorem obeys_then {operation : Operation α} {f : α → Operation β}
    {mid : Except Failure α → σ → Prop} {post : Except Failure β → σ → Prop}
    (first : operation.Obeys discipline s mid)
    (next : ∀ a s', mid (.ok a) s' → (f a).Obeys discipline s' post)
    (fails : ∀ failure s', mid (.error failure) s' → post (.error failure) s') :
    (operation >>= f).Obeys discipline s post := by
  refine obeys_bind (obeys_mono first ?_)
  intro outcome s' holds
  rcases outcome with failure | a
  · exact fails failure s' holds
  · exact next a s' holds

theorem obeys_attempt {operation : Operation α}
    {post : Except Failure (Except Failure α) → σ → Prop}
    (obeys : operation.Obeys discipline s fun outcome s' => post (.ok outcome) s') :
    (attempt operation).Obeys discipline s post :=
  Program.obeys_map.mpr obeys

/-- A request without failures of its own. -/
theorem obeys_request {request : Request} {post : Except Failure request.Answer → σ → Prop}
    (after : request.Answer → σ) (permitted : discipline s none request after)
    (holds : ∀ answer, request.MayAnswer answer → post (.ok answer) (after answer)) :
    (ExceptT.lift (Program.request request) : Operation request.Answer).Obeys discipline s post :=
  ⟨after, permitted, holds⟩

theorem obeys_query {q : Query} {post : Except Failure (List Row) → σ → Prop}
    (after : Except Failure (List Row) → σ) (permitted : discipline s none (.query q) after)
    (holds : ∀ answer, q.MayAnswer answer → post answer (after answer)) :
    (query q).Obeys discipline s post :=
  ⟨after, permitted, holds⟩

end Operation

namespace Run

def Obeys (discipline : Discipline σ) (run : Run α) (execution : Execution) (s : σ)
    (post : Except Failure α → Execution → σ → Prop) : Prop :=
  ((ExceptT.run run).run execution).Obeys discipline s fun outcome => post outcome.1 outcome.2

variable {e : Execution} {post : Except Failure α → Execution → σ → Prop}

theorem obeys_mono {run : Run α} {weaker : Except Failure α → Execution → σ → Prop}
    (obeys : run.Obeys discipline e s post)
    (implies : ∀ a e' s', post a e' s' → weaker a e' s') :
    run.Obeys discipline e s weaker :=
  Program.obeys_mono obeys fun outcome s' => implies outcome.1 outcome.2 s'

theorem obeys_pure {a : α} (holds : post (.ok a) e s) :
    (pure a : Run α).Obeys discipline e s post := holds

theorem obeys_throw {failure : Failure} (holds : post (.error failure) e s) :
    (throw failure : Run α).Obeys discipline e s post := holds

theorem obeys_get {post : Except Failure Execution → Execution → σ → Prop}
    (holds : post (.ok e) e s) : (get : Run Execution).Obeys discipline e s post := holds

theorem obeys_set {e' : Execution} {post : Except Failure PUnit → Execution → σ → Prop}
    (holds : post (.ok ⟨⟩) e' s) : (set e' : Run PUnit).Obeys discipline e s post := holds

theorem obeys_modify {change : Execution → Execution}
    {post : Except Failure PUnit → Execution → σ → Prop} (holds : post (.ok ⟨⟩) (change e) s) :
    (modify change : Run PUnit).Obeys discipline e s post := holds

theorem obeys_bind {run : Run α} {f : α → Run β} {post : Except Failure β → Execution → σ → Prop}
    (obeys : run.Obeys discipline e s fun
      | .ok a, e', s' => (f a).Obeys discipline e' s' post
      | .error failure, e', s' => post (.error failure) e' s') :
    (run >>= f).Obeys discipline e s post := by
  refine Program.obeys_bind.mpr (Program.obeys_mono obeys ?_)
  intro outcome s' holds
  rcases outcome with ⟨failure | a, e'⟩
  · exact holds
  · exact holds

theorem obeys_then {run : Run α} {f : α → Run β} {mid : Except Failure α → Execution → σ → Prop}
    {post : Except Failure β → Execution → σ → Prop} (first : run.Obeys discipline e s mid)
    (next : ∀ a e' s', mid (.ok a) e' s' → (f a).Obeys discipline e' s' post)
    (fails : ∀ failure e' s', mid (.error failure) e' s' → post (.error failure) e' s') :
    (run >>= f).Obeys discipline e s post := by
  refine obeys_bind (obeys_mono first ?_)
  intro outcome e' s' holds
  rcases outcome with failure | a
  · exact fails failure e' s' holds
  · exact next a e' s' holds

theorem obeys_lift {operation : Operation α}
    (obeys : operation.Obeys discipline s fun outcome s' => post outcome e s') :
    (lift operation).Obeys discipline e s post :=
  Program.obeys_bind.mpr obeys

theorem obeys_attempt {run : Run α}
    {post : Except Failure (Except Failure α) → Execution → σ → Prop}
    (obeys : run.Obeys discipline e s fun outcome => post (.ok outcome)) :
    (attempt run).Obeys discipline e s post :=
  Program.obeys_bind.mpr obeys

theorem obeys_on {run : Run α} {post : Except Failure α → σ → Prop}
    (obeys : run.Obeys discipline e s fun outcome _ s' => post outcome s') :
    (on e run).Obeys discipline s post :=
  Program.obeys_map.mpr obeys

theorem obeys_traversing {run : Run α} (obeys : run.Obeys (discipline.within e.id) e s post) :
    (traversing run).Obeys discipline e s post :=
  Program.obeys_traversing.mpr obeys

end Run
end MessageFlow
