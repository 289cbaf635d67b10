import MessageFlow.Proofs.Delivery.Posting
import MessageFlow.Proofs.Tickets.Rows
import MessageFlow.Proofs.Validation.Columns

/-!
Programs in step: two programs that ask the same of the store, but for what they ask beside their
errand. Of the leads and the notifications each may ask its own, as long as the other goes on in the
same way whatever both are answered.
-/

namespace MessageFlow

/-- Executions of one flow with the same extras, and the ids that may be drawn for them. -/
structure Errand where
  flow : String
  executions : Set String
  extras : Entries Json
  ids : Set String

/-- An object of an execution that the errand is for. -/
structure Errand.Carries (errand : Errand) (e : Execution) : Prop where
  known : e.id ∈ errand.executions
  flowId : e.flowId = errand.flow
  extras : e.extras = errand.extras

/-- What a traversal may ask: it writes its execution and files tickets for its flow. -/
inductive Errand.Allows (errand : Errand) : Request → Prop
  | other (request : Request) (noQuery : ∀ q, request ≠ .query q) : errand.Allows request
  | write (e : Execution) (carried : errand.Carries e) : errand.Allows (.query (Store.saveQuery e))
  | file (ticket : Ticket) (isNew : ticket.IsNew) (drawn : ticket.id ∈ errand.ids)
    (flowId : ticket.flowId = errand.flow) : errand.Allows (.query (.insert .tickets ticket.row))

/-- New ids are among those, and queries are answered as a store does it. -/
def Request.Draws (ids : Set String) : (request : Request) → request.Answer → Prop
  | .freshId, id => id ∈ ids
  | .query q, .ok rows => ∃ tables, rows = (q.run tables).1
  | _, _ => True

/-- A query of leads that keeps them readable, or the note of a notification. -/
inductive Query.IsBeside : Query → Prop
  | look (filters : List Filter) (limit : Option Int) : IsBeside (.select .leads filters none limit)
  | revise (filters : List Filter) (changes : Row)
    (columns : ∀ entry ∈ changes, Lead.Column entry) : IsBeside (.update .leads filters changes)
  | report (row : Row) (lead : Lead) (reads : Lead.read (.record row) = .valid lead) :
    IsBeside (.insert .leads row)
  | note (row : Row) : IsBeside (.insert .notifications row)

/-- Leads that are found can be read. -/
def Query.Tells (q : Query) (rows : List Row) : Prop :=
  q.table = .leads → ∀ row ∈ rows, ∃ lead, Lead.read (.record row) = .valid lead

variable {α β γ δ : Type} {allows : Request → Prop} {ids : Set String}

namespace Program

/-- The programs ask the same, but for queries beside the errand, and end with related values. -/
inductive InStep (allows : Request → Prop) (ids : Set String) (related : α → β → Prop) :
    Program α → Program β → Prop
  | done {a : α} {b : β} (holds : related a b) : InStep allows ids related (.done a) (.done b)
  | both {traversed : Option String} {request : Request} {next : request.Answer → Program α}
    {next' : request.Answer → Program β} (allowed : allows request)
    (rest : ∀ answer, request.Draws ids answer →
      InStep allows ids related (next answer) (next' answer)) :
    InStep allows ids related (.ask traversed request next) (.ask traversed request next')
  | beside {traversed : Option String} {q q' : Query}
    {next : Except Failure (List Row) → Program α} {next' : Except Failure (List Row) → Program β}
    (first : q.IsBeside) (second : q'.IsBeside)
    (served : ∀ rows rows', q.Tells rows → q'.Tells rows' →
      InStep allows ids related (next (.ok rows)) (next' (.ok rows')))
    (refused : ∀ failure,
      InStep allows ids related (next (.error failure)) (next' (.error failure)))
    (same : q = q' → ∀ rows, InStep allows ids related (next (.ok rows)) (next' (.ok rows))) :
    InStep allows ids related (.ask traversed (.query q) next) (.ask traversed (.query q') next')

namespace InStep

variable {related : α → β → Prop} {p : Program α} {q : Program β}

theorem bind {goal : γ → δ → Prop} {f : α → Program γ} {g : β → Program δ}
    (inStep : p.InStep allows ids related q)
    (next : ∀ a b, related a b → (f a).InStep allows ids goal (g b)) :
    (p.bind f).InStep allows ids goal (q.bind g) := by
  induction inStep with
  | done holds => exact next _ _ holds
  | both allowed rest ih => exact .both allowed ih
  | beside first second served refused same ihServed ihRefused ihSame =>
    exact .beside first second ihServed ihRefused ihSame

theorem mono {weaker : α → β → Prop} (inStep : p.InStep allows ids related q)
    (implies : ∀ a b, related a b → weaker a b) : p.InStep allows ids weaker q := by
  have next (a : α) (b : β) (holds : related a b) :
      InStep allows ids weaker (.done a) (.done b) := .done (implies a b holds)
  have bound := inStep.bind next
  rwa [bind_done, bind_done] at bound

/-- What is in step is so still where more is allowed. -/
theorem widen {allows' : Request → Prop} (inStep : p.InStep allows ids related q)
    (implies : ∀ request, allows request → allows' request) : p.InStep allows' ids related q := by
  induction inStep with
  | done holds => exact .done holds
  | both allowed rest ih => exact .both (implies _ allowed) ih
  | beside first second served refused same ihServed ihRefused ihSame =>
    exact .beside first second ihServed ihRefused ihSame

theorem traversing {execution : String} (inStep : p.InStep allows ids related q) :
    (p.traversing execution).InStep allows ids related (q.traversing execution) := by
  induction inStep with
  | done holds => exact .done holds
  | both allowed rest ih => exact .both allowed ih
  | beside first second served refused same ihServed ihRefused ihSame =>
    exact .beside first second ihServed ihRefused ihSame

end InStep

/-- Whatever is answered, the program asks only what is allowed, or beside its errand, and `post`
holds of its value. -/
def Asks (allows : Request → Prop) (ids : Set String) : Program α → (α → Prop) → Prop
  | .done value, post => post value
  | .ask _ request next, post =>
    (allows request ∨ ∃ q : Query, q.IsBeside ∧ request = .query q) ∧
      ∀ answer, request.Draws ids answer → (next answer).Asks allows ids post

/-- A program that is in step with itself asks what is allowed. -/
theorem InStep.asks {related : α → α → Prop} {p : Program α}
    (inStep : p.InStep allows ids related p) : p.Asks allows ids fun a => related a a := by
  have both {p q : Program α} (inStep : p.InStep allows ids related q) (same : p = q) :
      p.Asks allows ids fun a => related a a := by
    induction inStep with
    | done holds =>
      cases same
      exact holds
    | both allowed rest ih =>
      injection same with _ _ next
      exact ⟨.inl allowed, fun answer draws => ih answer draws (congrFun next answer)⟩
    | @beside traversed q q' next next' first second served refused same ihServed ihRefused
        ihSame =>
      injection same with _ isSame sameNext
      injection isSame with isSame
      subst isSame
      refine ⟨.inr ⟨q, first, rfl⟩, fun answer _ => ?_⟩
      cases answer with
      | error failure => exact ihRefused failure (congrFun sameNext _)
      | ok rows => exact ihSame rfl rows (congrFun sameNext _)
  exact both inStep rfl

end Program

namespace Operation

variable (allows ids) in
/-- In step with itself, and the outcome is the same. -/
def InStep (operation : Operation α) : Prop :=
  operation.run.InStep allows ids Eq operation.run

variable (allows ids) in
/-- In step, but for the values of a success. -/
def Agreeing (operation : Operation α) (operation' : Operation β) : Prop :=
  operation.run.InStep allows ids Agree operation'.run

variable (allows ids) in
def Agrees (operation : Operation α) : Prop := Agreeing allows ids operation operation

theorem inStep_pure (a : α) : (pure a : Operation α).InStep allows ids := .done rfl

theorem inStep_throw (failure : Failure) : (throw failure : Operation α).InStep allows ids :=
  .done rfl

theorem InStep.bind {operation : Operation α} {f : α → Operation β}
    (first : operation.InStep allows ids) (rest : ∀ a, (f a).InStep allows ids) :
    (operation >>= f).InStep allows ids := by
  apply Program.InStep.bind first
  rintro (failure | a) _ rfl
  · exact .done rfl
  · exact rest a

theorem InStep.attempt {operation : Operation α} (inStep : operation.InStep allows ids) :
    (attempt operation).InStep allows ids := by
  apply Program.InStep.bind inStep
  rintro outcome _ rfl
  exact .done rfl

theorem InStep.agrees {operation : Operation α} (inStep : operation.InStep allows ids) :
    operation.Agrees allows ids := by
  apply Program.InStep.mono inStep
  rintro (failure | a) _ rfl
  · exact .error failure
  · exact .ok a a

/-- A request, with what is known of its answer. -/
theorem inStep_request {request : Request} {f : request.Answer → Operation β}
    (allowed : allows request)
    (rest : ∀ answer, request.Draws ids answer → (f answer).InStep allows ids) :
    InStep allows ids (ExceptT.lift (Program.request request) >>= f) :=
  .both allowed rest

theorem inStep_ask (request : Request) (allowed : allows request) :
    InStep allows ids (ExceptT.lift (Program.request request)) :=
  .both allowed fun _ _ => .done rfl

theorem inStep_query (q : Query) (allowed : allows (.query q)) :
    (query q).InStep allows ids :=
  .both allowed fun _ _ => .done rfl

theorem agreeing_pure {operation : Operation α} {operation' : Operation β} {a : α} {b : β}
    (first : operation = pure a) (second : operation' = pure b) :
    Agreeing allows ids operation operation' := by
  rw [first, second]
  exact .done (.ok a b)

theorem Agreeing.bind {operation : Operation α} {operation' : Operation β} {f : α → Operation γ}
    {g : β → Operation δ} (first : Agreeing allows ids operation operation')
    (rest : ∀ a b, Agreeing allows ids (f a) (g b)) :
    Agreeing allows ids (operation >>= f) (operation' >>= g) := by
  apply Program.InStep.bind first
  rintro _ _ (⟨a, b⟩ | failure)
  · exact rest a b
  · exact .done (.error failure)

theorem InStep.bindAgreeing {operation : Operation α} {f : α → Operation β} {g : α → Operation γ}
    (first : operation.InStep allows ids) (rest : ∀ a, Agreeing allows ids (f a) (g a)) :
    Agreeing allows ids (operation >>= f) (operation >>= g) := by
  apply Program.InStep.bind first
  rintro (failure | a) _ rfl
  · exact .done (.error failure)
  · exact rest a

/-- Queries beside the errand, and what is made of their answers. -/
theorem agreeing_beside {q q' : Query} {f : List Row → Operation α} {g : List Row → Operation β}
    (first : q.IsBeside) (second : q'.IsBeside)
    (served : ∀ rows rows', q.Tells rows → q'.Tells rows' →
      Agreeing allows ids (f rows) (g rows'))
    (same : q = q' → ∀ rows, Agreeing allows ids (f rows) (g rows)) :
    Agreeing allows ids (query q >>= f) (query q' >>= g) :=
  .beside first second served (fun failure => .done (.error failure)) same

theorem inStep_of_plain {operation : Operation α} (plain : operation.Plain) :
    operation.InStep allows ids := by
  cases plain with
  | pure a => exact inStep_pure a
  | throw failure _ => exact inStep_throw failure

theorem inStep_parse [DocumentType α] (row : Row) :
    (parse row : Operation α).InStep allows ids := inStep_of_plain (plain_parse row)

end Operation

namespace Run

/-- In step with itself on every object that the errand is for, and such an object is left. -/
def InStep (errand : Errand) (run : Run α) : Prop :=
  ∀ e, errand.Carries e → (run.outcome e).InStep errand.Allows errand.ids
    (fun outcome outcome' => outcome = outcome' ∧ errand.Carries outcome.2) (run.outcome e)

variable {errand : Errand}

theorem inStep_pure (a : α) : (pure a : Run α).InStep errand :=
  fun _ carried => .done ⟨rfl, carried⟩

theorem inStep_throw (failure : Failure) : (throw failure : Run α).InStep errand :=
  fun _ carried => .done ⟨rfl, carried⟩

theorem inStep_modify {change : Execution → Execution}
    (carries : ∀ e, errand.Carries e → errand.Carries (change e)) :
    (modify change : Run PUnit).InStep errand :=
  fun e carried => .done ⟨rfl, carries e carried⟩

theorem inStep_set {e : Execution} (carried : errand.Carries e) :
    (set e : Run PUnit).InStep errand :=
  fun _ _ => .done ⟨rfl, carried⟩

theorem InStep.bind {run : Run α} {f : α → Run β} (first : run.InStep errand)
    (rest : ∀ a, (f a).InStep errand) : (run >>= f).InStep errand := by
  intro e carried
  apply Program.InStep.bind (first e carried)
  rintro ⟨failure | a, e'⟩ _ ⟨rfl, carried'⟩
  · exact .done ⟨rfl, carried'⟩
  · exact rest a e' carried'

/-- The object is looked at; it is one that the errand is for. -/
theorem inStep_get {f : Execution → Run β}
    (rest : ∀ e, errand.Carries e → (f e).InStep errand) : (get >>= f).InStep errand :=
  fun e carried => rest e carried e carried

theorem InStep.attempt {run : Run α} (inStep : run.InStep errand) :
    (attempt run).InStep errand := by
  intro e carried
  apply Program.InStep.bind (inStep e carried)
  rintro outcome _ ⟨rfl, carried'⟩
  exact .done ⟨rfl, carried'⟩

theorem InStep.traversing {run : Run α} (inStep : run.InStep errand) :
    (traversing run).InStep errand := fun e carried => (inStep e carried).traversing

theorem inStep_lift {operation : Operation α}
    (inStep : operation.InStep errand.Allows errand.ids) : (lift operation).InStep errand := by
  intro e carried
  apply Program.InStep.bind inStep
  rintro outcome _ rfl
  exact .done ⟨rfl, carried⟩

/-- An operation whose value does not matter, and the rest of a run. -/
theorem inStep_then {operation : Operation α} {next : Run β}
    (first : operation.Agrees errand.Allows errand.ids) (rest : next.InStep errand) :
    (lift operation >>= fun _ => next).InStep errand := by
  intro e carried
  change Program.InStep _ _ _ ((operation.run.bind _).bind _) ((operation.run.bind _).bind _)
  rw [Program.bind_bind]
  apply Program.InStep.bind first
  rintro _ _ (⟨a, b⟩ | failure)
  · exact rest e carried
  · exact .done ⟨rfl, carried⟩

end Run
end MessageFlow
