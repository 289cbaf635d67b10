import MessageFlow.Proofs.Discipline
import MessageFlow.Proofs.Interleaving.Rows

/-!
Programs among other clients. Others may write before each of its queries, which are all served. A
history tells, in order, what happened to the store.
-/

namespace MessageFlow

/-- What happened to the store while a program ran. -/
inductive Happening where
  /-- Another client wrote. -/
  | other (before after : Tables)
  /-- The program asked a query, for the traversal of the named execution if there is one. -/
  | own (traversed : Option String) (query : Query) (before : Tables)

namespace Happening

def before : Happening → Tables
  | .other before _ | .own _ _ before => before

def after : Happening → Tables
  | .other _ after => after
  | .own _ query before => (query.run before).2

def isOther : Happening → Bool
  | .other .. => true
  | .own .. => false

/-- The program asked it for no traversal, and it leaves the executions alone. -/
def IsAside : Happening → Prop
  | .other .. => True
  | .own traversed query before =>
    traversed = none ∧ (query.run before).2.executionRows = before.executionRows

theorem isAside_of_isOther {h : Happening} (other : h.isOther = true) : h.IsAside := by
  cases h with
  | other => trivial
  | own => cases other

theorem IsAside.same {h : Happening} (aside : h.IsAside) (own : h.isOther = false) :
    h.after.executionRows = h.before.executionRows := by
  cases h with
  | other => cases own
  | own => exact aside.2

/-- What the program itself asked, it asked for the traversal of that execution. -/
def Within (execution : String) : Happening → Prop
  | .other .. => True
  | .own traversed .. => traversed = some execution

/-- As it is for the traversal of that execution. -/
def mark (execution : String) : Happening → Happening
  | .other before after => .other before after
  | .own _ query before => .own (some execution) query before

theorem within_mark (h : Happening) (execution : String) : (h.mark execution).Within execution := by
  cases h with
  | other => trivial
  | own => rfl

theorem mark_of_isOther {h : Happening} (other : h.isOther = true) (execution : String) :
    h.mark execution = h := by
  cases h with
  | other => rfl
  | own => cases other

end Happening

/-- Others write, one after the other. -/
inductive Meanwhile : Tables → List Happening → Tables → Prop
  | nil (tables : Tables) : Meanwhile tables [] tables
  | cons {before mid after : Tables} {history : List Happening}
    (rest : Meanwhile mid history after) : Meanwhile before (.other before mid :: history) after

theorem Meanwhile.isOther {before after : Tables} {history : List Happening}
    (meanwhile : Meanwhile before history after) : ∀ h ∈ history, h.isOther = true := by
  induction meanwhile with
  | nil => exact nofun
  | cons rest ih => exact List.forall_mem_cons.mpr ⟨rfl, ih⟩

theorem Meanwhile.map_mark {before after : Tables} {history : List Happening}
    (meanwhile : Meanwhile before history after) (execution : String) :
    history.map (.mark execution) = history := by
  conv_rhs => rw [← List.map_id history]
  exact List.map_congr_left fun h present =>
    Happening.mark_of_isOther (meanwhile.isOther h present) execution

/-- One thing happened after the other. -/
inductive Leads : Tables → List Happening → Tables → Prop
  | nil (tables : Tables) : Leads tables [] tables
  | cons {h : Happening} {history : List Happening} {after : Tables}
    (rest : Leads h.after history after) : Leads h.before (h :: history) after

theorem leads_append {tables after : Tables} {first later : List Happening} :
    Leads tables (first ++ later) after ↔
      ∃ mid, Leads tables first mid ∧ Leads mid later after := by
  constructor
  · intro leads
    induction first generalizing tables with
    | nil => exact ⟨tables, .nil tables, leads⟩
    | cons h first ih =>
      cases leads with
      | cons rest =>
        obtain ⟨mid, leadsFirst, leadsLater⟩ := ih rest
        exact ⟨mid, .cons leadsFirst, leadsLater⟩
  · rintro ⟨mid, leadsFirst, leadsLater⟩
    induction leadsFirst with
    | nil => exact leadsLater
    | cons rest ih => exact .cons (ih leadsLater)

theorem Meanwhile.leads {before after : Tables} {history : List Happening}
    (meanwhile : Meanwhile before history after) : Leads before history after := by
  induction meanwhile with
  | nil tables => exact .nil tables
  | cons rest ih => exact .cons (h := .other _ _) ih

theorem Meanwhile.isAside {before after : Tables} {history : List Happening}
    (meanwhile : Meanwhile before history after) : ∀ h ∈ history, h.IsAside :=
  fun h present => Happening.isAside_of_isOther (meanwhile.isOther h present)

variable {α β : Type} {tables after : Tables} {history : List Happening}

namespace Program

/-- How a program may run among others, from one store to another. -/
inductive Amid : Program α → Tables → List Happening → α → Tables → Prop
  | done (value : α) (tables : Tables) : Amid (.done value) tables [] value tables
  | query {traversed : Option String} {q : Query} {next : Except Failure (List Row) → Program α}
    {tables mid after : Tables} {others history : List Happening} {value : α}
    (meanwhile : Meanwhile tables others mid)
    (rest : Amid (next (.ok (q.run mid).1)) (q.run mid).2 history value after) :
    Amid (.ask traversed (.query q) next) tables (others ++ .own traversed q mid :: history) value
      after
  | outside {traversed : Option String} {request : Request} {next : request.Answer → Program α}
    {tables after : Tables} {history : List Happening} {value : α} (answer : request.Answer)
    (noQuery : ∀ q, request ≠ .query q) (rest : Amid (next answer) tables history value after) :
    Amid (.ask traversed request next) tables history value after

theorem Amid.leads {p : Program α} {a : α} (amid : p.Amid tables history a after) :
    Leads tables history after := by
  induction amid with
  | done value tables => exact .nil tables
  | query meanwhile rest ih =>
    exact leads_append.mpr ⟨_, meanwhile.leads, .cons (h := .own _ _ _) ih⟩
  | outside answer noQuery rest ih => exact ih

/-- A program that goes on after another one has run as that one did first. -/
theorem amid_bind {p : Program α} {f : α → Program β} {b : β}
    (amid : (p.bind f).Amid tables history b after) :
    ∃ a mid first later, p.Amid tables first a mid ∧ (f a).Amid mid later b after ∧
      history = first ++ later := by
  induction p generalizing tables history with
  | done a => exact ⟨a, tables, [], history, .done a tables, amid, rfl⟩
  | ask traversed request next ih =>
    cases amid with
    | query meanwhile rest =>
      obtain ⟨a, mid, first, later, runs, goes, rfl⟩ := ih _ rest
      exact ⟨a, mid, _, later, .query meanwhile runs, goes, by simp⟩
    | outside answer noQuery rest =>
      obtain ⟨a, mid, first, later, runs, goes, rfl⟩ := ih answer rest
      exact ⟨a, mid, first, later, .outside answer noQuery runs, goes, rfl⟩

/-- As a traversal a program runs as it does by itself, but what it asks is asked for it. -/
theorem amid_of_traversing {p : Program α} {execution : String} {a : α}
    (amid : (p.traversing execution).Amid tables history a after) :
    ∃ history', p.Amid tables history' a after ∧ history = history'.map (.mark execution) := by
  induction p generalizing tables history with
  | done value =>
    cases amid
    exact ⟨[], .done _ _, rfl⟩
  | ask traversed request next ih =>
    cases amid with
    | query meanwhile rest =>
      obtain ⟨later, runs, rfl⟩ := ih _ rest
      refine ⟨_, .query meanwhile runs, ?_⟩
      rw [List.map_append, meanwhile.map_mark]
      rfl
    | outside answer noQuery rest =>
      obtain ⟨later, runs, rfl⟩ := ih answer rest
      exact ⟨later, .outside answer noQuery runs, rfl⟩

/-- What is asked within a traversal is asked for it. -/
theorem amid_traversing {p : Program α} {execution : String} {a : α}
    (amid : (p.traversing execution).Amid tables history a after) :
    ∀ h ∈ history, h.Within execution := by
  obtain ⟨history', -, rfl⟩ := amid_of_traversing amid
  exact List.forall_mem_map.mpr fun h _ => h.within_mark execution

/-- A program that obeys a discipline obeys it among others, where the store refuses nothing. -/
theorem Amid.obeys {σ : Type} {discipline : Discipline σ} {s : σ} {p : Program α}
    {post : α → σ → Prop} {a : α} (amid : p.Amid tables history a after)
    (obeys : p.Obeys discipline s post) : ∃ s', post a s' := by
  induction amid generalizing s with
  | done value => exact ⟨s, obeys⟩
  | query meanwhile rest ih =>
    obtain ⟨standing, _, goes⟩ := obeys
    exact ih (goes _ (.inl ⟨_, rfl⟩))
  | @outside traversed request next _ _ _ _ answer noQuery rest ih =>
    obtain ⟨standing, _, goes⟩ := obeys
    exact ih (goes answer (Request.mayAnswer_of_noQuery noQuery answer))

/-- However the program runs among others, `post` holds of the value, of the tables that it leaves
and of what happened. -/
def Among (p : Program α) (tables : Tables) (post : α → Tables → List Happening → Prop) : Prop :=
  ∀ history a after, p.Amid tables history a after → post a after history

variable {p : Program α} {post : α → Tables → List Happening → Prop}

theorem among_mono {weaker : α → Tables → List Happening → Prop} (among : p.Among tables post)
    (implies : ∀ a after history, post a after history → weaker a after history) :
    p.Among tables weaker :=
  fun history a after amid => implies a after history (among history a after amid)

theorem among_bind {f : α → Program β} {post : β → Tables → List Happening → Prop}
    (among : p.Among tables fun a mid first =>
      (f a).Among mid fun b after later => post b after (first ++ later)) :
    (p.bind f).Among tables post := by
  intro history b after amid
  obtain ⟨a, mid, first, later, runs, goes, rfl⟩ := amid_bind amid
  exact among first a mid runs later b after goes

theorem among_done {a : α} (holds : post a tables []) : (Program.done a).Among tables post := by
  intro history b after amid
  cases amid
  exact holds

/-- What is told to the program does not touch the store. -/
theorem among_request {request : Request} {post : request.Answer → Tables → List Happening → Prop}
    (noQuery : ∀ q, request ≠ .query q) (holds : ∀ answer, post answer tables []) :
    (Program.request request).Among tables post := by
  intro history a after amid
  cases amid with
  | query => exact absurd rfl (noQuery _)
  | outside answer _ rest =>
    cases rest
    exact holds _

end Program

namespace Operation

def Among (operation : Operation α) (tables : Tables)
    (post : Except Failure α → Tables → List Happening → Prop) : Prop :=
  (ExceptT.run operation).Among tables post

variable {post : Except Failure α → Tables → List Happening → Prop}

theorem among_mono {operation : Operation α}
    {weaker : Except Failure α → Tables → List Happening → Prop}
    (among : operation.Among tables post)
    (implies : ∀ outcome after history, post outcome after history → weaker outcome after history) :
    operation.Among tables weaker :=
  Program.among_mono among implies

theorem among_pure {a : α} (holds : post (.ok a) tables []) :
    (pure a : Operation α).Among tables post := Program.among_done holds

theorem among_throw {failure : Failure} (holds : post (.error failure) tables []) :
    (throw failure : Operation α).Among tables post := Program.among_done holds

theorem among_bind {operation : Operation α} {f : α → Operation β}
    {post : Except Failure β → Tables → List Happening → Prop}
    (among : operation.Among tables fun
      | .ok a, mid, first => (f a).Among mid fun b after later => post b after (first ++ later)
      | .error failure, mid, first => post (.error failure) mid first) :
    (operation >>= f).Among tables post := by
  refine Program.among_bind (Program.among_mono among ?_)
  rintro (failure | a) mid first holds
  · refine Program.among_done ?_
    rw [List.append_nil]
    exact holds
  · exact holds

theorem among_attempt {operation : Operation α}
    {post : Except Failure (Except Failure α) → Tables → List Happening → Prop}
    (among : operation.Among tables fun outcome => post (.ok outcome)) :
    (attempt operation).Among tables post := by
  refine Program.among_bind (Program.among_mono among fun outcome mid first holds => ?_)
  refine Program.among_done ?_
  rw [List.append_nil]
  exact holds

theorem among_now {post : Except Failure Timestamp → Tables → List Happening → Prop}
    (holds : ∀ time, post (.ok time) tables []) : now.Among tables post := by
  refine Program.among_bind (Program.among_request nofun fun time => ?_)
  exact Program.among_done (holds time)

theorem among_query {q : Query}
    {post : Except Failure (List Row) → Tables → List Happening → Prop}
    (served : ∀ others mid, Meanwhile tables others mid →
      post (.ok (q.run mid).1) (q.run mid).2 (others ++ [.own none q mid])) :
    (query q).Among tables post := by
  intro history outcome after amid
  cases amid with
  | query meanwhile rest =>
    cases rest
    exact served _ _ meanwhile
  | outside _ noQuery => exact absurd rfl (noQuery q)

/-- As `Among`, for what happens only in that way. -/
def AmongGiven (P : Happening → Prop) (operation : Operation α) (tables : Tables)
    (post : Except Failure α → Tables → List Happening → Prop) : Prop :=
  operation.Among tables fun outcome after history =>
    (∀ h ∈ history, P h) → post outcome after history

theorem amongGiven_of_among {P : Happening → Prop} {operation : Operation α}
    {post : α → Tables → List Happening → Prop}
    (among : operation.Among tables fun outcome mid history =>
      ∃ a, outcome = .ok a ∧ post a mid history) :
    operation.AmongGiven P tables fun outcome mid history =>
      ∃ a, outcome = .ok a ∧ (∀ h ∈ history, P h) ∧ post a mid history := by
  refine among_mono among ?_
  rintro outcome mid history ⟨a, isOk, holds⟩ given
  exact ⟨a, isOk, given, holds⟩

/-- An operation that goes on after one that then succeeds. -/
theorem amongGiven_bind {P : Happening → Prop} {operation : Operation α} {f : α → Operation β}
    {pre : α → Tables → List Happening → Prop}
    {post : Except Failure β → Tables → List Happening → Prop}
    (first : operation.AmongGiven P tables fun outcome mid history =>
      ∃ a, outcome = .ok a ∧ pre a mid history)
    (rest : ∀ a mid history, pre a mid history →
      (f a).AmongGiven P mid fun b after later => post b after (history ++ later)) :
    (operation >>= f).AmongGiven P tables post := by
  refine among_bind fun history outcome mid amid => ?_
  have holds := first history outcome mid amid
  rcases outcome with failure | a
  · intro given
    obtain ⟨_, failed, _⟩ := holds given
    cases failed
  -- A history that already fails the condition promises nothing of what follows.
  · by_cases given : ∀ h ∈ history, P h
    · obtain ⟨_, same, before⟩ := holds given
      cases same
      refine among_mono (rest a mid history before) fun b after later next all => ?_
      exact next (List.forall_mem_append.mp all).2
    · exact fun later b after _ all => absurd (List.forall_mem_append.mp all).1 given

end Operation

namespace Run

def Among (run : Run α) (e : Execution) (tables : Tables)
    (post : Except Failure α → Execution → Tables → List Happening → Prop) : Prop :=
  (run.outcome e).Among tables fun outcome => post outcome.1 outcome.2

variable {e : Execution} {post : Except Failure α → Execution → Tables → List Happening → Prop}

theorem among_mono {run : Run α}
    {weaker : Except Failure α → Execution → Tables → List Happening → Prop}
    (among : run.Among e tables post)
    (implies : ∀ outcome e' after history,
      post outcome e' after history → weaker outcome e' after history) :
    run.Among e tables weaker :=
  Program.among_mono among fun outcome => implies outcome.1 outcome.2

theorem among_pure {a : α} (holds : post (.ok a) e tables []) :
    (pure a : Run α).Among e tables post := Program.among_done holds

theorem among_throw {failure : Failure} (holds : post (.error failure) e tables []) :
    (throw failure : Run α).Among e tables post := Program.among_done holds

theorem among_get {post : Except Failure Execution → Execution → Tables → List Happening → Prop}
    (holds : post (.ok e) e tables []) : (get : Run Execution).Among e tables post :=
  Program.among_done holds

theorem among_set {e' : Execution}
    {post : Except Failure PUnit → Execution → Tables → List Happening → Prop}
    (holds : post (.ok ⟨⟩) e' tables []) : (set e' : Run PUnit).Among e tables post :=
  Program.among_done holds

theorem among_modify {change : Execution → Execution}
    {post : Except Failure PUnit → Execution → Tables → List Happening → Prop}
    (holds : post (.ok ⟨⟩) (change e) tables []) :
    (modify change : Run PUnit).Among e tables post := Program.among_done holds

theorem among_bind {run : Run α} {f : α → Run β}
    {post : Except Failure β → Execution → Tables → List Happening → Prop}
    (among : run.Among e tables fun
      | .ok a, e', mid, first =>
        (f a).Among e' mid fun b e'' after later => post b e'' after (first ++ later)
      | .error failure, e', mid, first => post (.error failure) e' mid first) :
    (run >>= f).Among e tables post := by
  refine Program.among_bind (Program.among_mono among ?_)
  rintro ⟨failure | a, e'⟩ mid first holds
  · refine Program.among_done ?_
    rw [List.append_nil]
    exact holds
  · exact holds

theorem among_attempt {run : Run α}
    {post : Except Failure (Except Failure α) → Execution → Tables → List Happening → Prop}
    (among : run.Among e tables fun outcome => post (.ok outcome)) :
    (attempt run).Among e tables post := by
  refine Program.among_bind (Program.among_mono among fun outcome mid first holds => ?_)
  refine Program.among_done ?_
  rw [List.append_nil]
  exact holds

theorem among_lift {operation : Operation α}
    (among : operation.Among tables fun outcome => post outcome e) :
    (lift operation).Among e tables post := by
  refine Program.among_bind (Program.among_mono among fun outcome mid first holds => ?_)
  refine Program.among_done ?_
  rw [List.append_nil]
  exact holds

theorem among_traversing {run : Run α} (post : Except Failure α → Execution → Tables → Prop)
    (among : run.Among e tables fun outcome e' after _ => post outcome e' after) :
    (traversing run).Among e tables fun outcome e' after _ => post outcome e' after := by
  intro history outcome after amid
  obtain ⟨history', runs, -⟩ := Program.amid_of_traversing amid
  exact among history' outcome after runs

theorem among_on {run : Run α} {post : Except Failure α → Tables → List Happening → Prop}
    (among : run.Among e tables fun outcome _ => post outcome) :
    (on e run).Among tables post := by
  refine Program.among_bind (Program.among_mono among fun outcome mid first holds => ?_)
  refine Program.among_done ?_
  rw [List.append_nil]
  exact holds

/-- As `Among`, for what happens only in that way. -/
def AmongGiven (P : Happening → Prop) (run : Run α) (e : Execution) (tables : Tables)
    (post : Except Failure α → Execution → Tables → List Happening → Prop) : Prop :=
  run.Among e tables fun outcome e' after history =>
    (∀ h ∈ history, P h) → post outcome e' after history

theorem amongGiven_bind {P : Happening → Prop} {run : Run α} {f : α → Run β}
    {pre : Except Failure α → Execution → Tables → List Happening → Prop}
    {post : Except Failure β → Execution → Tables → List Happening → Prop}
    (first : run.AmongGiven P e tables pre)
    (next : ∀ a e' mid history, pre (.ok a) e' mid history →
      (f a).AmongGiven P e' mid fun b e'' after later => post b e'' after (history ++ later))
    (fails : ∀ failure e' mid history, pre (.error failure) e' mid history →
      post (.error failure) e' mid history) :
    (run >>= f).AmongGiven P e tables post := by
  refine among_bind fun history outcome mid amid => ?_
  have holds := first history outcome mid amid
  rcases outcome with ⟨failure | a, e'⟩
  · exact fun given => fails failure e' mid history (holds given)
  -- A history that already fails the condition promises nothing of what follows.
  · by_cases given : ∀ h ∈ history, P h
    · refine among_mono (next a e' mid history (holds given)) fun b e'' after later rest all => ?_
      exact rest (List.forall_mem_append.mp all).2
    · exact fun later b after _ all => absurd (List.forall_mem_append.mp all).1 given

/-- What goes on after an attempt goes on after any outcome. -/
theorem amongGiven_attempt {P : Happening → Prop} {run : Run α} {f : Except Failure α → Run β}
    {pre : Except Failure α → Execution → Tables → List Happening → Prop}
    {post : Except Failure β → Execution → Tables → List Happening → Prop}
    (first : run.AmongGiven P e tables pre)
    (next : ∀ outcome e' mid history, pre outcome e' mid history →
      (f outcome).AmongGiven P e' mid fun b e'' after later => post b e'' after (history ++ later)) :
    (attempt run >>= f).AmongGiven P e tables post := by
  have attempted : (attempt run).AmongGiven P e tables fun result e' mid history =>
      ∃ outcome, result = .ok outcome ∧ pre outcome e' mid history :=
    among_attempt fun history outcome mid amid given =>
      ⟨outcome.1, rfl, first history outcome mid amid given⟩
  refine amongGiven_bind attempted ?_ ?_
  · rintro outcome e' mid history ⟨_, same, holds⟩
    obtain rfl := Except.ok.inj same
    exact next outcome e' mid history holds
  · rintro failure e' mid history ⟨_, same, -⟩
    cases same

theorem amongGiven_mono {P : Happening → Prop} {run : Run α}
    {post weaker : Except Failure α → Execution → Tables → List Happening → Prop}
    (among : run.AmongGiven P e tables post)
    (implies : ∀ outcome e' after history, post outcome e' after history →
      weaker outcome e' after history) : run.AmongGiven P e tables weaker :=
  among_mono among fun outcome e' after history holds given =>
    implies outcome e' after history (holds given)

end Run
end MessageFlow
