import MessageFlow.Proofs.Delivery.Twins
import MessageFlow.Proofs.Senders.Transcript

/-!
Programs that have the store to themselves. Every query is served on the tables as the query before
it left them, or it is refused and leaves them alone.
-/

namespace MessageFlow

/-- What a program is told, and which of its queries the store refuses, by the number of requests
that it asked before. -/
structure Setting where
  told : Outside
  refused : Nat → Option Failure := fun _ => none
  noConflict : ∀ asked failure, refused asked = some failure → failure.isConflict = false := by simp

namespace Setting

def IsFaultless (setting : Setting) : Prop := ∀ asked, setting.refused asked = none

def Refuses (setting : Setting) (failure : Failure) : Prop :=
  ∃ asked, setting.refused asked = some failure

theorem IsFaultless.not_refuses {setting : Setting} (faultless : setting.IsFaultless)
    {failure : Failure} : ¬ setting.Refuses failure := by
  intro refuses
  obtain ⟨asked, refused⟩ := refuses
  rw [faultless asked] at refused
  cases refused

theorem Refuses.noConflict {setting : Setting} {failure : Failure}
    (refuses : setting.Refuses failure) : failure.isConflict = false := by
  obtain ⟨asked, refused⟩ := refuses
  exact setting.noConflict asked failure refused

/-- The answer to a request, and the tables after it. -/
def serve (setting : Setting) (asked : Nat) (tables : Tables) :
    (request : Request) → request.Answer × Tables
  | .query query => match setting.refused asked with
    | some failure => (.error failure, tables)
    | none => (.ok (query.run tables).1, (query.run tables).2)
  | request => (setting.told asked request, tables)

theorem serve_query (setting : Setting) (asked : Nat) (tables : Tables) (query : Query) :
    (∃ failure, setting.Refuses failure ∧
      setting.serve asked tables (.query query) = (.error failure, tables)) ∨
    setting.serve asked tables (.query query) =
      (.ok (query.run tables).1, (query.run tables).2) := by
  cases refused : setting.refused asked with
  | some failure => exact .inl ⟨failure, ⟨asked, refused⟩, by simp only [serve, refused]⟩
  | none => exact .inr (by simp only [serve, refused])

end Setting

/-- A query is noted with its answer. -/
def Request.noted : (request : Request) → request.Answer → List Asked
  | .query q, answer => [⟨q, answer⟩]
  | _, _ => []

/-- How a program has run alone. -/
structure Alone (α : Type) where
  value : α
  tables : Tables
  /-- How many requests were asked so far. -/
  asked : Nat
  /-- The queries that were asked, with their answers. -/
  log : List Asked

variable {setting : Setting} {tables : Tables} {α β : Type}

namespace Program

/-- Runs a program alone; `asked` requests were asked before. -/
def alone (setting : Setting) : Program α → Tables → Nat → Alone α
  | .done value, tables, asked => ⟨value, tables, asked, []⟩
  | .ask _ request next, tables, asked =>
    let served := setting.serve asked tables request
    let rest := (next served.1).alone setting served.2 (asked + 1)
    { rest with log := request.noted served.1 ++ rest.log }

theorem alone_bind (setting : Setting) (p : Program α) (f : α → Program β) (tables : Tables)
    (asked : Nat) : (p.bind f).alone setting tables asked =
      let first := p.alone setting tables asked
      let rest := (f first.value).alone setting first.tables first.asked
      { rest with log := first.log ++ rest.log } := by
  induction p generalizing tables asked with
  | done a => rfl
  | ask traversed request next ih =>
    simp only [bind, alone, ih, List.append_assoc]

theorem alone_traversing (setting : Setting) (execution : String) (p : Program α) (tables : Tables)
    (asked : Nat) : (p.traversing execution).alone setting tables asked =
      p.alone setting tables asked := by
  induction p generalizing tables asked with
  | done value => rfl
  | ask traversed request next ih =>
    simp only [traversing, alone, ih]

theorem le_asked (setting : Setting) (p : Program α) (tables : Tables) (asked : Nat) :
    asked ≤ (p.alone setting tables asked).asked := by
  induction p generalizing tables asked with
  | done value => exact le_rfl
  | ask traversed request next ih => exact (Nat.le_succ asked).trans (ih _ _ _)

/-- However many requests were asked before, `post` holds of the value, of the tables that the
program leaves, and of its queries. -/
def Leaves (setting : Setting) (p : Program α) (tables : Tables)
    (post : α → Tables → List Asked → Prop) : Prop :=
  ∀ asked, post (p.alone setting tables asked).value (p.alone setting tables asked).tables
    (p.alone setting tables asked).log

variable {p : Program α} {post : α → Tables → List Asked → Prop}

theorem leaves_mono {weaker : α → Tables → List Asked → Prop}
    (leaves : p.Leaves setting tables post)
    (implies : ∀ a after log, post a after log → weaker a after log) :
    p.Leaves setting tables weaker :=
  fun asked => implies _ _ _ (leaves asked)

theorem leaves_bind {f : α → Program β} {post : β → Tables → List Asked → Prop}
    (leaves : p.Leaves setting tables fun a mid log =>
      (f a).Leaves setting mid fun b after later => post b after (log ++ later)) :
    (p.bind f).Leaves setting tables post := by
  intro asked
  rw [alone_bind]
  exact leaves asked _

end Program

namespace Operation

def Leaves (setting : Setting) (operation : Operation α) (tables : Tables)
    (post : Except Failure α → Tables → List Asked → Prop) : Prop :=
  (ExceptT.run operation).Leaves setting tables post

variable {post : Except Failure α → Tables → List Asked → Prop}

theorem leaves_mono {operation : Operation α}
    {weaker : Except Failure α → Tables → List Asked → Prop}
    (leaves : operation.Leaves setting tables post)
    (implies : ∀ outcome after log, post outcome after log → weaker outcome after log) :
    operation.Leaves setting tables weaker :=
  Program.leaves_mono leaves implies

theorem leaves_pure {a : α} (holds : post (.ok a) tables []) :
    (pure a : Operation α).Leaves setting tables post := fun _ => holds

theorem leaves_throw {failure : Failure} (holds : post (.error failure) tables []) :
    (throw failure : Operation α).Leaves setting tables post := fun _ => holds

theorem leaves_bind {operation : Operation α} {f : α → Operation β}
    {post : Except Failure β → Tables → List Asked → Prop}
    (leaves : operation.Leaves setting tables fun
      | .ok a, mid, log => (f a).Leaves setting mid fun b after later => post b after (log ++ later)
      | .error failure, mid, log => post (.error failure) mid log) :
    (operation >>= f).Leaves setting tables post := by
  refine Program.leaves_bind (Program.leaves_mono leaves ?_)
  intro outcome mid log holds
  cases outcome with
  | error failure =>
    intro asked
    rw [← List.append_nil log] at holds
    exact holds
  | ok a => exact holds

theorem leaves_attempt {operation : Operation α}
    {post : Except Failure (Except Failure α) → Tables → List Asked → Prop}
    (leaves : operation.Leaves setting tables fun outcome => post (.ok outcome)) :
    (attempt operation).Leaves setting tables post := by
  refine Program.leaves_bind (Program.leaves_mono leaves ?_)
  intro outcome after log holds asked
  rw [← List.append_nil log] at holds
  exact holds

theorem leaves_now {post : Except Failure Timestamp → Tables → List Asked → Prop}
    (holds : ∀ time, post (.ok time) tables []) : now.Leaves setting tables post :=
  fun _ => holds _

theorem leaves_query {q : Query} {post : Except Failure (List Row) → Tables → List Asked → Prop}
    (served : post (.ok (q.run tables).1) (q.run tables).2 [⟨q, .ok (q.run tables).1⟩])
    (refused : ∀ failure, setting.Refuses failure →
      post (.error failure) tables [⟨q, .error failure⟩]) :
    (query q).Leaves setting tables post := by
  intro asked
  change post (setting.serve asked tables (.query q)).1 (setting.serve asked tables (.query q)).2
    [⟨q, (setting.serve asked tables (.query q)).1⟩]
  rcases setting.serve_query asked tables q with ⟨failure, refuses, same⟩ | same
  · rw [same]
    exact refused failure refuses
  · rw [same]
    exact served

end Operation

namespace Run

def Leaves (setting : Setting) (run : Run α) (e : Execution) (tables : Tables)
    (post : Except Failure α → Execution → Tables → List Asked → Prop) : Prop :=
  (run.outcome e).Leaves setting tables fun outcome => post outcome.1 outcome.2

variable {e : Execution} {post : Except Failure α → Execution → Tables → List Asked → Prop}

theorem leaves_get {post : Except Failure Execution → Execution → Tables → List Asked → Prop}
    (holds : post (.ok e) e tables []) : (get : Run Execution).Leaves setting e tables post :=
  fun _ => holds

theorem leaves_set {e' : Execution}
    {post : Except Failure PUnit → Execution → Tables → List Asked → Prop}
    (holds : post (.ok ⟨⟩) e' tables []) : (set e' : Run PUnit).Leaves setting e tables post :=
  fun _ => holds

theorem leaves_modify {change : Execution → Execution}
    {post : Except Failure PUnit → Execution → Tables → List Asked → Prop}
    (holds : post (.ok ⟨⟩) (change e) tables []) :
    (modify change : Run PUnit).Leaves setting e tables post := fun _ => holds

theorem leaves_bind {run : Run α} {f : α → Run β}
    {post : Except Failure β → Execution → Tables → List Asked → Prop}
    (leaves : run.Leaves setting e tables fun
      | .ok a, e', mid, log =>
        (f a).Leaves setting e' mid fun b e'' after later => post b e'' after (log ++ later)
      | .error failure, e', mid, log => post (.error failure) e' mid log) :
    (run >>= f).Leaves setting e tables post := by
  refine Program.leaves_bind (Program.leaves_mono leaves ?_)
  intro outcome mid log holds
  rcases outcome with ⟨failure | a, e'⟩
  · intro asked
    rw [← List.append_nil log] at holds
    exact holds
  · exact holds

theorem leaves_lift {operation : Operation α}
    (leaves : operation.Leaves setting tables fun outcome => post outcome e) :
    (lift operation).Leaves setting e tables post := by
  refine Program.leaves_bind (Program.leaves_mono leaves ?_)
  intro outcome after log holds asked
  rw [← List.append_nil log] at holds
  exact holds

theorem leaves_traversing {run : Run α} (leaves : run.Leaves setting e tables post) :
    (traversing run).Leaves setting e tables post := by
  intro asked
  have same : (traversing run).outcome e = (run.outcome e).traversing e.id := rfl
  rw [same, Program.alone_traversing]
  exact leaves asked

theorem leaves_on {run : Run α} {post : Except Failure α → Tables → List Asked → Prop}
    (leaves : run.Leaves setting e tables fun outcome _ => post outcome) :
    (on e run).Leaves setting tables post := by
  refine Program.leaves_bind (Program.leaves_mono leaves ?_)
  intro outcome after log holds asked
  rw [← List.append_nil log] at holds
  exact holds

end Run
end MessageFlow
