import MessageFlow.Run.Traversal

/-!
Journeys: traversals that also tell which node they execute. Main statement: without what it tells,
the journey of an execution is the program that resumes it.
-/

namespace MessageFlow

inductive Journey (α : Type) where
  | done (value : α)
  /-- A node is executed from here on. -/
  | enter (node : Node) (rest : Journey α)
  | ask (request : Request) (next : request.Answer → Journey α)

namespace Journey

variable {α β : Type}

def bind (journey : Journey α) (next : α → Journey β) : Journey β :=
  match journey with
  | .done value => next value
  | .enter node rest => .enter node (rest.bind next)
  | .ask request rest => .ask request fun answer => (rest answer).bind next

def ofProgram : Program α → Journey α
  | .done value => .done value
  | .ask _ request next => .ask request fun answer => ofProgram (next answer)

/-- What is asked for the traversal of that execution. -/
def program (execution : String) : Journey α → Program α
  | .done value => .done value
  | .enter _ rest => rest.program execution
  | .ask request next => .ask (some execution) request fun answer => (next answer).program execution

theorem program_bind (execution : String) (journey : Journey α) (next : α → Journey β) :
    (journey.bind next).program execution =
      (journey.program execution).bind fun a => (next a).program execution := by
  induction journey with
  | done value => rfl
  | enter node rest ih => exact ih
  | ask request rest ih => exact congrArg (Program.ask (some execution) request) (funext ih)

theorem program_ofProgram (execution : String) (p : Program α) :
    (ofProgram p).program execution = p.traversing execution := by
  induction p with
  | done value => rfl
  | ask traversed request next ih =>
    exact congrArg (Program.ask (some execution) request) (funext ih)

end Journey

theorem Program.traversing_bind {α β : Type} (execution : String) (p : Program α)
    (f : α → Program β) : (p.bind f).traversing execution =
      (p.traversing execution).bind fun a => (f a).traversing execution := by
  induction p with
  | done value => rfl
  | ask traversed request next ih =>
    exact congrArg (Program.ask (some execution) request) (funext ih)

/-- One run after the other, on the same object. -/
theorem Run.outcome_bind {α β : Type} (e : Execution) (run : Run α) (f : α → Run β) :
    outcome e (run >>= f) = (outcome e run).bind fun
      | (.ok a, e') => outcome e' (f a)
      | (.error failure, e') => .done (.error failure, e') := by
  refine congrArg (Program.bind (outcome e run)) (funext fun result => ?_)
  obtain ⟨failure | a, e'⟩ := result
  · rfl
  · rfl

theorem Run.outcome_attempt {α : Type} (e : Execution) (run : Run α) :
    outcome e (attempt run) = (outcome e run).bind fun (result, e') => .done (.ok result, e') := rfl

namespace Journey

variable (deployment : Deployment) (account : Account)

/-- The journey that walks on with `steps` more nodes allowed. -/
def walk (flow : Flow) : (steps : Nat) → (queue : List Node) → (branch : Option Bool) →
    Execution → Journey (Except Failure Unit × Execution)
  | steps, queue, branch, e =>
    match Run.upcoming flow queue branch e with
    | none => .done (.ok (), e)
    | some [] => ofProgram (Run.outcome e Run.complete)
    | some (node :: rest) =>
      match steps with
      | 0 => ofProgram (Run.outcome e (Run.fail Run.stepLimitError))
      | steps + 1 =>
        .enter node <| (ofProgram (Run.outcome e (Run.visit deployment account flow node))).bind fun
          | (.ok none, e') => .done (.ok (), e')
          | (.ok (some outcome), e') => walk flow steps rest outcome.branch? e'
          | (.error failure, e') => .done (.error failure, e')

def traverse (flow : Option Flow) (e : Execution) : Journey (Except Failure Unit × Execution) :=
  (ofProgram (Run.outcome e (Run.lift (Store.flowOr flow e.flowId)))).bind fun
    | (.ok (some flow), e') => walk deployment account flow Run.maxSteps [] none e'
    | (.ok none, e') => ofProgram (Run.outcome e' (Run.fail Run.flowNotFound))
    | (.error failure, e') => .done (.error failure, e')

/-- A conflict ends a traversal quietly. -/
def settle : Except Failure Unit → Except Failure Unit
  | .ok () => .ok ()
  | .error failure => if failure.isConflict then .ok () else .error failure

/-- The journey of an execution that is resumed. -/
def resume (flow : Option Flow) (e : Execution) : Journey (Except Failure Unit × Execution) :=
  (traverse deployment account flow e).bind fun result => .done (settle result.1, result.2)

variable {deployment account}

theorem program_walk (execution : String) (flow : Flow) (steps : Nat) (queue : List Node)
    (branch : Option Bool) (e : Execution) :
    (walk deployment account flow steps queue branch e).program execution =
      (Run.outcome e (Run.walk deployment account flow steps queue branch)).traversing
        execution := by
  induction steps using Nat.strongRecOn generalizing queue branch e with
  | ind steps ih =>
    unfold walk Run.walk
    rw [Run.outcome_bind]
    change _ = Program.traversing execution (Run.outcome e _)
    rcases Run.upcoming flow queue branch e with _ | _ | ⟨node, rest⟩
    · rfl
    · exact program_ofProgram execution _
    · cases steps with
      | zero => exact program_ofProgram execution _
      | succ steps =>
        simp only
        rw [Run.outcome_bind, Program.traversing_bind, program, program_bind, program_ofProgram]
        refine congrArg (Program.bind _) (funext fun visited => ?_)
        obtain ⟨failure | _ | outcome, e'⟩ := visited
        · rfl
        · rfl
        · exact ih steps (Nat.lt_succ_self steps) rest outcome.branch? e'

theorem program_traverse (execution : String) (flow : Option Flow) (e : Execution) :
    (traverse deployment account flow e).program execution =
      (Run.outcome e (Run.traverse deployment account flow)).traversing execution := by
  unfold traverse Run.traverse
  rw [Run.outcome_bind]
  change _ = Program.traversing execution (Run.outcome e _)
  rw [Run.outcome_bind, Program.traversing_bind, program_bind, program_ofProgram]
  refine congrArg (Program.bind _) (funext fun found => ?_)
  obtain ⟨failure | _ | flow, e'⟩ := found
  · rfl
  · exact program_ofProgram execution _
  · exact program_walk execution flow Run.maxSteps [] none e'

/-- Without its marks, a journey is the program that resumes the execution. -/
theorem program_resume (flow : Option Flow) (e : Execution) :
    (resume deployment account flow e).program e.id =
      Run.outcome e (Run.resume deployment account flow) := by
  change _ = Program.traversing e.id (Run.outcome e _)
  rw [Run.outcome_bind, Run.outcome_attempt, Program.bind_bind, Program.traversing_bind, resume,
    program_bind, program_traverse]
  refine congrArg (Program.bind _) (funext fun result => ?_)
  obtain ⟨failure | ⟨⟩, e'⟩ := result
  · cases quiet : failure.isConflict with
    | true =>
      simp only [Program.bind, settle, quiet, if_true]
      rfl
    | false =>
      simp only [Program.bind, settle, quiet]
      rfl
  · rfl

end Journey
end MessageFlow
