import MessageFlow.Flow.Successor
import MessageFlow.Run.Node

/-!
The traversal of a flow. The nodes that follow the current one are executed in order and the
execution is written after each of them; the edges of the last one decide the next hop. A run ends
when a node suspends or fails, when no node follows, or at the step limit.
-/

namespace MessageFlow.Run

def maxSteps : Nat := 100

def stepLimitError : String := "Exceeded 100 steps in one run"

def flowNotFound : String := "Flow not found"

/-- Moves to a node, executes it and writes the execution; none when the run ends there. -/
def visit (deployment : Deployment) (account : Account) (flow : Flow) (node : Node) :
    Run (Option NodeOutcome) := do
  modify fun execution =>
    { execution with
      previousNodeIds := execution.previousNodeIds ++ [execution.currentNodeId]
      currentNodeId := node.id }
  let outcome ← executeNode deployment account flow node
  match outcome with
  | .failed _ => pure none
  | _ =>
    save
    pure (if outcome.continues then some outcome else none)

/-- The nodes to execute next: those left of the present hop, else those of the next one. None when
the execution is finished already. -/
def upcoming (flow : Flow) (queue : List Node) (branch : Option Bool) (execution : Execution) :
    Option (List Node) :=
  if queue.isEmpty then
    if execution.isTerminal then none
    else some (flow.successors execution.currentNodeId branch)
  else some queue

/-- Walks on with `steps` more nodes allowed. -/
def walk (deployment : Deployment) (account : Account) (flow : Flow) :
    (steps : Nat) → (queue : List Node) → (branch : Option Bool) → Run Unit
  | steps, queue, branch => do
    match upcoming flow queue branch (← get) with
    | none => pure ()
    | some [] => complete
    | some (node :: rest) =>
      match steps with
      | 0 => fail stepLimitError
      | steps + 1 =>
        match ← visit deployment account flow node with
        | none => pure ()
        | some outcome => walk deployment account flow steps rest outcome.branch?

/-- What holds of the ends of a walk, and of looking and visiting if it holds of what comes next,
holds of the walk. -/
theorem walk_of {deployment : Deployment} {account : Account} {flow : Flow} {P : Run Unit → Prop}
    (quits : P (pure ())) (completes : P complete) (fails : P (fail stepLimitError))
    (looks : ∀ next : Execution → Run Unit, (∀ execution, P (next execution)) → P (get >>= next))
    (visits : ∀ (node : Node) (next : Option NodeOutcome → Run Unit),
      (∀ visited, P (next visited)) → P (visit deployment account flow node >>= next))
    (steps : Nat) (queue : List Node) (branch : Option Bool) :
    P (walk deployment account flow steps queue branch) := by
  induction steps using Nat.strongRecOn generalizing queue branch with
  | ind steps ih =>
    unfold walk
    refine looks _ fun execution => ?_
    rcases upcoming flow queue branch execution with _ | _ | ⟨node, rest⟩
    · exact quits
    · exact completes
    · cases steps with
      | zero => exact fails
      | succ steps =>
        refine visits node _ fun visited => ?_
        cases visited with
        | none => exact quits
        | some outcome => exact ih steps (Nat.lt_succ_self steps) rest outcome.branch?

/-- Walks from the current node; a flow that is not given is loaded. -/
def traverse (deployment : Deployment) (account : Account) (flow : Option Flow) : Run Unit := do
  match ← Run.lift (Store.flowOr flow (← get).flowId) with
  | some flow => walk deployment account flow maxSteps [] none
  | none => fail flowNotFound

/-- Continues an execution. A concurrent write ends the run quietly: the execution then belongs to
its writer. -/
def resume (deployment : Deployment) (account : Account) (flow : Option Flow) : Run Unit :=
    traversing do
  match ← attempt (traverse deployment account flow) with
  | .ok () => pure ()
  | .error failure => if failure.isConflict then pure () else throw failure

end MessageFlow.Run
