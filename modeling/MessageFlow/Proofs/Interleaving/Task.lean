import MessageFlow.Inbox
import MessageFlow.Run.Deletion
import MessageFlow.Sweep

/-!
The tasks of clients and the changes that they make to an execution: those made from outside, and
those made while the execution is traversed.
-/

namespace MessageFlow

/-- What one client is asked to do. -/
inductive Task where
  | start (account : Account) (flow : Flow) (event : TriggerEvent) (keywords : List String)
  | trigger (account : Account) (event : TriggerEvent)
  | handle (account : Account) (message : InboundMessage) (attempts : Nat) (execution : Execution)
  | route (account : Account) (senderId : String) (message : InboundMessage) (attempts : Nat)
  | dispatch (account : Account) (senderId : String) (senderUsername : Option String)
      (message : InboundMessage) (attempts : Nat)
  | sweep (attempts : Nat) (at? : Option Timestamp)
  | deleteFlow (flowId : String)

namespace Task

/-- What a task gives back. -/
inductive Report where
  | executions (handled started : List Execution)
  | count (n : Nat)

def operation (deployment : Deployment) : Task → Operation Report
  | .start account flow event keywords => do
    pure (.executions [] (← Run.start deployment account flow event keywords).toList)
  | .trigger account event => do pure (.executions [] (← Run.trigger deployment account event))
  | .handle account message attempts execution => do
    pure (.executions [← Run.on execution (Inbox.handle deployment account message attempts)] [])
  | .route account senderId message attempts => do
    pure (.executions (← Inbox.route deployment account senderId message attempts) [])
  | .dispatch account senderId senderUsername message attempts => do
    let ⟨handled, started⟩ ←
      Inbox.dispatch deployment account senderId senderUsername message attempts
    pure (.executions handled started)
  | .sweep attempts at? => do pure (.count (← Sweep.process deployment attempts at?))
  | .deleteFlow flowId => do pure (.count (← Run.deleteFlow flowId))

/-- The message that a task brings. -/
def message? : Task → Option InboundMessage
  | .handle _ message .. | .route _ _ message _ | .dispatch _ _ _ message _ => some message
  | _ => none

/-- The execution that a task is given. -/
def given : Task → Option Execution
  | .handle _ _ _ execution => some execution
  | _ => none

def isSweep : Task → Bool
  | .sweep .. => true
  | _ => false

def isDeletion : Task → Bool
  | .deleteFlow _ => true
  | _ => false

theorem message?_of_isSweep {task : Task} (sweeps : task.isSweep = true) :
    task.message? = none := by
  cases task with
  | sweep attempts at? => rfl
  | start | trigger | handle | route | dispatch | deleteFlow => cases sweeps

theorem eq_deleteFlow_of_isDeletion {task : Task} (deletes : task.isDeletion = true) :
    ∃ flowId, task = .deleteFlow flowId := by
  cases task with
  | deleteFlow flowId => exact ⟨flowId, rfl⟩
  | start | trigger | handle | route | dispatch | sweep => cases deletes

end Task

/-- The context after an action node. -/
def NodeData.contextAfter (data : NodeData) (context : Context) : Context :=
  match data.actionKind? with
  | some .collectEmail => context.setFlag Run.awaitingEmail true
  | some .collectPhone => context.setFlag Run.awaitingPhone true
  | some .addTag => context.addTag data.tag
  | some .removeTag => context.removeTag data.tag
  | some .subscribe => context.setFlag Run.subscribed true
  | some .unsubscribe => context.setFlag Run.subscribed false
  | some .createLead | some .notify | none => context

namespace Execution

def stamped (e : Execution) (now : Timestamp) : Execution := { e with updatedAt := some now }

def failed (e : Execution) (reason : String) : Execution :=
  { e with status := .failed, lastError := some reason }

def completed (e : Execution) (time : Timestamp) : Execution :=
  { e with
    status := .completed
    completedAt := some time
    scheduledAt := none
    scheduledNodeId := none }

/-- The execution moved on to a node. -/
def movedTo (e : Execution) (node : Node) : Execution :=
  { e with
    previousNodeIds := e.previousNodeIds ++ [e.currentNodeId]
    currentNodeId := node.id }

/-- The execution after a node; `wake` is the end of a delay. -/
def afterNode (e : Execution) (node : Node) (wake : Timestamp) : Execution :=
  match node.kind? with
  | some .delay =>
    { e with status := .waiting, scheduledAt := some wake, scheduledNodeId := some node.id }
  | some .action =>
    let acted := { e with context := node.data.contextAfter e.context }
    if Run.awaitsReply node.data then
      { acted with status := .waiting, scheduledAt := none, scheduledNodeId := none }
    else acted
  | _ => e

/-- The execution as it is stored when its write succeeds. -/
def saved (e : Execution) : Execution := { e with revision := e.revision + 1 }

/-- What a traversal makes of an execution between two writes. -/
inductive Advance (v : Execution) : Execution → Prop
  | node (node : Node) (wake now : Timestamp) (active : v.status = .active) :
    Advance v (((v.movedTo node).afterNode node wake).stamped now)
  | failedNode (node : Node) (failure : Failure) (now : Timestamp) (active : v.status = .active) :
    Advance v (((v.movedTo node).failed failure.record).stamped now)
  | stopped (reason : String) (now : Timestamp) (active : v.status = .active)
    (known : reason = Run.stepLimitError ∨ reason = Run.flowNotFound) :
    Advance v ((v.failed reason).stamped now)
  | completed (time now : Timestamp) (active : v.status = .active) :
    Advance v ((v.completed time).stamped now)

/-- As a start stores it. -/
structure IsNew (e : Execution) : Prop where
  status : e.status = .active
  revision : e.revision = 0
  previousNodeIds : e.previousNodeIds = []
  scheduledAt : e.scheduledAt = none
  scheduledNodeId : e.scheduledNodeId = none
  lastError : e.lastError = none
  completedAt : e.completedAt = none
  selectedOptions : e.context.selectedOptions = []
  contextExtras : e.context.extras = []
  extras : e.extras = []

/-- An execution as a flow makes it at a trigger, with nothing collected yet. -/
structure IsOutset (e : Execution) (flow : Flow) (trigger : Node) (id : String) : Prop where
  isNew : e.IsNew
  id : e.id = id
  flowId : e.flowId = flow.id
  currentNodeId : e.currentNodeId = trigger.id
  tags : e.context.tags = []
  customFields : e.context.customFields = []

end Execution

/-- What a task makes of an execution from outside a traversal, in one write. -/
inductive Task.Intervenes (task : Task) (v : Execution) : Execution → Prop
  | message (message : InboundMessage) (now : Timestamp) (brought : task.message? = some message)
    (isOpen : v.isTerminal = false) : Intervenes task v ((v.receive message).stamped now)
  | wake (ticket : Ticket) (now : Timestamp) (sweeps : task.isSweep = true)
    (parked : Sweep.isParkedOn v ticket = true) : Intervenes task v (Sweep.wake v ticket now)
  | flowLost (ticket : Ticket) (now : Timestamp) (sweeps : task.isSweep = true)
    (parked : Sweep.isParkedOn v ticket = true) :
    Intervenes task v ((v.failed Run.flowNotFound).stamped now)
  | flowDeleted (now : Timestamp) (deletes : task.isDeletion = true)
    (isOpen : v.isTerminal = false) : Intervenes task v ((v.failed Run.flowDeleted).stamped now)

/-- What a task makes of an execution in one write; inside a traversal the write names it. -/
def Task.Changes (task : Task) (traversed : Option String) (v e : Execution) : Prop :=
  (traversed = none ∧ task.Intervenes v e) ∨ (traversed = some v.id ∧ v.Advance e)

end MessageFlow
