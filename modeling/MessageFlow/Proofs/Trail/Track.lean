import MessageFlow.Proofs.Interleaving.Desk
import MessageFlow.Proofs.Trail.Marks
import MessageFlow.Proofs.Traversal.Visit

/-!
The track of a client through the graph of a flow: which flows it was told, which executions it has
seen, and which way the execution under traversal has gone since its traversal began.
-/

namespace MessageFlow

/-- The branch that is taken behind a node: the truth value of a condition, and none behind other
nodes. -/
def Node.branch? (node : Node) (context : Context) : Option Bool :=
  match node.kind? with
  | some .condition => some (node.data.holds context)
  | _ => none

/-- An entered node, with the branch that is taken behind it. -/
structure Stop where
  nodeId : String
  branch : Option Bool
  deriving DecidableEq, Repr

/-- The node follows one of the stops. -/
def Flow.Follows (flow : Flow) (way : List Stop) (node : Node) : Prop :=
  ∃ stop ∈ way, node ∈ flow.successors stop.nodeId stop.branch

namespace Execution

/-- Where a traversal sets out. No branch is taken there, whatever the node is. -/
def outsetStop (e : Execution) : Stop := ⟨e.currentNodeId, none⟩

/-- What a traversal writes when it has entered a node. -/
inductive Visits (v : Execution) (node : Node) : Execution → Prop
  | handled (wake now : Timestamp) :
    Visits v node (((v.movedTo node).afterNode node wake).stamped now)
  | failed (failure : Failure) (now : Timestamp) :
    Visits v node (((v.movedTo node).failed failure.record).stamped now)

end Execution

namespace Task

/-- The event for which a task starts flows, with its keywords. A message without an addressee is
an event of its own. -/
inductive Brings : Task → TriggerEvent → List String → Prop
  | start (account : Account) (flow : Flow) (event : TriggerEvent) (keywords : List String) :
    Brings (.start account flow event keywords) event keywords
  | trigger (account : Account) (event : TriggerEvent) (keywords : List String)
    (told : event.keywords = .ok keywords) : Brings (.trigger account event) event keywords
  | dispatch (account : Account) (senderId : String) (senderUsername : Option String)
    (message : InboundMessage) (attempts : Nat) (event : TriggerEvent) (keywords : List String)
    (isEvent : event = {
      triggerType := .text TriggerKind.keyword.text
      senderId := .text senderId
      senderUsername := .ofText? senderUsername
      messageText := .text message.text })
    (told : event.keywords = .ok keywords) :
    Brings (.dispatch account senderId senderUsername message attempts) event keywords

/-- The flow that a task is given. -/
def flow? : Task → Option Flow
  | .start _ flow _ _ => some flow
  | _ => none

end Task

structure Track where
  /-- The flows that the client has loaded. -/
  told : Set Flow
  /-- The executions that it has read or created. -/
  seen : Set Execution
  /-- The execution under traversal, as it was written last, with its way since the traversal
  began. -/
  way : Option (Execution × List Stop) := none

namespace Track

/-- Takes the flows from rows that can be read. -/
def learn (c : Track) (rows : List Row) : Track :=
  { c with told := c.told ∪ { flow | ∃ row ∈ rows, Flow.read (.record row) = .valid flow } }

/-- Takes copies of rows that can be read. -/
def see (c : Track) (rows : List Row) : Track :=
  { c with seen := c.seen ∪ { v | ∃ row ∈ rows, Execution.read (.record row) = .valid v } }

def goOn (c : Track) (e : Execution) (way : List Stop) : Track := { c with way := some (e, way) }

def afterSeek (c : Track) : Except Failure (List Row) → Track
  | .ok rows => c.learn rows
  | .error _ => c

def afterSelect (c : Track) : Except Failure (List Row) → Track
  | .ok rows => c.see rows
  | .error _ => c

def afterCreation (c : Track) (e : Execution) : Except Failure (List Row) → Track
  | .ok _ => { c with seen := insert e c.seen, way := some (e, [e.outsetStop]) }
  | .error _ => c

/-- After a write with which the execution has gone that way. -/
def afterSave (c : Track) (e : Execution) (way : List Stop) : Except Failure (List Row) → Track
  | .ok (_ :: _) => c.goOn e.saved way
  | _ => c

/-- The client has seen the execution in some version. -/
def Saw (c : Track) (v : Execution) : Prop := ∃ u ∈ c.seen, u.id = v.id ∧ u.flowId = v.flowId

/-- Nothing is forgotten. -/
structure Grows (c c' : Track) : Prop where
  told : c.told ⊆ c'.told
  seen : c.seen ⊆ c'.seen

end Track

/-- The flow was given with the task, or the client has loaded it. -/
def Task.Told (task : Task) (c : Track) (flow : Flow) : Prop :=
  task.flow? = some flow ∨ flow ∈ c.told

/-- The client was told the flow of an execution that it has seen. -/
structure Task.Knows (task : Task) (c : Track) (flow : Flow) (id : String) : Prop where
  told : task.Told c flow
  seen : ∃ u ∈ c.seen, u.id = id ∧ u.flowId = flow.id

/-- What a client with that task may ask on its track. A traversal enters only what follows its
way. An execution starts without tags, and a visit notes what its node notes. -/
inductive Task.Roams (task : Task) (c : Track) (traversed : Option String) :
    (request : Request) → (request.Answer → Track) → Prop
  | aside (request : Request) (spares : request.SparesExecutions) :
    Roams task c traversed request fun _ => c
  | seek (filters : List Filter) (order : Option SortOrder) (limit : Option Int) :
    Roams task c traversed (.query (.select .flows filters order limit)) c.afterSeek
  | select (filters : List Filter) (order : Option SortOrder) (limit : Option Int) :
    Roams task c traversed (.query (.select .executions filters order limit)) c.afterSelect
  | create (e : Execution) (flow : Flow) (event : TriggerEvent) (keywords : List String)
    (node : Node) (rest : List Node) (isNew : e.IsNew) (told : task.Told c flow)
    (brings : task.Brings event keywords) (fires : event.triggers keywords flow = node :: rest)
    (ofFlow : e.flowId = flow.id) (starts : e.currentNodeId = node.id)
    (unmarked : e.context.marks = {}) :
    Roams task c traversed (.query (.insert .executions e.row)) (c.afterCreation e)
  | write (v e : Execution) (outside : traversed = none) (seen : v ∈ c.seen) (keeps : v.Keeps e) :
    Roams task c traversed (.query (Store.saveQuery e)) (c.afterSave e [e.outsetStop])
  | visit (v e : Execution) (way : List Stop) (flow : Flow) (node : Node)
    (inside : traversed = some v.id) (walks : c.way = some (v, way))
    (knows : task.Knows c flow v.id) (follows : flow.Follows way node) (visits : v.Visits node e)
    (marks : e.context.marks = node.mark v.context.marks) :
    Roams task c traversed (.query (Store.saveQuery e))
      (c.afterSave e (way ++ [⟨node.id, node.branch? e.context⟩]))
  | stop (v e : Execution) (way : List Stop) (inside : traversed = some v.id)
    (walks : c.way = some (v, way)) (accompanies : v.Accompanies e) (ends : e.status ≠ .waiting) :
    Roams task c traversed (.query (Store.saveQuery e)) (c.afterSave e way)

def Task.roaming (task : Task) : Discipline Track := task.Roams

/-- Where a task sets out. -/
def Task.departure (task : Task) : Track where
  told := ∅
  seen := { v | task.given = some v }

theorem Node.branch?_outcome (node : Node) (context : Context) :
    (node.outcome context).branch? = node.branch? context := by
  unfold outcome branch?
  cases node.kind? with
  | none => rfl
  | some kind =>
    cases kind with
    | trigger | message | condition | delay => rfl
    | action =>
      simp only
      split
      · rfl
      · rfl

namespace Execution

variable {v e : Execution} {node : Node}

theorem trail_movedTo (v : Execution) (node : Node) :
    (v.movedTo node).trail = v.trail ++ [node.id] := rfl

theorem Visits.trail (visits : v.Visits node e) : e.trail = v.trail ++ [node.id] := by
  rw [← trail_movedTo]
  cases visits with
  | handled wake now => exact (afterNode_accompanies (v.movedTo node) node wake).trail
  | failed failure now => rfl

theorem Visits.keeps (visits : v.Visits node e) : v.Keeps e := by
  cases visits with
  | handled wake now =>
    obtain ⟨id, revision, extras, contextExtras, selectedOptions⟩ :=
      afterNode_keeps (v.movedTo node) node wake
    exact ⟨id, revision, extras, contextExtras, selectedOptions⟩
  | failed failure now => exact .of_same_context rfl rfl rfl rfl

/-- The current node is the last entry of the trail. -/
theorem currentNodeId_of_trail (e : Execution) {rest : List String} {nodeId : String}
    (ends : e.trail = rest ++ [nodeId]) : e.currentNodeId = nodeId := by
  have last : e.trail.getLast? = some e.currentNodeId := List.getLast?_concat
  rw [ends, List.getLast?_concat] at last
  exact (Option.some.inj last).symm

theorem Accompanies.currentNodeId (accompanies : v.Accompanies e) :
    e.currentNodeId = v.currentNodeId := e.currentNodeId_of_trail accompanies.trail

theorem Visits.currentNodeId (visits : v.Visits node e) : e.currentNodeId = node.id :=
  e.currentNodeId_of_trail visits.trail

/-- A condition leaves the context as it was, and behind another node no branch is taken. -/
theorem branch_afterNode (e : Execution) (node : Node) (wake : Timestamp) :
    node.branch? (e.afterNode node wake).context = node.branch? e.context := by
  unfold Node.branch? afterNode
  cases node.kind? with
  | none => rfl
  | some kind =>
    cases kind with
    | trigger | message | condition | delay | action => rfl

theorem Visits.branch (visits : v.Visits node e) :
    node.branch? e.context = node.branch? v.context := by
  cases visits with
  | handled wake now => exact (v.movedTo node).branch_afterNode node wake
  | failed failure now => rfl

/-- An execution that waits does not wait at a condition. -/
theorem Visits.branch_of_waiting (visits : v.Visits node e) (active : v.status = .active)
    (waits : e.status = .waiting) : node.branch? v.context = none := by
  cases visits with
  | handled wake now =>
    have status := status_afterNode (v.movedTo node) node wake
    have stopped : (node.outcome v.context).continues = false := by
      by_contra goesOn
      rw [Bool.not_eq_false] at goesOn
      change _ = if (node.outcome v.context).continues = true then v.status else .waiting at status
      rw [if_pos goesOn, active] at status
      cases status.symm.trans waits
    rw [← node.branch?_outcome]
    cases outcome : node.outcome v.context with
    | branch condition =>
      rw [outcome] at stopped
      cases stopped
    | proceed | suspend | failed => rfl
  | failed failure now => cases waits

end Execution

namespace Track

variable {c c' c'' : Track} {e v : Execution} {flow : Flow} {id : String} {way : List Stop}

theorem Grows.refl (c : Track) : c.Grows c := ⟨subset_rfl, subset_rfl⟩

theorem Grows.trans (first : c.Grows c') (second : c'.Grows c'') : c.Grows c'' :=
  ⟨first.told.trans second.told, first.seen.trans second.seen⟩

section answers

variable (c e way) (answer : Except Failure (List Row))

@[simp] theorem seen_afterSeek : (c.afterSeek answer).seen = c.seen := by
  cases answer <;> rfl

@[simp] theorem way_afterSeek : (c.afterSeek answer).way = c.way := by
  cases answer <;> rfl

@[simp] theorem told_afterSelect : (c.afterSelect answer).told = c.told := by
  cases answer <;> rfl

@[simp] theorem told_afterCreation : (c.afterCreation e answer).told = c.told := by
  cases answer <;> rfl

@[simp] theorem told_afterSave : (c.afterSave e way answer).told = c.told := by
  rcases answer with failure | _ | _ <;> rfl

@[simp] theorem seen_afterSave : (c.afterSave e way answer).seen = c.seen := by
  rcases answer with failure | _ | _ <;> rfl

end answers

theorem grows_learn (c : Track) (rows : List Row) : c.Grows (c.learn rows) :=
  ⟨Set.subset_union_left, subset_rfl⟩

theorem grows_afterSelect (c : Track) (answer : Except Failure (List Row)) :
    c.Grows (c.afterSelect answer) := by
  cases answer with
  | error failure => exact .refl c
  | ok rows => exact ⟨subset_rfl, Set.subset_union_left⟩

theorem grows_afterCreation (c : Track) (e : Execution) (answer : Except Failure (List Row)) :
    c.Grows (c.afterCreation e answer) := by
  cases answer with
  | error failure => exact .refl c
  | ok rows => exact ⟨subset_rfl, Set.subset_insert e c.seen⟩

theorem grows_goOn (c : Track) (e : Execution) (way : List Stop) : c.Grows (c.goOn e way) :=
  ⟨subset_rfl, subset_rfl⟩

theorem afterSave_of_refusal {answer : Except Failure (List Row)}
    (refusal : Query.IsRefusal answer) : c.afterSave e way answer = c := by
  rcases refusal with rfl | ⟨failure, rfl, _⟩
  · rfl
  · rfl

theorem Saw.mono (saw : c.Saw v) (grows : c.Grows c') : c'.Saw v := by
  obtain ⟨u, seen, same⟩ := saw
  exact ⟨u, grows.seen seen, same⟩

theorem spares (task : Task) (c : Track) : task.roaming.Spares c :=
  fun request spares => .aside request spares

theorem spares_within (task : Task) (c : Track) (id : String) :
    (task.roaming.within id).Spares c := fun request spares => .aside request spares

theorem permits_visit (task : Task) {node : Node} (walks : c.way = some (v, way))
    (knows : task.Knows c flow v.id) (follows : flow.Follows way node) (visits : v.Visits node e)
    (marks : e.context.marks = node.mark v.context.marks) :
    task.roaming.within v.id c none (.query (Store.saveQuery e))
      (c.afterSave e (way ++ [⟨node.id, node.branch? e.context⟩])) :=
  .visit v e way flow node rfl walks knows follows visits marks

theorem permits_stop (task : Task) (walks : c.way = some (v, way)) (accompanies : v.Accompanies e)
    (ends : e.status ≠ .waiting) :
    task.roaming.within v.id c none (.query (Store.saveQuery e)) (c.afterSave e way) :=
  .stop v e way rfl walks accompanies ends

end Track

namespace Task

variable {task : Task} {c c' : Track} {flow : Flow} {id : String}

theorem Told.mono (told : task.Told c flow) (grows : c.Grows c') : task.Told c' flow :=
  told.imp_right fun told => grows.told told

namespace Knows

theorem mono (knows : task.Knows c flow id) (grows : c.Grows c') : task.Knows c' flow id := by
  obtain ⟨u, seen, same⟩ := knows.seen
  exact ⟨knows.told.mono grows, u, grows.seen seen, same⟩

theorem of_none (task : Task) (c : Track) (id : String) :
    ∀ flow ∈ (none : Option Flow), task.Knows c flow id := by
  intro flow present
  cases present

theorem of_some (knows : task.Knows c flow id) : ∀ known ∈ some flow, task.Knows c known id := by
  intro known present
  cases present
  exact knows

end Knows
end Task
end MessageFlow
