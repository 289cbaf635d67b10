import MessageFlow.Proofs.Among.Replies
import MessageFlow.Proofs.Stored.Parked
import MessageFlow.Proofs.Sweep.Turn
import MessageFlow.Proofs.Trail.Chart

/-!
The targets of a hop. They are executed in order until one of them suspends or fails, or the step
limit is reached. What follows a target that suspends is not remembered: the runs that resume the
execution go on from the edges of that target.
-/

namespace MessageFlow
open Operation Store

/-- A chain of edges leads from one node to the other. -/
def Flow.Leads (flow : Flow) : String → String → Prop :=
  Relation.ReflTransGen fun source target =>
    ∃ edge ∈ flow.edges, edge.source = source ∧ edge.target = target

/-- An execution that is parked on a delay is parked on its current node. -/
def Execution.ParksHere (e : Execution) : Prop :=
  e.isWaitingOnDelay = true → e.scheduledNodeId = some e.currentNodeId

variable {setting : Setting} {tables : Tables} {custody : Custody} {v w e : Execution}
  {flow : Flow} {origin : String}

theorem Flow.Leads.successor {nodeId : String} {node : Node} {branch : Option Bool}
    (here : flow.Leads origin nodeId) (present : node ∈ flow.successors nodeId branch) :
    flow.Leads origin node.id := by
  obtain ⟨_, edge, isEdge, source, target, _⟩ := exists_edge_of_mem_successors present
  exact here.tail ⟨edge, isEdge, source, target⟩

theorem Execution.parksHere_of_status (busy : e.status ≠ .waiting) : e.ParksHere := fun parked =>
  absurd parked (by rw [isWaitingOnDelay_of_status busy]; decide)

/-- A node that suspends parks the execution on itself, if on any. -/
theorem Execution.parksHere_afterNode {node : Node} (suspends :
    (node.outcome v.context).continues = false) (wake : Timestamp) :
    ((v.movedTo node).afterNode node wake).ParksHere := by
  intro parked
  unfold Node.outcome at suspends
  unfold afterNode at parked ⊢
  cases kind : node.kind? with
  | none => simp [kind, NodeOutcome.continues] at suspends
  | some kind' =>
    cases kind' with
    | trigger | message | condition => simp [kind, NodeOutcome.continues] at suspends
    | delay => rfl
    | action =>
      cases awaits : Run.awaitsReply node.data with
      | true => simp [kind, awaits, isWaitingOnDelay] at parked
      | false => simp [kind, awaits, NodeOutcome.continues] at suspends

/-- A node at which the run ends parks the execution on itself, if on any. -/
theorem Run.Visits.parksHere {node : Node} (visits : Visits v node none e) : e.ParksHere := by
  generalize isNone : none = outcome? at visits
  cases visits with
  | failed => exact Execution.parksHere_of_status Status.noConfusion
  | handled wake now =>
    cases goesOn : (node.outcome v.context).continues with
    | true =>
      rw [goesOn] at isNone
      cases isNone
    | false => exact Execution.parksHere_afterNode goesOn wake

theorem Run.Visits.currentNodeId {node : Node} {outcome? : Option NodeOutcome}
    (visits : Visits v node outcome? e) : e.currentNodeId = node.id := by
  have trail := visits.trail
  unfold Execution.trail at trail
  exact (List.append_inj' trail rfl).2 |> List.singleton_inj.mp

/-- What is left of a hop comes first. -/
theorem Run.upcoming_of_ne {queue : List Node} {branch : Option Bool} (some : queue ≠ []) :
    upcoming flow queue branch v = .some queue := by
  rw [upcoming, if_neg]
  rwa [List.isEmpty_iff]

theorem Run.upcoming_nil {branch : Option Bool} (isOpen : v.isTerminal = false) :
    upcoming flow [] branch v = some (flow.successors v.currentNodeId branch) := by
  unfold upcoming
  rw [isOpen]
  rfl

namespace Journey

variable (deployment : Deployment) (account : Account)

/-- What a walk does with its queue: these nodes come first, in this order, and only an execution
that waits or failed leaves some of them. All nodes are reached from the origin. -/
structure Hops (flow : Flow) (origin : String) (queue : List Node)
    (ride : Ride (Except Failure Unit × Execution)) : Prop where
  order : ride.entered.take queue.length = queue.take ride.entered.length
  cut : ride.entered.length < queue.length →
    ride.value.2.status = .failed ∨ ride.value.2.status = .waiting
  leads : ∀ node ∈ ride.entered, flow.Leads origin node.id
  parksHere : ride.value.2.ParksHere

/-- A walk that executes no more nodes. -/
theorem hops_of_end {queue : List Node} {asked : Nat}
    (cut : queue ≠ [] → e.status = .failed ∨ e.status = .waiting) (parksHere : e.ParksHere) :
    Hops flow origin queue ⟨(.ok (), e), tables, asked, []⟩ where
  order := List.take_nil
  cut left := cut (List.ne_nil_of_length_pos left)
  leads _ present := absurd present List.not_mem_nil
  parksHere := parksHere

/-- A walk that executes a node, the first one of its queue if there is any. -/
theorem Hops.after {node : Node} {queue rest : List Node}
    {ride : Ride (Except Failure Unit × Execution)} (first : queue = [] ∨ queue = node :: rest)
    (led : flow.Leads origin node.id) (hops : Hops flow origin rest ride) :
    Hops flow origin queue (ride.after node) where
  order := by
    rcases first with rfl | rfl
    · exact List.take_nil.symm
    · exact congrArg (node :: ·) hops.order
  cut left := by
    rcases first with rfl | rfl
    · exact absurd left (Nat.not_lt_zero _)
    · exact hops.cut (Nat.lt_of_succ_lt_succ left)
  leads other present := by
    rcases List.mem_cons.mp present with rfl | later
    · exact led
    · exact hops.leads other later
  parksHere := hops.parksHere

theorem walk_hops (faultless : setting.IsFaultless) (holds : custody.Holds v tables)
    (isOpen : v.isTerminal = false) (here : flow.Leads origin v.currentNodeId) {queue : List Node}
    (led : ∀ node ∈ queue, flow.Leads origin node.id) (steps : Nat) (branch : Option Bool)
    (asked : Nat) : Hops flow origin queue
      ((walk deployment account flow steps queue branch v).alone setting tables asked) := by
  induction steps generalizing v tables queue branch asked with
  | zero =>
    rcases walk_cases deployment account flow faultless holds isOpen queue branch asked with
      ⟨next, time, now, mid, asked', _, rides⟩ | ⟨node, rest, _, ⟨now, mid, asked', _, rides⟩, _⟩
    · rw [rides]
      exact hops_of_end
        (fun some => absurd (Option.some.inj ((Run.upcoming_of_ne some).symm.trans next)) some)
        (Execution.parksHere_of_status Status.noConfusion)
    · rw [rides]
      exact hops_of_end (fun _ => .inl rfl) (Execution.parksHere_of_status Status.noConfusion)
  | succ steps ih =>
    rcases walk_cases deployment account flow faultless holds isOpen queue branch asked with
      ⟨next, time, now, mid, asked', _, rides⟩ |
        ⟨node, rest, next, _, outcome?, e, mid, asked', visits, stored, rides⟩
    · rw [rides]
      exact hops_of_end
        (fun some => absurd (Option.some.inj ((Run.upcoming_of_ne some).symm.trans next)) some)
        (Execution.parksHere_of_status Status.noConfusion)
    · have first : queue = [] ∨ queue = node :: rest := by
        refine or_iff_not_imp_left.mpr fun some => ?_
        exact Option.some.inj ((Run.upcoming_of_ne some).symm.trans next)
      have others : ∀ other ∈ node :: rest, flow.Leads origin other.id := by
        rcases first with rfl | rfl
        · rw [← Option.some.inj ((Run.upcoming_nil isOpen).symm.trans next)]
          exact fun other present => here.successor present
        · exact led
      obtain ⟨isNode, others⟩ := List.forall_mem_cons.mp others
      rw [rides]
      cases outcome? with
      | none =>
        have ends : Hops flow origin rest ⟨(.ok (), e), mid, asked', []⟩ :=
          hops_of_end (fun _ => visits.stops.symm.imp_left And.left) visits.parksHere
        exact ends.after first isNode
      | some outcome =>
        exact (ih stored (isOpen_of_visits visits isOpen) (visits.currentNodeId ▸ isNode) others
          outcome.branch? asked').after first isNode

/-- The first hop of a walk is the queue of it. -/
theorem walk_successors (isOpen : v.isTerminal = false) (steps : Nat) (branch : Option Bool) :
    walk deployment account flow steps [] branch v =
      walk deployment account flow steps (flow.successors v.currentNodeId branch) branch v := by
  cases targets : flow.successors v.currentNodeId branch with
  | nil => rfl
  | cons node rest =>
    have same : Run.upcoming flow [] branch v = Run.upcoming flow (node :: rest) branch v := by
      rw [Run.upcoming_nil isOpen, targets, Run.upcoming_of_ne (List.cons_ne_nil node rest)]
    unfold walk
    rw [same]

end Journey

/-- What runs have made of an execution: they have passed these nodes, all reached from where it
was. -/
structure Execution.Passes (flow : Flow) (v w : Execution) (passed : List String) : Prop where
  trail : w.trail = v.trail ++ passed
  leads : ∀ id ∈ passed, flow.Leads v.currentNodeId id
  parksHere : w.ParksHere

namespace Execution.Passes

variable {passed later : List String}

theorem refl (parksHere : v.ParksHere) : Passes flow v v [] :=
  ⟨(List.append_nil _).symm, fun _ present => absurd present List.not_mem_nil, parksHere⟩

theorem leads_current (passes : Passes flow v w passed) :
    flow.Leads v.currentNodeId w.currentNodeId := by
  have last : some w.currentNodeId = (v.trail ++ passed).getLast? := by
    rw [← passes.trail, Execution.trail, List.getLast?_concat]
  rcases List.eq_nil_or_concat' passed with rfl | ⟨before, id, rfl⟩
  · rw [List.append_nil, Execution.trail, List.getLast?_concat] at last
    exact Option.some.inj last ▸ .refl
  · rw [← List.append_assoc, List.getLast?_concat] at last
    exact Option.some.inj last ▸ passes.leads id (List.mem_append_right _ (.head _))

theorem trans (first : Passes flow v w passed) (second : Passes flow w e later) :
    Passes flow v e (passed ++ later) where
  trail := by rw [second.trail, first.trail, List.append_assoc]
  leads id present := (List.mem_append.mp present).elim (first.leads id) fun after =>
    first.leads_current.trans (second.leads id after)
  parksHere := second.parksHere

end Execution.Passes

namespace Run

variable (deployment : Deployment) (account : Account)

/-- What the rest of a run makes of an execution from a hop on. -/
structure Hops (flow : Flow) (targets : List String) (v w : Execution) (visited : List String) :
    Prop extends Execution.Passes flow v w visited where
  order : visited.take targets.length = targets.take visited.length
  cut : visited.length < targets.length → w.status = .failed ∨ w.status = .waiting

theorem walk_hops (faultless : setting.IsFaultless) (holds : custody.Holds v tables)
    (isOpen : v.isTerminal = false) (steps : Nat) (branch : Option Bool) :
    (walk deployment account flow steps [] branch).Leaves setting v tables fun outcome w after _ =>
      outcome = .ok () ∧ custody.Holds w after ∧
        ∃ visited, Hops flow ((flow.successors v.currentNodeId branch).map (·.id)) v w visited := by
  intro asked
  obtain ⟨value, store⟩ := Journey.alone_program setting v.id
    (Journey.walk deployment account flow steps [] branch v) tables asked
  rw [Journey.program_walk, Program.alone_traversing] at value store
  have led : ∀ node ∈ flow.successors v.currentNodeId branch, flow.Leads v.currentNodeId node.id :=
    fun _ => .successor .refl
  have hops :=
    Journey.walk_hops deployment account faultless holds isOpen .refl led steps branch asked
  rw [← Journey.walk_successors deployment account isOpen] at hops
  have settles :=
    Journey.walk_settles deployment account flow faultless holds isOpen steps [] branch asked
  rw [value, store]
  generalize (Journey.walk deployment account flow steps [] branch v).alone setting tables asked =
    ride at hops settles
  refine ⟨settles.succeeds, settles.stored, ride.entered.map (·.id), ⟨settles.trail, ?_,
    hops.parksHere⟩, ?_, ?_⟩
  · exact List.forall_mem_map.mpr hops.leads
  · rw [List.length_map, List.length_map, ← List.map_take, ← List.map_take, hops.order]
  · rw [List.length_map, List.length_map]
    exact hops.cut

theorem resume_passes (faultless : setting.IsFaultless) (holds : custody.Holds v tables)
    (isOpen : v.isTerminal = false) {known : Option Flow}
    (loads : (flowOr known v.flowId).Leaves setting tables fun outcome after _ =>
      outcome = .ok (some flow) ∧ after = tables) :
    (resume deployment account known).Leaves setting v tables fun outcome w after _ =>
      outcome = .ok () ∧ custody.Holds w after ∧ ∃ passed, v.Passes flow w passed := by
  unfold resume traverse
  refine leaves_traversing (leaves_bind (leaves_attempt (leaves_bind (leaves_get (leaves_bind
    (leaves_lift (Operation.leaves_mono loads ?_)))))))
  intro outcome after _ loaded
  obtain ⟨rfl, rfl⟩ := loaded
  refine Program.leaves_mono
    (walk_hops deployment account faultless holds isOpen maxSteps none) ?_
  rintro ⟨_, w⟩ after _ ⟨rfl, stored, visited, hops⟩
  exact fun _ => ⟨rfl, stored, visited, hops.toPasses⟩

/-- A version that is woken is written, before it is walked on. -/
theorem saveExecution_wakes (faultless : setting.IsFaultless) {front back : List Row}
    (stands : tables.Stands front back w) (keeps : w.Keeps e)
    (shown : tables.first? (flowQuery e.flowId) = some flow) :
    saveExecution.Leaves setting e tables fun outcome e' after _ =>
      outcome = .ok ⟨⟩ ∧ e' = e.saved ∧ after.Stands front back e.saved ∧
        after.first? (flowQuery e.flowId) = some flow := by
  let custody := Custody.between front back
  let errand : Errand := ⟨e.flowId, {e.id}, e.extras, Set.univ⟩
  have holds : custody.Holds w tables := stands
  have inStep : saveExecution.InStep errand := inStep_saveExecution
  have saves : saveExecution.Leaves setting e tables fun outcome e' after _ =>
      (∃ a, outcome = .ok a ∧ e' = e.saved ∧ custody.Holds e' after) ∧
        Tables.Files Set.univ tables after ∧ errand.Carries e' :=
    Program.leaves_and (Run.saveExecution_succeeds faultless holds keeps)
      (inStep.files (fun _ => trivial) ⟨rfl, rfl, rfl⟩)
  refine Program.leaves_mono saves ?_
  rintro ⟨_, _⟩ after _ ⟨⟨_, rfl, rfl, stored⟩, files, _⟩
  exact ⟨rfl, rfl, stored, (Tables.first?_congr files.flows).trans shown⟩

end Run

/-- A flow that is stored is loaded. -/
theorem Store.getFlow_alone (faultless : setting.IsFaultless) {id : String}
    (shown : tables.first? (flowQuery id) = some flow) :
    (getFlow id).Leaves setting tables fun outcome after _ =>
      outcome = .ok (some flow) ∧ after = tables := by
  refine leaves_of_leavesAt fun asked => ?_
  rw [← bind_pure (getFlow id), getFlow_eq_first]
  refine first_then faultless rfl (fun found isFirst => ?_) (fun none => ?_) fun none => ?_
  · cases shown.symm.trans isFirst
    exact ⟨rfl, rfl⟩
  · cases shown.symm.trans none
  · cases shown.symm.trans none

/-- What was woken where it was parked goes on from there. -/
theorem Execution.passes_of_woken (active : e.status = .active) (trail : e.trail = w.trail) :
    w.Passes flow e [] where
  trail := trail.trans (List.append_nil _).symm
  leads _ present := absurd present List.not_mem_nil
  parksHere := parksHere_of_status (by rw [active]; decide)

section Resuming

variable (deployment : Deployment) (account : Account) {front back : List Row}

namespace Sweep

/-- A woken execution is stored and goes on. -/
theorem wake_passes (faultless : setting.IsFaultless) (stands : tables.Stands front back w)
    (shown : tables.first? (flowQuery w.flowId) = some flow) {ticket : Ticket}
    (isHere : ticket.nodeId = w.currentNodeId) (now : Timestamp) :
    (Run.on (wake w ticket now) do
      match ← Run.attempt saveExecution with
      | .ok () =>
        Run.resume deployment account (some flow)
        pure true
      | .error failure => if failure.isConflict then pure false else throw failure).Leaves
        setting tables fun outcome after _ => outcome = .ok true ∧
          ∃ e passed, after.Stands front back e ∧ w.Passes flow e passed := by
  have woken : w.Passes flow (wake w ticket now).saved [] :=
    Execution.passes_of_woken rfl (by simp [Execution.trail, wake, Execution.saved, isHere])
  refine Run.leaves_on (Run.leaves_bind (Run.leaves_attempt (Program.leaves_mono
    (Run.saveExecution_wakes faultless stands (.of_same_context rfl rfl rfl rfl) shown) ?_)))
  rintro ⟨_, _⟩ mid _ ⟨rfl, rfl, stored, _⟩
  have holds : (Custody.between front back).Holds (wake w ticket now).saved mid := stored
  refine Run.leaves_bind (Program.leaves_mono (Run.resume_passes deployment account faultless
    holds rfl (leaves_pure ⟨rfl, rfl⟩)) ?_)
  rintro ⟨_, e⟩ after _ ⟨rfl, stored, passed, passes⟩
  exact fun _ => ⟨rfl, e, passed, stored, woken.trans passes⟩

theorem resumeExecution_passes (faultless : setting.IsFaultless)
    (stands : tables.Stands front back w)
    (shown : tables.first? (flowQuery w.flowId) = some flow) (parksHere : w.ParksHere)
    {ticket : Ticket} (parked : isParkedOn w ticket = true) (attempts : Nat) :
    (resumeExecution deployment account ticket (attempts + 1) none w).Leaves setting tables
      fun _ after _ => ∃ e passed, after.Stands front back e ∧ w.Passes flow e passed := by
  have isHere : ticket.nodeId = w.currentNodeId := by
    obtain ⟨waits, isNode⟩ : w.status = .waiting ∧ w.scheduledNodeId = some ticket.nodeId := by
      simpa [isParkedOn] using parked
    have onDelay : w.isWaitingOnDelay = true := by simp [Execution.isWaitingOnDelay, waits, isNode]
    exact Option.some.inj (isNode.symm.trans (parksHere onDelay))
  simp only [resumeExecution, parked, if_true]
  refine leaves_bind (leaves_mono (getFlow_alone faultless shown) ?_)
  rintro _ tables _ ⟨rfl, rfl⟩
  refine leaves_bind (leaves_now fun now => ?_)
  refine leaves_bind (leaves_mono
    (wake_passes deployment account faultless stands shown isHere now) ?_)
  rintro _ mid _ ⟨rfl, e, passed, stored, passes⟩
  refine leaves_bind (leaves_mono (finish_alone faultless ticket .completed none) ?_)
  rintro _ after _ ⟨rfl, time, rfl⟩
  have elsewhere : (finishQuery ticket.id .completed time none).table ≠ .executions := by rintro ⟨⟩
  exact leaves_pure ⟨e, passed, stored.of_same (Query.rows_run_of_ne elsewhere), passes⟩

end Sweep

/-- A message for an execution that waits for one. -/
theorem Inbox.handle_passes (faultless : setting.IsFaultless)
    (stands : tables.Stands front back w) (shown : tables.first? (flowQuery w.flowId) = some flow)
    (waits : w.isWaitingOnInput = true) (message : InboundMessage) (attempts : Nat) :
    (handle deployment account message (attempts + 1)).Leaves setting w tables
      fun _ e after _ => after.Stands front back e ∧ ∃ passed, w.Passes flow e passed := by
  have isOpen : w.isTerminal = false := by
    have waiting : w.status = .waiting ∧ w.scheduledNodeId = none := by
      simpa [Execution.isWaitingOnInput] using waits
    rw [Execution.isTerminal, waiting.1]
    rfl
  have active : (w.receive message).status = .active := if_pos waits
  unfold handle
  refine Run.leaves_bind (Run.leaves_get ?_)
  simp only [isOpen, waits, Bool.false_eq_true, if_false, if_true]
  refine Run.leaves_bind (Run.leaves_set (Run.leaves_bind (Run.leaves_lift (leaves_now fun now =>
    Run.leaves_bind (Run.leaves_modify ?_)))))
  have keeps : w.Keeps ((w.receive message).stamped now) := by
    obtain ⟨id, revision, extras, contextExtras, selectedOptions⟩ := w.receive_keeps message
    exact ⟨id, revision, extras, contextExtras, selectedOptions⟩
  have woken : w.Passes flow ((w.receive message).stamped now).saved [] :=
    Execution.passes_of_woken active rfl
  refine Run.leaves_bind (Run.leaves_attempt (Program.leaves_mono
    (Run.saveExecution_wakes faultless stands keeps shown) ?_))
  rintro ⟨_, _⟩ mid _ ⟨rfl, rfl, stored, stillShown⟩
  have holds : (Custody.between front back).Holds ((w.receive message).stamped now).saved mid :=
    stored
  have stillOpen : ((w.receive message).stamped now).saved.isTerminal = false := by
    rw [Execution.isTerminal, show ((w.receive message).stamped now).saved.status = .active from
      active]
    rfl
  refine Run.leaves_bind (Program.leaves_mono (Run.resume_passes deployment account faultless
    holds stillOpen (getFlow_alone faultless stillShown)) ?_)
  rintro ⟨_, e⟩ after _ ⟨rfl, stored, passed, passes⟩
  exact Run.leaves_get ⟨stored, passed, woken.trans passes⟩

/-- Ways in which a parked execution is resumed. -/
inductive Resumption where
  | sweep (ticket : Ticket)
  | reply (message : InboundMessage)

namespace Resumption

/-- Whether the execution waits for it. -/
def Meets (w : Execution) : Resumption → Prop
  | sweep ticket => Sweep.isParkedOn w ticket = true
  | reply _ => w.isWaitingOnInput = true

/-- What the program does then with the execution. -/
def operation (deployment : Deployment) (account : Account) (attempts : Nat) (w : Execution) :
    Resumption → Operation Unit
  | sweep ticket => do
    let _ ← Sweep.resumeExecution deployment account ticket attempts none w
  | reply message => do
    let _ ← Run.on w (Inbox.handle deployment account message attempts)

variable {attempts : Nat}

theorem operation_passes (faultless : setting.IsFaultless) (stands : tables.Stands front back w)
    (shown : tables.first? (flowQuery w.flowId) = some flow) (parksHere : w.ParksHere)
    {resumption : Resumption} (meets : resumption.Meets w) (tries : 0 < attempts) :
    (resumption.operation deployment account attempts w).Leaves setting tables fun _ after _ =>
      ∃ e passed, after.Stands front back e ∧ w.Passes flow e passed := by
  obtain ⟨attempts, rfl⟩ := Nat.exists_eq_succ_of_ne_zero tries.ne'
  have ignored {α : Type} {operation : Operation α}
      (leaves : operation.Leaves setting tables fun _ after _ =>
        ∃ e passed, after.Stands front back e ∧ w.Passes flow e passed) :
      (do let _ ← operation : Operation Unit).Leaves setting tables fun _ after _ =>
        ∃ e passed, after.Stands front back e ∧ w.Passes flow e passed := by
    refine leaves_bind (leaves_mono leaves ?_)
    rintro (failure | a) after _ passes
    · exact passes
    · exact leaves_pure passes
  cases resumption with
  | sweep ticket =>
    exact ignored (Sweep.resumeExecution_passes deployment account faultless stands shown parksHere
      meets attempts)
  | reply message =>
    refine ignored (Run.leaves_on (Program.leaves_mono (Inbox.handle_passes deployment account
      faultless stands shown meets message attempts) ?_))
    rintro ⟨_, e⟩ after _ ⟨stored, passed, passes⟩
    exact ⟨e, passed, stored, passes⟩

end Resumption

/-- The parked execution is resumed, alone with the store and with nothing refused, while the flow
is as it was. -/
inductive Flow.Resumes (flow : Flow) (w e : Execution) : Prop
  | intro {setting : Setting} {tables : Tables} {front back : List Row} {deployment : Deployment}
    {account : Account} {attempts asked : Nat} (resumption : Resumption)
    (faultless : setting.IsFaultless) (stands : tables.Stands front back w)
    (shown : tables.first? (flowQuery w.flowId) = some flow) (meets : resumption.Meets w)
    (tries : 0 < attempts)
    (leaves : ((resumption.operation deployment account attempts w).run.alone setting tables
      asked).tables.Stands front back e)

theorem Tables.Stands.eq (stands : tables.Stands front back v) (also : tables.Stands front back w) :
    v = w := by
  have rows := stands.rows.symm.trans also.rows
  exact Execution.row_injective stands.regular also.regular
    (List.cons.inj (List.append_cancel_left rows)).1

theorem Flow.Resumes.passes (resumes : flow.Resumes w e) (parksHere : w.ParksHere) :
    ∃ passed, w.Passes flow e passed := by
  obtain ⟨resumption, faultless, stands, shown, meets, tries, leaves⟩ := resumes
  obtain ⟨e', passed, stored, passes⟩ := Resumption.operation_passes _ _ faultless stands shown
    parksHere meets tries _
  exact ⟨passed, leaves.eq stored ▸ passes⟩

theorem Flow.passes_of_resumes (resumes : Relation.ReflTransGen flow.Resumes w e)
    (parksHere : w.ParksHere) : ∃ passed, w.Passes flow e passed := by
  induction resumes with
  | refl => exact ⟨[], .refl parksHere⟩
  | tail _ resumes ih =>
    obtain ⟨passed, first⟩ := ih
    obtain ⟨later, second⟩ := resumes.passes first.parksHere
    exact ⟨passed ++ later, first.trans second⟩

/-- The targets of a hop are executed in order, in this run or in later ones, but for those behind
one that failed or behind the step limit. -/
def Execution.Heeds (w : Execution) (targets visited later : List String) : Prop :=
  w.status = .failed ∧ visited.length < targets.length ∨ targets.Sublist (visited ++ later)

theorem Execution.heeds_iff {targets visited later : List String}
    (order : visited.take targets.length = targets.take visited.length) :
    w.Heeds targets visited later ↔
      w.status = .failed ∨ (targets.drop visited.length).Sublist later := by
  unfold Heeds
  by_cases left : visited.length < targets.length
  · rw [List.take_of_length_le left.le] at order
    have split : targets = visited ++ targets.drop visited.length := by
      conv_lhs => rw [← List.take_append_drop visited.length targets, ← order]
    have same : targets.Sublist (visited ++ later) ↔
        (targets.drop visited.length).Sublist later := by
      conv_lhs => rw [split]
      exact List.append_sublist_append_left visited
    rw [and_iff_left left, same]
  · have whole : targets.take visited.length = targets := List.take_of_length_le (not_lt.mp left)
    have executed : targets.Sublist (visited ++ later) := by
      rw [← whole, ← order]
      exact (List.take_sublist _ _).trans (List.sublist_append_left _ _)
    rw [List.drop_of_length_le (not_lt.mp left)]
    exact iff_of_true (.inr executed) (.inr (List.nil_sublist later))

variable (flow) in
/-- The rest of a run from a hop on, of an execution that nobody else writes. The targets of the hop
are executed first, in the order of the edges; some are left only if one failed or suspended, or at
the step limit. Sweeps and replies that resume the execution go on from the node where it is parked,
and nothing is executed but what the edges lead to from there. So all targets are executed, but for
those behind a failure or the limit, exactly if those that were left are met again, in that order,
behind the target that suspended. -/
theorem targets_are_executed_iff (faultless : setting.IsFaultless)
    (stands : tables.Stands front back v) (isOpen : v.isTerminal = false) (steps : Nat)
    (branch : Option Bool) (asked : Nat) :
    let targets := (flow.successors v.currentNodeId branch).map (·.id)
    let w := (((Run.walk deployment account flow steps [] branch).outcome v).alone setting tables
      asked).value.2
    ∃ visited, w.trail = v.trail ++ visited ∧
      visited.take targets.length = targets.take visited.length ∧
      (visited.length < targets.length → w.status = .failed ∨ w.status = .waiting) ∧
      ∀ last, Relation.ReflTransGen flow.Resumes w last → ∃ later,
        last.trail = w.trail ++ later ∧ (∀ id ∈ later, flow.Leads w.currentNodeId id) ∧
        (w.Heeds targets visited later ↔
          w.status = .failed ∨ (targets.drop visited.length).Sublist later) := by
  have holds : (Custody.between front back).Holds v tables := stands
  obtain ⟨_, _, visited, hops⟩ :=
    Run.walk_hops deployment account faultless holds isOpen steps branch asked
  refine ⟨visited, hops.trail, hops.order, hops.cut, fun last resumes => ?_⟩
  obtain ⟨later, passes⟩ := Flow.passes_of_resumes resumes hops.parksHere
  exact ⟨later, passes.trail, passes.leads, Execution.heeds_iff hops.order⟩

end Resuming

namespace Example

/-- A trigger with two targets: a delay, and an action. -/
def fork : Flow where
  id := "flow"
  userId := none
  accountId := "account"
  name := "Fork"
  description := none
  nodes := [
    ⟨"begin", "trigger", { triggerType := some "keyword", keywords := some ["hi"] }, none, []⟩,
    ⟨"wait", "delay", { value := .int 1 }, none, []⟩,
    ⟨"tag", "action", { actionType := some "add_tag", tag := some "greeted" }, none, []⟩]
  edges := [⟨none, "begin", "wait", none, []⟩, ⟨none, "begin", "tag", none, []⟩]
  isActive := true
  triggerCount := 0
  lastTriggeredAt := none
  createdAt := none
  updatedAt := none
  extras := []

def forkRow : Row :=
  [("id", .text "flow"), ("account_id", .text "account"), ("name", .text "Fork"),
    ("is_active", .bool true),
    ("nodes", .list [
      .record [("id", .text "begin"), ("type", .text "trigger"), ("data", .record
        [("trigger_type", .text "keyword"), ("keywords", .list [.text "hi"])])],
      .record [("id", .text "wait"), ("type", .text "delay"), ("data", .record
        [("delay_type", .text "minutes"), ("value", .int 1)])],
      .record [("id", .text "tag"), ("type", .text "action"), ("data", .record
        [("action_type", .text "add_tag"), ("tag", .text "greeted")])]]),
    ("edges", .list [
      .record [("source", .text "begin"), ("target", .text "wait")],
      .record [("source", .text "begin"), ("target", .text "tag")]])]

/-- The execution at its trigger. -/
def outset : Execution :=
  { parked with
    currentNodeId := "begin"
    previousNodeIds := []
    status := .active
    scheduledAt := none
    scheduledNodeId := none
    revision := 0 }

def forkTables (v : Execution) : Tables :=
  { flows := ⟨[forkRow], 0⟩, executions := ⟨[v.row], 0⟩ }

/-- The execution as it is completed by the sweep. -/
def unforked : Execution :=
  { parked with
    status := .completed
    scheduledAt := none
    scheduledNodeId := none
    revision := 3
    completedAt := some default }

theorem stands_fork {tables : Tables} {v : Execution} (rows : tables.executionRows = [v.row])
    (extras : v.extras = [] ∧ v.context.extras = []) : tables.Stands [] [] v where
  rows := rows
  others _ present := absurd present List.not_mem_nil
  regular := ⟨extras.1 ▸ Document.clean_nil _, extras.2 ▸ Document.clean_nil _⟩
  writable := Run.isWritable_of_noExtras extras.2 extras.1

/-- Behind the delay, the sweep comes to the end of the flow. -/
theorem resumes_fork : fork.Resumes parked unforked := by
  have faultless : quiet.IsFaultless := fun _ => rfl
  have stands : (forkTables parked).Stands [] [] parked := stands_fork rfl ⟨rfl, rfl⟩
  have shown : (forkTables parked).first? (flowQuery parked.flowId) = some fork := by
    decide +kernel
  have meets : (Resumption.sweep alarmTicket).Meets parked := by
    unfold Resumption.Meets
    decide
  have leaves : (((Resumption.sweep alarmTicket).operation deployment { id := "account" } 1
      parked).run.alone quiet (forkTables parked) 0).tables.Stands [] [] unforked :=
    stands_fork (by decide +kernel) ⟨rfl, rfl⟩
  exact .intro _ faultless stands shown meets Nat.one_pos leaves

/-- The first run ends at the delay. -/
theorem parked_of_fork :
    (((Run.walk deployment { id := "account" } fork Run.maxSteps [] none).outcome outset).alone
      quiet (forkTables outset) 0).value.2 = parked := by decide +kernel

end Example

open Example in
/-- Of the two targets the first one suspends; the other one is executed only if the edges of the
first lead to it. -/
theorem targets_are_executed_iff_fork :
    (quiet.IsFaultless ∧ (forkTables outset).Stands [] [] outset ∧ outset.isTerminal = false) ∧
      ∀ last, Relation.ReflTransGen fork.Resumes parked last → ∃ later,
        last.trail = parked.trail ++ later ∧
        (parked.Heeds ["wait", "tag"] ["wait"] later ↔ ["tag"].Sublist later) := by
  have faultless : quiet.IsFaultless := fun _ => rfl
  have stands : (forkTables outset).Stands [] [] outset := stands_fork rfl ⟨rfl, rfl⟩
  obtain ⟨visited, trail, _, _, resumed⟩ := targets_are_executed_iff fork deployment
    { id := "account" } faultless stands rfl Run.maxSteps none 0
  rw [parked_of_fork] at trail resumed
  obtain rfl : ["wait"] = visited := List.append_cancel_left trail
  refine ⟨⟨faultless, stands, rfl⟩, fun last resumes => ?_⟩
  obtain ⟨later, extends_, _, heeds⟩ := resumed last resumes
  have targets : (fork.successors outset.currentNodeId none).map (·.id) = ["wait", "tag"] := by
    decide +kernel
  rw [targets] at heeds
  exact ⟨later, extends_, heeds.trans (or_iff_right (by decide))⟩

open Example in
/-- The second target of a hop is lost behind a delay. -/
theorem not_all_targets_are_executed : ¬ ∀ (setting : Setting) (deployment : Deployment)
    (account : Account) (flow : Flow) (tables : Tables) (front back : List Row)
    (v last : Execution) (steps asked : Nat) (branch : Option Bool) (visited later : List String),
    let w := (((Run.walk deployment account flow steps [] branch).outcome v).alone setting tables
      asked).value.2
    setting.IsFaultless → tables.Stands front back v → v.isTerminal = false →
      Relation.ReflTransGen flow.Resumes w last → last.isTerminal = true →
      w.trail = v.trail ++ visited → last.trail = w.trail ++ later →
      w.Heeds ((flow.successors v.currentNodeId branch).map (·.id)) visited later := by
  intro always
  have heeds := always quiet deployment { id := "account" } fork (forkTables outset) [] [] outset
    unforked Run.maxSteps 0 none ["wait"] [] (fun _ => rfl) (stands_fork rfl ⟨rfl, rfl⟩) rfl
  rw [parked_of_fork] at heeds
  have lost := heeds (.single resumes_fork) rfl rfl rfl
  unfold Execution.Heeds at lost
  revert lost
  decide +kernel

end MessageFlow
