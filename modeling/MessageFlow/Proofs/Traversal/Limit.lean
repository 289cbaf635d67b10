import MessageFlow.Proofs.Alone.Run
import MessageFlow.Proofs.Alone.Success
import MessageFlow.Proofs.Among.Message
import MessageFlow.Proofs.Traversal.Journey
import MessageFlow.Simulation.World

/-!
The step limit. Alone with the store, a traversal executes at most as many nodes as it may, leaves
the execution waiting or finished and stored as it is in hand, and differs from the traversal that
may execute more nodes only if that one does so. To count the nodes, journeys are run alone in the
way that their programs are.
-/

namespace MessageFlow

section Ride

variable {setting : Setting} {tables : Tables} {α β : Type}

/-- How a journey has gone alone. -/
structure Ride (α : Type) where
  value : α
  tables : Tables
  /-- How many requests were asked so far. -/
  asked : Nat
  /-- The nodes that were executed, in this order. -/
  entered : List Node

/-- The ride that begins with the execution of a node. -/
def Ride.after (node : Node) (ride : Ride α) : Ride α :=
  { ride with entered := node :: ride.entered }

namespace Journey

/-- Goes on a journey alone; `asked` requests were asked before. -/
def alone (setting : Setting) : Journey α → Tables → Nat → Ride α
  | .done value, tables, asked => ⟨value, tables, asked, []⟩
  | .enter node rest, tables, asked => (rest.alone setting tables asked).after node
  | .ask request next, tables, asked =>
    let served := setting.serve asked tables request
    (next served.1).alone setting served.2 (asked + 1)

theorem alone_bind (setting : Setting) (journey : Journey α) (f : α → Journey β) (tables : Tables)
    (asked : Nat) : (journey.bind f).alone setting tables asked =
      let first := journey.alone setting tables asked
      let rest := (f first.value).alone setting first.tables first.asked
      { rest with entered := first.entered ++ rest.entered } := by
  induction journey generalizing tables asked with
  | done value => rfl
  | enter node rest ih =>
    simp only [bind, alone, Ride.after, ih, List.cons_append]
  | ask request next ih => exact ih _ _ _

theorem alone_ofProgram (setting : Setting) (p : Program α) (tables : Tables) (asked : Nat) :
    (ofProgram p).alone setting tables asked =
      let run := p.alone setting tables asked
      ⟨run.value, run.tables, run.asked, []⟩ := by
  induction p generalizing tables asked with
  | done value => rfl
  | ask traversed request next ih => exact ih _ _ _

/-- Without its marks, a journey goes as its program runs. -/
theorem alone_program (setting : Setting) (execution : String) (journey : Journey α)
    (tables : Tables) (asked : Nat) :
    ((journey.program execution).alone setting tables asked).value =
        (journey.alone setting tables asked).value ∧
      ((journey.program execution).alone setting tables asked).tables =
        (journey.alone setting tables asked).tables := by
  induction journey generalizing tables asked with
  | done value => exact ⟨rfl, rfl⟩
  | enter node rest ih => exact ih tables asked
  | ask request next ih => exact ih _ _ _

end Journey

end Ride

/-- Whether the execution was failed for the number of its steps. -/
def Execution.HitsLimit (e : Execution) : Prop :=
  e.status = .failed ∧ e.lastError = some Run.stepLimitError

/-- Whether a traversal may leave an execution like this. -/
def Execution.IsSettled (e : Execution) : Prop :=
  e.status = .waiting ∨ e.status = .completed ∨ e.status = .failed

namespace Run.Visits

variable {v e : Execution} {node : Node} {outcome : NodeOutcome} {outcome? : Option NodeOutcome}

theorem trail (visits : Visits v node outcome? e) : e.trail = v.trail ++ [node.id] := by
  cases visits with
  | handled wake now => exact ((v.movedTo node).afterNode_accompanies node wake).trail
  | failed failure own now => rfl

/-- A visit after which the run goes on leaves the status alone. -/
theorem status (visits : Visits v node (some outcome) e) : e.status = v.status := by
  generalize isSome : some outcome = outcome? at visits
  cases visits with
  | handled wake now =>
    cases goesOn : (node.outcome v.context).continues with
    | false =>
      rw [goesOn] at isSome
      cases isSome
    | true =>
      refine ((v.movedTo node).status_afterNode node wake).trans ?_
      exact if_pos goesOn
  | failed => cases isSome

/-- Any other visit leaves an execution that waits, or one that failed of its node. -/
theorem stops (visits : Visits v node none e) : e.status = .waiting ∨
    e.status = .failed ∧ ∃ failure : Failure, failure.isOwn = true ∧
      e.lastError = some failure.record := by
  generalize isNone : none = outcome? at visits
  cases visits with
  | handled wake now =>
    cases goesOn : (node.outcome v.context).continues with
    | true =>
      rw [goesOn] at isNone
      cases isNone
    | false =>
      exact .inl (((v.movedTo node).status_afterNode node wake).trans
        (if_neg (by rw [show (v.movedTo node).context = v.context from rfl, goesOn]; decide)))
  | failed failure own now => exact .inr ⟨rfl, failure, own, rfl⟩

theorem settled (visits : Visits v node none e) : e.IsSettled ∧ ¬ e.HitsLimit := by
  rcases visits.stops with waits | ⟨fails, failure, own, error⟩
  · refine ⟨.inl waits, fun hits => ?_⟩
    cases waits.symm.trans hits.1
  · refine ⟨.inr (.inr fails), fun hits => ?_⟩
    exact failure.record_ne_stepLimitError own (Option.some.inj (error.symm.trans hits.2))

end Run.Visits

namespace Journey

variable (deployment : Deployment) (account : Account) (flow : Flow) {setting : Setting}
  {tables : Tables} {custody : Custody} {v : Execution}

/-- One hop of a walk alone: the execution is completed, however many nodes may still be executed;
or it is failed if there may be none, and goes on from a visit otherwise. -/
theorem walk_cases (faultless : setting.IsFaultless) (holds : custody.Holds v tables)
    (isOpen : v.isTerminal = false) (queue : List Node) (branch : Option Bool) (asked : Nat) :
    (Run.upcoming flow queue branch v = some [] ∧
      ∃ time now mid asked', custody.Holds ((v.completed time).stamped now).saved mid ∧
        ∀ steps, (walk deployment account flow steps queue branch v).alone setting tables asked =
          ⟨(.ok (), ((v.completed time).stamped now).saved), mid, asked', []⟩) ∨
      ∃ node rest, Run.upcoming flow queue branch v = some (node :: rest) ∧
        (∃ now mid asked',
          custody.Holds ((v.failed Run.stepLimitError).stamped now).saved mid ∧
          (walk deployment account flow 0 queue branch v).alone setting tables asked =
            ⟨(.ok (), ((v.failed Run.stepLimitError).stamped now).saved), mid, asked', []⟩) ∧
        ∃ outcome? e mid asked', Run.Visits v node outcome? e ∧ custody.Holds e mid ∧
          ∀ steps, (walk deployment account flow (steps + 1) queue branch v).alone setting tables
            asked = match outcome? with
              | none => ⟨(.ok (), e), mid, asked', [node]⟩
              | some outcome => ((walk deployment account flow steps rest outcome.branch? e).alone
                  setting mid asked').after node := by
  cases next : Run.upcoming flow queue branch v with
  | none =>
    -- only a finished execution has nothing to come
    unfold Run.upcoming at next
    rw [isOpen] at next
    split at next
    · cases next
    · cases next
  | some nodes =>
    cases nodes with
    | nil =>
      obtain ⟨a, isOk, ⟨time, now, isLast⟩, stored⟩ := Run.complete_succeeds faultless holds asked
      generalize isRun : (Run.outcome v Run.complete).alone setting tables asked = run
        at isOk isLast stored
      refine .inl ⟨rfl, time, now, run.tables, run.asked, isLast ▸ stored, fun steps => ?_⟩
      unfold walk
      rw [next]
      dsimp only
      rw [alone_ofProgram, isRun]
      exact congrArg (Ride.mk · _ _ []) (Prod.ext isOk isLast)
    | cons node rest =>
      refine .inr ⟨node, rest, rfl, ?_, ?_⟩
      · obtain ⟨a, isOk, ⟨now, isLast⟩, stored⟩ :=
          Run.fail_succeeds faultless holds (.of_same_context rfl rfl rfl rfl)
            Run.stepLimitError asked
        generalize isRun :
          (Run.outcome v (Run.fail Run.stepLimitError)).alone setting tables asked = run
          at isOk isLast stored
        refine ⟨now, run.tables, run.asked, isLast ▸ stored, ?_⟩
        unfold walk
        rw [next]
        dsimp only
        rw [alone_ofProgram, isRun]
        exact congrArg (Ride.mk · _ _ []) (Prod.ext isOk isLast)
      · obtain ⟨outcome?, isOk, visits, stored⟩ :=
          Run.visit_succeeds deployment account flow node faultless holds asked
        generalize isRun : (Run.outcome v (Run.visit deployment account flow node)).alone setting
          tables asked = run at isOk visits stored
        obtain ⟨⟨outcome, e⟩, after, asked', log⟩ := run
        cases isOk
        refine ⟨outcome?, e, after, asked', visits, stored, fun steps => ?_⟩
        conv_lhs => unfold walk
        rw [next]
        dsimp only
        rw [alone, alone_bind, alone_ofProgram, isRun]
        cases outcome? with
        | none => rfl
        | some outcome => rfl

/-- What a walk alone leaves. -/
structure Settles (custody : Custody) (v : Execution) (steps : Nat)
    (ride : Ride (Except Failure Unit × Execution)) : Prop where
  succeeds : ride.value.1 = .ok ()
  stored : custody.Holds ride.value.2 ride.tables
  settled : ride.value.2.IsSettled
  trail : ride.value.2.trail = v.trail ++ ride.entered.map (·.id)
  bounded : ride.entered.length ≤ steps

theorem isOpen_of_visits {node : Node} {outcome : NodeOutcome} {e : Execution}
    (visits : Run.Visits v node (some outcome) e) (isOpen : v.isTerminal = false) :
    e.isTerminal = false := by
  rw [Execution.isTerminal, visits.status]
  exact isOpen

theorem walk_settles (faultless : setting.IsFaultless) (holds : custody.Holds v tables)
    (isOpen : v.isTerminal = false) (steps : Nat) (queue : List Node) (branch : Option Bool)
    (asked : Nat) : Settles custody v steps
      ((walk deployment account flow steps queue branch v).alone setting tables asked) := by
  induction steps generalizing v tables queue branch asked with
  | zero =>
    rcases walk_cases deployment account flow faultless holds isOpen queue branch asked with
      ⟨_, time, now, mid, asked', stored, rides⟩ |
        ⟨node, rest, _, ⟨now, mid, asked', stored, rides⟩, _⟩
    · rw [rides 0]
      exact ⟨rfl, stored, .inr (.inl rfl), (List.append_nil _).symm, le_rfl⟩
    · rw [rides]
      exact ⟨rfl, stored, .inr (.inr rfl), (List.append_nil _).symm, le_rfl⟩
  | succ steps ih =>
    rcases walk_cases deployment account flow faultless holds isOpen queue branch asked with
      ⟨_, time, now, mid, asked', stored, rides⟩ |
        ⟨node, rest, _, _, outcome?, e, mid, asked', visits, stored, rides⟩
    · rw [rides]
      exact ⟨rfl, stored, .inr (.inl rfl), (List.append_nil _).symm, Nat.zero_le _⟩
    · rw [rides]
      cases outcome? with
      | none =>
        exact ⟨rfl, stored, visits.settled.1, visits.trail, Nat.succ_le_succ (Nat.zero_le _)⟩
      | some outcome =>
        have further := ih stored (isOpen_of_visits visits isOpen) rest outcome.branch? asked'
        refine ⟨further.succeeds, further.stored, further.settled, ?_,
          Nat.succ_le_succ further.bounded⟩
        refine further.trail.trans ?_
        rw [visits.trail, List.append_assoc]
        rfl

/-- A walk that may execute more nodes is the same, or this one has ended at its limit. -/
theorem walk_limit (faultless : setting.IsFaultless) (holds : custody.Holds v tables)
    (isOpen : v.isTerminal = false) (steps : Nat) (queue : List Node) (branch : Option Bool)
    (asked : Nat) :
    let ride steps :=
      (walk deployment account flow steps queue branch v).alone setting tables asked
    (¬ (ride steps).value.2.HitsLimit ∧ ∀ more, steps ≤ more → ride more = ride steps) ∨
      ((ride steps).value.2.HitsLimit ∧ (ride steps).entered.length = steps ∧
        ∀ more, steps < more →
          ∃ node rest, (ride more).entered = (ride steps).entered ++ node :: rest) := by
  have completes (v : Execution) (time now : Timestamp) :
      ¬ (((v.completed time).stamped now).saved).HitsLimit := fun hits => nomatch hits.1
  dsimp only
  induction steps generalizing v tables queue branch asked with
  | zero =>
    rcases walk_cases deployment account flow faultless holds isOpen queue branch asked with
      ⟨_, time, now, mid, asked', stored, rides⟩ |
        ⟨node, rest, _, ⟨now, mid, asked', _, fails⟩, outcome?, e, after, asked'', visits, _,
          rides⟩
    · refine .inl ⟨?_, fun more _ => (rides more).trans (rides 0).symm⟩
      rw [rides]
      exact completes v time now
    · rw [fails]
      refine .inr ⟨⟨rfl, rfl⟩, rfl, fun more isMore => ?_⟩
      obtain ⟨steps, rfl⟩ := Nat.exists_eq_succ_of_ne_zero isMore.ne'
      rw [rides]
      cases outcome? with
      | none => exact ⟨node, [], rfl⟩
      | some outcome => exact ⟨node, _, rfl⟩
  | succ steps ih =>
    rcases walk_cases deployment account flow faultless holds isOpen queue branch asked with
      ⟨_, time, now, mid, asked', stored, rides⟩ |
        ⟨node, rest, _, _, outcome?, e, mid, asked', visits, stored, rides⟩
    · refine .inl ⟨?_, fun more _ => (rides more).trans (rides _).symm⟩
      rw [rides]
      exact completes v time now
    · cases outcome? with
      | none =>
        refine .inl ⟨?_, fun more isMore => ?_⟩
        · rw [rides]
          exact visits.settled.2
        · obtain ⟨more, rfl⟩ := Nat.exists_eq_add_of_le' isMore
          exact (rides (more + steps)).trans (rides steps).symm
      | some outcome =>
        rcases ih stored (isOpen_of_visits visits isOpen) rest outcome.branch? asked' with
          ⟨within, same⟩ | ⟨hits, full, longer⟩
        · refine .inl ⟨?_, fun more isMore => ?_⟩
          · rw [rides]
            exact within
          · obtain ⟨more, rfl⟩ := Nat.exists_eq_succ_of_ne_zero (Nat.ne_zero_of_lt isMore)
            refine (rides more).trans (Eq.trans ?_ (rides steps).symm)
            exact congrArg (Ride.after node) (same more (Nat.le_of_succ_le_succ isMore))
        · refine .inr ⟨?_, ?_, fun more isMore => ?_⟩
          · rw [rides]
            exact hits
          · rw [rides]
            exact congrArg Nat.succ full
          · obtain ⟨more, rfl⟩ := Nat.exists_eq_succ_of_ne_zero (Nat.ne_zero_of_lt isMore)
            obtain ⟨last, others, further⟩ := longer more (Nat.lt_of_succ_lt_succ isMore)
            refine ⟨last, others, ?_⟩
            rw [rides, rides]
            exact congrArg (List.cons node) further

variable (setting) in
/-- How an execution is walked on alone, if at most `steps` nodes may be executed. -/
def tour (v : Execution) (tables : Tables) (asked steps : Nat) :
    Ride (Except Failure Unit × Execution) :=
  (walk deployment account flow steps [] none v).alone setting tables asked

theorem resume_eq_tour (faultless : setting.IsFaultless) (holds : custody.Holds v tables)
    (isOpen : v.isTerminal = false) (asked : Nat) :
    (resume deployment account (some flow) v).alone setting tables asked =
      tour deployment account flow setting v tables asked Run.maxSteps := by
  have settles := walk_settles deployment account flow faultless holds isOpen Run.maxSteps [] none
    asked
  change ((walk deployment account flow Run.maxSteps [] none v).bind _).alone setting tables asked =
    (walk deployment account flow Run.maxSteps [] none v).alone setting tables asked
  rw [alone_bind]
  generalize (walk deployment account flow Run.maxSteps [] none v).alone setting tables asked =
    first at settles ⊢
  obtain ⟨⟨outcome, e⟩, after, asked', entered⟩ := first
  cases settles.succeeds
  exact congrArg (Ride.mk _ _ _) (List.append_nil entered)

/-- An execution that nobody else writes is resumed with its flow, and no query is refused. The run
ends without a failure and leaves the stored execution as it is in hand: waiting, completed or
failed. It executes at most `maxSteps` nodes, those whose ids the trail grows by. It is failed for
the number of its steps exactly if a tour that may go further executes more nodes, and then these
are the first ones of such a tour; otherwise a tour that may go further is the same. -/
theorem resume_within_limit (faultless : setting.IsFaultless) (has : tables.Has v.id (some v))
    (isOpen : v.isTerminal = false) (asked : Nat) :
    let run := ((Run.resume deployment account (some flow)).outcome v).alone setting tables asked
    let ride := (resume deployment account (some flow) v).alone setting tables asked
    let further steps := tour deployment account flow setting v tables asked steps
    (run.value = ride.value ∧ run.tables = ride.tables) ∧
      (ride.value.1 = .ok () ∧ ride.tables.Has v.id (some ride.value.2) ∧
        ride.value.2.IsSettled) ∧
      (ride.entered.length ≤ Run.maxSteps ∧
        ride.value.2.trail = v.trail ++ ride.entered.map (·.id)) ∧
      (ride.value.2.HitsLimit ↔ ∃ steps, Run.maxSteps < (further steps).entered.length) ∧
      (∀ steps, Run.maxSteps < (further steps).entered.length →
        ride.entered.length = Run.maxSteps ∧
          ride.entered = (further steps).entered.take Run.maxSteps) ∧
      ((∀ steps, (further steps).entered.length ≤ Run.maxSteps) →
        ∀ steps, Run.maxSteps ≤ steps → further steps = ride) := by
  dsimp only
  have erases := alone_program setting v.id (resume deployment account (some flow) v) tables asked
  rw [program_resume] at erases
  refine ⟨erases, ?_⟩
  have holds : (Custody.sole v.id).Holds v tables := has
  rw [resume_eq_tour deployment account flow faultless holds isOpen]
  have settles (steps : Nat) : Settles (Custody.sole v.id) v steps
      (tour deployment account flow setting v tables asked steps) :=
    walk_settles deployment account flow faultless holds isOpen steps [] none asked
  have limit : _ ∨ _ :=
    walk_limit deployment account flow faultless holds isOpen Run.maxSteps [] none asked
  have same (steps : Nat) : (walk deployment account flow steps [] none v).alone setting tables
    asked = tour deployment account flow setting v tables asked steps := rfl
  simp only [same] at limit
  generalize tour deployment account flow setting v tables asked = further at settles limit ⊢
  refine ⟨⟨(settles _).succeeds, (settles _).stored, (settles _).settled⟩,
    ⟨(settles _).bounded, (settles _).trail⟩, ?_⟩
  have beyond {steps : Nat} (more : Run.maxSteps < (further steps).entered.length) :
      Run.maxSteps < steps :=
    more.trans_le (settles steps).bounded
  rcases limit with ⟨within, longer⟩ | ⟨hits, full, longer⟩
  · have never (steps : Nat) : ¬ Run.maxSteps < (further steps).entered.length := by
      intro more
      rw [longer steps (beyond more).le] at more
      exact absurd (settles Run.maxSteps).bounded (not_le_of_gt more)
    exact ⟨⟨fun hits => absurd hits within, fun ⟨steps, more⟩ => absurd more (never steps)⟩,
      fun steps more => absurd more (never steps), fun _ => longer⟩
  · have one : Run.maxSteps < (further (Run.maxSteps + 1)).entered.length := by
      obtain ⟨node, rest, entered⟩ := longer (Run.maxSteps + 1) (Nat.lt_succ_self _)
      rw [entered, List.length_append, full, List.length_cons]
      omega
    refine ⟨⟨fun _ => ⟨_, one⟩, fun _ => hits⟩, fun steps more => ⟨full, ?_⟩,
      fun never => absurd (never _) (not_le_of_gt one)⟩
    obtain ⟨node, rest, entered⟩ := longer steps (beyond more)
    rw [entered, List.take_left' full]

end Journey

namespace Example

/-- Two nodes that lead to each other. -/
def circle : Flow where
  id := "flow"
  userId := none
  accountId := "account"
  name := "Circle"
  description := none
  nodes := ["wait", "turn"].map fun id =>
    ⟨id, "action", { actionType := some "subscribe" }, none, []⟩
  edges := [⟨none, "wait", "turn", none, []⟩, ⟨none, "turn", "wait", none, []⟩]
  isActive := true
  triggerCount := 0
  lastTriggeredAt := none
  createdAt := none
  updatedAt := none
  extras := []

theorem no_refusal (failure : Failure) (refused : none = some failure) :
    failure.isConflict = false := by
  cases refused

/-- Nothing is refused, and what is told is what a world at rest tells. -/
def quiet : Setting where
  told _ request := (World.answer request { clock := default, cacheLifetime := .int 300 }).1
  noConflict _ := no_refusal

def circling : Ride (Except Failure Unit × Execution) :=
  (Journey.resume deployment { id := "account" } (some circle) parked).alone quiet parkedTables 0

end Example

open Example in
/-- An execution that circles is stopped after a hundred nodes. -/
theorem resume_within_limit_circle :
    (quiet.IsFaultless ∧ parkedTables.Has "execution" (some parked) ∧ parked.isTerminal = false) ∧
      circling.value.2.HitsLimit ∧ circling.entered.length = 100 ∧
      circling.tables.Has "execution" (some circling.value.2) ∧
      ∃ steps, Run.maxSteps < (Journey.tour deployment { id := "account" } circle quiet parked
        parkedTables 0 steps).entered.length := by
  have hits : circling.value.2.HitsLimit ∧ circling.entered.length = 100 := by
    unfold Execution.HitsLimit
    decide +kernel
  have faultless : quiet.IsFaultless := fun _ => rfl
  have isOpen : parked.isTerminal = false := rfl
  obtain ⟨_, ⟨_, stored, _⟩, _, limit, _⟩ := Journey.resume_within_limit deployment
    { id := "account" } circle faultless (v := parked) has_parked isOpen 0
  exact ⟨⟨faultless, has_parked, isOpen⟩, hits.1, hits.2, stored, limit.mp hits.1⟩

end MessageFlow
