import MessageFlow.Proofs.Tickets.Delay

/-!
What a stored execution says about its outcome: when it was completed, with which error it failed,
and which status may follow which.
-/

namespace MessageFlow

/-- The status that one write may give to an execution. -/
def Status.successors : Status → List Status
  | .active => [.active, .waiting, .completed, .failed]
  | .waiting => [.waiting, .active, .failed]
  | .completed | .failed | .paused => []

theorem Failure.record_ne (failure : Failure) : failure.record ≠ "" := by
  unfold Failure.record
  split
  · unfold Failure.kind
    grind
  · next told =>
    intro empty
    rw [empty] at told
    exact told rfl

namespace Execution

/-- The time of completion and the error are those of the status. -/
structure ShowsOutcome (v : Execution) : Prop where
  completion : v.completedAt.isSome ↔ v.status = .completed
  failure : (∃ reason, v.lastError = some reason ∧ reason ≠ "") ↔ v.status = .failed
  faultless : v.status ≠ .failed → v.lastError = none
  unpaused : v.status ≠ .paused

/-- The next version of an execution. -/
structure Precedes (v w : Execution) : Prop where
  revision : w.revision = v.revision + 1
  status : w.status ∈ v.status.successors

/-- The execution has no outcome yet, and says nothing about one. -/
structure IsUndecided (v : Execution) : Prop where
  isOpen : v.status.isOpen = true
  completedAt : v.completedAt = none
  lastError : v.lastError = none

variable {v e : Execution}

theorem ShowsOutcome.stamped (shows : v.ShowsOutcome) (now : Timestamp) :
    (v.stamped now).ShowsOutcome :=
  ⟨shows.completion, shows.failure, shows.faultless, shows.unpaused⟩

theorem ShowsOutcome.saved (shows : v.ShowsOutcome) : v.saved.ShowsOutcome :=
  ⟨shows.completion, shows.failure, shows.faultless, shows.unpaused⟩

theorem IsUndecided.showsOutcome (undecided : v.IsUndecided) : v.ShowsOutcome := by
  obtain ⟨isOpen, completedAt, lastError⟩ := undecided
  have running : v.status ≠ .completed ∧ v.status ≠ .failed ∧ v.status ≠ .paused := by
    refine ⟨?_, ?_, ?_⟩ <;> exact fun ended => absurd (ended ▸ isOpen) (by decide)
  constructor
  · simp [completedAt, running.1]
  · simp [lastError, running.2.1]
  · exact fun _ => lastError
  · exact running.2.2

theorem ShowsOutcome.undecided (shows : v.ShowsOutcome) (isOpen : v.isTerminal = false) :
    v.IsUndecided where
  isOpen := by
    have unpaused := shows.unpaused
    rw [isTerminal] at isOpen
    revert isOpen unpaused
    cases v.status <;> decide
  completedAt := by
    rw [← Option.not_isSome_iff_eq_none, shows.completion]
    intro completed
    rw [isTerminal, completed] at isOpen
    cases isOpen
  lastError := by
    refine shows.faultless fun failed => ?_
    rw [isTerminal, failed] at isOpen
    cases isOpen

/-- A reason is recorded with the failure. -/
theorem IsUndecided.failed (undecided : v.IsUndecided) {reason : String} (told : reason ≠ "") :
    (v.failed reason).ShowsOutcome where
  completion := by simp [Execution.failed, undecided.completedAt]
  failure := by simp [Execution.failed, told]
  faultless unfailed := absurd rfl unfailed
  unpaused := Status.noConfusion

theorem IsUndecided.completed (undecided : v.IsUndecided) (time : Timestamp) :
    (v.completed time).ShowsOutcome where
  completion := by simp [Execution.completed]
  failure := by simp [Execution.completed, undecided.lastError]
  faultless _ := undecided.lastError
  unpaused := Status.noConfusion

theorem IsUndecided.failed_mem (undecided : v.IsUndecided) :
    Status.failed ∈ v.status.successors := by
  have isOpen := undecided.isOpen
  revert isOpen
  cases v.status <;> decide

/-- A node leaves what is undecided undecided. -/
theorem IsUndecided.afterNode (undecided : v.IsUndecided) (node : Node) (wake : Timestamp) :
    (v.afterNode node wake).IsUndecided := by
  obtain ⟨isOpen, completedAt, lastError⟩ := undecided
  unfold Execution.afterNode
  split
  · exact ⟨rfl, completedAt, lastError⟩
  · simp only
    split
    · exact ⟨rfl, completedAt, lastError⟩
    · exact ⟨isOpen, completedAt, lastError⟩
  · exact ⟨isOpen, completedAt, lastError⟩

theorem IsUndecided.mem_of_active (undecided : e.IsUndecided) (active : v.status = .active) :
    e.status ∈ v.status.successors := by
  have isOpen := undecided.isOpen
  rw [active]
  revert isOpen
  cases e.status <;> decide

/-- What a traversal makes of an active execution. -/
theorem Advance.showsOutcome (advance : v.Advance e) (shows : v.ShowsOutcome) :
    e.ShowsOutcome ∧ e.status ∈ v.status.successors := by
  have undecided : v.IsUndecided := by
    refine shows.undecided ?_
    rw [isTerminal, advance.active]
    rfl
  have moved (node : Node) : (v.movedTo node).IsUndecided := ⟨undecided.isOpen,
    undecided.completedAt, undecided.lastError⟩
  cases advance with
  | node node wake now active =>
    have handled := (moved node).afterNode node wake
    exact ⟨handled.showsOutcome.stamped now, handled.mem_of_active active⟩
  | failedNode node failure now active =>
    exact ⟨((moved node).failed failure.record_ne).stamped now, undecided.failed_mem⟩
  | stopped reason now active known =>
    have told : reason ≠ "" := by
      rcases known with rfl | rfl
      · decide
      · decide
    exact ⟨(undecided.failed told).stamped now, undecided.failed_mem⟩
  | completed time now active =>
    refine ⟨(undecided.completed time).stamped now, ?_⟩
    change Status.completed ∈ _
    rw [active]
    decide

end Execution

/-- What a task makes of an execution from outside. -/
theorem Task.Intervenes.showsOutcome {task : Task} {v e : Execution} (change : task.Intervenes v e)
    (shows : v.ShowsOutcome) : e.ShowsOutcome ∧ e.status ∈ v.status.successors := by
  -- All of them look at the status first, so there is no outcome yet that they could overwrite.
  have undecided := shows.undecided change.isOpen
  have fails {reason : String} (told : reason ≠ "") (now : Timestamp) :
      ((v.failed reason).stamped now).ShowsOutcome ∧ Status.failed ∈ v.status.successors :=
    ⟨(undecided.failed told).stamped now, undecided.failed_mem⟩
  cases change with
  | message message now brought isOpen =>
    have status : ((v.receive message).stamped now).status =
        if v.isWaitingOnInput then .active else v.status := rfl
    have heard : ((v.receive message).stamped now).IsUndecided := by
      refine ⟨?_, undecided.completedAt, undecided.lastError⟩
      rw [status]
      split
      · rfl
      · exact undecided.isOpen
    refine ⟨heard.showsOutcome, ?_⟩
    rw [status]
    split
    · next waits =>
      have waiting : v.status = .waiting := by
        rw [Execution.isWaitingOnInput, Bool.and_eq_true] at waits
        exact eq_of_beq waits.1
      rw [waiting]
      decide
    · have isOpen := undecided.isOpen
      revert isOpen
      cases v.status <;> decide
  | wake ticket now sweeps parked =>
    have woken : (Sweep.wake v ticket now).IsUndecided :=
      ⟨rfl, undecided.completedAt, undecided.lastError⟩
    refine ⟨woken.showsOutcome, ?_⟩
    change Status.active ∈ _
    rw [Task.status_of_isParkedOn parked]
    decide
  | flowLost ticket now sweeps parked => exact fails (by decide) now
  | flowDeleted now deletes isOpen => exact fails (by decide) now

theorem Task.Writes.showsOutcome {task : Task} {s : Station} {v e : Execution} {goesOn : Bool}
    {desk : Except Failure (List Row) → Desk} (writes : task.Writes s v e goesOn desk)
    (shows : v.ShowsOutcome) : e.ShowsOutcome ∧ e.status ∈ v.status.successors := by
  rcases writes.change with outside | inside
  · exact outside.showsOutcome shows
  · exact inside.showsOutcome shows

namespace Scene

/-- All stored executions show their outcome. -/
structure Decided (scene : Scene) : Prop where
  sound : scene.IsSound
  shows : ∀ v, scene.tables.Stores v → v.ShowsOutcome

variable {scene : Scene} {event : Event} {after : Except Failure (List Row) → Station}

/-- A stored execution stays stored. -/
theorem Asks.goesOn (sound : scene.IsSound) (asks : scene.Asks event after) {v : Execution}
    (stores : scene.tables.Stores v) : ∃ w, event.after.Stores w ∧ w.id = v.id := by
  cases asks.acts.treats with
  | aside spares goes => exact ⟨v, (asks.stores_iff_of_spares spares v).mpr stores, rfl⟩
  | create e creates idle reserved isNew goes =>
    exact ⟨v, (asks.stores_of_create creates isNew).1 v stores, rfl⟩
  | write u e goesOn desk saves held writes goes =>
    rcases asks.write_cases sound held writes.keeps saves with ⟨unchanged, _⟩ | ⟨_, replaced⟩
    · exact ⟨v, (unchanged v).mpr stores, rfl⟩
    · by_cases same : v.id = u.id
      · exact ⟨e.saved, (replaced _).mpr (.inl rfl), writes.keeps.id.trans same.symm⟩
      · exact ⟨v, (replaced v).mpr (.inr ⟨stores, same⟩), rfl⟩

/-- What is stored after a query shows its outcome. -/
theorem Decided.next (decided : scene.Decided) (asks : scene.Asks event after) (w : Execution)
    (stores : event.after.Stores w) : w.ShowsOutcome := by
  rcases asks.stored_cases decided.sound stores with
    old | ⟨isNew, _⟩ | ⟨v, e, goesOn, desk, writes, before, rfl⟩
  · exact decided.shows w old
  · have undecided : w.IsUndecided := by
      refine ⟨?_, isNew.completedAt, isNew.lastError⟩
      rw [isNew.status]
      rfl
    exact undecided.showsOutcome
  · exact (writes.showsOutcome (decided.shows v before)).1.saved

theorem Decided.start {tables : Tables} {issued : List String}
    (noExecutions : tables.executionRows = []) :
    Decided ⟨tables, issued, fun _ => .holding ∅, []⟩ where
  sound := .start noExecutions
  shows v stores := by
    have present : v.row ∈ tables.executionRows := stores.present
    rw [noExecutions] at present
    cases present

theorem kept_decided : Kept Decided := by
  intro scene scene' step decided
  have sound : scene'.IsSound := kept_sound .exact step decided.sound
  refine ⟨sound, ?_⟩
  rcases step.still_or_asks with ⟨tables, _, _⟩ | ⟨event, after, asks, rfl⟩
  · intro v stores
    exact decided.shows v (tables ▸ stores)
  · exact decided.next asks

end Scene

/-- Starting without executions, however the requests of all clients are interleaved and whichever
queries fail: every stored execution is completed if and only if it has a time of completion, failed
if and only if it has an error, which is not empty, and never paused. Every query leaves an
execution as it is or makes one step of it: an active one may go anywhere, a waiting one does not
complete, and a finished one is not changed. -/
theorem outcome_is_shown {tables : Tables} {issued : List String} {past later : List Event}
    {event : Event} {now : System} (noExecutions : tables.executionRows = [])
    (runs : System.Runs { tables, issued } (past ++ event :: later) now) :
    event.after.UniqueIds ∧
      (∀ row ∈ event.after.executionRows,
        ∃ v : Execution, v.Regular ∧ v.row = row ∧ v.ShowsOutcome) ∧
      ∀ v, event.before.Stores v →
        ∃ w, event.after.Stores w ∧ w.id = v.id ∧ (w = v ∨ v.Precedes w) := by
  obtain ⟨scene, next, decided, rfl, asks⟩ := runs.asks (System.Manned.start tables issued)
    Scene.kept_decided (.start noExecutions)
  have sound : (scene.next event next).IsSound :=
    (Scene.kept_decided (.query scene event next asks) decided).sound
  refine ⟨sound.unique, ?_, ?_⟩
  · intro row present
    obtain ⟨v, regular, rfl⟩ := sound.formed row present
    exact ⟨v, regular, rfl, decided.next asks v ⟨regular, present⟩⟩
  · intro v before
    rw [asks.before] at before
    obtain ⟨w, stores, same⟩ := asks.goesOn decided.sound before
    refine ⟨w, stores, same, ?_⟩
    rcases asks.version_cases decided.sound before stores same with
      unchanged | ⟨e, goesOn, desk, writes, rfl⟩
    · exact .inl unchanged
    · have revision : e.saved.revision = v.revision + 1 :=
        congrArg (· + 1) writes.keeps.revision
      exact .inr ⟨revision, (writes.showsOutcome (decided.shows v before)).2⟩

/-- A parked execution may be woken, but does not complete in the same step. -/
theorem outcome_is_shown_hour_later :
    ∃ event ∈ ((Example.reminding [Example.account]).playAll Example.hourLater).1,
      event.before.Stores Example.parked ∧ ¬ event.after.Stores Example.parked ∧
      ∃ w, event.after.Stores w ∧ w.id = "execution" ∧
        (w = Example.parked ∨ Example.parked.Precedes w) := by
  have stored : ∃ event ∈ ((Example.reminding [Example.account]).playAll Example.hourLater).1,
      Example.parked.row ∈ event.before.executionRows ∧
        Example.parked.row ∉ event.after.executionRows := by decide +kernel
  obtain ⟨event, present, before, after⟩ := stored
  obtain ⟨past, later, split⟩ := List.append_of_mem present
  have runs := Example.runs_reminding [Example.account] Example.hourLater
  rw [split] at runs
  have stores : event.before.Stores Example.parked :=
    ⟨⟨Document.clean_nil _, Document.clean_nil _⟩, before⟩
  refine ⟨event, present, stores, fun still => after still.present, ?_⟩
  exact (outcome_is_shown rfl runs).2.2 Example.parked stores

end MessageFlow
