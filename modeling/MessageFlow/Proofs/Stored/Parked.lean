import MessageFlow.Proofs.Interleaving.Stranded
import MessageFlow.Proofs.Stored.Outcome

/-!
The end of a delay is stored with an execution exactly while it is parked, but for an execution that
failed while it was parked.
-/

namespace MessageFlow

namespace Execution

/-- The time and the node of a delay are set together, exactly while the execution is parked, and
the node is the current one. -/
structure KeepsSchedule (v : Execution) : Prop where
  together : v.scheduledAt.isSome ↔ v.scheduledNodeId.isSome
  parked : v.scheduledNodeId.isSome ↔ v.isWaitingOnDelay = true
  node : v.isWaitingOnDelay = true → v.scheduledNodeId = some v.currentNodeId

variable {v e : Execution}

theorem KeepsSchedule.stamped_iff {now : Timestamp} :
    (v.stamped now).KeepsSchedule ↔ v.KeepsSchedule :=
  ⟨fun keeps => ⟨keeps.together, keeps.parked, keeps.node⟩,
    fun keeps => ⟨keeps.together, keeps.parked, keeps.node⟩⟩

theorem KeepsSchedule.saved_iff : v.saved.KeepsSchedule ↔ v.KeepsSchedule :=
  ⟨fun keeps => ⟨keeps.together, keeps.parked, keeps.node⟩,
    fun keeps => ⟨keeps.together, keeps.parked, keeps.node⟩⟩

theorem keepsSchedule_of_clear (time : v.scheduledAt = none) (node : v.scheduledNodeId = none) :
    v.KeepsSchedule where
  together := by simp [time, node]
  parked := by simp [isWaitingOnDelay, node]
  node parked := by simp [isWaitingOnDelay, node] at parked

theorem keepsSchedule_of_parked (waits : v.status = .waiting) (time : v.scheduledAt.isSome = true)
    (node : v.scheduledNodeId = some v.currentNodeId) : v.KeepsSchedule where
  together := by simp [time, node]
  parked := by simp [isWaitingOnDelay, waits]
  node _ := node

theorem KeepsSchedule.clear (keeps : v.KeepsSchedule) (unparked : v.isWaitingOnDelay = false) :
    v.scheduledAt = none ∧ v.scheduledNodeId = none := by
  have noNode : v.scheduledNodeId.isSome = false := by
    rw [← Bool.not_eq_true, keeps.parked, unparked]
    exact Bool.false_ne_true
  have noTime : v.scheduledAt.isSome = false := by
    rw [← Bool.not_eq_true, keeps.together, noNode]
    exact Bool.false_ne_true
  exact ⟨Option.not_isSome_iff_eq_none.mp (noTime ▸ Bool.false_ne_true),
    Option.not_isSome_iff_eq_none.mp (noNode ▸ Bool.false_ne_true)⟩

theorem isWaitingOnDelay_of_status (busy : v.status ≠ .waiting) : v.isWaitingOnDelay = false := by
  simp [isWaitingOnDelay, busy]

/-- A failure leaves the end of the delay in its place. -/
theorem KeepsSchedule.failed_iff (keeps : v.KeepsSchedule) (reason : String) :
    (v.failed reason).KeepsSchedule ↔ v.isWaitingOnDelay = false := by
  constructor
  · intro still
    obtain ⟨_, noNode⟩ := still.clear (isWaitingOnDelay_of_status Status.noConfusion)
    have unscheduled : v.scheduledNodeId = none := noNode
    rw [isWaitingOnDelay, unscheduled]
    exact Bool.and_false _
  · intro unparked
    obtain ⟨noTime, noNode⟩ := keeps.clear unparked
    exact keepsSchedule_of_clear noTime noNode

theorem KeepsSchedule.afterNode (time : v.scheduledAt = none) (noNode : v.scheduledNodeId = none)
    (node : Node) (wake : Timestamp) : ((v.movedTo node).afterNode node wake).KeepsSchedule := by
  unfold Execution.afterNode
  split
  · exact keepsSchedule_of_parked rfl rfl rfl
  · simp only
    split
    · exact keepsSchedule_of_clear rfl rfl
    · exact keepsSchedule_of_clear time noNode
  · exact keepsSchedule_of_clear time noNode

theorem KeepsSchedule.receive (keeps : v.KeepsSchedule) (message : InboundMessage) :
    (v.receive message).KeepsSchedule where
  together := keeps.together
  parked := keeps.parked.trans (by rw [v.isWaitingOnDelay_receive message])
  node parked := keeps.node (v.isWaitingOnDelay_receive message ▸ parked)

/-- Of what is not parked, a traversal keeps the schedule. -/
theorem Advance.keepsSchedule (advance : v.Advance e) (keeps : v.KeepsSchedule) :
    e.KeepsSchedule := by
  have unparked : v.isWaitingOnDelay = false := by
    refine isWaitingOnDelay_of_status ?_
    rw [advance.active]
    decide
  obtain ⟨time, noNode⟩ := keeps.clear unparked
  cases advance with
  | node node wake now active =>
    exact KeepsSchedule.stamped_iff.mpr (KeepsSchedule.afterNode time noNode node wake)
  | failedNode => exact keepsSchedule_of_clear time noNode
  | stopped => exact keepsSchedule_of_clear time noNode
  | completed => exact keepsSchedule_of_clear rfl rfl

end Execution

/-- A change from outside keeps the schedule, but for the failure of a parked execution. -/
theorem Task.Intervenes.keepsSchedule_iff {task : Task} {v e : Execution}
    (change : task.Intervenes v e) (keeps : v.KeepsSchedule) :
    e.KeepsSchedule ↔ ¬ (v.isWaitingOnDelay = true ∧ e.status = .failed) := by
  have fails (reason : String) (now : Timestamp) : ((v.failed reason).stamped now).KeepsSchedule ↔
      ¬ (v.isWaitingOnDelay = true ∧ Status.failed = .failed) := by
    rw [Execution.KeepsSchedule.stamped_iff, keeps.failed_iff]
    simp
  cases change with
  | message message now brought isOpen =>
    rw [Execution.KeepsSchedule.stamped_iff]
    refine iff_of_true (keeps.receive message) ?_
    rintro ⟨parked, failed⟩
    rw [← v.isWaitingOnDelay_receive message] at parked
    have waits := (Execution.isWaitingOnDelay_iff.mp parked).1
    exact absurd (waits.symm.trans failed) (by decide)
  | wake ticket now sweeps parked =>
    refine iff_of_true (Execution.keepsSchedule_of_clear rfl rfl) ?_
    rintro ⟨_, failed⟩
    cases failed
  | flowLost ticket now sweeps parked => exact fails _ now
  | flowDeleted now deletes isOpen => exact fails _ now

/-- Among the writes of a task only the failure of a parked execution does not keep the schedule. -/
theorem Task.Writes.keepsSchedule_iff {task : Task} {s : Station} {v e : Execution} {goesOn : Bool}
    {desk : Except Failure (List Row) → Desk} (writes : task.Writes s v e goesOn desk)
    (keeps : v.KeepsSchedule) :
    e.KeepsSchedule ↔ ¬ (v.isWaitingOnDelay = true ∧ e.status = .failed) := by
  rcases writes.change with outside | inside
  · exact outside.keepsSchedule_iff keeps
  · refine iff_of_true (inside.keepsSchedule keeps) ?_
    rintro ⟨parked, _⟩
    have waits := (Execution.isWaitingOnDelay_iff.mp parked).1
    exact absurd (inside.active.symm.trans waits) (by decide)

/-- The query has failed the execution while it was parked. -/
structure Event.FailsParked (event : Event) (id : String) : Prop where
  parked : ∃ v, event.before.Holds id (some v) ∧ v.isWaitingOnDelay = true
  failed : ∃ w, event.after.Holds id (some w) ∧ w.status = .failed

namespace Scene

/-- An execution of a scene keeps its schedule, unless its last write failed it while it was parked;
then it is failed. -/
structure Scheduled (scene : Scene) : Prop where
  sound : scene.IsSound
  keeps : ∀ v, scene.tables.Stores v → v.status ≠ .failed → v.KeepsSchedule
  blame : ∀ v, scene.tables.Stores v → (v.KeepsSchedule ↔
    ¬ ∃ event, lastWrite? v.id scene.past = some event ∧ event.FailsParked v.id)
  unwritten : ∀ id, (∀ v, scene.tables.Stores v → v.id ≠ id) → lastWrite? id scene.past = none

variable {scene : Scene} {event : Event} {after : Except Failure (List Row) → Station}
  {id : String}

theorem IsSound.holds (sound : scene.IsSound) {v : Execution} (stores : scene.tables.Stores v) :
    scene.tables.Holds v.id (some v) where
  stored := Tables.executionRow?_eq_some sound.unique stores.present stores.get_id
  regular w same := by
    cases same
    exact stores.regular

theorem IsSound.absent (sound : scene.IsSound) (unknown : ∀ v, scene.tables.Stores v → v.id ≠ id) :
    scene.tables.executionRow? id = none := by
  refine Tables.executionRow?_eq_none.mpr fun row present isId => ?_
  obtain ⟨v, regular, rfl⟩ := sound.formed row present
  have stores : scene.tables.Stores v := ⟨regular, present⟩
  exact unknown v stores (Json.text.inj (stores.get_id.symm.trans isId))

namespace Scheduled

variable (scheduled : scene.Scheduled) (sound : (scene.next event after).IsSound)
  (asks : scene.Asks event after)
include scheduled sound asks

/-- A version that is written keeps its schedule if and only if it did not fail while it was
parked. -/
theorem written {task : Task} {s : Station} {v e : Execution} {goesOn : Bool}
    {desk : Except Failure (List Row) → Desk} (writes : task.Writes s v e goesOn desk)
    (before : scene.tables.Stores v) (stores : event.after.Stores e.saved) :
    (e.saved.status ≠ .failed → e.saved.KeepsSchedule) ∧ (e.saved.KeepsSchedule ↔
      ¬ ∃ last, lastWrite? e.saved.id (scene.next event after).past = some last ∧
        last.FailsParked e.saved.id) := by
  have unfailed : v.status ≠ .failed := by
    intro failed
    have isOpen := writes.isOpen
    rw [Execution.isTerminal, failed] at isOpen
    cases isOpen
  have keeps := writes.keepsSchedule_iff (scheduled.keeps v before unfailed)
  have holds : event.before.Holds e.saved.id (some v) := by
    have named : v.id = e.saved.id := writes.keeps.id.symm
    rw [asks.before, ← named]
    exact scheduled.sound.holds before
  have holds' : event.after.Holds e.saved.id (some e.saved) := sound.holds stores
  have last : lastWrite? e.saved.id (scene.next event after).past = some event :=
    lastWrite?_of_written scene.past
      (Event.overwritten?_of_write before.regular writes.keeps holds.stored holds'.stored)
  constructor
  · intro runs
    refine Execution.KeepsSchedule.saved_iff.mpr (keeps.mpr ?_)
    rintro ⟨_, failed⟩
    exact runs failed
  · rw [Execution.KeepsSchedule.saved_iff, keeps, last]
    refine not_congr ⟨?_, ?_⟩
    · rintro ⟨parked, failed⟩
      exact ⟨event, rfl, ⟨v, holds, parked⟩, _, holds', failed⟩
    rintro ⟨_, ⟨⟩, ⟨u, holdsU, parked⟩, ⟨w, holdsW, failed⟩⟩
    have sameV : u = v := Execution.row_injective (holdsU.regular u rfl) before.regular
      (Option.some.inj (holdsU.stored.symm.trans holds.stored))
    have sameW : w = e.saved := Execution.row_injective (holdsW.regular w rfl) stores.regular
      (Option.some.inj (holdsW.stored.symm.trans holds'.stored))
    rw [sameV] at parked
    rw [sameW] at failed
    exact ⟨parked, failed⟩

/-- What every query keeps. -/
theorem next : (scene.next event after).Scheduled := by
  have untouched {id : String}
      (same : event.after.executionRow? id = event.before.executionRow? id) :
      lastWrite? id (scene.next event after).past = lastWrite? id scene.past :=
    lastWrite?_of_unwritten scene.past (Event.overwritten?_of_same same)
  refine ⟨sound, fun w stores => ?_, fun w stores => ?_, fun id unknown => ?_⟩
  · rcases asks.stored_cases scheduled.sound stores with
      old | ⟨isNew, _⟩ | ⟨v, e, goesOn, desk, writes, before, rfl⟩
    · exact scheduled.keeps w old
    · exact fun _ => Execution.keepsSchedule_of_clear isNew.scheduledAt isNew.scheduledNodeId
    · exact (scheduled.written sound asks writes before stores).1
  · rcases asks.stored_cases scheduled.sound stores with
      old | ⟨isNew, unknown⟩ | ⟨v, e, goesOn, desk, writes, before, rfl⟩
    -- The last write of an execution that is stored as before is still the last one.
    · rw [untouched]
      · exact scheduled.blame w old
      · rw [asks.before]
        exact (sound.holds stores).stored.trans (scheduled.sound.holds old).stored.symm
    · have none : event.before.executionRow? w.id = none := by
        rw [asks.before]
        exact scheduled.sound.absent unknown
      have unwritten : event.overwritten? w.id = Option.none := by
        rw [Event.overwritten?, none]
      have last := lastWrite?_of_unwritten scene.past unwritten
      have never : lastWrite? w.id (scene.next event after).past = Option.none :=
        last.trans (scheduled.unwritten w.id unknown)
      rw [never]
      refine iff_of_true ?_ ?_
      · exact Execution.keepsSchedule_of_clear isNew.scheduledAt isNew.scheduledNodeId
      · rintro ⟨_, last, _⟩
        cases last
    · exact (scheduled.written sound asks writes before stores).2
  · have unknownBefore : ∀ v, scene.tables.Stores v → v.id ≠ id := by
      intro v stores same
      obtain ⟨w, storesW, sameId⟩ := asks.goesOn scheduled.sound stores
      exact unknown w storesW (sameId.trans same)
    rw [untouched]
    · exact scheduled.unwritten id unknownBefore
    · have before := scheduled.sound.absent unknownBefore
      have afterwards := sound.absent unknown
      rw [asks.before, before]
      exact afterwards

end Scheduled

theorem kept_scheduled : Kept Scheduled := by
  intro scene scene' step scheduled
  have sound : scene'.IsSound := kept_sound .exact step scheduled.sound
  rcases step.still_or_asks with ⟨tables, past, _⟩ | ⟨event, after, asks, rfl⟩
  · obtain ⟨_, keeps, blame, unwritten⟩ := scheduled
    exact ⟨sound, tables ▸ keeps, tables ▸ past ▸ blame, tables ▸ past ▸ unwritten⟩
  · exact scheduled.next sound asks

theorem Scheduled.start {tables : Tables} {issued : List String}
    (noExecutions : tables.executionRows = []) :
    Scheduled ⟨tables, issued, fun _ => .holding ∅, []⟩ := by
  have none (v : Execution) (stores : tables.Stores v) : False := by
    have present := stores.present
    rw [noExecutions] at present
    cases present
  exact ⟨.start noExecutions, fun v stores => (none v stores).elim,
    fun v stores => (none v stores).elim, fun _ _ => rfl⟩

end Scene

/-- Starting without executions, however the requests of all clients are interleaved and whichever
queries fail: a stored execution has the time and the node of a delay exactly while it is parked on
that node, unless its last write failed it while it was parked. -/
theorem schedule_is_kept_iff {tables : Tables} {issued : List String} {events : List Event}
    {now : System} (noExecutions : tables.executionRows = [])
    (runs : System.Runs { tables, issued } events now) :
    ∀ row ∈ now.tables.executionRows, ∃ v : Execution, v.Regular ∧ v.row = row ∧
      (v.KeepsSchedule ↔
        ¬ ∃ event, lastWrite? v.id events = some event ∧ event.FailsParked v.id) := by
  obtain ⟨station, _, scheduled⟩ := (System.Manned.start tables issued).keeps Scene.kept_scheduled
    (.start noExecutions) runs
  intro row present
  obtain ⟨v, regular, rfl⟩ := scheduled.sound.formed row present
  exact ⟨v, regular, rfl, scheduled.blame v ⟨regular, present⟩⟩

namespace Example

/-- A message that starts the flow, and the deletion of this flow. -/
def calledOff : System := .started { flows := ⟨[reminder], 0⟩ } deployment
  [.dispatch { id := "account" } "sender" none ⟨"hi", none⟩ Inbox.defaultAttempts,
    .deleteFlow "flow"]

/-- The message is served first, and an hour later the deletion. -/
def calledOffLater : List Move :=
  List.replicate 8 { client := 0, id := "execution" } ++
    List.replicate 6 { client := 0, id := "ticket" } ++
    List.replicate 8 { client := 1, time := anHour }

theorem runs_calledOff : System.Runs (.start { flows := ⟨[reminder], 0⟩ })
    (calledOff.playAll calledOffLater).1 (calledOff.playAll calledOffLater).2 :=
  have free : ∀ task ∈ [Task.dispatch { id := "account" } "sender" none ⟨"hi", none⟩
      Inbox.defaultAttempts, .deleteFlow "flow"], task.given = none := by decide
  (System.runs_started _ deployment free).trans (calledOff.runs_playAll calledOffLater).1

/-- The execution as it fails with its flow. -/
def dropped : Execution :=
  { parked with
    status := .failed
    lastError := some Run.flowDeleted
    revision := 2
    updatedAt := some anHour }

theorem regular_dropped : dropped.Regular := ⟨Document.clean_nil _, Document.clean_nil _⟩

theorem stores_dropped :
    dropped.row ∈ (calledOff.playAll calledOffLater).2.tables.executionRows := by decide +kernel

theorem not_keepsSchedule_dropped : ¬ dropped.KeepsSchedule := by
  intro keeps
  have parked : dropped.isWaitingOnDelay = true := keeps.parked.mp rfl
  cases parked

end Example

/-- The deletion of the flow has failed the execution while it was parked. -/
theorem schedule_is_kept_iff_called_off : ∃ event,
    lastWrite? "execution" (Example.calledOff.playAll Example.calledOffLater).1 = some event ∧
      event.FailsParked "execution" := by
  obtain ⟨v, regular, isRow, keeps⟩ :=
    schedule_is_kept_iff rfl Example.runs_calledOff _ Example.stores_dropped
  obtain rfl : v = Example.dropped := Execution.row_injective regular Example.regular_dropped isRow
  exact not_not.mp (mt keeps.mpr Example.not_keepsSchedule_dropped)

/-- It is not so that every stored execution keeps its schedule. -/
theorem not_always_scheduled : ¬ ∀ (tables : Tables) (issued : List String) (events : List Event)
    (now : System), tables.executionRows = [] → System.Runs { tables, issued } events now →
    ∀ row ∈ now.tables.executionRows, ∃ v : Execution, v.Regular ∧ v.row = row ∧
      v.KeepsSchedule := by
  intro always
  obtain ⟨v, regular, isRow, keeps⟩ :=
    always _ _ _ _ rfl Example.runs_calledOff _ Example.stores_dropped
  obtain rfl : v = Example.dropped := Execution.row_injective regular Example.regular_dropped isRow
  exact Example.not_keepsSchedule_dropped keeps

end MessageFlow
