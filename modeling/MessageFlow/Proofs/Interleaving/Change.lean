import MessageFlow.Proofs.Hearing

/-!
What all changes of an execution have in common: its identity and revision stay, no selected option
is lost, and a finished execution is not changed.
-/

namespace MessageFlow

namespace Context

@[simp] theorem setFlag_extras (context : Context) (key : String) (value : Bool) :
    (context.setFlag key value).extras = context.extras := rfl

@[simp] theorem setFlag_selectedOptions (context : Context) (key : String) (value : Bool) :
    (context.setFlag key value).selectedOptions = context.selectedOptions := rfl

theorem receive_extras (context : Context) (message : InboundMessage) :
    (context.receive message).extras = context.extras := by
  rw [(context.hears_receive message).rest]

/-- A message adds at most one selected option, at the end. -/
theorem receive_selectedOptions (context : Context) (message : InboundMessage) :
    (context.receive message).selectedOptions = context.selectedOptions ++
      if hasText message.quickReplyPayload then [message.text] else [] := by
  rw [(context.hears_receive message).rest]

end Context

theorem NodeData.contextAfter_extras (data : NodeData) (context : Context) :
    (data.contextAfter context).extras = context.extras := by
  unfold contextAfter Context.addTag Context.removeTag
  grind [Context.setFlag_extras]

theorem NodeData.contextAfter_selectedOptions (data : NodeData) (context : Context) :
    (data.contextAfter context).selectedOptions = context.selectedOptions := by
  unfold contextAfter Context.addTag Context.removeTag
  grind [Context.setFlag_selectedOptions]

namespace Execution

/-- What no change touches. -/
structure Keeps (v e : Execution) : Prop where
  id : e.id = v.id
  revision : e.revision = v.revision
  extras : e.extras = v.extras
  contextExtras : e.context.extras = v.context.extras
  selectedOptions : v.context.selectedOptions <+: e.context.selectedOptions

theorem Keeps.of_same_context {v e : Execution} (id : e.id = v.id)
    (revision : e.revision = v.revision) (extras : e.extras = v.extras)
    (context : e.context = v.context) : v.Keeps e where
  id := id
  revision := revision
  extras := extras
  contextExtras := by rw [context]
  selectedOptions := context ▸ List.prefix_refl _

theorem Keeps.trans {u v e : Execution} (first : u.Keeps v) (next : v.Keeps e) : u.Keeps e where
  id := next.id.trans first.id
  revision := next.revision.trans first.revision
  extras := next.extras.trans first.extras
  contextExtras := next.contextExtras.trans first.contextExtras
  selectedOptions := first.selectedOptions.trans next.selectedOptions

theorem Keeps.isWritable {v e : Execution} (keeps : v.Keeps e) :
    DocumentType.isWritable e = DocumentType.isWritable v := by
  have same : DocumentType.loose e = DocumentType.loose v := by
    change (e.context.extras ++ e.extras).map (·.2) = (v.context.extras ++ v.extras).map (·.2)
    rw [keeps.extras, keeps.contextExtras]
  rw [DocumentType.isWritable, DocumentType.isWritable, same]

theorem afterNode_keeps (e : Execution) (node : Node) (wake : Timestamp) :
    e.Keeps (e.afterNode node wake) := by
  have acted : ∀ a : Execution, a.context = node.data.contextAfter e.context →
      a.context.extras = e.context.extras ∧
        e.context.selectedOptions <+: a.context.selectedOptions := by
    intro a same
    rw [same, NodeData.contextAfter_extras, NodeData.contextAfter_selectedOptions]
    exact ⟨rfl, List.prefix_refl _⟩
  unfold afterNode
  split
  · exact .of_same_context rfl rfl rfl rfl
  · simp only
    split
    · exact ⟨rfl, rfl, rfl, (acted _ rfl).1, (acted _ rfl).2⟩
    · exact ⟨rfl, rfl, rfl, (acted _ rfl).1, (acted _ rfl).2⟩
  · exact .of_same_context rfl rfl rfl rfl

theorem receive_keeps (e : Execution) (message : InboundMessage) : e.Keeps (e.receive message) where
  id := rfl
  revision := rfl
  extras := rfl
  contextExtras := Context.receive_extras e.context message
  selectedOptions := by
    have appended := Context.receive_selectedOptions e.context message
    exact ⟨_, appended.symm⟩

theorem Advance.active {v e : Execution} (advance : v.Advance e) : v.status = .active := by
  cases advance <;> assumption

theorem Advance.keeps {v e : Execution} (advance : v.Advance e) : v.Keeps e := by
  cases advance with
  | node node wake now active =>
    obtain ⟨id, revision, extras, contextExtras, selectedOptions⟩ :=
      afterNode_keeps (v.movedTo node) node wake
    exact ⟨id, revision, extras, contextExtras, selectedOptions⟩
  | failedNode node failure now active => exact .of_same_context rfl rfl rfl rfl
  | stopped reason now active known => exact .of_same_context rfl rfl rfl rfl
  | completed time now active => exact .of_same_context rfl rfl rfl rfl

theorem Advance.unpaused {v e : Execution} (advance : v.Advance e) : e.status ≠ .paused := by
  cases advance with
  | node node wake now active =>
    have busy : (v.movedTo node).status ≠ .paused := by
      change v.status ≠ .paused
      rw [active]
      decide
    change ((v.movedTo node).afterNode node wake).status ≠ .paused
    unfold afterNode
    split
    · exact Status.noConfusion
    · simp only
      split
      · exact Status.noConfusion
      · exact busy
    · exact busy
  | failedNode => exact Status.noConfusion
  | stopped => exact Status.noConfusion
  | completed => exact Status.noConfusion

end Execution

namespace Task

variable {task : Task} {v e : Execution}

theorem status_of_isParkedOn {ticket : Ticket} (parked : Sweep.isParkedOn v ticket = true) :
    v.status = .waiting := by
  simp only [Sweep.isParkedOn, Bool.and_eq_true, beq_iff_eq] at parked
  exact parked.1

theorem Intervenes.isOpen (change : task.Intervenes v e) : v.isTerminal = false := by
  cases change with
  | message message now brought isOpen => exact isOpen
  | wake ticket now sweeps parked =>
    rw [Execution.isTerminal, status_of_isParkedOn parked]
    rfl
  | flowLost ticket now sweeps parked =>
    rw [Execution.isTerminal, status_of_isParkedOn parked]
    rfl
  | flowDeleted now deletes isOpen => exact isOpen

theorem Intervenes.keeps (change : task.Intervenes v e) : v.Keeps e := by
  cases change with
  | message message now brought isOpen =>
    obtain ⟨id, revision, extras, contextExtras, selectedOptions⟩ := v.receive_keeps message
    exact ⟨id, revision, extras, contextExtras, selectedOptions⟩
  | wake ticket now sweeps parked => exact .of_same_context rfl rfl rfl rfl
  | flowLost ticket now sweeps parked => exact .of_same_context rfl rfl rfl rfl
  | flowDeleted now deletes isOpen => exact .of_same_context rfl rfl rfl rfl

/-- From outside only an execution that waits can be given another status than failed. -/
theorem Intervenes.status (change : task.Intervenes v e) (busy : v.status ≠ .waiting) :
    e.status = .failed ∨ (e.status = v.status ∧ task.message?.isSome) := by
  cases change with
  | message message now brought isOpen =>
    refine .inr ⟨?_, by rw [brought]; rfl⟩
    simp [Execution.stamped, Execution.receive, Execution.isWaitingOnInput, busy]
  | wake ticket now sweeps parked => exact absurd (status_of_isParkedOn parked) busy
  | flowLost ticket now sweeps parked => exact absurd (status_of_isParkedOn parked) busy
  | flowDeleted now deletes isOpen => exact .inl rfl

theorem Intervenes.unpaused (change : task.Intervenes v e) (unpaused : v.status ≠ .paused) :
    e.status ≠ .paused := by
  by_cases waits : v.status = .waiting
  · cases change with
    | message message now brought isOpen =>
      change (v.receive message).status ≠ .paused
      rw [Execution.receive]
      split
      · exact Status.noConfusion
      · exact unpaused
    | wake => exact Status.noConfusion
    | flowLost => exact Status.noConfusion
    | flowDeleted => exact Status.noConfusion
  · rcases change.status waits with failed | ⟨same, _⟩
    · rw [failed]
      decide
    · rw [same]
      exact unpaused

theorem Changes.keeps {traversed : Option String} (change : task.Changes traversed v e) :
    v.Keeps e := by
  rcases change with ⟨_, outside⟩ | ⟨_, inside⟩
  · exact outside.keeps
  · exact inside.keeps

/-- No change pauses an execution. -/
theorem Changes.unpaused {traversed : Option String} (change : task.Changes traversed v e)
    (unpaused : v.status ≠ .paused) : e.status ≠ .paused := by
  rcases change with ⟨_, outside⟩ | ⟨_, inside⟩
  · exact outside.unpaused unpaused
  · exact inside.unpaused

theorem Changes.isOpen {traversed : Option String} (change : task.Changes traversed v e) :
    v.isTerminal = false := by
  rcases change with ⟨_, outside⟩ | ⟨_, inside⟩
  · exact outside.isOpen
  · rw [Execution.isTerminal, inside.active]
    rfl

end Task
end MessageFlow
