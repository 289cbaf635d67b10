import MessageFlow.Proofs.Alone.Run
import MessageFlow.Proofs.Among.Failures
import MessageFlow.Proofs.Among.Version
import MessageFlow.Proofs.Traversal.Visit

/-!
Runs on a stored execution that have the store to themselves, where no query is refused: each write
is made over the version that the one before it has left, so that it succeeds. Nodes may fail.

Custody of a stored execution is a way to say that a version of it is the stored one: it holds on
while the stored executions are left alone, and holds of the next version after a write over this
one.
-/

namespace MessageFlow

section Custody

variable {tables mid : Tables} {v e : Execution}

/-- The stored executions, with the version between those that stand before and after it. -/
structure Tables.Stands (before after : List Row) (v : Execution) (tables : Tables) : Prop where
  rows : tables.executionRows = before ++ v.row :: after
  others : ∀ row ∈ before ++ after, row.get "id" ≠ .text v.id
  regular : v.Regular
  writable : DocumentType.isWritable v = true

theorem Execution.Regular.isWrittenOver (regular : v.Regular) (keeps : v.Keeps e) :
    e.isWrittenOver v.row = true := by
  have heads := heads_row regular.plain
  refine isWrittenOver_iff.mpr ⟨heads.id.trans (congrArg Json.text keeps.id.symm), ?_⟩
  rw [Row.get, get?_revision regular.plain, keeps.revision]
  exact Json.same_int.mpr rfl

namespace Tables.Stands

variable {before after : List Row}

theorem of_same (stands : tables.Stands before after v)
    (same : mid.executionRows = tables.executionRows) : mid.Stands before after v :=
  { stands with rows := same.trans stands.rows }

/-- A write over the version is meant for its row alone. -/
theorem save_hit (stands : tables.Stands before after v) (keeps : v.Keeps e) :
    ((Store.saveQuery e).run tables).1 ≠ [] ∧
      ((Store.saveQuery e).run tables).2.Stands before after e.saved := by
  have meant := stands.regular.isWrittenOver keeps
  have spared {row : Row} (other : row ∈ before ++ after) : e.overwrite row = row := by
    refine if_neg fun written => stands.others row other ?_
    rw [(Execution.isWrittenOver_iff.mp written).1, keeps.id]
  have same {rows : List Row} (others : ∀ row ∈ rows, row ∈ before ++ after) :
      rows.map e.overwrite = rows := by
    conv_rhs => rw [← List.map_id rows]
    exact List.map_congr_left fun row present => spared (others row present)
  constructor
  · rw [Execution.run_save]
    intro none
    have present : v.row ∈ tables.executionRows := by
      rw [stands.rows]
      exact List.mem_append_right _ (.head _)
    exact List.filter_eq_nil_iff.mp (List.map_eq_nil_iff.mp none) v.row present meant
  · refine ⟨?_, fun row other => ?_, (stands.regular.keeps keeps).saved,
      keeps.isWritable.trans stands.writable⟩
    · rw [e.executionRows_run_save, stands.rows, List.map_append, List.map_cons,
        same fun _ => List.mem_append_left _, same fun _ => List.mem_append_right _,
        Execution.overwrite, if_pos meant]
      exact congrArg (before ++ · :: after) (Execution.update_row stands.regular keeps)
    · change row.get "id" ≠ .text e.id
      rw [keeps.id]
      exact stands.others row other

end Tables.Stands

/-- A way to say that a version is the stored one. -/
structure Custody where
  Holds : Execution → Tables → Prop
  writable : ∀ {v tables}, Holds v tables → DocumentType.isWritable v = true
  of_same : ∀ {v tables mid}, Holds v tables → mid.executionRows = tables.executionRows →
    Holds v mid
  save_hit : ∀ {v e tables}, Holds v tables → v.Keeps e →
    ((Store.saveQuery e).run tables).1 ≠ [] ∧ Holds e.saved ((Store.saveQuery e).run tables).2

namespace Custody

/-- It is the only version with that id, and no two executions share one. -/
def sole (id : String) : Custody where
  Holds v tables := tables.Has id (some v)
  writable has := has.writable _ rfl
  of_same has same := has.of_same same
  save_hit has keeps := has.save_hit keeps

/-- It stands between other executions, whatever these are. -/
def between (before after : List Row) : Custody where
  Holds v tables := tables.Stands before after v
  writable stands := stands.writable
  of_same stands same := stands.of_same same
  save_hit stands keeps := stands.save_hit keeps

end Custody

end Custody

variable {setting : Setting} {tables : Tables} {α β : Type}

namespace Program

/-- What is proved of a program among others holds of it alone, if no query is refused. -/
theorem leaves_of_among (faultless : setting.IsFaultless) {p : Program α}
    {post : α → Tables → List Happening → Prop} (among : p.Among tables post) :
    p.Leaves setting tables fun a after _ => ∃ history, post a after history := by
  have amid (p : Program α) (tables : Tables) (asked : Nat) : ∃ history, p.Amid tables history
      (p.alone setting tables asked).value (p.alone setting tables asked).tables := by
    induction p generalizing tables asked with
    | done value => exact ⟨[], .done value tables⟩
    | ask traversed request next ih =>
      obtain ⟨history, rest⟩ := ih (setting.serve asked tables request).1
        (setting.serve asked tables request).2 (asked + 1)
      cases request with
      | query q =>
        have served : setting.serve asked tables (.query q) =
            (.ok (q.run tables).1, (q.run tables).2) := by
          simp only [Setting.serve, faultless asked]
        rw [served] at rest
        refine ⟨_, .query (.nil tables) (?_ : Amid _ _ history _ _)⟩
        simp only [alone, served]
        exact rest
      | now | freshId | post | announce | complete | remembered | remember | forget =>
        exact ⟨history, .outside _ (fun q same => by cases same) rest⟩
  intro asked
  obtain ⟨history, runs⟩ := amid p tables asked
  exact ⟨history, among history _ _ runs⟩

theorem leaves_and {p : Program α} {post post' : α → Tables → List Asked → Prop}
    (leaves : p.Leaves setting tables post) (also : p.Leaves setting tables post') :
    p.Leaves setting tables fun a after log => post a after log ∧ post' a after log :=
  fun asked => ⟨leaves asked, also asked⟩

/-- What spares the executions leaves them, and a query is answered as it may be. -/
theorem serve_sparing (setting : Setting) (asked : Nat) (tables : Tables) {request : Request}
    (spares : request.SparesExecutions) :
    request.MayAnswer (setting.serve asked tables request).1 ∧
      (setting.serve asked tables request).2.executionRows = tables.executionRows := by
  cases request with
  | query q =>
    rcases setting.serve_query asked tables q with ⟨failure, refuses, same⟩ | same
    · rw [same]
      exact ⟨.inr (.inr ⟨failure, rfl, refuses.noConflict⟩), rfl⟩
    · rw [same]
      exact ⟨.inl ⟨tables, rfl⟩, q.rows_run_of_ne spares⟩
  | now | freshId | post | announce | complete | remembered | remember | forget =>
    exact ⟨trivial, rfl⟩

theorem leaves_executions {p : Program α} {post : α → Unit → Prop}
    (sparing : p.Obeys .sparing () post) :
    p.Leaves setting tables fun a after _ =>
      after.executionRows = tables.executionRows ∧ post a () := by
  intro asked
  induction p generalizing tables asked with
  | done value => exact ⟨rfl, sparing⟩
  | ask traversed request next ih =>
    obtain ⟨after, ⟨_, spares⟩, rest⟩ := sparing
    obtain ⟨may, same⟩ := serve_sparing setting asked tables spares
    obtain ⟨rows, holds⟩ := ih (setting.serve asked tables request).1 (rest _ may) (asked + 1)
    exact ⟨rows.trans same, holds⟩

end Program

namespace Run

variable {e v : Execution} {custody : Custody}

theorem leaves_attempt {run : Run α}
    {post : Except Failure (Except Failure α) → Execution → Tables → List Asked → Prop}
    (leaves : run.Leaves setting e tables fun outcome => post (.ok outcome)) :
    (attempt run).Leaves setting e tables post := by
  refine Program.leaves_bind (Program.leaves_mono leaves ?_)
  intro outcome after log holds asked
  rw [← List.append_nil log] at holds
  exact holds

/-- Alone, the run does not fail, and `post` holds of what it gives and leaves. -/
def Succeeds (setting : Setting) (run : Run α) (e : Execution) (tables : Tables)
    (post : α → Execution → Tables → Prop) : Prop :=
  run.Leaves setting e tables fun outcome e' after _ => ∃ a, outcome = .ok a ∧ post a e' after

theorem succeeds_mono {run : Run α} {post weaker : α → Execution → Tables → Prop}
    (succeeds : run.Succeeds setting e tables post)
    (implies : ∀ a e' after, post a e' after → weaker a e' after) :
    run.Succeeds setting e tables weaker := by
  intro asked
  obtain ⟨a, isOk, holds⟩ := succeeds asked
  exact ⟨a, isOk, implies a _ _ holds⟩

theorem succeeds_pure {a : α} {post : α → Execution → Tables → Prop} (holds : post a e tables) :
    (pure a : Run α).Succeeds setting e tables post :=
  fun _ => ⟨a, rfl, holds⟩

theorem succeeds_modify {change : Execution → Execution} {post : PUnit → Execution → Tables → Prop}
    (holds : post ⟨⟩ (change e) tables) :
    (modify change : Run PUnit).Succeeds setting e tables post :=
  leaves_modify ⟨⟨⟩, rfl, holds⟩

theorem succeeds_bind {run : Run α} {f : α → Run β} {post : β → Execution → Tables → Prop}
    (succeeds : run.Succeeds setting e tables fun a e' mid =>
      (f a).Succeeds setting e' mid post) :
    (run >>= f).Succeeds setting e tables post := by
  refine leaves_bind fun asked => ?_
  obtain ⟨a, isOk, rest⟩ := succeeds asked
  rw [isOk]
  exact rest

/-- A write of what was made of the stored version becomes the stored version. -/
theorem saveExecution_succeeds (faultless : setting.IsFaultless) (holds : custody.Holds v tables)
    (keeps : v.Keeps e) : Store.saveExecution.Succeeds setting e tables
      fun _ e' after => e' = e.saved ∧ custody.Holds e' after := by
  have writable : DocumentType.isWritable e = true := keeps.isWritable.trans (custody.writable holds)
  obtain ⟨met, stored⟩ := custody.save_hit holds keeps
  have ensures : (Run.lift (Operation.ensureWritable e)).Succeeds setting e tables
      fun _ e' after => e' = e ∧ after = tables := by
    unfold Operation.ensureWritable
    rw [if_pos writable]
    exact leaves_lift (Operation.leaves_pure ⟨_, rfl, rfl, rfl⟩)
  have asks : (Run.lift (Operation.query (Store.saveQuery e))).Succeeds setting e tables
      fun rows e' after => rows ≠ [] ∧ e' = e ∧ after = ((Store.saveQuery e).run tables).2 := by
    refine leaves_lift (Operation.leaves_query ⟨_, rfl, met, rfl, rfl⟩ fun failure refuses => ?_)
    exact absurd refuses faultless.not_refuses
  unfold Store.saveExecution
  refine succeeds_bind (leaves_get ⟨e, rfl, ?_⟩)
  refine succeeds_bind (succeeds_mono ensures ?_)
  rintro _ _ _ ⟨rfl, rfl⟩
  refine succeeds_bind (succeeds_mono asks ?_)
  rintro (_ | ⟨row, rows⟩) _ _ ⟨some, rfl, rfl⟩
  · exact absurd rfl some
  · exact leaves_set ⟨_, rfl, rfl, stored⟩

theorem save_succeeds (faultless : setting.IsFaultless) (holds : custody.Holds v tables)
    (keeps : v.Keeps e) : save.Succeeds setting e tables
      fun _ e' after => (∃ now, e' = (e.stamped now).saved) ∧ custody.Holds e' after := by
  have stamps (now : Timestamp) : v.Keeps (e.stamped now) :=
    ⟨keeps.id, keeps.revision, keeps.extras, keeps.contextExtras, keeps.selectedOptions⟩
  refine succeeds_bind (leaves_lift (Operation.leaves_now fun now => ⟨now, rfl, ?_⟩))
  refine succeeds_bind (succeeds_modify ?_)
  refine succeeds_mono (saveExecution_succeeds faultless holds (stamps now)) ?_
  rintro _ e' after ⟨same, stored⟩
  exact ⟨⟨now, same⟩, stored⟩

theorem complete_succeeds (faultless : setting.IsFaultless) (holds : custody.Holds v tables) :
    complete.Succeeds setting v tables fun _ e' after =>
      (∃ time now, e' = ((v.completed time).stamped now).saved) ∧ custody.Holds e' after := by
  refine succeeds_bind (leaves_lift (Operation.leaves_now fun time => ⟨time, rfl, ?_⟩))
  refine succeeds_bind (succeeds_modify ?_)
  have keeps : v.Keeps (v.completed time) := .of_same_context rfl rfl rfl rfl
  refine succeeds_mono (save_succeeds faultless holds keeps) ?_
  rintro _ e' after ⟨⟨now, same⟩, stored⟩
  exact ⟨⟨time, now, same⟩, stored⟩

theorem fail_succeeds (faultless : setting.IsFaultless) (holds : custody.Holds v tables)
    (keeps : v.Keeps e) (reason : String) : (fail reason).Succeeds setting e tables
      fun _ e' after =>
        (∃ now, e' = ((e.failed reason).stamped now).saved) ∧ custody.Holds e' after := by
  refine succeeds_bind (succeeds_modify ?_)
  have fails : v.Keeps (e.failed reason) :=
    ⟨keeps.id, keeps.revision, keeps.extras, keeps.contextExtras, keeps.selectedOptions⟩
  exact save_succeeds faultless holds fails

variable (deployment : Deployment) (account : Account) (flow : Flow) (node : Node)

/-- A node leaves the stored executions. It may fail, but only of itself. -/
theorem handleNode_alone (faultless : setting.IsFaultless) :
    (handleNode deployment account flow node).Leaves setting e tables fun outcome e' after _ =>
      after.executionRows = tables.executionRows ∧
        match outcome with
        | .ok outcome => outcome = node.outcome e.context ∧ ∃ wake, e' = e.afterNode node wake
        | .error failure => e' = e ∧ failure.isOwn = true := by
  have spares : Discipline.sparing.Spares () := fun _ spares => ⟨rfl, spares⟩
  have leaves : Program.Leaves setting _ tables _ := Program.leaves_executions
    (handleNode_gives (e := e) deployment account flow node spares)
  have fails := Program.leaves_of_among faultless
    (failsItself_handleNode deployment account flow node e tables)
  refine Program.leaves_mono (Program.leaves_and leaves fails) ?_
  rintro ⟨outcome, e'⟩ after _ ⟨⟨rows, gives⟩, _, itself⟩
  refine ⟨rows, ?_⟩
  cases outcome with
  | ok outcome => exact gives.2
  | error failure => exact ⟨gives.2, itself failure rfl⟩

/-- A node is handled and nothing is written yet, or its failure is written down. -/
theorem executeNode_succeeds (faultless : setting.IsFaultless) (holds : custody.Holds v tables)
    (keeps : v.Keeps e) :
    (executeNode deployment account flow node).Succeeds setting e tables fun outcome e' after =>
      (outcome = node.outcome e.context ∧ (∃ wake, e' = e.afterNode node wake) ∧
          custody.Holds v after) ∨
        ∃ (failure : Failure) (now : Timestamp), failure.isOwn = true ∧
          outcome = .failed failure.record ∧
          e' = ((e.failed failure.record).stamped now).saved ∧ custody.Holds e' after := by
  unfold executeNode
  refine succeeds_bind (leaves_attempt ?_)
  refine Program.leaves_mono (handleNode_alone deployment account flow node faultless) ?_
  rintro ⟨outcome, e'⟩ mid _ ⟨rows, rest⟩
  have still := custody.of_same holds rows
  refine ⟨outcome, rfl, ?_⟩
  cases outcome with
  | ok outcome =>
    obtain ⟨same, after⟩ := rest
    exact succeeds_pure (.inl ⟨same, after, still⟩)
  | error failure =>
    obtain ⟨same, own⟩ := rest
    dsimp only at same ⊢
    subst same
    rw [Failure.isConflict_of_isOwn own]
    refine succeeds_bind (succeeds_mono (fail_succeeds faultless still keeps failure.record) ?_)
    rintro _ _ after ⟨⟨now, rfl⟩, stored⟩
    exact succeeds_pure (.inr ⟨failure, now, own, rfl, rfl, stored⟩)

/-- What a visit of a node makes of the execution, and how the run goes on then, if it does. -/
inductive Visits (v : Execution) (node : Node) : Option NodeOutcome → Execution → Prop
  | handled (wake now : Timestamp) :
    Visits v node
      (if (node.outcome v.context).continues then some (node.outcome v.context) else none)
      (((v.movedTo node).afterNode node wake).stamped now).saved
  | failed (failure : Failure) (own : failure.isOwn = true) (now : Timestamp) :
    Visits v node none (((v.movedTo node).failed failure.record).stamped now).saved

theorem visit_succeeds (faultless : setting.IsFaultless) (holds : custody.Holds v tables) :
    (visit deployment account flow node).Succeeds setting v tables fun outcome? e' after =>
      Visits v node outcome? e' ∧ custody.Holds e' after := by
  have moves : v.Keeps (v.movedTo node) := .of_same_context rfl rfl rfl rfl
  unfold visit
  refine succeeds_bind (succeeds_modify ?_)
  refine succeeds_bind (succeeds_mono
    (executeNode_succeeds deployment account flow node faultless holds moves) ?_)
  rintro outcome e' mid (⟨rfl, ⟨wake, rfl⟩, still⟩ | ⟨failure, now, own, rfl, rfl, stored⟩)
  · have handles : v.Keeps ((v.movedTo node).afterNode node wake) := by
      obtain ⟨id, revision, extras, contextExtras, selectedOptions⟩ :=
        Execution.afterNode_keeps (v.movedTo node) node wake
      exact ⟨id, revision, extras, contextExtras, selectedOptions⟩
    have saves : (do
        save
        pure (if (node.outcome v.context).continues then some (node.outcome v.context) else none) :
        Run (Option NodeOutcome)).Succeeds setting ((v.movedTo node).afterNode node wake) mid
          fun outcome? e' after => Visits v node outcome? e' ∧ custody.Holds e' after := by
      refine succeeds_bind (succeeds_mono (save_succeeds faultless still handles) ?_)
      rintro _ _ after ⟨⟨now, rfl⟩, stored⟩
      exact succeeds_pure ⟨.handled wake now, stored⟩
    have fine := node.outcome_ne_failed v.context
    split
    · next error failed => exact absurd failed (fine error)
    · exact saves
  · exact succeeds_pure ⟨.failed failure own now, stored⟩

end Run
end MessageFlow
