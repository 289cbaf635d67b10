import MessageFlow.Proofs.Among.Run
import MessageFlow.Proofs.Among.Traversal
import MessageFlow.Proofs.Interleaving.Schedule
import MessageFlow.Proofs.Tickets.Delay

/-!
A message that is handed to an execution among other writers: it is written once, over the version
that is stored by then, or not at all. Runs among others on fixed inputs follow a script, which says
what others ask before each query.
-/

namespace MessageFlow

section Script

/-- How one request is answered; before a query others ask theirs. -/
structure Cue where
  others : List Query := []
  move : Move := { client := 0 }

/-- Others ask their queries in turn. -/
def Query.inTurn (tables : Tables) : List Query → List Happening × Tables
  | [] => ([], tables)
  | query :: queries =>
    let (history, last) := inTurn (query.run tables).2 queries
    (.other tables (query.run tables).2 :: history, last)

theorem Query.meanwhile_inTurn (tables : Tables) (queries : List Query) :
    Meanwhile tables (inTurn tables queries).1 (inTurn tables queries).2 := by
  induction queries generalizing tables with
  | nil => exact .nil tables
  | cons query queries ih => exact .cons (ih (query.run tables).2)

variable {α : Type}

namespace Program

/-- What happens by the script, and how it ends; none when the script ends before the program. -/
def follow : Program α → Tables → List Cue → Option (List Happening × α × Tables)
  | .done a, tables, _ => some ([], a, tables)
  | .ask _ _ _, _, [] => none
  | .ask traversed (.query query) next, tables, cue :: cues =>
    let (others, mid) := Query.inTurn tables cue.others
    let (rows, after) := query.run mid
    ((next (.ok rows)).follow after cues).map fun (history, last) =>
      (others ++ .own traversed query mid :: history, last)
  | .ask _ request next, tables, cue :: cues =>
    (next (cue.move.reply request)).follow tables cues

/-- By a script a program runs as it may. -/
theorem amid_follow {p : Program α} {tables after : Tables} {cues : List Cue}
    {history : List Happening} {a : α} (follows : p.follow tables cues = some (history, a, after)) :
    p.Amid tables history a after := by
  induction cues generalizing p tables history with
  | nil =>
    cases p with
    | done value =>
      cases follows
      exact .done _ _
    | ask traversed request next => cases follows
  | cons cue cues ih =>
    cases p with
    | done value =>
      cases follows
      exact .done _ _
    | ask traversed request next =>
      cases request with
      | query query =>
        obtain ⟨⟨later, last⟩, rest, same⟩ := Option.map_eq_some_iff.mp follows
        cases same
        exact .query (Query.meanwhile_inTurn tables cue.others) (ih rest)
      | now | freshId | post | announce | complete | remembered | remember | forget =>
        exact .outside _ nofun (ih follows)

end Program

end Script

open Store Happening

namespace Inbox

/-- The write of a message. -/
def answer (message : InboundMessage) (v : Execution) (now : Timestamp) : Query :=
  saveQuery ((v.receive message).stamped now)

/-- How a call goes among others that has so many attempts left and that copy in hand. -/
inductive Course (message : InboundMessage) : Nat → Execution → Tables → List Happening → Prop
  | spent (v : Execution) (tables : Tables) : Course message 0 v tables []
  | ended {attempts : Nat} {v : Execution} (tables : Tables)
    (ends : v.isTerminal = true ∨ DocumentType.isWritable v = false) :
    Course message (attempts + 1) v tables []
  | written {attempts : Nat} {v : Execution} {tables mid : Tables} {others later : List Happening}
    (now : Timestamp) (isOpen : v.isTerminal = false) (meanwhile : Meanwhile tables others mid)
    (hit : ((answer message v now).run mid).1 ≠ []) (within : ∀ h ∈ later, h.Within v.id) :
    Course message (attempts + 1) v tables (others ++ .own none (answer message v now) mid :: later)
  | missed {attempts : Nat} {v : Execution} {tables mid next : Tables}
    {others elsewhile later : List Happening} {told : Except Failure (Option Execution)}
    (now : Timestamp) (isOpen : v.isTerminal = false) (meanwhile : Meanwhile tables others mid)
    (miss : ((answer message v now).run mid).1 = [])
    (reloads : Meanwhile ((answer message v now).run mid).2 elsewhile next)
    (tells : ∀ version, next.Has v.id version → told = .ok version)
    (goesOn : ∀ w, told = .ok (some w) → Course message attempts w next later)
    (stops : (∀ w, told ≠ .ok (some w)) → later = []) :
    Course message (attempts + 1) v tables (others ++ .own none (answer message v now) mid ::
      (elsewhile ++ .own none (executionQuery v.id) next :: later))

theorem keeps_answer (message : InboundMessage) (v : Execution) (now : Timestamp) :
    v.Keeps ((v.receive message).stamped now) := by
  obtain ⟨id, revision, extras, contextExtras, options⟩ := v.receive_keeps message
  exact ⟨id, revision, extras, contextExtras, options⟩

/-- A call among others takes such a course. -/
theorem handle_among (deployment : Deployment) (account : Account) (message : InboundMessage)
    (attempts : Nat) (v : Execution) (tables : Tables) :
    (handle deployment account message attempts).Among v tables
      fun _ _ _ history => Course message attempts v tables history := by
  induction attempts generalizing v tables with
  | zero => exact Run.among_get (.spent v tables)
  | succ attempts ih =>
    unfold handle
    refine Run.among_bind (Run.among_get ?_)
    simp only
    by_cases terminal : v.isTerminal = true
    · rw [if_pos terminal]
      exact Run.among_pure (.ended tables (.inl terminal))
    rw [if_neg terminal]
    have isOpen : v.isTerminal = false := Bool.eq_false_iff.mpr terminal
    refine Run.among_bind (Run.among_set ?_)
    refine Run.among_bind (Run.among_lift (Operation.among_now fun now => ?_))
    refine Run.among_bind (Run.among_modify ?_)
    refine Run.among_bind (Run.among_attempt ?_)
    change Run.Among saveExecution ((v.receive message).stamped now) tables _
    refine saveExecution_among (fun others mid meanwhile hit => ?_)
      (fun others mid meanwhile miss => ?_) fun unwritable => ?_
    · simp only [List.nil_append, List.append_assoc, List.singleton_append]
      cases waits : v.isWaitingOnInput with
      | false => exact Run.among_get (.written now isOpen meanwhile hit (List.forall_mem_nil _))
      | true =>
        refine Run.among_bind (Run.among_mono (Run.resume_among deployment account none _ _) ?_)
        intro outcome e' after history within
        rcases outcome with failure | ⟨⟩
        · exact .written now isOpen meanwhile hit within
        · refine Run.among_get ?_
          rw [List.append_nil]
          exact .written now isOpen meanwhile hit within
    · simp only [List.nil_append, List.append_assoc, List.singleton_append]
      have conflict : (Failure.conflict ((v.receive message).stamped now).id
        ((v.receive message).stamped now).revision).isConflict = true := rfl
      rw [if_pos conflict]
      refine Run.among_bind (Run.among_lift (getExecution_among ?_))
      intro elsewhile next told reloads tells
      have missed {later : List Happening} (goesOn : ∀ w, told = .ok (some w) →
          Course message attempts w next later) (stops : (∀ w, told ≠ .ok (some w)) → later = []) :=
        Course.missed now isOpen meanwhile miss reloads tells goesOn stops
      rcases told with failure | _ | w
      · exact missed (fun w same => by cases same) fun _ => rfl
      · refine Run.among_get ?_
        rw [List.append_nil]
        exact missed (fun w same => by cases same) fun _ => rfl
      · refine Run.among_lift (Run.among_on (Run.among_mono (ih w next) ?_))
        intro _ _ _ later course
        rw [List.append_assoc, List.singleton_append]
        refine missed (fun u same => ?_) fun never => absurd rfl (never w)
        rw [← Option.some.inj (Except.ok.inj same)]
        exact course
    · refine Run.among_throw (.ended tables (.inr ?_))
      rw [← (keeps_answer message v now).isWritable]
      exact unwritable

/-- The message is written at most once, over the version that is stored by then; and exactly when
the copy is open, the attempts suffice, and whenever the execution is reloaded it is open. Up to
that write, or for good if there is none, the call leaves the execution alone. -/
structure Applies (id : String) (message : InboundMessage) (attempts : Nat) (v : Execution)
    (history : List Happening) : Prop where
  once : (history.filter (·.writes id)).length ≤ 1
  spelled : ∀ h ∈ history, h.writes id = true → ∃ u w, h.before.Has id (some u) ∧
    u.isTerminal = false ∧ h.after.Has id (some w) ∧ u.Hears message w
  spares : ∀ h ∈ upToWrite id history, h.isOther = false → h.touches id = false
  happens : v.isTerminal = false →
    intrusions id (upToWrite id history) < attempts →
    (∀ h ∈ upToWrite id history, h.intrudes id = true →
      ∃ w, h.after.Has id (some w) ∧ w.isTerminal = false) →
    ∃ h ∈ history, h.writes id = true
  decided : (∃ h ∈ history, h.writes id = true) ↔ v.isTerminal = false ∧
    (history.filter (·.misses)).length < attempts ∧
    ∀ before, .own none (executionQuery id) before ∈ history →
      ∃ w, before.Has id (some w) ∧ w.isTerminal = false

variable {id : String} {message : InboundMessage} {attempts : Nat} {v w : Execution}
  {tables mid : Tables} {others front later : List Happening} {now : Timestamp}

/-- A write that meets a row is one over the copy. -/
theorem hit_answer (has : tables.Has id (some v)) (meanwhile : Meanwhile tables others mid)
    (rewrites : ∀ h ∈ others, h.isOther = true → h.before.Rewrites id h.after)
    (hit : ((answer message v now).run mid).1 ≠ []) : mid.Has id (some v) ∧
      ((answer message v now).run mid).2.Has id (some ((v.receive message).stamped now).saved) :=
  meanwhile.leads.hit rewrites meanwhile.isAside has has.isCopy (keeps_answer message v now) hit

/-- A write that meets no row comes after one of another client. -/
theorem miss_answer (has : tables.Has id (some v)) (meanwhile : Meanwhile tables others mid)
    (rewrites : ∀ h ∈ others, h.isOther = true → h.before.Rewrites id h.after)
    (miss : ((answer message v now).run mid).1 = []) : ∃ version, mid.Has id version ∧
      ((answer message v now).run mid).2.Has id version ∧ ∃ h ∈ others, h.intrudes id = true := by
  obtain ⟨⟨version, stored⟩, same, intruded⟩ := meanwhile.leads.miss rewrites meanwhile.isAside has
    has.isCopy (keeps_answer message v now) miss
  exact ⟨version, stored, stored.of_same same, intruded rfl⟩

/-- Up to the next copy nothing was written of an open copy, because others wrote before. -/
structure Overtaken (id : String) (v : Execution) (front : List Happening) (next : Tables) :
    Prop where
  isOpen : v.isTerminal = false
  unwritten : ∀ h ∈ front, h.writes id = false
  spares : ∀ h ∈ front, h.isOther = false → h.touches id = false
  missesOnce : (front.filter (·.misses)).length = 1
  intruded : ∃ h ∈ front, h.intrudes id = true
  reloads : ∀ before, .own none (executionQuery id) before ∈ front ↔ before = next
  stays : (∀ h ∈ front, h.intrudes id = true →
      ∃ w, h.after.Has id (some w) ∧ w.isTerminal = false) →
    ∃ w, next.Has id (some w) ∧ w.isTerminal = false

namespace Overtaken

variable {next : Tables} (overtaken : Overtaken id v front next)
include overtaken

theorem exists_writes (later : List Happening) :
    (∃ h ∈ front ++ later, h.writes id = true) ↔ ∃ h ∈ later, h.writes id = true := by
  constructor
  · rintro ⟨h, present, writes⟩
    rcases List.mem_append.mp present with first | last
    · cases (overtaken.unwritten h first).symm.trans writes
    · exact ⟨h, last, writes⟩
  · rintro ⟨h, present, writes⟩
    exact ⟨h, List.mem_append.mpr (.inr present), writes⟩

/-- With a fresh copy the message is applied as if the call began there. -/
theorem applies_append (has : next.Has id (some w))
    (applies : Applies id message attempts w later) :
    Applies id message (attempts + 1) v (front ++ later) where
  once := by
    rw [List.filter_append, filter_eq_nil overtaken.unwritten]
    exact applies.once
  spelled h present writes := by
    rcases List.mem_append.mp present with first | last
    · cases (overtaken.unwritten h first).symm.trans writes
    · exact applies.spelled h last writes
  spares h present own := by
    rw [upToWrite_append overtaken.unwritten] at present
    rcases List.mem_append.mp present with first | last
    · exact overtaken.spares h first own
    · exact applies.spares h last own
  happens _ few leaves := by
    rw [upToWrite_append overtaken.unwritten] at few leaves
    rw [intrusions_append] at few
    obtain ⟨leavesFirst, leavesLater⟩ := List.forall_mem_append.mp leaves
    obtain ⟨u, hasU, isOpen⟩ := overtaken.stays leavesFirst
    have same : w = u := Option.some.inj (has.eq hasU)
    have positive := intrusions_pos overtaken.intruded
    exact (overtaken.exists_writes later).mpr
      (applies.happens (same ▸ isOpen) (by omega) leavesLater)
  decided := by
    rw [overtaken.exists_writes, applies.decided, List.filter_append, List.length_append,
      overtaken.missesOnce]
    constructor
    · rintro ⟨isOpen, few, reloads⟩
      refine ⟨overtaken.isOpen, by omega, fun before asked => ?_⟩
      rcases List.mem_append.mp asked with first | last
      · rw [(overtaken.reloads before).mp first]
        exact ⟨w, has, isOpen⟩
      · exact reloads before last
    · rintro ⟨_, few, reloads⟩
      have asked : .own none (executionQuery id) next ∈ front := (overtaken.reloads next).mpr rfl
      obtain ⟨u, hasU, isOpen⟩ := reloads next (List.mem_append.mpr (.inl asked))
      have same : w = u := Option.some.inj (has.eq hasU)
      exact ⟨same ▸ isOpen, by omega, fun before asked =>
        reloads before (List.mem_append.mpr (.inr asked))⟩

/-- Without a fresh copy the message is not applied. -/
theorem applies (has : next.Has id none) : Applies id message (attempts + 1) v front := by
  have unwritten : ¬ ∃ h ∈ front, h.writes id = true := by
    rintro ⟨h, present, writes⟩
    cases (overtaken.unwritten h present).symm.trans writes
  have whole : upToWrite id front = front := upToWrite_eq overtaken.unwritten
  refine ⟨?_, fun h present writes => absurd ⟨h, present, writes⟩ unwritten, ?_, ?_, ?_⟩
  · rw [filter_eq_nil overtaken.unwritten]
    exact Nat.zero_le 1
  · rw [whole]
    exact overtaken.spares
  · intro _ _ leaves
    rw [whole] at leaves
    obtain ⟨w, hasW, _⟩ := overtaken.stays leaves
    cases has.eq hasW
  · refine ⟨fun writes => absurd writes unwritten, ?_⟩
    rintro ⟨_, _, reloads⟩
    obtain ⟨w, hasW, _⟩ := reloads next ((overtaken.reloads _).mpr rfl)
    cases has.eq hasW

end Overtaken

/-- Before a write that meets no row others have written, and the next copy is what they leave. -/
theorem overtaken_of_miss {elsewhile : List Happening} {next : Tables}
    (has : tables.Has id (some v)) (isOpen : v.isTerminal = false)
    (meanwhile : Meanwhile tables others mid)
    (miss : ((answer message v now).run mid).1 = [])
    (reloads : Meanwhile ((answer message v now).run mid).2 elsewhile next)
    (rewrites : ∀ h ∈ others, h.isOther = true → h.before.Rewrites id h.after)
    (rewritesLater : ∀ h ∈ elsewhile, h.isOther = true → h.before.Rewrites id h.after) :
    Overtaken id v (others ++ .own none (answer message v now) mid ::
      (elsewhile ++ [.own none (executionQuery id) next])) next := by
  obtain ⟨version, stored, still, intruded⟩ := miss_answer has meanwhile rewrites miss
  have untouched : (Happening.own none (answer message v now) mid).touches id = false := by
    rw [Happening.touches_eq_false]
    exact still.stored.trans stored.stored.symm
  have asked : (Happening.own none (executionQuery id) next).touches id = false :=
    not_touches_of_same rfl
  -- Besides others there are only the write and the read.
  have each {P : Happening → Prop} (other : ∀ h : Happening, h.isOther = true → P h)
      (write : P (.own none (answer message v now) mid))
      (reload : P (.own none (executionQuery id) next)) : ∀ h ∈ others ++
        .own none (answer message v now) mid :: (elsewhile ++ [.own none (executionQuery id) next]),
        P h :=
    List.forall_mem_append.mpr ⟨fun h present => other h (meanwhile.isOther h present),
      List.forall_mem_cons.mpr ⟨write, List.forall_mem_append.mpr
        ⟨fun h present => other h (reloads.isOther h present),
          List.forall_mem_singleton.mpr reload⟩⟩⟩
  refine ⟨isOpen, ?_, ?_, ?_, ?_, ?_, ?_⟩
  · exact each (fun h => not_writes_of_isOther) untouched asked
  · exact each (fun h other own => absurd (own.symm.trans other) nofun) (fun _ => untouched)
      fun _ => asked
  · have noMiss {list : List Happening} (isOther : ∀ h ∈ list, h.isOther = true) :
        list.filter (·.misses) = [] :=
      filter_eq_nil fun h present => not_misses_of_isOther (isOther h present)
    have met : (Happening.own none (answer message v now) mid).misses = true :=
      List.isEmpty_iff.mpr miss
    have select : (Happening.own none (executionQuery id) next).misses = false := rfl
    rw [List.filter_append, List.filter_cons, if_pos met, List.filter_append,
      noMiss meanwhile.isOther, noMiss reloads.isOther, List.filter_singleton, select]
    rfl
  · obtain ⟨h, present, intrudes⟩ := intruded
    exact ⟨h, List.mem_append.mpr (.inl present), intrudes⟩
  · intro before
    constructor
    · intro present
      refine each (P := fun h => h = .own none (executionQuery id) before → before = next)
        (fun h other same => ?_) (fun same => ?_) (fun same => ?_) _ present rfl
      · rw [same] at other
        cases other
      · cases same
      · cases same
        rfl
    · rintro rfl
      exact List.mem_append.mpr (.inr (.tail _ (List.mem_append.mpr (.inr (.head _)))))
  · intro leaves
    obtain ⟨leavesFirst, leavesRest⟩ := List.forall_mem_append.mp leaves
    obtain ⟨_, leavesRest⟩ := List.forall_mem_cons.mp leavesRest
    obtain ⟨leavesLater, _⟩ := List.forall_mem_append.mp leavesRest
    obtain ⟨u, hasU, openU⟩ := meanwhile.isOpen rewrites leavesFirst has isOpen
    have same : version = some u := stored.eq hasU
    exact reloads.isOpen rewritesLater leavesLater (same ▸ still) openU

/-- The write over an open copy that is stored applies the message. -/
theorem applies_of_hit (has : tables.Has id (some v)) (isOpen : v.isTerminal = false)
    (meanwhile : Meanwhile tables others mid) (hit : ((answer message v now).run mid).1 ≠ [])
    (rewrites : ∀ h ∈ others, h.isOther = true → h.before.Rewrites id h.after)
    (within : ∀ h ∈ later, h.Within id) : Applies id message (attempts + 1) v
      (others ++ .own none (answer message v now) mid :: later) := by
  obtain ⟨stored, saved⟩ := hit_answer has meanwhile rewrites hit
  have written : (Happening.own none (answer message v now) mid).writes id = true := by
    refine (stored.touches_iff (h := .own none (answer message v now) mid) saved).mpr fun same => ?_
    have raised : v.revision + 1 = v.revision :=
      congrArg Execution.revision (Option.some.inj same)
    omega
  have met : (Happening.own none (answer message v now) mid).misses = false :=
    List.isEmpty_eq_false_iff.mpr hit
  have before : ∀ h ∈ others, h.writes id = false :=
    fun h present => not_writes_of_isOther (meanwhile.isOther h present)
  have after : ∀ h ∈ later, h.writes id = false :=
    fun h present => not_writes_of_within (within h present)
  have upTo : upToWrite id (others ++ .own none (answer message v now) mid :: later) = others :=
    upToWrite_append_cons before written later
  have happens : ∃ h ∈ others ++ .own none (answer message v now) mid :: later,
      h.writes id = true := ⟨_, List.mem_append.mpr (.inr (.head _)), written⟩
  refine ⟨?_, ?_, ?_, fun _ _ _ => happens, ⟨fun _ => ⟨isOpen, ?_, ?_⟩, fun _ => happens⟩⟩
  · rw [List.filter_append, filter_eq_nil before, List.filter_cons, if_pos written,
      filter_eq_nil after]
    exact Nat.le_refl 1
  · intro h present writes
    rcases List.mem_append.mp present with first | rest
    · cases (before h first).symm.trans writes
    rcases List.mem_cons.mp rest with rfl | last
    · exact ⟨v, _, stored, isOpen, saved, v.hears_receive message now⟩
    · cases (after h last).symm.trans writes
  · rw [upTo]
    intro h present own
    cases own.symm.trans (meanwhile.isOther h present)
  · rw [List.filter_append, List.filter_cons, met,
      filter_eq_nil fun h present => not_misses_of_isOther (meanwhile.isOther h present),
      filter_eq_nil fun h present => not_misses_of_within (within h present)]
    exact Nat.succ_pos attempts
  · intro next asked
    rcases List.mem_append.mp asked with first | rest
    · cases meanwhile.isOther _ first
    rcases List.mem_cons.mp rest with same | last
    · cases same
    · cases within _ last

/-- Without attempts, or for an execution that has ended, nothing happens. -/
theorem applies_nil (never : ¬ (v.isTerminal = false ∧ 0 < attempts)) :
    Applies id message attempts v [] where
  once := Nat.zero_le 1
  spelled := List.forall_mem_nil _
  spares := List.forall_mem_nil _
  happens isOpen few _ := absurd ⟨isOpen, few⟩ never
  decided := by
    constructor
    · rintro ⟨h, present, _⟩
      cases present
    · rintro ⟨isOpen, few, _⟩
      exact absurd ⟨isOpen, few⟩ never

/-- A course tells how the message is applied. -/
theorem applies_of_course {history : List Happening}
    (course : Course message attempts v tables history) (has : tables.Has id (some v))
    (rewrites : ∀ h ∈ history, h.isOther = true → h.before.Rewrites id h.after) :
    Applies id message attempts v history := by
  -- The copy is stored at every turn: others may replace it before the write, and then the next
  -- turn starts from what was stored when the execution was read again.
  induction course with
  | spent v tables => exact applies_nil fun possible => Nat.lt_irrefl 0 possible.2
  | ended tables ends =>
    rcases ends with ends | unwritable
    · exact applies_nil fun possible => by cases ends.symm.trans possible.1
    · cases has.isWritable.symm.trans unwritable
  | written now isOpen meanwhile hit within =>
    rw [has.named] at within
    obtain ⟨rewritesFirst, _⟩ := List.forall_mem_append.mp rewrites
    exact applies_of_hit has isOpen meanwhile hit rewritesFirst within
  | @missed _ v tables mid next others elsewhile later told now isOpen meanwhile miss reloads tells
      goesOn stops ih =>
    obtain ⟨rewritesFirst, rewritesRest⟩ := List.forall_mem_append.mp rewrites
    obtain ⟨_, rewritesRest⟩ := List.forall_mem_cons.mp rewritesRest
    obtain ⟨rewritesMid, rewritesRest⟩ := List.forall_mem_append.mp rewritesRest
    obtain ⟨_, rewritesLater⟩ := List.forall_mem_cons.mp rewritesRest
    have overtaken := overtaken_of_miss has isOpen meanwhile miss reloads rewritesFirst rewritesMid
    obtain ⟨version, _, still, _⟩ := miss_answer has meanwhile rewritesFirst miss
    obtain ⟨fresh, stored, _⟩ := reloads.leads.grows rewritesMid reloads.isAside still
    have split : others ++ .own none (answer message v now) mid ::
        (elsewhile ++ .own none (executionQuery id) next :: later) =
        others ++ .own none (answer message v now) mid ::
          (elsewhile ++ [.own none (executionQuery id) next]) ++ later := by
      simp only [List.append_assoc, List.cons_append, List.nil_append]
    rw [has.named] at tells ⊢
    rw [split]
    cases fresh with
    | none =>
      have isNone : told = .ok none := tells none stored
      have nothing : later = [] := stops fun w same => by cases isNone.symm.trans same
      rw [nothing, List.append_nil]
      exact overtaken.applies stored
    | some w =>
      have isSome : told = .ok (some w) := tells (some w) stored
      exact overtaken.applies_append stored (ih w isSome stored rewritesLater)

end Inbox

/-- Whatever other clients write to the execution between the queries of a call that are all served:
the call writes the message at most once, and what it writes is the version that is stored just
before, with the message and nothing else. As long as fewer writes of others than attempts came
before it and left the execution open, the message is written; the call asks for nothing else that
changes the execution, apart from the traversal that the message starts. -/
theorem message_is_applied_once (deployment : Deployment) (account : Account)
    (message : InboundMessage) (attempts : Nat) {v : Execution} {tables after : Tables}
    {history : List Happening} {outcome : Except Failure Execution × Execution}
    (runs : ((Inbox.handle deployment account message attempts).outcome v).Amid tables history
      outcome after)
    (stored : tables.Has v.id (some v))
    (rewrites : ∀ h ∈ history, h.isOther = true → h.before.Rewrites v.id h.after) :
    Inbox.Applies v.id message attempts v history :=
  Inbox.applies_of_course
    (Inbox.handle_among deployment account message attempts v tables _ _ _ runs) stored rewrites

namespace Example

def parkedTables : Tables := { executions := ⟨[parked.row], 0⟩ }

/-- A message that is handed to the parked execution while another one is written over it. -/
def overtaken : Option (List Happening × (Except Failure Execution × Execution) × Tables) :=
  ((Inbox.handle deployment { id := "account" } ⟨"more", some "more"⟩ 2).outcome parked).follow
    parkedTables [{}, { others := [Inbox.answer ⟨"hello", none⟩ parked default] }, {}, {}, {}]

/-- The parked execution after the other message. -/
def greeted : Execution := ((parked.receive ⟨"hello", none⟩).stamped default).saved

theorem has_of_row {tables : Tables} {v : Execution}
    (isRow : tables.executionRow? "execution" = some v.row)
    (unique : (tables.executionRows.map fun row => row.get "id").Nodup) (extras : v.extras = [])
    (contextExtras : v.context.extras = []) : tables.Has "execution" (some v) where
  toHolds := holds_of_row isRow extras contextExtras
  unique := unique
  writable w same := by
    cases same
    have loose : DocumentType.loose v = [] := by
      change (v.context.extras ++ v.extras).map (·.2) = []
      rw [extras, contextExtras]
      rfl
    rw [DocumentType.isWritable, loose]
    rfl

theorem has_parked : parkedTables.Has "execution" (some parked) :=
  has_of_row rfl (List.nodup_singleton _) rfl rfl

/-- The parked execution became that one. -/
def Turns (w : Execution) (h : Happening) : Prop :=
  h.before.executionRow? "execution" = some parked.row ∧
    h.after.executionRow? "execution" = some w.row ∧
      (h.after.executionRows.map fun row => row.get "id").Nodup

instance (w : Execution) (h : Happening) : Decidable (Turns w h) :=
  inferInstanceAs (Decidable (_ ∧ _ ∧ _))

theorem rewrites_of_turns {w : Execution} {h : Happening} (turns : Turns w h)
    (extras : w.extras = []) (contextExtras : w.context.extras = [])
    (later : parked.revision < w.revision) : h.before.Rewrites "execution" h.after := by
  obtain ⟨before, after, unique⟩ := turns
  exact has_parked.rewrites before (has_of_row after unique extras contextExtras) later

end Example

/-- The first write meets no row, the second one does. -/
theorem message_is_applied_once_overtaken : ∃ history outcome after,
    Example.overtaken = some (history, outcome, after) ∧
      (history.filter (·.intrudes "execution")).length = 1 ∧
      (history.filter (·.misses)).length = 1 ∧ (history.filter (·.writes "execution")).length = 1 ∧
      Inbox.Applies "execution" ⟨"more", some "more"⟩ 2 Example.parked history := by
  have happens : Example.overtaken.any (fun run =>
      (∀ h ∈ run.1, h.isOther = true → Example.Turns Example.greeted h) ∧
        (run.1.filter (·.intrudes "execution")).length = 1 ∧
        (run.1.filter (·.misses)).length = 1 ∧
        (run.1.filter (·.writes "execution")).length = 1) = true := by decide +kernel
  obtain ⟨⟨history, outcome, after⟩, runs, facts⟩ := (Option.any_eq_true _ _).mp happens
  obtain ⟨turns, intrusions, misses, writes⟩ := of_decide_eq_true facts
  exact ⟨history, outcome, after, runs, intrusions, misses, writes,
    message_is_applied_once Example.deployment { id := "account" } _ 2 (Program.amid_follow runs)
      Example.has_parked fun h present other =>
        Example.rewrites_of_turns (turns h present other) rfl rfl (by decide)⟩

end MessageFlow
