import MessageFlow.Proofs.Start.Flows
import MessageFlow.Proofs.Start.Launch

/-!
One flow among those that an event starts. If the active flows can be read, the others are started
as if it were not there, whatever goes wrong with it; if one of them cannot, none is started.
-/

namespace MessageFlow
open Operation Store

variable {launch : Launch} {setting setting' : Setting} {tables tables' : Tables} {asked : Nat}
  (deployment : Deployment) (account : Account) (occasion : Occasion) {flow : Flow}
  {flows front back : List Flow}

namespace Operation

theorem inStep_recordTrigger (own : launch.isMine (.text flow.id) = true) (time : Timestamp) :
    (recordTrigger flow time).InStep launch.Allows launch.ids := by
  have reads : (getFlow flow.id).InStep launch.Allows launch.ids := by
    refine (inStep_query _ (.look flow.id own)).bind fun rows => ?_
    cases rows with
    | nil => exact inStep_pure none
    | cons row rows =>
      simp only [← bind_pure_comp]
      exact (inStep_parse row).bind fun flow => inStep_pure _
  refine reads.bind fun current => ?_
  exact (inStep_query _ (.count flow.id own _ time)).bind fun _ => inStep_pure ()

/-- A new execution is stored, and read back from its row. -/
theorem inStep_createExecution {α : Type} {e : Execution} {f : Execution → Operation α}
    (isNew : e.IsNew) (drawn : e.id ∈ launch.ids) (own : launch.isMine (.text e.flowId) = true)
    (rest : (f e).InStep launch.Allows launch.ids) :
    (createExecution e >>= f).InStep launch.Allows launch.ids := by
  unfold createExecution
  rw [bind_assoc]
  refine (inStep_of_plain (plain_ensureWritable e)).bind fun _ => ?_
  rw [bind_assoc]
  refine .both (.create e isNew drawn own) fun answer draws => ?_
  cases answer with
  | error failure => exact .done rfl
  | ok rows =>
    obtain ⟨tables, rfl⟩ := draws
    rw [(Execution.run_insert isNew tables).1]
    have reads : DocumentType.read (.record e.row) = .valid e :=
      Execution.read_row (Execution.regular_of_isNew isNew)
    have parses : (parse e.row : Operation Execution) = pure e := parse_of_valid reads
    have goesOn : ((parse e.row : Operation Execution) >>= f).InStep launch.Allows launch.ids := by
      rw [parses, pure_bind]
      exact rest
    exact goesOn

end Operation

namespace Run

/-- A run on an execution, whose object is forgotten. -/
theorem inStep_on {α : Type} {run : Run α} {v : Execution}
    (inStep : (run.outcome v).InStep launch.Allows launch.ids Eq (run.outcome v)) :
    (Run.on v run).InStep launch.Allows launch.ids := by
  apply Program.InStep.bind inStep
  rintro outcome _ rfl
  exact .done rfl

theorem inStep_begin {v : Execution} (isNew : v.IsNew) (drawn : v.id ∈ launch.ids)
    (isFlow : flow.id = v.flowId) (own : launch.isMine (.text flow.id) = true) (now : Timestamp) :
    (Run.on v do
      traversing do
        let _ ← Run.attempt (Run.lift (recordTrigger flow now))
        resume deployment account (some flow)
      pure (some (← get))).InStep launch.Allows launch.ids := by
  let errand : Errand := ⟨v.flowId, {v.id}, v.extras, launch.ids⟩
  have resumes : ((resume deployment account (some flow)).outcome v).InStep launch.Allows launch.ids
      Eq ((resume deployment account (some flow)).outcome v) := by
    have carried : errand.Carries v := ⟨rfl, rfl, rfl⟩
    have known : errand.executions ⊆ launch.ids := by simpa [errand] using drawn
    have inStep : (resume deployment account (some flow)).InStep errand :=
      inStep_resume deployment account isFlow
    refine ((inStep v carried).widen fun request allowed => ?_).mono fun _ _ same => same.1
    exact Launch.allows_of_errand allowed ((congrArg (launch.isMine ∘ .text) isFlow).symm.trans own)
      known le_rfl isNew.extras
  let counting : Run (Except Failure Unit) := Run.attempt (Run.lift (recordTrigger flow now))
  have counts : (counting.outcome v).InStep launch.Allows launch.ids
      (fun outcome outcome' => outcome = outcome' ∧ outcome.2 = v ∧ ∃ a, outcome.1 = .ok a)
      (counting.outcome v) := by
    change Program.InStep _ _ _ (((recordTrigger flow now).run.bind _).bind _)
      (((recordTrigger flow now).run.bind _).bind _)
    rw [Program.bind_bind]
    apply Program.InStep.bind (inStep_recordTrigger own now)
    rintro outcome _ rfl
    exact .done ⟨rfl, rfl, outcome, rfl⟩
  let traversal : Run Unit := counting >>= fun _ => resume deployment account (some flow)
  have traverses : (traversal.outcome v).InStep launch.Allows launch.ids Eq
      (traversal.outcome v) := by
    apply Program.InStep.bind counts
    rintro ⟨_, _⟩ _ ⟨rfl, rfl, a, rfl⟩
    exact resumes
  apply inStep_on
  apply Program.InStep.bind traverses.traversing
  rintro ⟨failure | _, e⟩ _ rfl
  · exact .done rfl
  · exact .done rfl

theorem inStep_start (own : launch.isMine (.text flow.id) = true) :
    (start deployment account flow occasion.event occasion.keywords).InStep launch.Allows
      launch.ids := by
  unfold start
  cases occasion.event.triggers occasion.keywords flow with
  | nil => exact Operation.inStep_pure none
  | cons trigger others =>
    refine (inStep_ask .now (.other _ nofun)).bind fun now => ?_
    refine inStep_request (.other .freshId nofun) fun id drawn => ?_
    obtain ⟨e, initial, isNew, rfl, flowId, -⟩ :=
      exists_initialExecution_event occasion flow trigger id now
    rw [initial, pure_bind]
    exact inStep_createExecution isNew drawn (flowId ▸ own)
      (inStep_begin deployment account isNew drawn flowId.symm own now)

theorem inStep_startAll (own : ∀ flow ∈ flows, launch.isMine (.text flow.id) = true) :
    (startAll deployment account occasion.event occasion.keywords flows).InStep launch.Allows
      launch.ids := by
  induction flows with
  | nil => exact Operation.inStep_pure []
  | cons flow flows ih =>
    obtain ⟨first, others⟩ := List.forall_mem_cons.mp own
    refine (inStep_start deployment account occasion first).attempt.bind fun started => ?_
    refine (ih others).bind fun rest => ?_
    split
    · exact Operation.inStep_pure _
    · exact Operation.inStep_pure _

theorem startAll_append (event : TriggerEvent) (keywords : List String) :
    startAll deployment account event keywords (front ++ back) =
      startAll deployment account event keywords front >>= fun started =>
        startAll deployment account event keywords back >>= fun later =>
          pure (started ++ later) := by
  induction front with
  | nil => simp [startAll]
  | cons flow front ih =>
    simp only [List.cons_append, startAll, ih, bind_assoc]
    refine congrArg _ (funext fun started => congrArg _ (funext fun first => ?_))
    rcases started with failure | _ | e <;> simp

/-- That a flow cannot be started is no failure. -/
theorem startAll_succeeds (setting : Setting) (event : TriggerEvent) (keywords : List String)
    (tables : Tables) (asked : Nat) :
    (startAll deployment account event keywords flows).LeavesAt setting tables asked
      fun outcome _ => ∃ started, outcome = .ok started := by
  induction flows generalizing tables asked with
  | nil => exact ⟨[], rfl⟩
  | cons flow flows ih =>
    unfold startAll
    apply attempt_then
    obtain ⟨others, succeeds⟩ := ih _ _
    refine bind_then succeeds ?_
    split
    · exact ⟨_, rfl⟩
    · exact ⟨_, rfl⟩

end Run

section Listing

variable {α : Type}

theorem filter_orderedInsert_of_neg {r : α → α → Prop} [DecidableRel r] {p : α → Bool} {a : α}
    (dropped : ¬ p a = true) (items : List α) :
    (items.orderedInsert r a).filter p = items.filter p := by
  induction items with
  | nil => simp [dropped]
  | cons b items ih =>
    rw [List.orderedInsert_cons]
    split
    · rw [List.filter_cons_of_neg dropped]
    · rw [List.filter_cons, ih, ← List.filter_cons]

theorem filter_orderedInsert_of_pos {r : α → α → Prop} [DecidableRel r] [IsTrans α r]
    {p : α → Bool} {a : α} (kept : p a = true) {items : List α} (sorted : items.Pairwise r) :
    (items.orderedInsert r a).filter p = (items.filter p).orderedInsert r a := by
  induction items with
  | nil => simp [kept]
  | cons b items ih =>
    obtain ⟨least, others⟩ := List.pairwise_cons.mp sorted
    by_cases first : r a b
    · have all : ∀ x ∈ (b :: items).filter p, r a x := by
        intro x among
        rcases List.mem_cons.mp (List.mem_filter.mp among).1 with rfl | later
        · exact first
        · exact IsTrans.trans a b x first (least x later)
      rw [List.orderedInsert_cons_of_le r items first, List.filter_cons_of_pos kept]
      generalize (b :: items).filter p = rest at all
      cases rest with
      | nil => rfl
      | cons x rest => rw [List.orderedInsert_cons_of_le r rest (all x (.head rest))]
    · rw [List.orderedInsert_of_not_le r items first, List.filter_cons, ih others, List.filter_cons]
      split
      · rw [List.orderedInsert_of_not_le r _ first]
      · rfl

/-- Items that are dropped do not change the order of the others. -/
theorem insertionSort_filter (r : α → α → Prop) [DecidableRel r] [IsTrans α r] [Std.Total r]
    (p : α → Bool) (items : List α) :
    (items.filter p).insertionSort r = (items.insertionSort r).filter p := by
  induction items with
  | nil => rfl
  | cons a items ih =>
    rw [List.insertionSort_cons]
    by_cases kept : p a = true
    · rw [List.filter_cons_of_pos kept, List.insertionSort_cons, ih,
        filter_orderedInsert_of_pos kept (List.pairwise_insertionSort r items)]
    · rw [List.filter_cons_of_neg kept, ih, filter_orderedInsert_of_neg kept]

/-- Rows one of which cannot be read. -/
theorem exists_mapM_throws [DocumentType α] {rows : List Row} {row : Row} (present : row ∈ rows)
    (unreadable : ∀ a : α, DocumentType.read (.record row) ≠ .valid a) :
    ∃ failure, (rows.mapM parse : Operation (List α)) = throw failure := by
  induction rows with
  | nil => cases present
  | cons first rows ih =>
    rw [List.mapM_cons]
    cases reads : (DocumentType.read (.record first) : Validated α) with
    | invalid issues =>
      refine ⟨.invalidDocument (DocumentType.title α) issues, ?_⟩
      have throws : (parse first : Operation α) =
          throw (.invalidDocument (DocumentType.title α) issues) := by
        rw [parse, reads]
        rfl
      rw [throws]
      rfl
    | valid a =>
      have later : row ∈ rows := by
        rcases List.mem_cons.mp present with rfl | later
        · exact absurd reads (unreadable a)
        · exact later
      obtain ⟨failure, throws⟩ := ih later
      rw [parse_of_valid reads, throws]
      exact ⟨failure, rfl⟩

/-- The tables as they are when a flow was deleted. -/
def Tables.without (tables : Tables) (flowId : String) : Tables :=
  ((Query.delete .flows [byId flowId]).run tables).2

theorem Tables.flows_without (tables : Tables) (flowId : String) :
    (tables.without flowId).rows .flows =
      (tables.rows .flows).filter fun row => row.get "id" ≠ .text flowId := by
  have rows : (tables.without flowId).rows .flows =
      (tables.rows .flows).filter fun row => !selects [byId flowId] row :=
    tables.rows_put .flows _
  rw [rows, selects_byId_eq]
  simp

theorem Tables.activeRows_without (tables : Tables) (flowId accountId : String) :
    (tables.without flowId).activeRows accountId =
      (tables.activeRows accountId).filter fun row => row.get "id" ≠ .text flowId := by
  have order : IsTrans Row fun a b => a.creation ≤ b.creation := ⟨fun _ _ _ => le_trans⟩
  have total : Std.Total fun a b : Row => a.creation ≤ b.creation := ⟨fun _ _ => le_total _ _⟩
  unfold activeRows
  rw [flows_without, ← insertionSort_filter, List.filter_filter, List.filter_filter]
  simp only [Bool.and_comm]

/-- Without one of its flows, the others are the active flows of an account, in the same order. -/
theorem Tables.areRead_without {accountId : String} (unique : tables.UniqueFlows)
    (reads : Flow.AreRead (tables.activeRows accountId) (front ++ flow :: back)) :
    Flow.AreRead ((tables.without flow.id).activeRows accountId) (front ++ back) ∧
      ∀ other ∈ front ++ back, other.id ≠ flow.id := by
  have distinct := Tables.nodup_ids_active unique reads
  have apart : ∀ other ∈ front ++ back, other.id ≠ flow.id := by
    have first := (List.nodup_cons.mp (((List.perm_middle).map Flow.id).nodup_iff.mp distinct)).1
    exact fun other among same => first (same ▸ List.mem_map_of_mem among)
  have kept : (front ++ flow :: back).filter (fun other => decide (other.id ≠ flow.id)) =
      front ++ back := by
    obtain ⟨inFront, inBack⟩ := List.forall_mem_append.mp apart
    simp only [List.filter_append, List.filter_cons, ne_eq, not_true_eq_false, decide_false,
      Bool.false_eq_true, if_false]
    rw [List.filter_eq_self.mpr (by simpa using inFront),
      List.filter_eq_self.mpr (by simpa using inBack)]
  refine ⟨?_, apart⟩
  rw [tables.activeRows_without, ← kept]
  refine List.rel_filter (fun (row : Row) other isRead => ?_) reads
  have same : decide (row.get "id" ≠ .text flow.id) = decide (other.id ≠ flow.id) := by
    rw [Row.get_id_of_readFlow isRead]
    simp
  exact Bool.eq_iff_iff.mp same

end Listing

/-- The rows of other flows. -/
def Tables.besides (tables : Tables) (flowId : String) (table : Table) : List Row :=
  (tables.rows table).filter fun row => row.get table.flowColumn ≠ .text flowId

/-- The setting as it is without those requests. -/
def Setting.cut (setting : Setting) (first count : Nat) : Setting where
  told n := setting.told (if n < first then n else n + count)
  refused n := setting.refused (if n < first then n else n + count)
  noConflict _ := setting.noConflict _

theorem Setting.agrees_cut_before (setting : Setting) (asked count skipped : Nat) :
    setting.Agrees (setting.cut (asked + count) skipped) asked asked count := by
  intro n before
  have early : asked + n < asked + count := Nat.add_lt_add_left before asked
  simp only [cut, if_pos early, and_self]

theorem Setting.agrees_cut_after (setting : Setting) (first skipped count : Nat) :
    setting.Agrees (setting.cut first skipped) (first + skipped) first count := by
  intro n _
  have late : ¬ first + n < first := Nat.not_lt.mpr (Nat.le_add_right first n)
  simp only [cut, if_neg late, Nat.add_right_comm, and_self]

namespace Run

/-- The start of those flows. -/
def starting (flows : List Flow) : Program (Except Failure (List Execution)) :=
  (startAll deployment account occasion.event occasion.keywords flows).run

/-- The flows of two lists are started after one another. -/
theorem course_append (front back : List Flow) (setting : Setting) (tables : Tables)
    (asked : Nat) :
    let before := (starting deployment account occasion front).course setting tables asked
    let after := (starting deployment account occasion back).course setting before.tables
      before.asked
    ∃ first last, before.value = .ok first ∧ after.value = .ok last ∧
      (starting deployment account occasion (front ++ back)).course setting tables asked =
        ⟨.ok (first ++ last), after.tables, after.asked, before.sent ++ after.sent⟩ := by
  intro before after
  obtain ⟨first, isFirst⟩ : ∃ first, before.value = .ok first :=
    startAll_succeeds deployment account setting _ _ tables asked
  obtain ⟨last, isLast⟩ : ∃ last, after.value = .ok last :=
    startAll_succeeds deployment account setting _ _ before.tables before.asked
  refine ⟨first, last, isFirst, isLast, ?_⟩
  have ends := Operation.course_bind (f := fun later => pure (first ++ later)) isLast
  have isWhole := Operation.course_bind (f := fun started =>
    startAll deployment account occasion.event occasion.keywords back >>= fun later =>
      pure (started ++ later)) isFirst
  rw [← startAll_append] at isWhole
  refine isWhole.trans ?_
  refine (congrArg (fun rest : Course (Except Failure (List Execution)) =>
    { rest with sent := before.sent ++ rest.sent }) ends).trans ?_
  exact congrArg (Course.mk _ _ _ <| before.sent ++ ·) (List.append_nil after.sent)

end Run

/-- The starts of all flows but one; during its start, the ids are drawn for it. -/
def Launch.besides (flowId : String)
    (distinct : Function.Injective fun asked => setting.told asked .freshId) (first count : Nat) :
    Launch where
  isMine id := decide (id ≠ .text flowId)
  ids := {id | ∃ n, ¬ (first ≤ n ∧ n < first + count) ∧ setting.told n .freshId = id}
  foreign := {id | ∃ n, (first ≤ n ∧ n < first + count) ∧ setting.told n .freshId = id}
  apart := fun _ ⟨_, notAmong, isId⟩ ⟨_, among, same⟩ =>
    notAmong (distinct (isId.trans same.symm) ▸ among)

/-- Nothing was drawn yet. -/
theorem Launch.alike_without {flowId : String}
    {distinct : Function.Injective fun asked => setting.told asked .freshId} {first count : Nat}
    (fresh : ∀ row ∈ tables.executionRows, ∀ n, row.get "id" ≠ .text (setting.told n .freshId))
    (leads : tables.ReadsLeads) :
    (besides flowId distinct first count).Alike tables (tables.without flowId) := by
  have others {table : Table} (other : table ≠ .flows) :
      (tables.without flowId).rows table = tables.rows table := Query.rows_run_of_ne other.symm
  have fits : (besides flowId distinct first count).Fits tables := by
    intro row present id isId
    constructor
    · rintro ⟨n, _, rfl⟩
      exact absurd isId (fresh row present n)
    · rintro ⟨n, _, rfl⟩
      exact absurd isId (fresh row present n)
  refine ⟨fun table isOne => ?_, fits, ?_, leads, ?_⟩
  · by_cases isFlows : table = .flows
    · subst isFlows
      unfold mine
      rw [tables.flows_without, List.filter_filter]
      exact List.filter_congr fun row _ => (Bool.and_self _).symm
    · rw [mine, mine, others isFlows]
  · unfold Fits
    rw [Tables.executionRows, others (by decide)]
    exact fits
  · unfold Tables.ReadsLeads
    rw [others (by decide)]
    exact leads

/-- A run is the same as one without the flow, but for the part that starts this flow. -/
structure Course.Isolates (flowId : String)
    (before own run without : Course (Except Failure (List Execution))) : Prop where
  started : ∃ first mine last, before.value = .ok first ∧ own.value = .ok mine ∧
    run.value = .ok (first ++ mine ++ last) ∧ without.value = .ok (first ++ last)
  sent : ∃ later, run.sent = before.sent ++ own.sent ++ later ∧ without.sent = before.sent ++ later
  rows : ∀ table ∈ Table.ofFlows,
    run.tables.besides flowId table = without.tables.besides flowId table

namespace Run

/-- Flows are started as if one among them were not there. -/
theorem starting_isolates (distinct : Function.Injective fun asked => setting.told asked .freshId)
    (fresh : ∀ row ∈ tables.executionRows, ∀ n, row.get "id" ≠ .text (setting.told n .freshId))
    (leads : tables.ReadsLeads) (apart : ∀ other ∈ front ++ back, other.id ≠ flow.id) :
    let before := (starting deployment account occasion front).course setting tables asked
    let own := (starting deployment account occasion [flow]).course setting before.tables
      before.asked
    Course.Isolates flow.id before own
      ((starting deployment account occasion (front ++ flow :: back)).course setting tables asked)
      ((starting deployment account occasion (front ++ back)).course
        (setting.cut before.asked (own.asked - before.asked)) (tables.without flow.id) asked) := by
  intro before own
  obtain ⟨skipped, isOwn⟩ : ∃ skipped, own.asked = before.asked + skipped :=
    Nat.exists_eq_add_of_le ((starting deployment account occasion [flow]).le_asked setting
      before.tables before.asked)
  obtain ⟨counted, isBefore⟩ : ∃ counted, before.asked = asked + counted :=
    Nat.exists_eq_add_of_le ((starting deployment account occasion front).le_asked setting
      tables asked)
  rw [isOwn, Nat.add_sub_cancel_left]
  let launch := Launch.besides flow.id distinct before.asked skipped
  let spared := setting.cut before.asked skipped
  have others {flows : List Flow} (others : ∀ other ∈ flows, other.id ≠ flow.id) :
      ∀ other ∈ flows, launch.isMine (.text other.id) = true :=
    fun other among => decide_eq_true fun same => others other among (Json.text.inj same)
  obtain ⟨inFront, inBack⟩ := List.forall_mem_append.mp apart
  let early := (starting deployment account occasion front).course spared (tables.without flow.id)
    asked
  let late := (starting deployment account occasion back).course setting own.tables own.asked
  let late' := (starting deployment account occasion back).course spared early.tables early.asked
  obtain ⟨earlyRuns, isEarly⟩ : launch.Parallel Eq before early ∧ early.asked = before.asked := by
    have agrees : setting.Agrees spared asked asked counted := by
      simp only [spared, isBefore]
      exact setting.agrees_cut_before asked counted skipped
    rw [isBefore]
    exact (inStep_startAll deployment account occasion (others inFront)).runs
      (Launch.alike_without fresh leads) isBefore agrees
      fun n further => ⟨asked + n, by omega, rfl⟩
  have ownRuns : launch.Alike own.tables early.tables := by
    have isMine : ∀ other ∈ [flow], launch.others.isMine (.text other.id) = true := by
      simp [launch, Launch.others, Launch.besides]
    have aside (q : Query) (mid : Tables) (allowed : launch.others.Allows (.query q) ∨ q.IsBeside)
        (alike : launch.Alike mid early.tables) : launch.Alike (q.run mid).2 early.tables :=
      alike.aside allowed
    exact ((inStep_startAll deployment account occasion isMine).asks.keeps
      (fun n since further => ⟨n, ⟨since, further.trans_eq isOwn⟩, rfl⟩) aside earlyRuns.tables).1
  have lateRuns : launch.Parallel Eq late late' := by
    obtain ⟨later, isLate⟩ : ∃ later, late.asked = own.asked + later :=
      Nat.exists_eq_add_of_le ((starting deployment account occasion back).le_asked setting
        own.tables own.asked)
    have agrees : setting.Agrees spared own.asked early.asked later := by
      rw [isOwn, isEarly]
      exact setting.agrees_cut_after before.asked skipped later
    exact ((inStep_startAll deployment account occasion (others inBack)).runs ownRuns isLate agrees
      fun n _ => ⟨own.asked + n, by omega, rfl⟩).1
  obtain ⟨first, rest, isFirst, isRest, whole⟩ := course_append deployment account occasion front
    ([flow] ++ back) setting tables asked
  obtain ⟨mine, last, isMine, isLast, goesOn⟩ := course_append deployment account occasion [flow]
    back setting before.tables before.asked
  obtain ⟨first', last', isFirst', isLast', without⟩ := course_append deployment account occasion
    front back spared (tables.without flow.id) asked
  obtain rfl : first = first' := Except.ok.inj (isFirst.symm.trans (earlyRuns.value.trans isFirst'))
  obtain rfl : last = last' := Except.ok.inj (isLast.symm.trans (lateRuns.value.trans isLast'))
  rw [goesOn] at isRest whole
  obtain rfl : mine ++ last = rest := Except.ok.inj isRest
  have isWhole : (starting deployment account occasion (front ++ flow :: back)).course setting
      tables asked = ⟨.ok (first ++ (mine ++ last)), late.tables, late.asked,
        before.sent ++ (own.sent ++ late.sent)⟩ := whole
  rw [isWhole, without]
  refine ⟨⟨first, mine, last, isFirst, isMine, ?_, rfl⟩, ⟨late.sent, ?_, ?_⟩, lateRuns.tables.rows⟩
  · rw [List.append_assoc]
  · rw [List.append_assoc]
  · exact congrArg₂ (· ++ ·) earlyRuns.sent lateRuns.sent

/-- The active flows are read before any is started. -/
theorem course_trigger (served : setting.refused asked = none) (tables : Tables) :
    (trigger deployment account occasion.event).run.course setting tables asked =
      ((tables.activeRows account.id).mapM parse >>=
        startAll deployment account occasion.event occasion.keywords :
          Operation (List Execution)).run.course setting tables (asked + 1) := by
  unfold trigger
  rw [occasion.keywords_event]
  unfold listActiveFlows
  simp only [bind_assoc]
  rw [Operation.course_bind (congrArg Course.value (course_query served _ tables)),
    course_query served, run_active]
  rfl

theorem course_trigger_of_areRead (served : setting.refused asked = none)
    (reads : Flow.AreRead (tables.activeRows account.id) flows) :
    (trigger deployment account occasion.event).run.course setting tables asked =
      (starting deployment account occasion flows).course setting tables (asked + 1) := by
  rw [course_trigger deployment account occasion served, mapM_parse_eq reads, pure_bind]
  rfl

/-- The query for the active flows is served, flows and executions have ids of their own, and the
leads can be read. The start of flows fails exactly if an active flow of the account cannot be read,
and then it has started none. Otherwise, whatever else is refused, each of the flows may as well be
missing: the executions of the others, their rows and what is sent for them are those of the tables
without that flow, where the same is told. -/
theorem flows_are_isolated_iff (served : setting.refused asked = none)
    (distinct : Function.Injective fun asked => setting.told asked .freshId)
    (fresh : ∀ row ∈ tables.executionRows, ∀ n, row.get "id" ≠ .text (setting.told n .freshId))
    (unique : tables.UniqueFlows) (leads : tables.ReadsLeads) :
    let active := tables.activeRows account.id
    let run := (trigger deployment account occasion.event).run.course setting tables asked
    ((∃ started, run.value = .ok started) ↔
      ∀ row ∈ active, ∃ flow, Flow.read (.record row) = .valid flow) ∧
    ((∀ started, run.value ≠ .ok started) → run.tables = tables ∧ run.sent = []) ∧
    ∀ front flow back, Flow.AreRead active (front ++ flow :: back) →
      let before := (starting deployment account occasion front).course setting tables (asked + 1)
      let own := (starting deployment account occasion [flow]).course setting before.tables
        before.asked
      Course.Isolates flow.id before own run
        ((trigger deployment account occasion.event).run.course
          (setting.cut before.asked (own.asked - before.asked)) (tables.without flow.id)
          asked) := by
  intro active run
  have fails (row : Row) (present : row ∈ active)
      (unreadable : ∀ flow, Flow.read (.record row) ≠ .valid flow) :
      ∃ failure, run = ⟨.error failure, tables, asked + 1, []⟩ := by
    obtain ⟨failure, throws⟩ := exists_mapM_throws (α := Flow) present unreadable
    refine ⟨failure, ?_⟩
    simp only [run]
    rw [course_trigger deployment account occasion served, throws]
    rfl
  have succeeds {flows : List Flow} (reads : Flow.AreRead active flows) :
      ∃ started, run.value = .ok started := by
    simp only [run]
    rw [course_trigger_of_areRead deployment account occasion served reads]
    exact startAll_succeeds deployment account setting _ _ tables (asked + 1)
  refine ⟨⟨fun ⟨started, isOk⟩ row present => ?_, fun readable => ?_⟩, fun notOk => ?_,
    fun front flow back reads => ?_⟩
  · by_contra unreadable
    obtain ⟨failure, isFailure⟩ := fails row present (not_exists.mp unreadable)
    rw [isFailure] at isOk
    cases isOk
  · obtain ⟨flows, _, reads⟩ := exists_mapM_parse readable
    exact succeeds reads
  · by_cases readable : ∀ row ∈ active, ∃ flow, Flow.read (.record row) = .valid flow
    · obtain ⟨flows, _, reads⟩ := exists_mapM_parse readable
      obtain ⟨started, isOk⟩ := succeeds reads
      exact absurd isOk (notOk started)
    · simp only [not_forall, not_exists] at readable
      obtain ⟨row, present, unreadable⟩ := readable
      obtain ⟨failure, isFailure⟩ := fails row present unreadable
      rw [isFailure]
      exact ⟨rfl, rfl⟩
  · intro before own
    obtain ⟨reads', apart⟩ := Tables.areRead_without unique reads
    have further : asked < before.asked :=
      (starting deployment account occasion front).le_asked setting tables (asked + 1)
    have served' : (setting.cut before.asked (own.asked - before.asked)).refused asked = none := by
      simp only [Setting.cut, if_pos further, served]
    simp only [run]
    rw [course_trigger_of_areRead deployment account occasion served reads,
      course_trigger_of_areRead deployment account occasion served' reads']
    exact starting_isolates deployment account occasion distinct fresh leads apart

end Run

namespace Example

/-- The fourth request is refused: the execution of the first flow cannot be inserted. -/
def reluctant : Setting where
  told := numbered.told
  refused n := if n = 3 then some (.store "down") else none
  noConflict n failure refused := by
    split at refused
    · cases refused
      rfl
    · cases refused

/-- Two flows that the word "hi" would start; the second one has a node without a type. -/
def spoiled : Tables where
  flows := ⟨[greeting, Entries.update greeting
    [("id", .text "broken"), ("nodes", .list [.record [("id", .text "begin")]])]], 0⟩

theorem spoiled_unique : spoiled.UniqueFlows := by
  unfold Tables.UniqueFlows
  decide

end Example

open Example in
/-- The first of two flows cannot be started; the other one is, as if only that one were there. -/
theorem flows_are_isolated_iff_refused :
    (reluctant.refused 0 = none ∧ salutations.UniqueFlows ∧ salutations.ReadsLeads) ∧
      ((Run.trigger Example.deployment { id := "account" } salutation.event).run.course reluctant
        salutations 0).value.toOption.map (·.map (·.flowId)) = some ["flow"] ∧
      ∃ flow others, Flow.AreRead (salutations.activeRows "account") (flow :: others) ∧
        let before := (Run.starting Example.deployment { id := "account" } salutation []).course
          reluctant salutations 1
        let own := (Run.starting Example.deployment { id := "account" } salutation [flow]).course
          reluctant before.tables before.asked
        Course.Isolates flow.id before own
          ((Run.trigger Example.deployment { id := "account" } salutation.event).run.course
            reluctant salutations 0)
          ((Run.trigger Example.deployment { id := "account" } salutation.event).run.course
            (reluctant.cut before.asked (own.asked - before.asked)) (salutations.without flow.id)
            0) := by
  have leads : salutations.ReadsLeads := fun row present => absurd present List.not_mem_nil
  have readable : ∀ row ∈ salutations.activeRows "account",
      ∃ flow, Flow.read (.record row) = .valid flow := by
    have reads : ∀ row ∈ salutations.rows .flows,
        (Flow.read (.record row)).toOption.isSome = true := by decide +kernel
    exact fun row present => Validated.exists_valid (reads row (Tables.mem_activeRows.mp present).1)
  have started : ((Run.trigger Example.deployment { id := "account" } salutation.event).run.course
      reluctant salutations 0).value.toOption.map (·.map (·.flowId)) = some ["flow"] := by
    decide +kernel
  have length : (salutations.activeRows "account").length = 2 := by decide +kernel
  obtain ⟨flows, _, reads⟩ := exists_mapM_parse readable
  rw [reads.length_eq] at length
  obtain ⟨flow, others, rfl⟩ := List.exists_cons_of_length_pos (by omega : 0 < flows.length)
  obtain ⟨_, _, isolates⟩ := Run.flows_are_isolated_iff Example.deployment { id := "account" }
    salutation (show reluctant.refused 0 = none from rfl) numbered_distinct
    (fun row present => absurd present List.not_mem_nil) salutations_unique leads
  exact ⟨⟨rfl, salutations_unique, leads⟩, started, flow, others, reads,
    isolates [] flow others reads⟩

open Example in
/-- A flow that cannot be read stops the others. -/
theorem not_all_flows_are_isolated : ¬ ∀ (setting : Setting) (deployment : Deployment)
    (account : Account) (occasion : Occasion) (tables : Tables) (row : Row) (id : String)
    (asked : Nat), setting.IsFaultless →
    (Function.Injective fun asked => setting.told asked .freshId) →
    (∀ row ∈ tables.executionRows, ∀ n, row.get "id" ≠ .text (setting.told n .freshId)) →
    tables.UniqueFlows → tables.ReadsLeads →
    row ∈ tables.activeRows account.id → row.get "id" = .text id →
    (∀ flow, Flow.read (.record row) ≠ .valid flow) → ∀ started,
    ((Run.trigger deployment account occasion.event).run.course setting (tables.without id)
      asked).value = .ok started →
    ∃ others, ((Run.trigger deployment account occasion.event).run.course setting tables
      asked).value = .ok others ∧ others.length = started.length := by
  intro claim
  let row : Row := Entries.update greeting
    [("id", .text "broken"), ("nodes", .list [.record [("id", .text "begin")]])]
  have present : row ∈ spoiled.activeRows "account" := by decide +kernel
  have unreadable : ∀ flow, Flow.read (.record row) ≠ .valid flow := by
    have reads : (Flow.read (.record row)).toOption.isSome = false := by decide +kernel
    intro flow isRead
    rw [isRead] at reads
    cases reads
  have starts : ((Run.trigger Example.deployment { id := "account" } salutation.event).run.course
      numbered (spoiled.without "broken") 0).value.toOption.isSome = true := by decide +kernel
  have fails : ((Run.trigger Example.deployment { id := "account" } salutation.event).run.course
      numbered spoiled 0).value.toOption.isSome = false := by decide +kernel
  cases without : ((Run.trigger Example.deployment { id := "account" } salutation.event).run.course
      numbered (spoiled.without "broken") 0).value with
  | error failure =>
    rw [without] at starts
    cases starts
  | ok started =>
    obtain ⟨others, isOk, _⟩ := claim numbered Example.deployment { id := "account" } salutation
      spoiled row "broken" 0 (fun _ => rfl) numbered_distinct
      (fun row present => absurd present List.not_mem_nil) spoiled_unique
      (fun row present => absurd present List.not_mem_nil) present rfl unreadable started without
    rw [isOk] at fails
    cases fails

end MessageFlow
