import Mathlib.Data.Int.ConditionallyCompleteOrder
import Mathlib.Data.List.Sort
import MessageFlow.Proofs.Start.Trigger

/-!
The flows that an event starts. Alone with the store and with nothing refused, each active flow of
the account that matches is started once, in the order of creation, whatever its traversal does.
-/

namespace MessageFlow
open Operation Store

variable {setting : Setting} {tables : Tables} {ids : Set String} {asked : Nat}
  (deployment : Deployment) (account : Account) (occasion : Occasion)

/-- Whether the flow has a trigger for it. -/
def Occasion.matches (flow : Flow) : Bool := !(occasion.triggers flow).isEmpty

theorem Occasion.matches_iff {flow : Flow} :
    occasion.matches flow = true ↔ occasion.triggers flow ≠ [] := by
  unfold Occasion.matches
  cases occasion.triggers flow <;> simp

/-- What the start of a flow makes of its row. -/
def Flow.Counted (flow : Flow) (row row' : Row) : Prop :=
  ∃ time, row' = Entries.update row (Flow.countColumns (flow.triggerCount + 1) time)

theorem Flow.alters_count (flow : Flow) (time : Timestamp) : Alters Flow.id Flow.Counted [flow]
    (·.revise [byId flow.id] (Flow.countColumns (flow.triggerCount + 1) time)) where
  sameId row := Row.get_eq_of_get? (Row.get?_revise (by simp [Flow.countColumns]))
  made other present row isId := by
    obtain rfl := List.mem_singleton.mp present
    exact ⟨time, if_pos (selects_byId.mpr isId)⟩
  spared row other := Row.revise_of_not fun meant =>
    other flow (List.mem_singleton_self flow) (selects_byId.mp meant)

/-- Changes that keep the ids of rows keep them unique. -/
theorem Tables.UniqueFlows.map {after : Tables} {count : Row → Row} (unique : tables.UniqueFlows)
    (sameId : ∀ row, (count row).get "id" = row.get "id")
    (rows : after.rows .flows = (tables.rows .flows).map count) : after.UniqueFlows := by
  unfold Tables.UniqueFlows
  rw [rows, List.map_map]
  simp only [Function.comp_def, sameId]
  exact unique

namespace Run

/-- What the start of flows leaves, in the same order. -/
structure Begins (flows : List Flow) (before : Tables) (outcome : Except Failure (List Execution))
    (after : Tables) (started : List Execution) (count : Row → Row) : Prop where
  succeeds : outcome = .ok started
  executions : after.executionRows = before.executionRows ++ started.map Execution.row
  starts : List.Forall₂ occasion.Starts (flows.filter occasion.matches) started
  rows : after.rows .flows = (before.rows .flows).map count
  counts : Alters Flow.id Flow.Counted (flows.filter occasion.matches) count

theorem startAll_alone (faultless : setting.IsFaultless) (draws : setting.Draws ids)
    (distinct : Function.Injective fun asked => setting.told asked .freshId) {flows : List Flow}
    (unique : tables.UniqueFlows) (apart : (flows.map (·.id)).Nodup)
    (stored : ∀ flow ∈ flows, ∃ row ∈ tables.rows .flows, Flow.read (.record row) = .valid flow)
    (fresh : ∀ row ∈ tables.executionRows, ∀ n, asked ≤ n →
      row.get "id" ≠ .text (setting.told n .freshId)) :
    (startAll deployment account occasion.event occasion.keywords flows).LeavesAt setting tables
      asked fun outcome after => ∃ started count,
        Begins occasion flows tables outcome after started count := by
  induction flows generalizing tables asked with
  | nil => exact ⟨[], id, rfl, (List.append_nil _).symm, .nil, (List.map_id _).symm, .nil⟩
  | cons flow flows ih =>
    obtain ⟨⟨row, present, reads⟩, othersStored⟩ := List.forall_mem_cons.mp stored
    obtain ⟨notAmong, othersApart⟩ := List.nodup_cons.mp apart
    unfold startAll
    apply attempt_then
    by_cases matching : occasion.triggers flow = []
    · have passes : start deployment account flow occasion.event occasion.keywords = pure none := by
        unfold start
        rw [occasion.triggers_event, matching]
      have skips : (flow :: flows).filter occasion.matches = flows.filter occasion.matches :=
        List.filter_cons_of_neg fun matched => occasion.matches_iff.mp matched matching
      obtain ⟨started, count, begins⟩ := ih unique othersApart othersStored fresh
      rw [passes]
      exact bind_then begins.succeeds ⟨started, count, rfl, begins.executions,
        skips ▸ begins.starts, begins.rows, skips ▸ begins.counts⟩
    · have keeps : (flow :: flows).filter occasion.matches =
          [flow] ++ flows.filter occasion.matches :=
        List.filter_cons_of_pos (occasion.matches_iff.mpr matching)
      obtain ⟨e, time, succeeds, starts, id, executions, rows⟩ := start_alone deployment account
        occasion faultless draws unique present reads matching
        fun row present => fresh row present (asked + 1) (Nat.le_succ asked)
      have further := asked_start setting deployment account occasion matching tables asked
      generalize (start deployment account flow occasion.event
        occasion.keywords).run.alone setting tables asked = run
        at succeeds executions rows further ⊢
      have alters := flow.alters_count time
      have othersFlows : ∀ other ∈ flows, ∃ row ∈ run.tables.rows .flows,
          Flow.read (.record row) = .valid other := by
        intro other also
        obtain ⟨row, present, reads⟩ := othersStored other also
        refine ⟨row, ?_, reads⟩
        have spared := alters.spared row fun this isThis isId => notAmong <| by
          rw [List.mem_singleton.mp isThis] at isId
          have same : flow.id = other.id :=
            Json.text.inj (isId.symm.trans (Row.get_id_of_readFlow reads))
          exact List.mem_map.mpr ⟨other, also, same.symm⟩
        rw [rows]
        exact List.mem_map.mpr ⟨row, present, spared⟩
      have othersFresh : ∀ row ∈ run.tables.executionRows, ∀ n, run.asked ≤ n →
          row.get "id" ≠ .text (setting.told n .freshId) := by
        intro row present n later
        rw [executions] at present
        rcases List.mem_append.mp present with old | new
        · exact fresh row old n (by omega)
        · rw [List.mem_singleton.mp new, id]
          exact fun same => absurd (distinct (Json.text.inj same)) (by omega)
      obtain ⟨started, count, begins⟩ := ih (unique.map alters.sameId rows) othersApart othersFlows
        othersFresh
      rw [succeeds]
      refine bind_then begins.succeeds ⟨e :: started, _, rfl, begins.executions.trans ?_,
        keeps ▸ .cons starts begins.starts, begins.rows.trans ?_,
        keeps ▸ alters.append begins.counts ?_⟩
      · rw [executions, List.append_assoc]
        rfl
      · rw [rows, List.map_map]
      · intro this isThis other also same
        rw [List.mem_singleton.mp isThis] at same
        exact notAmong (List.mem_map.mpr ⟨other, (List.mem_filter.mp also).1, same.symm⟩)

end Run

section Listing

theorem Store.sortBy_eq_insertionSort {α : Type} (precedes : α → α → Bool) (items : List α) :
    sortBy precedes items = items.insertionSort fun a b => precedes a b = true := by
  have inserts (item : α) (items : List α) : insertBy precedes item items =
      items.orderedInsert (fun a b => precedes a b = true) item := by
    induction items with
    | nil => rfl
    | cons other rest ih => rw [insertBy, List.orderedInsert_cons, ih]
  induction items with
  | nil => rfl
  | cons item rest ih =>
    rw [List.insertionSort_cons, ← ih, ← inserts, sortBy, List.foldr_cons, sortBy]

/-- When a row was created; a row that does not tell comes last. -/
def Row.creation (row : Row) : WithTop Int :=
  match (row.get "created_at").instant? with
  | some instant => (instant : WithTop Int)
  | none => ⊤

theorem SortOrder.precedes_creation (a b : Row) :
    SortOrder.precedes ⟨"created_at", false⟩ a b = true ↔ a.creation ≤ b.creation := by
  unfold precedes Row.creation
  cases (Row.get a "created_at").instant? <;> cases (Row.get b "created_at").instant? <;> simp

/-- The row of a flow of that account that is active. -/
def Row.IsActiveOf (row : Row) (accountId : String) : Prop :=
  row.get "account_id" = .text accountId ∧ Json.same (row.get "is_active") (.bool true) = true

instance (row : Row) (accountId : String) : Decidable (row.IsActiveOf accountId) :=
  inferInstanceAs (Decidable (_ ∧ _))

/-- The rows of the active flows of an account, in the order of creation; rows of one time are in
the order of the table. -/
def Tables.activeRows (tables : Tables) (accountId : String) : List Row :=
  ((tables.rows .flows).filter (·.IsActiveOf accountId)).insertionSort
    fun a b => a.creation ≤ b.creation

theorem Tables.mem_activeRows {accountId : String} {row : Row} :
    row ∈ tables.activeRows accountId ↔ row ∈ tables.rows .flows ∧ row.IsActiveOf accountId := by
  rw [activeRows, List.mem_insertionSort, List.mem_filter, decide_eq_true_iff]

theorem Store.selects_active (accountId : String) :
    selects [.equals "account_id" (.text accountId), .equals "is_active" (.bool true)] =
      fun row => decide (row.IsActiveOf accountId) := by
  funext row
  rw [Bool.eq_iff_iff, decide_eq_true_iff]
  simp [selects, Filter.holds, Json.same_text, Row.IsActiveOf]

/-- What a list of flows was read from. -/
abbrev Flow.AreRead (rows : List Row) (flows : List Flow) : Prop :=
  List.Forall₂ (fun row flow => Flow.read (.record row) = .valid flow) rows flows

/-- The active flows of an account have ids of their own. -/
theorem Tables.nodup_ids_active {accountId : String} {flows : List Flow}
    (unique : tables.UniqueFlows) (reads : Flow.AreRead (tables.activeRows accountId) flows) :
    (flows.map (·.id)).Nodup := by
  have uniqueRows : ((tables.activeRows accountId).map fun row => row.get "id").Nodup :=
    ((List.perm_insertionSort _ _).map _).nodup_iff.mpr (unique.sublist (List.filter_sublist.map _))
  exact nodup_ids_of_listed (reads.imp fun _ _ => Row.get_id_of_readFlow) uniqueRows

/-- What a query for the active flows of an account finds. -/
theorem Store.run_active (tables : Tables) (accountId : String) :
    ((Query.select .flows [.equals "account_id" (.text accountId),
      .equals "is_active" (.bool true)] (some ⟨"created_at", false⟩) none).run tables).1 =
        tables.activeRows accountId := by
  simp only [Query.run, sortBy_eq_insertionSort, SortOrder.precedes_creation, selects_active]
  rfl

theorem Store.listActiveFlows_alone (faultless : setting.IsFaultless) {accountId : String}
    (readable : ∀ row ∈ tables.activeRows accountId,
      ∃ flow, Flow.read (.record row) = .valid flow) (asked : Nat) :
    (listActiveFlows accountId).LeavesAt setting tables asked fun outcome after =>
      ∃ flows, outcome = .ok flows ∧ after = tables ∧
        Flow.AreRead (tables.activeRows accountId) flows := by
  obtain ⟨flows, parses, reads⟩ := exists_mapM_parse readable
  refine query_then faultless ?_
  rw [run_active, parses]
  exact ⟨flows, rfl, rfl, reads⟩

end Listing

/-- Whether a row is of a flow with a trigger for it. -/
def Occasion.concerns (row : Row) : Bool :=
  (Flow.read (.record row)).toOption.any occasion.matches

/-- The flows have ids of their own, and so have executions to come; the active flows of the account
can be read and are written with the names of columns. An event that has the store to itself starts
every one of them that has a trigger for it, in the order of creation, at its first such trigger.
One execution is inserted for each of them and its start is counted; no other flow and no execution
that there was is changed. -/
theorem Run.one_execution_per_matching_flow (faultless : setting.IsFaultless)
    (distinct : Function.Injective fun asked => setting.told asked .freshId)
    (fresh : ∀ row ∈ tables.executionRows, ∀ n, row.get "id" ≠ .text (setting.told n .freshId))
    (unique : tables.UniqueFlows)
    (readable : ∀ row ∈ tables.activeRows account.id,
      row.IsSnakeCase Flow.names ∧ ∃ flow, Flow.read (.record row) = .valid flow) (asked : Nat) :
    let starting := (tables.activeRows account.id).filter occasion.concerns
    let run := (trigger deployment account occasion.event).run.alone setting tables asked
    ∃ flows started count, Flow.AreRead starting flows ∧
      run.value = .ok started ∧ List.Forall₂ occasion.Starts flows started ∧
      run.tables.executionRows = tables.executionRows ++ started.map Execution.row ∧
      run.tables.rows .flows = (tables.rows .flows).map count ∧
      List.Forall₂ (fun row (flow : Flow) => ∃ time, Flow.read (.record (count row)) =
        .valid { flow with
          triggerCount := flow.triggerCount + 1
          lastTriggeredAt := some time }) starting flows ∧
      ∀ row ∈ tables.rows .flows, row ∉ starting → count row = row := by
  have draws : setting.Draws (Set.range fun asked => setting.told asked .freshId) :=
    fun asked => ⟨asked, rfl⟩
  have lists := listActiveFlows_alone faultless (fun row present => (readable row present).2) asked
  unfold LeavesAt at lists
  generalize isListed : (listActiveFlows account.id).run.alone setting tables asked = listed
    at lists
  obtain ⟨flows, outcome, same, reads⟩ := lists
  obtain ⟨started, count, begins⟩ := startAll_alone deployment account occasion faultless draws
    distinct unique (Tables.nodup_ids_active unique reads)
    (fun flow present => by
      obtain ⟨row, among, reads⟩ := exists_row_of_listed reads present
      exact ⟨row, (Tables.mem_activeRows.mp among).1, reads⟩)
    (fun row present n _ => fresh row present n)
  have ends : (trigger deployment account occasion.event).LeavesAt setting tables asked
      fun outcome after => Begins occasion flows tables outcome after started count := by
    unfold trigger
    rw [occasion.keywords_event]
    refine bind_then (isListed ▸ outcome) ?_
    rw [isListed, same]
    exact begins
  have starting : Flow.AreRead ((tables.activeRows account.id).filter occasion.concerns)
      (flows.filter occasion.matches) := by
    refine List.rel_filter (fun row flow reads => ?_) reads
    have same : occasion.concerns row = occasion.matches flow := by
      unfold Occasion.concerns
      rw [reads]
      rfl
    exact Bool.eq_iff_iff.mp same
  refine ⟨_, started, count, starting, ends.succeeds, ends.starts, ends.executions, ends.rows,
    List.forall₂_iff_zip.mpr ⟨starting.length_eq, fun {row flow} inZip => ?_⟩,
    fun row present notStarting => ends.counts.spared row fun flow matched isId => notStarting ?_⟩
  · have among := (List.mem_filter.mp (List.of_mem_zip inZip).1).1
    have reads := List.forall₂_zip starting inZip
    obtain ⟨time, counted⟩ := ends.counts.made flow (List.of_mem_zip inZip).2 row
      (Row.get_id_of_readFlow reads)
    exact ⟨time, counted ▸ Flow.read_count reads (readable row among).1 _ time⟩
  · obtain ⟨other, among, reads⟩ := exists_row_of_listed starting matched
    have present' := (Tables.mem_activeRows.mp (List.mem_filter.mp among).1).1
    rwa [List.inj_on_of_nodup_map unique present present'
      (isId.trans (Row.get_id_of_readFlow reads).symm)]

namespace Example

/-- Nothing is refused, and no two of the ids that are told are the same. -/
def numbered : Setting where
  told
    | asked, .freshId => String.ofList (List.replicate asked '1')
    | _, request => (World.answer request { clock := default, cacheLifetime := .int 300 }).1
  noConflict _ := no_refusal

theorem numbered_distinct : Function.Injective fun asked => numbered.told asked .freshId := by
  intro n m same
  have lists : List.replicate n '1' = List.replicate m '1' := String.ofList_injective same
  simpa using congrArg List.length lists

/-- Three flows that the word "hi" starts: the second one is not active. -/
def salutations : Tables where
  flows := ⟨[greeting,
    Entries.update greeting [("id", .text "retired"), ("is_active", .bool false)],
    Entries.update greeting [("id", .text "earlier"), ("trigger_count", .int 4),
      ("created_at", .text "2024-01-01T00:00:00+00:00")]], 0⟩

theorem salutations_unique : salutations.UniqueFlows := by
  unfold Tables.UniqueFlows
  decide

def salutation : Occasion where
  triggerType := "keyword"
  senderId := "sender"
  messageText := some "well hi"

end Example

open Example in
/-- Two flows are started: the one without a date comes last. -/
theorem one_execution_per_matching_flow_salutations :
    (numbered.IsFaultless ∧ salutations.UniqueFlows) ∧
      ((salutations.activeRows "account").filter salutation.concerns).map (·.get "id") =
        [.text "earlier", .text "flow"] ∧
      ∃ started, ((Run.trigger Example.deployment { id := "account" } salutation.event).run.alone
        numbered salutations 0).value = .ok started ∧ started.length = 2 := by
  have faultless : numbered.IsFaultless := fun _ => rfl
  have readable : ∀ row ∈ salutations.activeRows "account",
      row.IsSnakeCase Flow.names ∧ ∃ flow, Flow.read (.record row) = .valid flow := by
    have reads : ∀ row ∈ salutations.rows .flows, (∀ name ∈ Flow.names, name.key ≠ name.column →
        Entries.get? row name.key = none) ∧
        (Flow.read (.record row)).toOption.isSome = true := by decide +kernel
    intro row present
    obtain ⟨snake, some⟩ := reads row (Tables.mem_activeRows.mp present).1
    exact ⟨snake, Validated.exists_valid some⟩
  have starting : ((salutations.activeRows "account").filter salutation.concerns).map
      (·.get "id") = [.text "earlier", .text "flow"] := by decide +kernel
  obtain ⟨flows, started, count, reads, succeeds, starts, _⟩ :=
    Run.one_execution_per_matching_flow Example.deployment { id := "account" } salutation faultless
      numbered_distinct (fun row present => absurd present List.not_mem_nil) salutations_unique
      readable 0
  refine ⟨⟨faultless, salutations_unique⟩, starting, started, succeeds, ?_⟩
  rw [← starts.length_eq, ← reads.length_eq, ← List.length_map (Row.get · "id"), starting]
  rfl

end MessageFlow
