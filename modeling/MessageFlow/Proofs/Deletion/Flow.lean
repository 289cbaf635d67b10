import MessageFlow.Proofs.Deletion.Loop

/-!
The whole deletion of a flow by a program that has the store to itself.
-/

namespace MessageFlow
open Operation

variable {setting : Setting} {tables : Tables} {flowId : String} {time : Timestamp}

theorem selects_openOf (named : flowId ≠ "") (row : Row) :
    selects (.oneOf "status" [Status.active.text, Status.waiting.text] ::
      (Store.optionalFilter "flow_id" (some flowId) ++ Store.optionalFilter "account_id" none ++
        Store.optionalFilter "sender_id" none)) row = decide (row.IsOpenOf flowId) := by
  have notEmpty : flowId.isEmpty = false := by simpa using named
  rw [Bool.eq_iff_iff, decide_eq_true_iff]
  simp [selects, Store.optionalFilter, notEmpty, Filter.holds, Json.same_text, Row.IsOpenOf,
    and_comm]

/-- The open executions of the flow, in some order. -/
theorem run_openQuery (named : flowId ≠ "") (tables : Tables) :
    (((Store.openQuery (some flowId) none none).run tables).1).Perm
      (tables.executionRows.filter fun row => row.IsOpenOf flowId) := by
  have same : tables.executionRows.filter (fun row => row.IsOpenOf flowId) =
      (tables.rows .executions).filter (selects _) :=
    List.filter_congr fun row _ => (selects_openOf named row).symm
  rw [same]
  exact sortBy_perm _ _

theorem exists_eq_map {α β : Type} {f : β → α} {holds : β → Prop} {items : List α}
    (all : ∀ a ∈ items, ∃ b, holds b ∧ a = f b) :
    ∃ sources : List β, (∀ b ∈ sources, holds b) ∧ items = sources.map f := by
  induction items with
  | nil => exact ⟨[], fun b none => absurd none List.not_mem_nil, rfl⟩
  | cons a items ih =>
    obtain ⟨b, holdsOfFirst, rfl⟩ := all a (.head _)
    obtain ⟨sources, holds, rfl⟩ := ih fun other present => all other (.tail _ present)
    exact ⟨b :: sources, List.forall_mem_cons.mpr ⟨holdsOfFirst, holds⟩, rfl⟩

theorem parse_rows {copies : List Execution} (regular : ∀ v ∈ copies, v.Regular) :
    ((copies.map Execution.row).mapM parse : Operation (List Execution)) = pure copies := by
  induction copies with
  | nil => rfl
  | cons v copies ih =>
    have reads : (parse v.row : Operation Execution) = pure v := by
      change ofValidated _ (Execution.read (.record v.row)) = pure v
      rw [Execution.read_row (regular v (.head _))]
      rfl
    rw [List.map_cons, List.mapM_cons, reads,
      ih fun other present => regular other (.tail _ present)]
    rfl

/-- The copies that the deletion starts from: one of each open execution. -/
theorem leaves_listOpen (named : flowId ≠ "") (formed : tables.Formed) (unique : tables.UniqueIds) :
    (Store.listOpenExecutions (some flowId) none none).Leaves setting tables
      fun outcome after log => after = tables ∧ (∀ id, writesOf log id = 0) ∧ match outcome with
        | .ok copies => Run.Copied flowId tables copies ∧
            copies.length = tables.executionRows.countP (fun row => row.IsOpenOf flowId) ∧
            ∀ v, tables.Stores v → Row.IsOpenOf v.row flowId → v ∈ copies
        | .error failure => setting.Refuses failure := by
  have found := run_openQuery named tables
  have among {row : Row} : row ∈ ((Store.openQuery (some flowId) none none).run tables).1 ↔
      row ∈ tables.executionRows ∧ row.IsOpenOf flowId := by
    rw [found.mem_iff, List.mem_filter, decide_eq_true_iff]
  refine Operation.leaves_bind (Operation.leaves_query ?_ fun failure refuses => ?_)
  · change Operation.Leaves setting
      (((Store.openQuery (some flowId) none none).run tables).1.mapM parse) tables _
    obtain ⟨copies, stored, rows⟩ := exists_eq_map fun row present =>
      formed row (among.mp present).1
    rw [rows, parse_rows fun v present => (stored v present).1]
    have ids : (copies.map (·.id)).Nodup := by
      have named : (copies.map fun v => Json.text v.id) =
          (copies.map Execution.row).map fun row => row.get "id" := by
        rw [List.map_map]
        exact List.map_congr_left fun v present => (stored v present).1.get_id.symm
      have apart : (copies.map fun v => Json.text v.id).Nodup := by
        rw [named, ← rows, (found.map _).nodup_iff]
        exact unique.sublist (List.filter_sublist.map _)
      exact List.Nodup.of_map Json.text (by rwa [List.map_map])
    have amongRows {v : Execution} (present : v ∈ copies) :
        v.row ∈ tables.executionRows ∧ Row.IsOpenOf v.row flowId :=
      among.mp (rows ▸ List.mem_map_of_mem present)
    apply Operation.leaves_pure
    refine ⟨rfl, fun id => writesOf_select .., ⟨ids, ?_, ?_, ?_⟩, ?_, ?_⟩
    · exact fun v present => ⟨(stored v present).1, (amongRows present).1⟩
    · exact fun v present => (amongRows present).2
    · exact fun v present => (stored v present).2
    · rw [List.countP_eq_length_filter, ← found.length_eq, rows, List.length_map]
    · intro v stores isOpen
      have isFound := among.mpr ⟨stores.present, isOpen⟩
      rw [rows] at isFound
      obtain ⟨w, present, same⟩ := List.mem_map.mp isFound
      rwa [← Execution.row_injective (stored w present).1 stores.regular same]
  · exact ⟨rfl, fun id => writesOf_select .., refuses⟩

theorem ticketRows_failPending (flowId : String) (time : Timestamp) (tables : Tables) :
    ((Store.failPendingQuery flowId time Run.flowDeleted).run tables).2.ticketRows =
      tables.ticketRows.map fun row =>
        if row.IsPendingOf flowId then row.expired time else row := by
  rw [(Store.failPendingQuery_marks flowId time Run.flowDeleted).ticketRows_run]
  refine List.map_congr_left fun row _ => ?_
  have meant : selects [.equals "flow_id" (.text flowId), Store.pending] row = true ↔
      row.IsPendingOf flowId := Store.selects_pendingOf
  simp only [Row.revise, meant]
  rfl

/-- The pending tickets of the flow are marked, all at once. -/
theorem withdraws_failPending (flowId : String) (time : Timestamp) (tables : Tables) :
    tables.Withdraws flowId
      [⟨Store.failPendingQuery flowId time Run.flowDeleted,
        .ok ((Store.failPendingQuery flowId time Run.flowDeleted).run tables).1⟩]
      ((Store.failPendingQuery flowId time Run.flowDeleted).run tables).2 where
  executions := by
    have same : ((Store.failPendingQuery flowId time Run.flowDeleted).run tables).2.executionRows =
        tables.executionRows := Query.rows_run_of_ne nofun
    rw [same, List.forall₂_same]
    exact fun row _ => .kept row fun id _ => writesOf_elsewhere (by nofun) _ id
  tickets := by
    rw [ticketRows_failPending, List.forall₂_map_right_iff, List.forall₂_same]
    intro row _
    by_cases pending : row.IsPendingOf flowId
    · rw [if_pos pending]
      exact .failed pending time
    · rw [if_neg pending]
      exact .kept
  flows := .inl (Query.rows_run_of_ne nofun)
  others table _ notTickets _ := Query.rows_run_of_ne (Ne.symm notTickets)

theorem none_pending (flowId : String) (time : Timestamp) (tables : Tables) :
    ∀ row ∈ ((Store.failPendingQuery flowId time Run.flowDeleted).run tables).2.ticketRows,
      ¬ row.IsPendingOf flowId := by
  rw [ticketRows_failPending]
  intro row present
  obtain ⟨earlier, _, rfl⟩ := List.mem_map.mp present
  by_cases pending : earlier.IsPendingOf flowId
  · rw [if_pos pending]
    exact Row.not_isPendingOf_expired
  · rw [if_neg pending]
    exact pending

theorem rows_deleteFlow (flowId : String) (tables : Tables) :
    ((Query.delete .flows [Store.byId flowId]).run tables).2.rows .flows =
      (tables.rows .flows).filter fun row => row.get "id" ≠ .text flowId := by
  have kept : ((Query.delete .flows [Store.byId flowId]).run tables).2.rows .flows =
      (tables.rows .flows).filter fun row => !selects [Store.byId flowId] row :=
    tables.rows_put .flows _
  rw [kept]
  refine List.filter_congr fun row _ => ?_
  rw [Bool.eq_iff_iff, decide_eq_true_iff, Bool.not_eq_true', ← Bool.not_eq_true,
    Store.selects_byId]

theorem withdraws_deleteFlow (flowId : String) (tables : Tables) :
    tables.Withdraws flowId
      [⟨.delete .flows [Store.byId flowId],
        .ok ((Query.delete .flows [Store.byId flowId]).run tables).1⟩]
      ((Query.delete .flows [Store.byId flowId]).run tables).2 where
  executions := by
    have same : ((Query.delete .flows [Store.byId flowId]).run tables).2.executionRows =
        tables.executionRows := Query.rows_run_of_ne nofun
    rw [same, List.forall₂_same]
    exact fun row _ => .kept row fun id _ => writesOf_elsewhere (by nofun) _ id
  tickets := by
    have same : ((Query.delete .flows [Store.byId flowId]).run tables).2.ticketRows =
        tables.ticketRows := Query.rows_run_of_ne nofun
    rw [same, List.forall₂_same]
    exact fun _ _ => .kept
  flows := .inr (rows_deleteFlow flowId tables)
  others table _ _ notFlows := Query.rows_run_of_ne (Ne.symm notFlows)

/-- After the last two queries of a deletion there is nothing left to change. -/
theorem rid_deleteFlow (noneOpen : ∀ row ∈ tables.executionRows, ¬ row.IsOpenOf flowId) :
    ((Query.delete .flows [Store.byId flowId]).run
      ((Store.failPendingQuery flowId time Run.flowDeleted).run tables).2).2.Rid flowId where
  executions := noneOpen
  tickets := none_pending flowId time tables
  flows := by
    rw [rows_deleteFlow]
    intro row present
    simpa using (List.mem_filter.mp present).2

namespace Run

/-- A deletion does its part of the work, and all of it unless the store refuses a query. -/
theorem leaves_deleteFlow (named : flowId ≠ "") (formed : tables.Formed)
    (unique : tables.UniqueIds) :
    (deleteFlow flowId).Leaves setting tables fun outcome after log =>
      tables.Withdraws flowId log after ∧ match outcome with
        | .ok count => after.Rid flowId ∧
            count = tables.executionRows.countP fun row => row.IsOpenOf flowId
        | .error failure => setting.Refuses failure := by
  unfold deleteFlow
  refine Operation.leaves_bind (Operation.leaves_now fun now => ?_)
  refine Operation.leaves_bind (Operation.leaves_mono (leaves_listOpen named formed unique) ?_)
  rintro outcome tables listed ⟨rfl, unwritten, copied⟩
  have lists := Tables.withdraws_self tables flowId unwritten
  cases outcome with
  | error failure => exact ⟨lists, copied⟩
  | ok copies =>
    obtain ⟨copied, length, all⟩ := copied
    refine Operation.leaves_bind (Operation.leaves_mono (leaves_forceFailAll unique copied) ?_)
    intro outcome mid failing withdrawn
    have withdraws := lists.trans withdrawn.1
    cases outcome with
    | error failure => exact ⟨withdraws, withdrawn.2⟩
    | ok count =>
      obtain ⟨failed, counted, once⟩ := withdrawn
      have noneOpen : ∀ row ∈ mid.executionRows, ¬ row.IsOpenOf flowId :=
        failed.none_open formed fun v stores isOpen => once v (all v stores isOpen)
      have expires := withdraws_failPending flowId now mid
      refine Operation.leaves_bind (Operation.leaves_bind (Operation.leaves_query ?_ ?_))
      · have deletes := withdraws_deleteFlow flowId
          ((Store.failPendingQuery flowId now flowDeleted).run mid).2
        apply Operation.leaves_pure
        refine Operation.leaves_bind (Operation.leaves_bind (Operation.leaves_query ?_ ?_))
        · apply Operation.leaves_pure
          apply Operation.leaves_pure
          refine ⟨lists.trans (failed.trans (expires.trans deletes)), ?_, counted.trans length⟩
          exact rid_deleteFlow noneOpen
        · intro failure refuses
          have stays :=
            Tables.withdraws_self ((Store.failPendingQuery flowId now flowDeleted).run mid).2
            flowId (writesOf_error (.delete .flows [Store.byId flowId]) failure)
          exact ⟨lists.trans (failed.trans (expires.trans stays)), refuses⟩
      · intro failure refuses
        have stays := Tables.withdraws_self mid flowId
          (writesOf_error (Store.failPendingQuery flowId now flowDeleted) failure)
        exact ⟨lists.trans (failed.trans stays), refuses⟩

/-- Without faults a deletion does all of its work. -/
theorem deleteFlow_alone (named : flowId ≠ "") (formed : tables.Formed) (unique : tables.UniqueIds)
    (faultless : setting.IsFaultless) (asked : Nat) :
    let ran := Program.alone setting (deleteFlow flowId).run tables asked
    ran.value = .ok (tables.executionRows.countP fun row => row.IsOpenOf flowId) ∧
      tables.Withdraws flowId ran.log ran.tables ∧ ran.tables.Rid flowId := by
  intro ran
  have leaves := (leaves_deleteFlow named formed unique : Operation.Leaves setting _ _ _) asked
  change tables.Withdraws flowId ran.log ran.tables ∧ (match ran.value with
    | .ok count => ran.tables.Rid flowId ∧
      count = tables.executionRows.countP fun row => row.IsOpenOf flowId
    | .error failure => setting.Refuses failure) at leaves
  cases outcome : ran.value with
  | error failure =>
    rw [outcome] at leaves
    exact absurd leaves.2 faultless.not_refuses
  | ok count =>
    rw [outcome] at leaves
    obtain ⟨withdraws, rid, rfl⟩ := leaves
    exact ⟨rfl, withdraws, rid⟩

end Run
end MessageFlow
