import MessageFlow.Proofs.Interleaving.Scene
import MessageFlow.Proofs.Interleaving.Versions

/-!
The stored executions, read back from rows in the form in which the program writes them, and what a
query makes of them and of the traversal of its client.
-/

namespace MessageFlow
open Standing

/-- The write of an execution over a copy, with whether its traversal goes on after it and with the
tickets in hand after it. -/
inductive Task.Writes (task : Task) (s : Station) (v : Execution) :
    Execution → Bool → (Except Failure (List Row) → Desk) → Prop
  | message (message : InboundMessage) (now : Timestamp) (idle : s.walking = none)
    (brought : task.message? = some message) (isOpen : v.isTerminal = false) :
    Writes task s v ((v.receive message).stamped now)
      (v.status == .waiting && ((v.receive message).stamped now).status == .active)
      fun _ => s.desk.leave
  | deletion (now : Timestamp) (idle : s.walking = none) (deletes : task.isDeletion = true)
    (isOpen : v.isTerminal = false) :
    Writes task s v ((v.failed Run.flowDeleted).stamped now) false fun _ => s.desk.leave
  | wake (ticket : Ticket) (now : Timestamp) (idle : s.walking = none)
    (sweeps : task.isSweep = true) (claimed : s.desk.claim = some (ticket, .granted))
    (owner : ticket.executionId = v.id) (parked : Sweep.isParkedOn v ticket = true) :
    Writes task s v (Sweep.wake v ticket now) true (s.desk.afterWake ticket)
  | lose (ticket : Ticket) (now : Timestamp) (idle : s.walking = none)
    (sweeps : task.isSweep = true) (claimed : s.desk.claim = some (ticket, .granted))
    (owner : ticket.executionId = v.id) (parked : Sweep.isParkedOn v ticket = true)
    (missing : v.flowId ∈ s.desk.missing) :
    Writes task s v ((v.failed Run.flowNotFound).stamped now) false fun _ => s.desk.leave
  | advance (e : Execution) (walks : s.walking = some v) (change : v.Advance e)
    (suits : s.desk.Suits e) : Writes task s v e (e.status == .active) fun _ => s.desk.leave

namespace Task.Writes

variable {task : Task} {s : Station} {v e : Execution} {goesOn : Bool}
  {desk : Except Failure (List Row) → Desk}

/-- What a write makes of an execution, whatever the client has in hand. -/
theorem change (writes : task.Writes s v e goesOn desk) : task.Intervenes v e ∨ v.Advance e := by
  cases writes with
  | message message now idle brought isOpen => exact .inl (.message message now brought isOpen)
  | deletion now idle deletes isOpen => exact .inl (.flowDeleted now deletes isOpen)
  | wake ticket now idle sweeps claimed owner parked => exact .inl (.wake ticket now sweeps parked)
  | lose ticket now idle sweeps claimed owner parked missing =>
    exact .inl (.flowLost ticket now sweeps parked)
  | advance e walks change suits => exact .inr change

theorem keeps (writes : task.Writes s v e goesOn desk) : v.Keeps e := by
  rcases writes.change with outside | inside
  · exact outside.keeps
  · exact inside.keeps

theorem isOpen (writes : task.Writes s v e goesOn desk) : v.isTerminal = false := by
  rcases writes.change with outside | inside
  · exact outside.isOpen
  · rw [Execution.isTerminal, inside.active]
    rfl

/-- From outside, only what waits can be made to wait or be traversed. -/
theorem calm (writes : task.Writes s v e goesOn desk) (busy : v.status ≠ .waiting)
    (outside : s.walking ≠ some v) : e.status ≠ .waiting ∧ goesOn = false := by
  cases writes with
  | message message now idle brought isOpen =>
    have notWaiting : (v.status == .waiting) = false := by simpa using busy
    refine ⟨?_, by rw [notWaiting]; rfl⟩
    simp [Execution.stamped, Execution.receive, Execution.isWaitingOnInput, busy]
  | deletion => exact ⟨Status.noConfusion, rfl⟩
  | wake ticket now idle sweeps claimed owner parked =>
    exact absurd (Task.status_of_isParkedOn parked) busy
  | lose => exact ⟨Status.noConfusion, rfl⟩
  | advance e walks => exact absurd walks outside

/-- After a write no ticket is under way. -/
theorem leaves (writes : task.Writes s v e goesOn desk) (answer : Except Failure (List Row)) :
    (desk answer).opened = none := by
  cases writes with
  | message | deletion | lose | advance => rfl
  | wake => rcases answer with failure | _ | _ <;> rfl

end Task.Writes

/-- What a query has to do with executions. -/
inductive Task.Treats (task : Task) (s : Station) (query : Query)
    (after : Except Failure (List Row) → Station) : Prop
  | aside (spares : ∀ tables, (query.run tables).2.executionRows = tables.executionRows)
    (goes : ∀ answer, (after answer).walking = none ∨ ((after answer).walking = s.walking ∧
      (s.desk.opened ≠ none → (after answer).desk.opened = s.desk.opened)))
  | create (e : Execution) (asks : query = .insert .executions e.row) (idle : s.walking = none)
    (reserved : s.reserved = some e.id) (isNew : e.IsNew)
    (goes : ∀ answer, (after answer).walking = none ∨ (after answer).walking = some e)
    (leaves : ∀ answer, (after answer).desk.opened = none)
  | write (v e : Execution) (goesOn : Bool) (desk : Except Failure (List Row) → Desk)
    (asks : query = Store.saveQuery e) (held : v ∈ s.held) (writes : task.Writes s v e goesOn desk)
    (goes : ∀ answer, after answer = ⟨s.toStanding.afterSave e goesOn answer, desk answer⟩)

namespace Task.Acts

variable {task : Task} {s : Station} {query : Query} {after : Except Failure (List Row) → Station}

theorem treats (acts : task.Acts s (.query query) after) : task.Treats s query after := by
  have spares {query : Query} (elsewhere : query.table ≠ .executions) (tables : Tables) :
      (query.run tables).2.executionRows = tables.executionRows :=
    query.rows_run_of_ne elsewhere
  cases acts with
  | aside _ apart => exact .aside (spares apart.1) fun _ => .inr ⟨rfl, fun _ => rfl⟩
  | seek =>
    refine .aside (spares nofun) fun answer => ?_
    rcases s.toStanding.afterSeek_cases answer with same | rests
    · exact .inr ⟨congrArg Standing.walking same, fun _ => rfl⟩
    · exact .inl (congrArg Standing.walking rests)
  | look flowId =>
    refine .aside (spares nofun) fun answer => .inr ⟨rfl, fun _ => ?_⟩
    rcases answer with failure | _ | _ <;> rfl
  | select =>
    refine .aside (fun _ => rfl) fun answer => .inr ⟨?_, fun _ => rfl⟩
    cases answer <;> rfl
  | create e idle reserved isNew =>
    refine .create e rfl idle reserved isNew (fun answer => ?_) fun _ => rfl
    cases answer with
    | error failure => exact .inl rfl
    | ok rows => exact .inr rfl
  | enter v ticket walks owner drawn first isNew =>
    exact .aside (spares nofun) fun _ => .inr ⟨rfl, fun isOpened => absurd first isOpened⟩
  | list now limit sweeps =>
    refine .aside (spares nofun) fun answer => .inr ⟨rfl, fun _ => ?_⟩
    cases answer <;> rfl
  | claim ticket sweeps listed =>
    refine .aside (spares nofun) fun answer => .inr ⟨rfl, fun _ => ?_⟩
    rcases answer with failure | _ | _ <;> rfl
  | finish => exact .aside (spares nofun) fun _ => .inr ⟨rfl, fun _ => rfl⟩
  | annul => exact .aside (spares nofun) fun _ => .inr ⟨rfl, fun _ => rfl⟩
  | intervene v e idle held change other =>
    cases change with
    | message message now brought isOpen =>
      exact .write v _ _ _ rfl held (.message message now idle brought isOpen) fun _ => rfl
    | flowDeleted now deletes isOpen =>
      refine .write v _ _ _ rfl held (.deletion now idle deletes isOpen) fun answer => ?_
      have never : (v.status == .waiting &&
          ((v.failed Run.flowDeleted).stamped now).status == .active) = false := Bool.and_false _
      rw [never]
      rfl
    | wake ticket now sweeps =>
      rw [other] at sweeps
      cases sweeps
    | flowLost ticket now sweeps =>
      rw [other] at sweeps
      cases sweeps
  | wake v ticket now idle held sweeps claimed owner parked =>
    refine .write v _ true _ rfl held (.wake ticket now idle sweeps claimed owner parked)
      fun answer => ?_
    have always : (v.status == .waiting && (Sweep.wake v ticket now).status == .active) = true := by
      rw [Task.status_of_isParkedOn parked]
      rfl
    rw [always]
    rfl
  | lose v ticket now idle held sweeps claimed owner parked missing =>
    exact .write v _ _ _ rfl held (.lose ticket now idle sweeps claimed owner parked missing)
      fun _ => rfl
  | advance v e walks change suits =>
    exact .write v e _ _ rfl (s.walkingHeld v walks) (.advance e walks change suits) fun _ => rfl

/-- No copy is put out of hand. -/
theorem held_subset (acts : task.Acts s (.query query) after) (answer : Except Failure (List Row)) :
    s.held ⊆ (after answer).held := by
  have saves (e : Execution) (goesOn : Bool) :
      s.held ⊆ (s.toStanding.afterSave e goesOn answer).held := by
    rcases answer with failure | _ | _
    · exact subset_rfl
    · exact subset_rfl
    · cases goesOn with
      | true => exact Set.subset_insert _ _
      | false => exact subset_rfl
  cases acts with
  | aside | look | enter | list | claim | finish | annul => exact subset_rfl
  | seek =>
    rcases s.toStanding.afterSeek_cases answer with same | rests
    · exact (congrArg Standing.held same).ge
    · exact (congrArg Standing.held rests).ge
  | select =>
    cases answer with
    | error failure => exact subset_rfl
    | ok rows => exact Set.subset_union_left
  | create e idle reserved isNew =>
    cases answer with
    | error failure => exact subset_rfl
    | ok rows => exact Set.subset_insert _ _
  | intervene | wake | lose | advance => exact saves _ _

end Task.Acts

/-- The execution is stored as it is. -/
structure Tables.Stores (tables : Tables) (v : Execution) : Prop where
  regular : v.Regular
  present : v.row ∈ tables.executionRows

namespace Tables.Stores

variable {tables : Tables} {v w : Execution}

theorem get_id (stores : tables.Stores v) : Row.get v.row "id" = .text v.id :=
  stores.regular.get_id

theorem eq_of_id (unique : tables.UniqueIds) (stores : tables.Stores v) (also : tables.Stores w)
    (same : v.id = w.id) : v = w := by
  refine Execution.row_injective stores.regular also.regular ?_
  refine List.inj_on_of_nodup_map unique stores.present also.present ?_
  rw [stores.get_id, also.get_id, same]

end Tables.Stores

theorem Tables.Holds.stores {tables : Tables} {id : String} {v : Execution}
    (holds : tables.Holds id (some v)) : tables.Stores v ∧ v.id = id := by
  obtain ⟨present, isId⟩ := Tables.mem_of_executionRow? holds.stored
  have stores : tables.Stores v := ⟨holds.regular v rfl, present⟩
  rw [stores.get_id] at isId
  exact ⟨stores, Json.text.inj isId⟩

namespace Sound

variable {before after : Tables} {issued : List String} {standing : Nat → Standing} {i : Nat}
  {v w e : Execution} {answer : Except Failure (List Row)}

/-- What is traversed does not wait. -/
theorem not_waiting (sound : Sound .exact before.executionRows issued standing)
    (walks : (standing i).walking = some v) (stores : before.Stores w) (same : w.id = v.id) :
    w.status ≠ .waiting := by
  intro waits
  refine sound.claimed i v walks w.row stores.present (same ▸ stores.get_id) ?_
  rw [(Execution.heads_row stores.regular.plain).status, waits]

/-- Where the row is that a write is meant for, it shows the copy, and is replaced. -/
theorem stores_overwrite (sound : Sound .exact before.executionRows issued standing)
    (held : v ∈ (standing i).held) (keeps : v.Keeps e) {row : Row}
    (present : row ∈ before.executionRows) (meant : e.isWrittenOver row = true)
    (stores : after.executionRows = before.executionRows.map e.overwrite) :
    before.Stores v ∧ ∀ w, after.Stores w ↔ w = e.saved ∨ (before.Stores w ∧ w.id ≠ v.id) := by
  rcases sound.overwrite_cases held keeps present with ⟨not, _⟩ | ⟨_, ⟨regular, rfl⟩, _, written, _⟩
  · rw [meant] at not
    cases not
  have storesV : before.Stores v := ⟨regular, present⟩
  refine ⟨storesV, fun w => ⟨?_, ?_⟩⟩
  · rintro ⟨wRegular, wPresent⟩
    rw [stores] at wPresent
    obtain ⟨earlier, earlierPresent, becomes⟩ := List.mem_map.mp wPresent
    rcases sound.overwrite_cases held keeps earlierPresent with
      ⟨not, same⟩ | ⟨_, _, _, writtenToo, _⟩
    · rw [same] at becomes
      subst becomes
      have storesW : before.Stores w := ⟨wRegular, earlierPresent⟩
      refine .inr ⟨storesW, fun same => ?_⟩
      rw [storesW.eq_of_id sound.unique storesV same, meant] at not
      cases not
    · exact .inl (Execution.row_injective wRegular writtenToo.1 (becomes.symm.trans writtenToo.2))
  · rintro (rfl | ⟨storesW, other⟩)
    · refine ⟨written.1, ?_⟩
      rw [stores, ← written.2]
      exact List.mem_map_of_mem present
    · refine ⟨storesW.regular, ?_⟩
      rw [stores]
      refine List.mem_map.mpr ⟨w.row, storesW.present, ?_⟩
      rcases sound.overwrite_cases held keeps storesW.present with ⟨_, same⟩ | ⟨_, shown, _⟩
      · exact same
      · exact absurd (congrArg Execution.id
          (Execution.row_injective storesW.regular regular shown.2)) other

/-- A write either changes nothing and lets its client rest, or replaces the version that the copy
shows. -/
theorem write_cases (sound : Sound .exact before.executionRows issued standing)
    (held : v ∈ (standing i).held) (keeps : v.Keeps e)
    (handles : (Store.saveQuery e).Handles before after answer) :
    (after.executionRows = before.executionRows ∧
      ∀ (s : Standing) (goesOn : Bool), s.afterSave e goesOn answer = s.rest) ∨
    (before.Stores v ∧ ∀ w, after.Stores w ↔ w = e.saved ∨ (before.Stores w ∧ w.id ≠ v.id)) := by
  have run := e.executionRows_run_save before
  by_cases meant : ∃ row ∈ before.executionRows, e.isWrittenOver row = true
  · obtain ⟨row, present, meant⟩ := meant
    cases handles with
    | served => exact .inr (sound.stores_overwrite held keeps present meant run)
    | refused _ refusal => exact .inl ⟨rfl, fun _ _ => afterSave_of_refusal refusal⟩
    | lost _ refusal => exact .inr (sound.stores_overwrite held keeps present meant run)
  · have none : ∀ row ∈ before.executionRows, ¬ e.isWrittenOver row = true :=
      fun row present isMeant => meant ⟨row, present, isMeant⟩
    have same : before.executionRows.map e.overwrite = before.executionRows := by
      conv_rhs => rw [← List.map_id before.executionRows]
      exact List.map_congr_left fun row present => if_neg (none row present)
    rw [same] at run
    cases handles with
    | served =>
      refine .inl ⟨run, fun s goesOn => ?_⟩
      rw [Execution.run_save, List.filter_eq_nil_iff.mpr none]
      rfl
    | refused _ refusal => exact .inl ⟨rfl, fun _ _ => afterSave_of_refusal refusal⟩
    | lost _ refusal => exact .inl ⟨run, fun _ _ => afterSave_of_refusal refusal⟩

end Sound
end MessageFlow
