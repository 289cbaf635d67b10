import MessageFlow.Proofs.Among.Replies
import MessageFlow.Proofs.Sweep.Turn

/-!
Progress of the sweep. Whatever the executions, flows and accounts are like, every ticket of the
batch is finished in its turn, and no other ticket is touched.
-/

namespace MessageFlow
open Operation Store

/-- The row of a ticket that was finished with that status. -/
structure Row.IsFinished (row : Row) (status : TicketStatus) : Prop where
  status : row.get "status" = .text status.text
  processed : ∃ time : Timestamp, row.get "processed_at" = .text time.columnText

namespace Sweep

variable {setting : Setting} {tables mid after : Tables} {ids : Set String}
  {deployment : Deployment} {attempts : Nat} {ticket : Ticket}
  {turns others : List Turn}

/-- What becomes of the row of a ticket in its turn. -/
structure Settles (setting : Setting) (turn : Turn) (row row' : Row) : Prop where
  finished : row'.IsFinished (verdict (turn.isReady setting))
  keeps : ∀ column ∉ Row.markColumns, row'.get column = row.get column

/-- What turns make of the stored tickets: those that are added have ids of those. -/
def Clears (setting : Setting) (ids : Set String) (turns : List Turn) (before after : Tables) :
    Prop :=
  ∃ close added, Alters (fun turn : Turn => turn.ticket.id) (Settles setting) turns close ∧
    after.ticketRows = before.ticketRows.map close ++ added ∧
    ∀ row ∈ added, ∃ id ∈ ids, row.get "id" = .text id

theorem clears_nil : Clears setting ids [] tables tables :=
  ⟨id, [], .nil, by rw [List.map_id, List.append_nil], nofun⟩

theorem Clears.append (first : Clears setting ids turns tables mid)
    (second : Clears setting ids others mid after)
    (apart : ∀ turn ∈ turns, ∀ other ∈ others, turn.ticket.id ≠ other.ticket.id)
    (fresh : ∀ turn ∈ others, turn.ticket.id ∉ ids) :
    Clears setting ids (turns ++ others) tables after := by
  obtain ⟨close, added, alters, isMid, drawn⟩ := first
  obtain ⟨later, also, altersLater, isAfter, alsoDrawn⟩ := second
  refine ⟨later ∘ close, added ++ also, alters.append altersLater apart, ?_,
    List.forall_mem_append.mpr ⟨drawn, alsoDrawn⟩⟩
  have spared : added.map later = added := altersLater.map_eq fun row present turn among isId => by
    obtain ⟨id, isDrawn, named⟩ := drawn row present
    exact fresh turn among (Json.text.inj (named.symm.trans isId) ▸ isDrawn)
  rw [isAfter, isMid, List.map_append, List.map_map, spared, List.append_assoc]

/-- What the claim and the end of a ticket make of its row. -/
theorem alters_turn (turn : Turn) (time : Timestamp) (error : Option String) :
    Alters (fun turn : Turn => turn.ticket.id) (Settles setting) [turn] fun row =>
      (row.revise [byId turn.ticket.id, pending]
        [("status", .text TicketStatus.processing.text)]).revise [byId turn.ticket.id]
          (finishColumns (verdict (turn.isReady setting)) time error) where
  sameId row := (finishQuery_marks ..).get_id_revise.trans (claimQuery_marks _).get_id_revise
  made other present row isId := by
    obtain rfl := List.mem_singleton.mp present
    have marks := finishQuery_marks other.ticket.id (verdict (other.isReady setting)) time error
    have claims := claimQuery_marks other.ticket.id
    have meant := selects_byId.mpr (claims.get_id_revise.trans isId)
    refine ⟨⟨marks.status_of_selects meant, time, ?_⟩, fun column fixed =>
      (marks.get_revise fixed).trans (claims.get_revise fixed)⟩
    have given : Entries.get? (finishColumns (verdict (other.isReady setting)) time error)
        "processed_at" = some (.text time.columnText) := rfl
    rw [Row.revise, if_pos meant, Row.get, Entries.get?_update_of_get? marks.unique given]
    rfl
  spared row other := by
    have notId := other turn (List.mem_singleton_self turn)
    rw [Row.revise_of_not fun meant => notId (selects_claim.mp meant).1,
      Row.revise_of_not fun meant => notId (selects_byId.mp meant)]

theorem Finishes.clears {turn : Turn} (finishes : Finishes ids turn.ticket (turn.isReady setting)
      ((claimQuery turn.ticket.id).run turn.tables).2 after) (fresh : turn.ticket.id ∉ ids) :
    Clears setting ids [turn] turn.tables after := by
  obtain ⟨mid, time, error, files, _, rfl⟩ := finishes
  obtain ⟨added, isMid, drawn⟩ := files.tickets
  refine ⟨_, added, alters_turn turn time error, ?_, drawn⟩
  have spared : added.map (·.revise [byId turn.ticket.id]
      (finishColumns (verdict (turn.isReady setting)) time error)) = added := by
    conv_rhs => rw [← List.map_id added]
    refine List.map_congr_left fun row present => Row.revise_of_not fun meant => ?_
    obtain ⟨id, isDrawn, named⟩ := drawn row present
    exact fresh (Json.text.inj (named.symm.trans (selects_byId.mp meant)) ▸ isDrawn)
  rw [(finishQuery_marks ..).ticketRows_run, isMid, (claimQuery_marks _).ticketRows_run,
    List.map_append, List.map_map, spared]
  rfl

theorem Finishes.orderly {completed : Bool}
    (finishes : Finishes ids ticket completed tables after) :
    after.Orderly := by
  obtain ⟨mid, time, error, _, orderly, rfl⟩ := finishes
  exact orderly.of_same (Query.rows_run_of_ne nofun)

variable (setting deployment attempts) in
/-- The turns of tickets that are processed one after the other. -/
def turnsOf : List Ticket → Tables → Nat → List Turn
  | [], _, _ => []
  | ticket :: tickets, tables, asked =>
    let run := (processOne deployment attempts ticket).run.alone setting tables asked
    ⟨ticket, tables, asked⟩ :: turnsOf tickets run.tables run.asked

variable (setting deployment attempts) in
theorem map_ticket_turnsOf (tickets : List Ticket) (tables : Tables) (asked : Nat) :
    (turnsOf setting deployment attempts tickets tables asked).map (·.ticket) = tickets := by
  induction tickets generalizing tables asked with
  | nil => rfl
  | cons ticket tickets ih => exact congrArg (ticket :: ·) (ih _ _)

theorem ticket_mem {tickets : List Ticket} {asked : Nat} {turn : Turn}
    (present : turn ∈ turnsOf setting deployment attempts tickets tables asked) :
    turn.ticket ∈ tickets := by
  rw [← map_ticket_turnsOf setting deployment attempts tickets tables asked]
  exact List.mem_map_of_mem present

variable (deployment) in
/-- One turn after the other: the tickets that were ready are counted. -/
theorem processAll_alone (faultless : setting.IsFaultless) (draws : setting.Draws ids)
    (tries : 0 < attempts) {tickets : List Ticket} (unique : (tickets.map (·.id)).Nodup)
    (orderly : tables.Orderly) (fresh : ∀ ticket ∈ tickets, ticket.id ∉ ids)
    (pending : ∀ ticket ∈ tickets,
      ∃ row ∈ tables.ticketRows, row.get "id" = .text ticket.id ∧ row.IsPending) (asked : Nat) :
    let turns := turnsOf setting deployment attempts tickets tables asked
    (processAll deployment attempts tickets).LeavesAt setting tables asked fun outcome after =>
      outcome = .ok (turns.countP (·.isReady setting)) ∧ Clears setting ids turns tables after := by
  dsimp only
  induction tickets generalizing tables asked with
  | nil => exact ⟨rfl, clears_nil⟩
  | cons ticket tickets ih =>
    obtain ⟨isPending, othersPending⟩ := List.forall_mem_cons.mp pending
    obtain ⟨isFresh, othersFresh⟩ := List.forall_mem_cons.mp fresh
    obtain ⟨notAmong, others⟩ := List.nodup_cons.mp unique
    let turn : Turn := ⟨ticket, tables, asked⟩
    obtain ⟨succeeds, finishes⟩ := processOne_alone deployment faultless draws orderly tries
      isPending asked
    have cleared : Clears setting ids [turn] turn.tables _ := finishes.clears isFresh
    have distinct {other : Ticket} (present : other ∈ tickets) : ticket.id ≠ other.id :=
      fun same => notAmong (List.mem_map.mpr ⟨other, present, same.symm⟩)
    have stillPending : ∀ other ∈ tickets, ∃ row ∈ ((processOne deployment attempts
        ticket).run.alone setting tables asked).tables.ticketRows,
        row.get "id" = .text other.id ∧ row.IsPending := by
      intro other present
      obtain ⟨row, among, isId, isPending⟩ := othersPending other present
      obtain ⟨close, added, alters, rows, _⟩ := cleared
      refine ⟨row, ?_, isId, isPending⟩
      have spared : close row = row := alters.spared row fun turn isTurn isThis => by
        rw [List.mem_singleton.mp isTurn] at isThis
        exact distinct present (Json.text.inj (isThis.symm.trans isId))
      rw [rows]
      exact List.mem_append_left _ (List.mem_map.mpr ⟨row, among, spared⟩)
    obtain ⟨counts, clears⟩ := ih others finishes.orderly othersFresh stillPending
      ((processOne deployment attempts ticket).run.alone setting tables asked).asked
    unfold processAll
    refine bind_then succeeds (bind_then counts ⟨?_, ?_⟩)
    · refine congrArg Except.ok ?_
      rw [turnsOf, List.countP_cons]
      cases Turn.isReady setting ⟨ticket, tables, asked⟩ <;> rfl
    · refine cleared.append clears (fun turn isTurn other present => ?_)
        fun turn present => othersFresh _ (ticket_mem present)
      rw [List.mem_singleton.mp isTurn]
      exact distinct (ticket_mem present)

/-- The tickets of a sweep. -/
def listing (deployment : Deployment) (at? : Option Timestamp) : Operation (List Ticket) := do
  let time ← timeOr at?
  dueTickets time deployment.batchSize

/-- The rows of the tickets that are due, in the order of the table, up to the batch size. -/
def dueRows (deployment : Deployment) (now : Timestamp) (tables : Tables) : List Row :=
  (tables.ticketRows.filter (selects [pending, .notAfter "execute_at" now])).take
    deployment.batchSize.toNat

theorem dueRows_sublist (now : Timestamp) :
    (dueRows deployment now tables).Sublist tables.ticketRows :=
  (List.take_sublist _ _).trans List.filter_sublist

theorem isPending_of_mem_dueRows {now : Timestamp} {row : Row}
    (present : row ∈ dueRows deployment now tables) : row.IsPending := by
  have meant := (List.mem_filter.mp (List.mem_of_mem_take present)).2
  simp only [selects, List.all_cons, Bool.and_eq_true, pending, Filter.holds] at meant
  exact Json.same_text.mp meant.1

variable (setting deployment attempts) in
/-- The turns of a sweep. -/
def batch (at? : Option Timestamp) (tables : Tables) (asked : Nat) : List Turn :=
  let listed := (listing deployment at?).run.alone setting tables asked
  match listed.value with
  | .ok tickets => turnsOf setting deployment attempts tickets listed.tables listed.asked
  | .error _ => []

theorem listing_alone (faultless : setting.IsFaultless) (room : 1 ≤ deployment.batchSize)
    (readable : ∀ row ∈ tables.ticketRows, ∃ ticket, Ticket.read (.record row) = .valid ticket)
    (at? : Option Timestamp) (asked : Nat) :
    (listing deployment at?).LeavesAt setting tables asked fun outcome after =>
      ∃ tickets, outcome = .ok tickets ∧ after = tables ∧
        List.Forall₂ (fun row ticket => Ticket.read (.record row) = .valid ticket)
          (dueRows deployment (at?.getD (setting.told asked .now)) tables) tickets := by
  have lists (now : Timestamp) (asked : Nat) :
      (dueTickets now deployment.batchSize).LeavesAt setting tables asked fun outcome after =>
        ∃ tickets, outcome = .ok tickets ∧ after = tables ∧
          List.Forall₂ (fun row ticket => Ticket.read (.record row) = .valid ticket)
            (dueRows deployment now tables) tickets := by
    have found : ((dueQuery now deployment.batchSize).run tables).1 =
        dueRows deployment now tables := if_pos (by omega)
    have due : ∀ row ∈ dueRows deployment now tables, ∃ ticket : Ticket, _ :=
      fun row present => readable row ((dueRows_sublist now).subset present)
    obtain ⟨tickets, parses, reads⟩ := exists_mapM_parse due
    refine query_then faultless ?_
    rw [found, parses]
    exact ⟨tickets, rfl, rfl, reads⟩
  cases at? with
  | some time => exact lists time asked
  | none => exact outside_then (by nofun) (lists (setting.told asked .now) (asked + 1))

/-- A ticket that was read has the id of its row. -/
theorem get_id_of_readTicket {row : Row} (reads : Ticket.read (.record row) = .valid ticket) :
    row.get "id" = .text ticket.id := Row.get_id_of_required (Ticket.read_valid reads).1

variable (deployment attempts) in
/-- Tickets and executions have ids of their own, and so do those to come; the tickets can be read,
and the executions that can be are in the form in which the program writes them. A sweep that has
the store to itself does not fail. It finishes the tickets that were due, up to the batch size, and
leaves the others that there were as they are. Each of them is completed exactly if, at its turn,
its execution was parked on it and could be loaded together with its account and its flow; those
are counted. -/
theorem sweep_makes_progress (faultless : setting.IsFaultless) (orderly : tables.Orderly)
    (unique : tables.UniqueTickets)
    (readable : ∀ row ∈ tables.ticketRows, ∃ ticket, Ticket.read (.record row) = .valid ticket)
    (fresh : ∀ row ∈ tables.ticketRows, ∀ asked, row.get "id" ≠ .text (setting.told asked .freshId))
    (tries : 0 < attempts) (room : 1 ≤ deployment.batchSize) (at? : Option Timestamp) (asked : Nat) :
    let due := dueRows deployment (at?.getD (setting.told asked .now)) tables
    let turns := batch setting deployment attempts at? tables asked
    let run := (process deployment attempts at?).run.alone setting tables asked
    List.Forall₂ (fun row turn => Ticket.read (.record row) = .valid turn.ticket) due turns ∧
      run.value = .ok (turns.countP (·.isReady setting)) ∧
      ∃ close added, run.tables.ticketRows = tables.ticketRows.map close ++ added ∧
        List.Forall₂ (fun row turn => Settles setting turn row (close row)) due turns ∧
        ∀ row ∈ tables.ticketRows, row ∉ due → close row = row := by
  have draws : setting.Draws (Set.range fun asked => setting.told asked .freshId) :=
    fun asked => ⟨asked, rfl⟩
  have lists := listing_alone faultless room readable at? asked
  unfold LeavesAt at lists
  generalize isListed : (listing deployment at?).run.alone setting tables asked = listed at lists
  obtain ⟨tickets, outcome, same, reads⟩ := lists
  have isBatch : batch setting deployment attempts at? tables asked =
      turnsOf setting deployment attempts tickets tables listed.asked := by
    unfold batch
    rw [isListed]
    simp only [outcome, same]
  have goesOn : process deployment attempts at? =
      listing deployment at? >>= processAll deployment attempts := by
    unfold process listing
    rw [bind_assoc]
  dsimp only
  rw [isBatch, goesOn]
  generalize isDue : dueRows deployment (at?.getD (setting.told asked .now)) tables = due at reads ⊢
  have sublist : due.Sublist tables.ticketRows := isDue ▸ dueRows_sublist _
  have isPending : ∀ row ∈ due, row.IsPending := by
    rw [← isDue]
    exact fun row => isPending_of_mem_dueRows
  have named : List.Forall₂ (fun row ticket => row.get "id" = .text ticket.id) due tickets :=
    reads.imp fun _ _ => get_id_of_readTicket
  obtain ⟨counts, close, added, alters, rows, _⟩ :=
    processAll_alone deployment faultless draws tries
      (nodup_ids_of_listed named (unique.sublist (sublist.map _))) orderly
      (fun ticket present drawn => by
        obtain ⟨row, among, isId⟩ := exists_row_of_listed named present
        obtain ⟨n, isDrawn⟩ := drawn
        exact fresh row (sublist.subset among) n (isId.trans (congrArg Json.text isDrawn.symm)))
      (fun ticket present => by
        obtain ⟨row, among, isId⟩ := exists_row_of_listed named present
        exact ⟨row, sublist.subset among, isId, isPending row among⟩)
      listed.asked
  have ends : (listing deployment at? >>= processAll deployment attempts).LeavesAt setting tables
      asked fun outcome after =>
        outcome = .ok ((turnsOf setting deployment attempts tickets tables listed.asked).countP
          (·.isReady setting)) ∧ after.ticketRows = tables.ticketRows.map close ++ added := by
    refine bind_then (isListed ▸ outcome) ?_
    rw [isListed, same]
    exact ⟨counts, rows⟩
  have turns : List.Forall₂ (fun row turn => Ticket.read (.record row) = .valid turn.ticket) due
      (turnsOf setting deployment attempts tickets tables listed.asked) := by
    have ofTurns := reads
    rw [← map_ticket_turnsOf setting deployment attempts tickets tables listed.asked,
      List.forall₂_map_right_iff] at ofTurns
    exact ofTurns
  refine ⟨turns, ends.1, close, added, ends.2, ?_, fun row present other => ?_⟩
  · refine List.forall₂_iff_zip.mpr ⟨turns.length_eq, fun {row turn} inZip => ?_⟩
    exact alters.made turn (List.of_mem_zip inZip).2 row
      (get_id_of_readTicket (List.forall₂_zip turns inZip))
  · refine alters.spared row fun turn among isId => other ?_
    obtain ⟨also, isDue, isAlso⟩ := exists_row_of_listed named (ticket_mem among)
    rwa [List.inj_on_of_nodup_map unique present (sublist.subset isDue) (isId.trans isAlso.symm)]

end Sweep

namespace Example

/-- A second ticket for the parked execution. -/
def againTicket : Ticket := { alarmTicket with id := "again" }

def crowded : Tables :=
  { alarmTables with tickets := ⟨[alarmTicket.row, againTicket.row], 0⟩ }

theorem crowded_orderly : crowded.Orderly where
  unique := List.nodup_singleton _
  written row present v reads := by
    obtain rfl := List.mem_singleton.mp present
    cases (Execution.read_row has_alarm.isRegular).symm.trans reads
    exact ⟨has_alarm.isRegular, rfl, has_alarm.isWritable⟩

end Example

open Example in
/-- The first of two tickets for one execution is completed, the second one fails. -/
theorem sweep_makes_progress_crowded :
    (quiet.IsFaultless ∧ crowded.Orderly ∧ crowded.UniqueTickets) ∧
      ((Sweep.batch quiet deployment 3 (some anHour) crowded 0).map
        fun turn => (turn.ticket.id, turn.isReady quiet)) = [("ticket", true), ("again", false)] ∧
      ((Sweep.process deployment 3 (some anHour)).run.alone quiet crowded 0).value = .ok 1 := by
  have faultless : quiet.IsFaultless := fun _ => rfl
  have unique : crowded.UniqueTickets := by
    unfold Tables.UniqueTickets
    decide
  have readable : ∀ row ∈ crowded.ticketRows,
      ∃ ticket, Ticket.read (.record row) = .valid ticket := by
    have reads : ∀ row ∈ crowded.ticketRows,
        (Ticket.read (.record row)).toOption.isSome = true := by decide +kernel
    exact fun row present => Validated.exists_valid (reads row present)
  have fresh : ∀ row ∈ crowded.ticketRows, row.get "id" ≠ .text (quiet.told 0 .freshId) := by
    decide +kernel
  have turns : ((Sweep.batch quiet deployment 3 (some anHour) crowded 0).map
      fun turn => (turn.ticket.id, turn.isReady quiet)) = [("ticket", true), ("again", false)] := by
    decide +kernel
  obtain ⟨_, counts, _⟩ := Sweep.sweep_makes_progress deployment 3 faultless crowded_orderly unique
    readable (fun row present _ => fresh row present) (by decide) (by decide) (some anHour) 0
  refine ⟨⟨faultless, crowded_orderly, unique⟩, turns, counts.trans (congrArg Except.ok ?_)⟩
  calc
    _ = ((Sweep.batch quiet deployment 3 (some anHour) crowded 0).map
          fun turn => (turn.ticket.id, turn.isReady quiet)).countP Prod.snd := List.countP_map.symm
    _ = 1 := by rw [turns]; rfl

end MessageFlow
