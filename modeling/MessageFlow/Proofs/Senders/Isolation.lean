import MessageFlow.Proofs.Interleaving.Consistent
import MessageFlow.Proofs.Interleaving.Scene
import MessageFlow.Proofs.Interleaving.Schedule
import MessageFlow.Proofs.Senders.Confinement

/-!
Senders are isolated. Main statement: a message leaves the executions of all other accounts and
senders as they are if and only if neither its account nor its sender has an empty id, for a filter
with an empty value is left out.
-/

namespace MessageFlow
open Document

/-- The task hands on a message of that sender to that account. -/
def Task.IsMessageOf (task : Task) (account : Account) (senderId : String) : Prop :=
  (∃ message attempts, task = .route account senderId message attempts) ∨
    ∃ senderUsername message attempts,
      task = .dispatch account senderId senderUsername message attempts

/-- The row belongs to another account or another sender. -/
def Row.IsForeign (row : Row) (account : Account) (senderId : String) : Prop :=
  row.get "account_id" ≠ .text account.id ∨ row.get "sender_id" ≠ .text senderId

/-- No query of such a message changes a row that was foreign before its first query. -/
def Isolates (account : Account) (senderId : String) : Prop :=
  ∀ (tables : Tables) (past later : List Event) (first : Event) (now : System),
    tables.UniqueIds → System.Runs (.start tables) (past ++ first :: later) now →
    first.task.IsMessageOf account senderId → (∀ event ∈ past, event.client ≠ first.client) →
    ∀ event ∈ first :: later, event.client = first.client →
    ∀ (k : Nat) (row : Row), first.before.executionRows[k]? = some row →
      row.IsForeign account senderId →
      event.after.executionRows[k]? = event.before.executionRows[k]?

/-- A lawful query leaves every execution in its place. -/
theorem Event.Lawful.kept_id {event : Event} (lawful : event.Lawful .loose) {k : Nat} {row : Row}
    (stored : event.before.executionRows[k]? = some row) :
    ∃ kept, event.after.executionRows[k]? = some kept ∧ kept.get "id" = row.get "id" := by
  cases lawful with
  | aside same =>
    rw [same]
    exact ⟨row, stored, rfl⟩
  | creation e isNew asks unknown stores =>
    rw [stores, List.getElem?_append_left (List.getElem?_eq_some_iff.mp stored).1]
    exact ⟨row, stored, rfl⟩
  | save v e asks change shows stores =>
    rw [stores, List.getElem?_map, stored]
    have ids := Execution.get_id_overwrite_of_shows change.keeps shows fun shown => shown.2
    exact ⟨_, rfl, ids row (List.mem_of_getElem? stored)⟩

variable {ids : Set String} {k : Nat} {row : Row}

/-- What is confined to other executions does not touch the row. -/
theorem Confines.unmoved {query : Query} {after? : Except Failure (List Row) → Set String}
    (confines : Confines ids (.query query) after?) {before after : Tables}
    {answer : Except Failure (List Row)} (handles : query.Handles before after answer)
    (stored : before.executionRows[k]? = some row) (apart : ∀ id ∈ ids, row.get "id" ≠ .text id) :
    after.executionRows[k]? = some row := by
  cases confines with
  | aside _ spares =>
    rw [handles.executionRows_of_ne spares]
    exact stored
  | select filters order limit =>
    rcases handles.after_cases with rfl | rfl
    · exact stored
    · exact stored
  | create e known isNew =>
    rcases handles.after_cases with rfl | rfl
    · exact stored
    · rw [(Execution.run_insert isNew before).2,
        List.getElem?_append_left (List.getElem?_eq_some_iff.mp stored).1]
      exact stored
  | write e known =>
    rcases handles.after_cases with rfl | rfl
    · exact stored
    · have notMeant : e.isWrittenOver row = false := by
        cases meant : e.isWrittenOver row with
        | false => rfl
        | true => exact absurd (Execution.isWrittenOver_iff.mp meant).1 (apart e.id known)
      rw [e.executionRows_run_save, List.getElem?_map, stored]
      change some (e.overwrite row) = some row
      rw [Execution.overwrite, notMeant]
      rfl

theorem Confines.same_of_query {query : Query} {after? : Except Failure (List Row) → Set String}
    (confines : Confines ids (.query query) after?) (answer : Except Failure (List Row)) :
    after? answer = ids := by
  cases confines with
  | aside | select | create | write => rfl

namespace System

variable {account : Account} {senderId : String} {sys sys' last : System} {i : Nat}
  {event : Option Event}

/-- Should the client be one with such a message, it has not asked anything yet. -/
def Unheard (sys : System) (account : Account) (senderId : String) (i : Nat) : Prop :=
  ∀ client, sys.clients[i]? = some client → client.task.IsMessageOf account senderId →
    client.program.Obeys (.heeding account senderId) none fun _ _ => True

/-- The client has listed its executions, and the row is that of another one. -/
structure Spared (sys : System) (account : Account) (senderId : String) (i k : Nat)
    (ids : Set String) : Prop where
  heeds : ∃ client, sys.clients[i]? = some client ∧
    client.program.Obeys (.heeding account senderId) (some ids) fun _ _ => True
  apart : ∃ row, sys.tables.executionRows[k]? = some row ∧ ∀ id ∈ ids, row.get "id" ≠ .text id

theorem unheard_begin (deployment : Deployment) (task : Task)
    (isMessage : task.IsMessageOf account senderId) :
    (Client.begin deployment task).program.Obeys (.heeding account senderId) none
      fun _ _ => True := by
  rcases isMessage with ⟨message, attempts, rfl⟩ | ⟨senderUsername, message, attempts, rfl⟩
  · refine Operation.obeys_bind (Operation.obeys_mono
      (Inbox.route_heeds deployment account senderId message attempts) ?_)
    rintro (failure | handled) s' _
    · trivial
    · exact Operation.obeys_pure trivial
  · refine Operation.obeys_bind (Operation.obeys_mono
      (Inbox.dispatch_heeds deployment account senderId message senderUsername attempts) ?_)
    rintro (failure | ⟨handled, started⟩) s' _
    · trivial
    · exact Operation.obeys_pure trivial

theorem Unheard.step (unheard : sys.Unheard account senderId i) (step : Step sys event sys')
    (others : ∀ e ∈ event, e.client ≠ i) : sys'.Unheard account senderId i := by
  intro client there isMessage
  have stays {j : Nat} {next : Client} (other : j ≠ i)
      (there : (sys.clients.set j next)[i]? = some client) :
      client.program.Obeys (.heeding account senderId) none fun _ _ => True := by
    rw [List.getElem?_set_ne other] at there
    exact unheard client there isMessage
  -- A client that has asked nothing yet can ask only for the list, which is a query.
  have listsFirst {task : Task} {traversed : Option String} {request : Request}
      {next : request.Answer → Program (Except Failure Task.Report)} {answer : request.Answer}
      (asks : sys.clients[i]? = some ⟨task, .ask traversed request next⟩)
      (there : (sys.clients.set i ⟨task, next answer⟩)[i]? = some client) :
      ∃ query, request = .query query := by
    rw [List.getElem?_set_self (List.getElem?_eq_some_iff.mp asks).1] at there
    cases there
    obtain ⟨_, heeds, _⟩ := unheard _ asks isMessage
    cases heeds with
    | list => exact ⟨_, rfl⟩
  cases step with
  | begin deployment task ready =>
    by_cases last : i = sys.clients.length
    · rw [last, List.getElem?_concat_length] at there
      cases there
      exact unheard_begin deployment task isMessage
    · have among : i < (sys.clients ++ [Client.begin deployment task]).length :=
        (List.getElem?_eq_some_iff.mp there).1
      rw [List.length_append, List.length_singleton] at among
      rw [List.getElem?_append_left (by omega)] at there
      exact unheard client there isMessage
  | query j task traversed query next after answer asks handles =>
    exact stays (others _ rfl) there
  | freshId j task traversed next id asks fresh =>
    by_cases mine : j = i
    · subst mine
      obtain ⟨_, same⟩ := listsFirst asks there
      cases same
    · exact stays mine there
  | outside j task traversed request next answer asks noQuery noId =>
    by_cases mine : j = i
    · subst mine
      obtain ⟨query, same⟩ := listsFirst asks there
      exact absurd same (noQuery query)
    · exact stays mine there

theorem Unheard.runs {events : List Event} (unheard : sys.Unheard account senderId i)
    (runs : Runs sys events last) (others : ∀ event ∈ events, event.client ≠ i) :
    last.Unheard account senderId i := by
  induction runs with
  | nil => exact unheard
  | step first rest ih =>
    have earlier := unheard.step first fun e now =>
      others e (List.mem_append_left _ (Option.mem_toList.mpr now))
    exact ih earlier fun event later => others event (List.mem_append_right _ later)

/-- The client heeds the sender, after it has listed these executions. -/
def Heeds (clients : List Client) (account : Account) (senderId : String) (i : Nat)
    (ids : Set String) : Prop :=
  ∃ client, clients[i]? = some client ∧
    client.program.Obeys (.heeding account senderId) (some ids) fun _ _ => True

variable {clients : List Client}

theorem Heeds.append (heeds : Heeds clients account senderId i ids) (new : Client) :
    Heeds (clients ++ [new]) account senderId i ids := by
  obtain ⟨client, there, obeys⟩ := heeds
  have inBounds : i < clients.length := (List.getElem?_eq_some_iff.mp there).1
  exact ⟨client, (List.getElem?_append_left inBounds).trans there, obeys⟩

/-- It is the turn of another client. -/
theorem Heeds.aside (heeds : Heeds clients account senderId i ids) {j : Nat} (other : j ≠ i)
    (next : Client) : Heeds (clients.set j next) account senderId i ids := by
  obtain ⟨client, there, obeys⟩ := heeds
  exact ⟨client, (List.getElem?_set_ne other).trans there, obeys⟩

/-- The client is answered: it asked for what it is confined to. -/
theorem Heeds.answered (heeds : Heeds clients account senderId i ids) {task : Task}
    {traversed : Option String} {request : Request}
    {next : request.Answer → Program (Except Failure Task.Report)}
    (asks : clients[i]? = some ⟨task, .ask traversed request next⟩) {answer : request.Answer}
    (may : request.MayAnswer answer) :
    ∃ after?, Confines ids request after? ∧
      Heeds (clients.set i ⟨task, next answer⟩) account senderId i (after? answer) := by
  obtain ⟨client, there, obeys⟩ := heeds
  rw [there] at asks
  cases asks
  obtain ⟨after, permitted, rest⟩ := obeys
  have goesOn := rest answer may
  have inBounds : i < clients.length := (List.getElem?_eq_some_iff.mp there).1
  cases permitted with
  | confined _ _ after? confines =>
    exact ⟨after?, confines, _, List.getElem?_set_self inBounds, goesOn⟩

/-- A step of anyone keeps the row apart, and a query of the client does not touch it. -/
theorem Spared.step {standing : Nat → Standing}
    (spared : sys.Spared account senderId i k ids) (consistent : Consistent .loose sys standing)
    (step : Step sys event sys') :
    (∀ e ∈ event, e.client = i → e.after.executionRows[k]? = e.before.executionRows[k]?) ∧
      ∃ ids', sys'.Spared account senderId i k ids' := by
  obtain ⟨heeds, row, stored, apart⟩ := spared
  replace heeds : Heeds sys.clients account senderId i ids := heeds
  have lawful := (consistent.step step).1
  cases step with
  | begin deployment task ready =>
    exact ⟨fun e none => absurd none (Option.not_mem_none e), ids, heeds.append _, row, stored,
      apart⟩
  | query j task traversed query next after answer asks handles =>
    by_cases mine : j = i
    · subst mine
      obtain ⟨after?, confines, heeds'⟩ := heeds.answered asks handles.mayAnswer
      have unmoved := confines.unmoved handles stored apart
      have same : after? answer = ids := confines.same_of_query answer
      rw [same] at heeds'
      refine ⟨?_, ids, heeds', row, unmoved, apart⟩
      intro e isThis _
      cases isThis
      exact unmoved.trans stored.symm
    · obtain ⟨kept, keeps, sameId⟩ := (lawful _ rfl).kept_id stored
      refine ⟨?_, ids, heeds.aside mine _, kept, keeps, ?_⟩
      · intro e isThis isMine
        cases isThis
        exact absurd isMine mine
      · rw [sameId]
        exact apart
  | freshId j task traversed next id asks fresh =>
    refine ⟨fun e none => absurd none (Option.not_mem_none e), ?_⟩
    by_cases mine : j = i
    · subst mine
      have may : Request.freshId.MayAnswer id := trivial
      obtain ⟨after?, confines, heeds'⟩ := heeds.answered asks may
      refine ⟨_, heeds', row, stored, ?_⟩
      cases confines with
      | aside => exact apart
      | draw =>
        intro known isKnown
        rcases isKnown with rfl | isKnown
        · exact fresh.2 row (List.mem_of_getElem? stored)
        · exact apart known isKnown
    · exact ⟨ids, heeds.aside mine _, row, stored, apart⟩
  | outside j task traversed request next answer asks noQuery noId =>
    refine ⟨fun e none => absurd none (Option.not_mem_none e), ?_⟩
    by_cases mine : j = i
    · subst mine
      have may : request.MayAnswer answer := Request.mayAnswer_of_noQuery noQuery answer
      obtain ⟨after?, confines, heeds'⟩ := heeds.answered asks may
      refine ⟨_, heeds', row, stored, ?_⟩
      cases confines with
      | aside => exact apart
      | select => exact absurd rfl (noQuery _)
      | draw => exact absurd rfl noId
      | create => exact absurd rfl (noQuery _)
      | write => exact absurd rfl (noQuery _)
    · exact ⟨ids, heeds.aside mine _, row, stored, apart⟩

theorem Spared.runs {standing : Nat → Standing} {events : List Event}
    (spared : sys.Spared account senderId i k ids) (consistent : Consistent .loose sys standing)
    (runs : Runs sys events last) : ∀ event ∈ events, event.client = i →
      event.after.executionRows[k]? = event.before.executionRows[k]? := by
  induction runs generalizing ids standing with
  | nil => exact fun event none => absurd none List.not_mem_nil
  | step first rest ih =>
    obtain ⟨now, ids', spared'⟩ := spared.step consistent first
    obtain ⟨_, standing', consistent'⟩ := consistent.step first
    intro event present
    rcases List.mem_append.mp present with isFirst | later
    · exact now event (Option.mem_toList.mp isFirst)
    · exact ih spared' consistent' event later

end System

section listing

variable {account : Account} {senderId : String} {tables after : Tables}
  {answer : Except Failure (List Row)}

/-- A row that is listed belongs to the account and the sender, unless one of their ids is empty. -/
theorem not_isForeign_of_listed (hasAccount : account.id ≠ "") (hasSender : senderId ≠ "")
    (listed : row ∈ ((Store.openQuery none (some account.id) (some senderId)).run tables).1) :
    row ∈ tables.executionRows ∧ ¬ row.IsForeign account senderId := by
  obtain ⟨present, selected⟩ := Query.selected_of_mem_select listed
  refine ⟨present, ?_⟩
  have noAccount : account.id.isEmpty = false := by simpa using hasAccount
  have noSender : senderId.isEmpty = false := by simpa using hasSender
  have matched : row.get "account_id" = .text account.id ∧
      row.get "sender_id" = .text senderId := by
    simp only [selects, Store.optionalFilter, noAccount, noSender, List.nil_append,
      List.cons_append, List.all_cons, List.all_nil, Bool.and_true, Bool.and_eq_true, Filter.holds,
      Json.same_text, Bool.false_eq_true, if_false] at selected
    exact selected.2
  rintro (other | other)
  · exact other matched.1
  · exact other matched.2

/-- The id of a foreign row is not among those that are listed. -/
theorem notMem_idsOf (hasAccount : account.id ≠ "") (hasSender : senderId ≠ "")
    (unique : tables.UniqueIds)
    (handles : (Store.openQuery none (some account.id) (some senderId)).Handles tables after answer)
    (present : row ∈ tables.executionRows) (isForeign : row.IsForeign account senderId) :
    ∀ id ∈ idsOf answer, row.get "id" ≠ .text id := by
  intro id isListed same
  rcases answer with failure | rows
  · exact isListed.elim
  · obtain ⟨other, isRow, isId⟩ := isListed
    cases rows with
    | nil => cases isRow
    | cons first rows =>
      obtain ⟨answered, _⟩ := handles.served_of_rows rfl
      rw [← answered] at isRow
      obtain ⟨otherPresent, own⟩ := not_isForeign_of_listed hasAccount hasSender isRow
      have sameRow : other = row :=
        List.inj_on_of_nodup_map unique otherPresent present (isId.trans same.symm)
      exact own (sameRow ▸ isForeign)

end listing

theorem isolates_of_named {account : Account} {senderId : String} (hasAccount : account.id ≠ "")
    (hasSender : senderId ≠ "") : Isolates account senderId := by
  intro tables past later first now unique runs isMessage isFirst event present mine k row stored
    isForeign
  have started : Consistent .loose (.start tables) _ := .start unique fun _ _ => trivial
  obtain ⟨mid, next, begins, step, goes⟩ := runs.split
  obtain ⟨_, standing, consistent⟩ := started.runs begins
  obtain ⟨_, standing', consistent'⟩ := consistent.step step
  have nobody : System.Unheard (.start tables) account senderId first.client := by
    intro client there
    cases there
  have unheard := nobody.runs begins isFirst
  cases step with
  | query i task traversed query next after answer asks handles =>
    obtain ⟨after?, heeds, rest⟩ := unheard _ asks isMessage
    have goesOn := rest answer handles.mayAnswer
    cases heeds with
    | list =>
      have unmoved : after = mid.tables := by
        rcases handles.after_cases with same | same
        · exact same
        · exact same
      rcases List.mem_cons.mp present with rfl | isLater
      · rw [unmoved]
      · have inBounds : i < mid.clients.length := (List.getElem?_eq_some_iff.mp asks).1
        have apart := notMem_idsOf hasAccount hasSender consistent.sound.unique handles
          (List.mem_of_getElem? stored) isForeign
        have spared : System.Spared
            { mid with tables := after, clients := mid.clients.set i ⟨task, next answer⟩ }
            account senderId i k (idsOf answer) :=
          ⟨⟨⟨task, next answer⟩, List.getElem?_set_self inBounds, goesOn⟩, row, unmoved ▸ stored,
            apart⟩
        exact spared.runs consistent' goes event isLater mine

/-- Some id that is not empty, and the given one if possible. -/
def nameOr (id : String) : String := if id = "" then "another" else id

theorem nameOr_ne (id : String) (empty : id = "") : nameOr id ≠ id := by
  subst empty
  decide

namespace Stranger

/-- An execution of another account or sender, should one of the ids be empty. -/
def execution (account : Account) (senderId : String) : Execution where
  id := "execution"
  flowId := "flow"
  userId := none
  accountId := nameOr account.id
  senderId := nameOr senderId
  senderUsername := none
  currentNodeId := "begin"

variable (account : Account) (senderId : String)

def tables : Tables := { executions := ⟨[(execution account senderId).row], 0⟩ }

def message : InboundMessage := ⟨"hi", none⟩

theorem regular : (execution account senderId).Regular := ⟨clean_nil _, clean_nil _⟩

theorem get_row (name : FieldName) {value : Json}
    (written : (name, value) ∈ (execution account senderId).fields .columns) :
    Row.get (execution account senderId).row name.column = value := by
  rw [Row.get, Execution.get?_row written List.not_mem_nil]
  rfl

theorem selected_of_empty (id : String) (column : String) (row : Row)
    (stored : row.get column = .text (nameOr id)) :
    (Store.optionalFilter column (some id)).all (·.holds row) = true := by
  unfold Store.optionalFilter
  by_cases empty : id = ""
  · simp [empty]
  · have same : nameOr id = id := if_neg empty
    simp [empty, Filter.holds, Json.same_text, stored, same]

theorem selected : selects (.oneOf "status" [Status.active.text, Status.waiting.text] ::
    (Store.optionalFilter "flow_id" none ++ Store.optionalFilter "account_id" (some account.id) ++
      Store.optionalFilter "sender_id" (some senderId))) (execution account senderId).row =
    true := by
  have status : Row.get (execution account senderId).row "status" = .text Status.active.text :=
    get_row account senderId Field.status (by simp [Execution.fields, execution])
  have ofAccount : Row.get (execution account senderId).row "account_id" =
      .text (nameOr account.id) :=
    get_row account senderId Field.accountId (by simp [Execution.fields, execution])
  have ofSender : Row.get (execution account senderId).row "sender_id" = .text (nameOr senderId) :=
    get_row account senderId Field.senderId (by simp [Execution.fields, execution])
  rw [selects, List.all_cons, List.all_append, List.all_append,
    selected_of_empty account.id _ _ ofAccount, selected_of_empty senderId _ _ ofSender]
  simp [Filter.holds, status, Json.same_text, Store.optionalFilter]

theorem listed : (Store.openQuery none (some account.id) (some senderId)).run
    (tables account senderId) = ([(execution account senderId).row], tables account senderId) := by
  have found : ((tables account senderId).rows .executions).filter (selects
      (.oneOf "status" [Status.active.text, Status.waiting.text] ::
        (Store.optionalFilter "flow_id" none ++
          Store.optionalFilter "account_id" (some account.id) ++
          Store.optionalFilter "sender_id" (some senderId)))) = [(execution account senderId).row] :=
    List.filter_cons_of_pos (selected account senderId)
  rw [Store.openQuery, Query.run, found]
  rfl

def task : Task := .route account senderId message 1

/-- The task lists executions and hands the message to their copies. -/
theorem hands_over (deployment : Deployment) : ∃ next,
    ((task account senderId).operation deployment).run =
      .ask none (.query (Store.openQuery none (some account.id) (some senderId))) next ∧
    ∀ (rows : List Row) (copies : List Execution),
      (rows.mapM Operation.parse : Operation (List Execution)) = pure copies →
      next (.ok rows) = (Inbox.handleAll deployment account message 1 copies >>= fun handled =>
        pure (Task.Report.executions handled [])).run := by
  refine ⟨_, rfl, fun rows copies parsed => ?_⟩
  change ExceptT.run ((rows.mapM Operation.parse >>=
    Inbox.handleAll deployment account message 1) >>= _) = _
  rw [parsed]
  rfl

theorem asks_list (deployment : Deployment) : ∃ next,
    ((task account senderId).operation deployment).run =
      .ask none (.query (Store.openQuery none (some account.id) (some senderId))) next ∧
    ∃ next', next (.ok [(execution account senderId).row]) = .ask none .now next' ∧
      ∀ now, ∃ next'', next' now = .ask none (.query (Store.saveQuery
        (((execution account senderId).receive message).stamped now))) next'' := by
  obtain ⟨next, asks, hands⟩ := hands_over account senderId deployment
  have reads : (Operation.parse (execution account senderId).row : Operation Execution) =
      pure (execution account senderId) := by
    have valid := Execution.read_row (regular account senderId)
    change Operation.ofValidated _ (Execution.read _) = _
    rw [valid]
    rfl
  have parsed : ([(execution account senderId).row].mapM Operation.parse :
      Operation (List Execution)) = pure [execution account senderId] := by
    rw [List.mapM_cons, reads]
    rfl
  refine ⟨next, asks, ?_⟩
  rw [hands _ _ parsed]
  exact ⟨_, rfl, fun now => ⟨_, rfl⟩⟩

/-- The write of the message is meant for the stranger's row. -/
theorem isWrittenOver (now : Timestamp) :
    (((execution account senderId).receive message).stamped now).isWrittenOver
      (execution account senderId).row = true := by
  have id : Row.get (execution account senderId).row "id" = .text "execution" :=
    get_row account senderId Field.id (by simp [Execution.fields, execution])
  have revision : Row.get (execution account senderId).row "revision" = .int 0 :=
    get_row account senderId Field.revision (by simp [Execution.fields, execution])
  refine Execution.isWrittenOver_iff.mpr ⟨id, ?_⟩
  rw [revision]
  exact Json.same_int.mpr rfl

theorem isForeign (empty : account.id = "" ∨ senderId = "") :
    (execution account senderId).row.IsForeign account senderId := by
  have ofAccount : Row.get (execution account senderId).row "account_id" =
      .text (nameOr account.id) :=
    get_row account senderId Field.accountId (by simp [Execution.fields, execution])
  have ofSender : Row.get (execution account senderId).row "sender_id" = .text (nameOr senderId) :=
    get_row account senderId Field.senderId (by simp [Execution.fields, execution])
  rcases empty with noAccount | noSender
  · refine .inl ?_
    rw [ofAccount]
    exact fun same => nameOr_ne account.id noAccount (Json.text.inj same)
  · refine .inr ?_
    rw [ofSender]
    exact fun same => nameOr_ne senderId noSender (Json.text.inj same)

end Stranger

open Stranger in
/-- With an empty id a message reaches an execution of another account or sender. -/
theorem not_isolates_of_empty {account : Account} {senderId : String}
    (empty : account.id = "" ∨ senderId = "") : ¬ Isolates account senderId := by
  intro isolates
  obtain ⟨next, asksList, next', asksNow, asksWrite⟩ :=
    asks_list account senderId Example.deployment
  obtain ⟨next'', asksWrite⟩ := asksWrite default
  let stored := tables account senderId
  let message := task account senderId
  let asking (program : Program (Except Failure Task.Report)) : System :=
    { tables := stored, clients := [⟨message, program⟩] }
  have begins : System.Step (.start stored) none (asking (.ask none (.query _) next)) := by
    have ready : message.Ready stored := by
      intro v given
      cases given
    have step := System.Step.begin (.start stored) Example.deployment message ready
    rw [Client.begin, asksList] at step
    exact step
  let list : Event := ⟨0, message, none, Store.openQuery none (some account.id) (some senderId),
    stored, stored, .ok [(execution account senderId).row]⟩
  have lists : System.Step (asking (.ask none (.query list.query) next)) (some list)
      (asking (.ask none .now next')) := by
    have listing : list.query.Handles stored stored list.answer := by
      have isServed : list.query.Handles stored _ _ := .served
      rw [listed] at isServed
      exact isServed
    have step := System.Step.query (asking (.ask none (.query list.query) next)) 0 message none _
      next stored _ rfl listing
    rw [asksNow] at step
    exact step
  have waits : System.Step (asking (.ask none .now next')) none
      (asking (.ask none (.query _) next'')) := by
    have step := System.Step.outside (asking (.ask none .now next')) 0 message none .now next'
      default rfl (fun _ same => by cases same) (fun same => by cases same)
    rw [asksWrite] at step
    exact step
  have writes := System.Step.query (asking (.ask none (.query _) next'')) 0 message none _ next''
    _ _ rfl .served
  have runs := System.Runs.step begins (.step lists (.step waits (.step writes (.nil _))))
  have unmoved := isolates stored [] _ list _ (List.nodup_singleton _) runs
    (.inl ⟨_, _, rfl⟩) (fun event none => absurd none List.not_mem_nil) _
    (.tail list (.head [])) rfl 0 (execution account senderId).row rfl
    (isForeign account senderId empty)
  have moved : ((execution account senderId).receive Stranger.message |>.stamped default).overwrite
      (execution account senderId).row = (execution account senderId).row :=
    Option.some.inj unmoved
  exact Execution.overwrite_ne (isWrittenOver account senderId default) moved

/-- A message is kept from the executions of other accounts and senders exactly when both its
account and its sender have an id that is not empty. -/
theorem isolates_iff_named (account : Account) (senderId : String) :
    Isolates account senderId ↔ account.id ≠ "" ∧ senderId ≠ "" := by
  constructor
  · intro isolates
    constructor
    · exact fun empty => not_isolates_of_empty (.inl empty) isolates
    · exact fun empty => not_isolates_of_empty (.inr empty) isolates
  · exact fun named => isolates_of_named named.1 named.2

/-- A sender without a name is not kept from the others. -/
theorem not_isolates_nameless : ¬ Isolates { id := "account" } "" :=
  not_isolates_of_empty (.inr rfl)

end MessageFlow
