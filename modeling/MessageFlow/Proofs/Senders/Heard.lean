import MessageFlow.Proofs.Interleaving.Shelved
import MessageFlow.Proofs.Interleaving.Versions
import MessageFlow.Proofs.Senders.Isolation
import MessageFlow.Proofs.Senders.Transcript

/-!
What becomes of a message. Main statement: when the client of a message is done, the message was
written over an open execution of its sender, or was matched with the keyword triggers, or was lost
on every execution that was listed, each of which had finished or vanished, or kept changing, by the
time the message was written over it.
-/

namespace MessageFlow

namespace Context

theorem receive_lastUserMessage (context : Context) (message : InboundMessage) :
    (context.receive message).lastUserMessage = some message.text := by
  rw [(context.hears_receive message).rest]

end Context

/-- A write of the execution with that id went through, with the text as the last message. -/
def IsTold (asked : List Asked) (id text : String) : Prop :=
  ∃ e row rows, ⟨Store.saveQuery e, .ok (row :: rows)⟩ ∈ asked ∧ e.id = id ∧
    e.context.lastUserMessage = some text

theorem IsTold.mono {asked more : List Asked} {id text : String} (told : IsTold asked id text)
    (among : asked ⊆ more) : IsTold more id text := by
  obtain ⟨e, row, rows, isAsked, named, heard⟩ := told
  exact ⟨e, row, rows, among isAsked, named, heard⟩

/-- What is asked for one execution on which a message is lost within some attempts: every write
conflicts, and the last copy is finished, or there is none, or no attempt is left. -/
inductive Loses (message : InboundMessage) : Nat → Execution → List Asked → Prop
  | tired (v : Execution) : Loses message 0 v []
  | finished (attempts : Nat) (v : Execution) (terminal : v.isTerminal = true) :
    Loses message (attempts + 1) v []
  | vanished (attempts : Nat) (v : Execution) (now : Timestamp) (isOpen : v.isTerminal = false) :
    Loses message (attempts + 1) v
      [⟨Store.saveQuery ((v.receive message).stamped now), .ok []⟩,
        ⟨.select .executions [Store.byId v.id] none (some 1), .ok []⟩]
  | again (attempts : Nat) (v w : Execution) (now : Timestamp) (row : Row) (rows : List Row)
    (later : List Asked) (isOpen : v.isTerminal = false)
    (reloads : Execution.read (.record row) = .valid w) (loses : Loses message attempts w later) :
    Loses message (attempts + 1) v
      (⟨Store.saveQuery ((v.receive message).stamped now), .ok []⟩ ::
        ⟨.select .executions [Store.byId v.id] none (some 1), .ok (row :: rows)⟩ :: later)

/-- On an execution on which the message is lost no write goes through. -/
theorem Loses.conflicts {message : InboundMessage} {attempts : Nat} {v : Execution}
    {asked : List Asked} (loses : Loses message attempts v asked) :
    ∀ one ∈ asked, ∀ e, one.query = Store.saveQuery e → one.answer = .ok [] := by
  induction loses with
  | tired | finished => exact fun one none => absurd none List.not_mem_nil
  | vanished attempts v now isOpen =>
    intro one present e saves
    rcases present with _ | ⟨_, _ | ⟨_, ⟨⟩⟩⟩
    · rfl
    · cases saves
  | again attempts v w now row rows later isOpen reloads loses ih =>
    intro one present e saves
    rcases present with _ | ⟨_, _ | ⟨_, isLater⟩⟩
    · rfl
    · cases saves
    · exact ih one isLater e saves

/-- The notes of a message that was handed over. First the open executions of its sender are listed;
then it is written over one of them, or lost on all of them, unless there are none. -/
def HandsOver (account : Account) (senderId : String) (message : InboundMessage) (attempts : Nat)
    (log : List Asked) : Prop :=
  ∃ rows copies new,
    log = ⟨Store.openQuery none (some account.id) (some senderId), .ok rows⟩ :: new ∧
    List.Forall₂ (fun row v => Execution.read (.record row) = .valid v) rows copies ∧
    (copies ≠ [] → (∃ v ∈ copies, IsTold new v.id message.text) ∨
      ∃ segments : List (List Asked), new = segments.flatten ∧
        List.Forall₂ (Loses message attempts) copies segments)

namespace Inbox

variable (deployment : Deployment) (account : Account) (message : InboundMessage)
  {log : List Asked}

/-- A message is written over the execution, or lost on it. -/
theorem handle_noted (attempts : Nat) (v : Execution) :
    (handle deployment account message attempts).Obeys .noting v log fun
      | .ok _, _, log' => ∃ new, log' = log ++ new ∧
          (IsTold new v.id message.text ∨ Loses message attempts v new)
      | .error _, _, _ => True := by
  -- Each attempt appends two notes and starts anew from the copy that was read.
  induction attempts generalizing v log with
  | zero => exact Run.obeys_get ⟨[], (List.append_nil log).symm, .inr (.tired v)⟩
  | succ attempts ih =>
    unfold handle
    refine Run.obeys_bind (Run.obeys_get ?_)
    simp only
    cases terminal : v.isTerminal with
    | true =>
      rw [if_pos rfl]
      exact Run.obeys_pure ⟨[], (List.append_nil log).symm, .inr (.finished attempts v terminal)⟩
    | false =>
      rw [if_neg Bool.false_ne_true]
      refine Run.obeys_bind (Run.obeys_set ?_)
      refine Run.obeys_bind (Run.obeys_lift (Operation.obeys_request _
        (.other .now fun _ same => by cases same) ?_))
      intro now _
      refine Run.obeys_bind (Run.obeys_modify ?_)
      refine Run.obeys_bind (Run.obeys_attempt ?_)
      apply Run.obeys_mono (Run.saveExecution_reads (.query _))
      rintro (failure | ⟨⟩) e' log₁ after
      · by_cases conflict : failure.isConflict = true
        · simp only [conflict, if_true]
          obtain ⟨answer, _, rfl, conflicts⟩ :
              ∃ answer, Query.IsRefusal answer ∧ log₁ = log ++ [⟨Store.saveQuery
                ((v.receive message).stamped now), answer⟩] ∧
                (failure.isConflict = true → answer = .ok []) := by
            rcases after with ⟨_, _, other⟩ | answered
            · rw [conflict] at other
              cases other
            · exact answered
          obtain rfl := conflicts conflict
          refine Run.obeys_bind (Run.obeys_lift (Operation.obeys_mono
            (Store.getExecution_reads v.id (.query _)) ?_))
          rintro (refusal | _ | reloaded) log₂ ⟨answer, rfl, none, reads⟩
          · trivial
          · obtain rfl := none rfl
            rw [List.append_assoc]
            exact Run.obeys_get ⟨_, rfl, .inr (.vanished attempts v now terminal)⟩
          · obtain ⟨sameId, row, rows, rfl, read⟩ := reads reloaded rfl
            refine Run.obeys_lift (Run.obeys_on (Run.obeys_mono (ih reloaded) ?_))
            rintro (failure | last) e'' log₃ handled
            · trivial
            · obtain ⟨later, rfl, fate⟩ := handled
              rw [List.append_assoc, List.append_assoc]
              refine ⟨_, rfl, ?_⟩
              rcases fate with told | loses
              · rw [sameId] at told
                exact .inl (told.mono fun _ isLater => .tail _ (.tail _ isLater))
              · exact .inr (.again attempts v reloaded now row rows later terminal read loses)
        · simp only [conflict]
          exact Run.obeys_throw trivial
      · obtain ⟨_, _, row, rows, rfl⟩ := after
        let written := (v.receive message).stamped now
        have told (more : List Asked) :
            IsTold (⟨Store.saveQuery written, .ok (row :: rows)⟩ :: more) v.id message.text :=
          ⟨written, row, rows, .head more, rfl, Context.receive_lastUserMessage v.context message⟩
        cases v.isWaitingOnInput with
        | false => exact Run.obeys_bind (Run.obeys_pure (Run.obeys_get ⟨_, rfl, .inl (told [])⟩))
        | true =>
          refine Run.noting_then ?_ fun _ _ _ => trivial
          intro _ e'' new
          rw [List.append_assoc]
          exact Run.obeys_get ⟨_, rfl, .inl (told new)⟩

/-- A message is written over one of the executions, or lost on all of them. -/
theorem handleAll_noted (attempts : Nat) (executions : List Execution) :
    (handleAll deployment account message attempts executions).Obeys .noting log fun
      | .ok handled, log' => handled.isEmpty = executions.isEmpty ∧ ∃ new, log' = log ++ new ∧
          ((∃ v ∈ executions, IsTold new v.id message.text) ∨
            ∃ segments : List (List Asked), new = segments.flatten ∧
              List.Forall₂ (Loses message attempts) executions segments)
      | .error _, _ => True := by
  induction executions generalizing log with
  | nil =>
    exact Operation.obeys_pure ⟨rfl, [], (List.append_nil log).symm, .inr ⟨[], rfl, .nil⟩⟩
  | cons v executions ih =>
    refine Operation.obeys_bind (Run.obeys_on (Run.obeys_mono
      (handle_noted deployment account message attempts v) ?_))
    rintro (failure | handled) e' log₁ after
    · trivial
    · obtain ⟨first, rfl, fate⟩ := after
      refine Operation.obeys_bind (Operation.obeys_mono ih ?_)
      rintro (failure | others) log₂ after
      · trivial
      · obtain ⟨_, rest, rfl, fates⟩ := after
        rw [List.append_assoc]
        refine Operation.obeys_pure ⟨rfl, _, rfl, ?_⟩
        rcases fate with told | loses
        · exact .inl ⟨v, .head _, told.mono (List.subset_append_left _ _)⟩
        · rcases fates with ⟨w, isOther, told⟩ | ⟨segments, rfl, lose⟩
          · exact .inl ⟨w, .tail _ isOther, told.mono (List.subset_append_right _ _)⟩
          · exact .inr ⟨first :: segments, rfl, .cons loses lose⟩

theorem dispatch_noted (senderId : String) (senderUsername : Option String) (attempts : Nat) :
    (dispatch deployment account senderId senderUsername message attempts).Obeys .noting [] fun
      | .ok _, log' => HandsOver account senderId message attempts log'
      | .error _, _ => True := by
  have notes : Discipline.noting [] none
      (.query (Store.openQuery none (some account.id) (some senderId))) _ := .query _
  have lists := Store.listOpenExecutions_reads none (some account.id) (some senderId) notes
  refine Operation.obeys_bind (Operation.obeys_bind (Operation.obeys_mono lists ?_))
  rintro (failure | copies) log₁ ⟨answer, _, rfl, reads⟩
  · trivial
  · obtain ⟨rows, rfl, read⟩ := reads copies rfl
    refine Operation.obeys_mono (handleAll_noted deployment account message attempts copies) ?_
    rintro (failure | handled) log₂ after
    · trivial
    · obtain ⟨sameEmpty, new, rfl, fate⟩ := after
      cases empty : handled.isEmpty with
      | true =>
        rw [empty] at sameEmpty
        obtain rfl := List.isEmpty_iff.mp sameEmpty.symm
        simp only [empty, if_true]
        refine Operation.noting_then ?_ fun _ _ => trivial
        intro started more
        rw [List.append_assoc]
        exact Operation.obeys_pure ⟨rows, [], new ++ more, rfl, read, fun some => absurd rfl some⟩
      | false =>
        simp only [empty]
        exact Operation.obeys_pure ⟨rows, copies, new, rfl, read, fun _ => fate⟩

end Inbox

/-- The query with which triggering begins. -/
def Store.activeFlowsQuery (accountId : String) : Query :=
  .select .flows [.equals "account_id" (.text accountId), .equals "is_active" (.bool true)]
    (some ⟨"created_at", false⟩) none

/-- The event by which a message is matched with the keyword triggers. -/
def InboundMessage.asEvent (message : InboundMessage) (senderId : String)
    (senderUsername : Option String) : TriggerEvent where
  triggerType := .text TriggerKind.keyword.text
  senderId := .text senderId
  senderUsername := .ofText? senderUsername
  messageText := .text message.text

/-- Without an open execution the rest of the task is to trigger flows. -/
theorem triggers_of_leads {deployment : Deployment} {account : Account} {senderId : String}
    {senderUsername : Option String} {message : InboundMessage} {attempts : Nat}
    {report : Task.Report} {rest : List Asked}
    (leads : ((Task.dispatch account senderId senderUsername message attempts).operation
      deployment).run.Leads
        (⟨Store.openQuery none (some account.id) (some senderId), .ok []⟩ :: rest)
        (.done (.ok report))) :
    ∃ started, report = .executions [] started ∧
      (Run.trigger deployment account (message.asEvent senderId senderUsername)).run.Leads rest
        (.done (.ok started)) := by
  obtain ⟨answer, others, same, _, triggers⟩ := Program.leads_query leads
  obtain ⟨isAnswer, rfl⟩ := List.cons.inj same
  obtain rfl := congrArg Asked.answer isAnswer
  change ((Run.trigger deployment account (message.asEvent senderId senderUsername) >>=
    fun started => pure (⟨[], started⟩ : Inbox.Dispatched)) >>= fun dispatched =>
      pure (Task.Report.executions dispatched.handled dispatched.started)).run.Leads _ _ at triggers
  obtain ⟨dispatched, first, later, rfl, begins, gives⟩ := Operation.leads_bind triggers
  obtain ⟨started, first, last, rfl, runs, starts⟩ := Operation.leads_bind begins
  obtain ⟨rfl, isReport⟩ := Program.leads_done gives
  obtain ⟨rfl, isDispatched⟩ := Program.leads_done starts
  cases isReport
  cases isDispatched
  rw [List.append_nil, List.append_nil]
  exact ⟨started, rfl, runs⟩

/-- What becomes of a message once the open executions of its sender are listed. -/
inductive Fate (account : Account) (senderId : String) (senderUsername : Option String)
    (message : InboundMessage) (attempts : Nat) (copies : List Execution) (rest : List Event) :
    Task.Report → Prop
  | heard (v e : Execution) (event : Event) (isCopy : v ∈ copies) (isAsked : event ∈ rest)
    (saves : event.Saves v.id e) (tells : e.context.lastUserMessage = some message.text)
    (report : Task.Report) :
    Fate account senderId senderUsername message attempts copies rest report
  | triggers (none : copies = []) (deployment : Deployment) (started : List Execution)
    (runs : (Run.trigger deployment account (message.asEvent senderId senderUsername)).run.Leads
      (rest.map Event.asked) (.done (.ok started))) :
    Fate account senderId senderUsername message attempts copies rest (.executions [] started)
  | lost (some : copies ≠ []) (segments : List (List Asked))
    (all : rest.map Event.asked = segments.flatten)
    (each : List.Forall₂ (Loses message attempts) copies segments)
    (conflicts : ∀ event ∈ rest, ∀ e, event.query = Store.saveQuery e →
      ∀ row ∈ event.before.executionRows, e.isWrittenOver row = false) (report : Task.Report) :
    Fate account senderId senderUsername message attempts copies rest report

/-- What a client that is done gives back, unless it has failed. -/
def Client.report? (client : Client) : Option Task.Report :=
  match client.program with
  | .done (.ok report) => some report
  | _ => none

theorem Client.program_of_report? {client : Client} {report : Task.Report}
    (reports : client.report? = some report) : client.program = .done (.ok report) := by
  unfold report? at reports
  split at reports
  · next same =>
    cases reports
    exact same
  · cases reports

/-- A listed row is read as an execution that is open. -/
theorem isOpen_of_listed {account : Account} {senderId : String} {tables : Tables} {row : Row}
    {v : Execution}
    (listed : row ∈ ((Store.openQuery none (some account.id) (some senderId)).run tables).1)
    (reads : Execution.read (.record row) = .valid v) : v.isTerminal = false := by
  have selected := (Query.selected_of_mem_select listed).2
  have status : row.get "status" = .text Status.active.text ∨
      row.get "status" = .text Status.waiting.text := by
    simp only [selects, List.all_cons, Bool.and_eq_true, Filter.holds, List.any_cons, List.any_nil,
      Bool.or_false, Bool.or_eq_true, Json.same_text] at selected
    exact selected.1
  have heads := (Row.heads_of_read reads).status
  rcases status with active | waiting
  · rw [Row.status?_of_get active] at heads
    rw [Execution.isTerminal, ← Option.some.inj heads]
    rfl
  · rw [Row.status?_of_get waiting] at heads
    rw [Execution.isTerminal, ← Option.some.inj heads]
    rfl

/-- A save that is answered with no rows was meant for no stored row. -/
theorem Event.IsServed.not_isWrittenOver {event : Event} (served : event.IsServed) {e : Execution}
    (saves : event.query = Store.saveQuery e) (answered : event.answer = .ok []) :
    ∀ row ∈ event.before.executionRows, e.isWrittenOver row = false := by
  intro row present
  have written := Except.ok.inj (served.answers.symm.trans answered)
  rw [saves, Execution.run_save, List.map_eq_nil_iff, List.filter_eq_nil_iff] at written
  exact Bool.eq_false_iff.mpr (written row present)

/-- When a message has been handed over, it was written over an open execution of its sender, or
there was none and it was matched with the keyword triggers, or it was lost on all of them: each
write met another version, and the last copy was finished, or there was none, or no attempt was
left. -/
theorem message_accounted_for {tables : Tables} {events : List Event} {now : System}
    (runs : System.Runs (.start tables) events now) {i : Nat} {account : Account}
    {senderId : String} {senderUsername : Option String} {message : InboundMessage}
    {attempts : Nat} {client : Client} {report : Task.Report}
    (there : now.clients[i]? = some client)
    (dispatches : client.task = .dispatch account senderId senderUsername message attempts)
    (returns : client.program = .done (.ok report))
    (served : ∀ event ∈ ownEvents i events, event.IsServed) :
    ∃ first rest copies, ownEvents i events = first :: rest ∧
      first.query = Store.openQuery none (some account.id) (some senderId) ∧
      List.Forall₂ (fun row v => Execution.read (.record row) = .valid v)
        (first.query.run first.before).1 copies ∧
      (∀ v ∈ copies, v.isTerminal = false) ∧
      (account.id ≠ "" → senderId ≠ "" → ∀ row ∈ (first.query.run first.before).1,
        row ∈ first.before.executionRows ∧ ¬ row.IsForeign account senderId) ∧
      Fate account senderId senderUsername message attempts copies rest report := by
  obtain ⟨deployment, leads⟩ := runs.leads there
  rw [dispatches, returns] at leads
  have noted : ((Task.dispatch account senderId senderUsername message attempts).operation
      deployment).Obeys .noting [] fun
        | .ok _, log' => HandsOver account senderId message attempts log'
        | .error _, _ => True :=
    Operation.obeys_then (Inbox.dispatch_noted deployment account message senderId senderUsername
      attempts) (fun _ _ noted => Operation.obeys_pure noted) fun _ _ _ => trivial
  obtain ⟨rows, copies, new, log, read, fate⟩ := noted.leads leads
  rw [List.nil_append] at log
  obtain ⟨first, rest, own, isListing, rfl⟩ := List.map_eq_cons_iff.mp log
  have isOwn : first ∈ ownEvents i events := own ▸ .head rest
  have asks : first.query = Store.openQuery none (some account.id) (some senderId) :=
    congrArg Asked.query isListing
  obtain rfl : (first.query.run first.before).1 = rows :=
    Except.ok.inj ((served first isOwn).answers.symm.trans (congrArg Asked.answer isListing))
  refine ⟨first, rest, copies, own, asks, read, ?_, ?_, ?_⟩
  · intro v isCopy
    obtain ⟨row, listed, reads⟩ := exists_left_of_forall₂ read isCopy
    rw [asks] at listed
    exact isOpen_of_listed listed reads
  · intro hasAccount hasSender row listed
    rw [asks] at listed
    exact not_isForeign_of_listed hasAccount hasSender listed
  · by_cases none : copies = []
    · subst none
      rw [log, List.forall₂_nil_right_iff.mp read] at leads
      obtain ⟨started, rfl, triggers⟩ := triggers_of_leads leads
      exact .triggers rfl deployment started triggers
    · rcases fate none with ⟨v, isCopy, e, row, rows, isAsked, named, tells⟩ | ⟨segments, all, each⟩
      · obtain ⟨event, isLater, same⟩ := List.mem_map.mp isAsked
        have saves : event.Saves v.id e :=
          ⟨congrArg Asked.query same, named, row, rows, congrArg Asked.answer same⟩
        exact .heard v e event isCopy isLater saves tells report
      · refine .lost none segments all each ?_ report
        intro event isLater e saves
        have isAsked : event.asked ∈ segments.flatten :=
          all ▸ List.mem_map_of_mem isLater
        obtain ⟨segment, isSegment, among⟩ := List.mem_flatten.mp isAsked
        obtain ⟨v, _, loses⟩ := exists_left_of_forall₂ each isSegment
        have answered := loses.conflicts event.asked among e saves
        have isOwn : event ∈ ownEvents i events := own ▸ .tail first isLater
        exact (served event isOwn).not_isWrittenOver saves answered

namespace Example

/-- An execution whose flow is about to be deleted. -/
def guest : Execution where
  id := "execution"
  flowId := "other"
  userId := none
  accountId := "account"
  senderId := "sender"
  senderUsername := none
  currentNodeId := "begin"

def withGuest : Tables := { flows := ⟨[greeting], 0⟩, executions := ⟨[guest.row], 0⟩ }

/-- A message of the guest, and the deletion of the flow. -/
def farewell : System :=
  .started withGuest deployment
    [.dispatch { id := "account" } "sender" none ⟨"hi", none⟩ Inbox.defaultAttempts,
      .deleteFlow "other"]

/-- The flow is deleted after the message has found its execution, and before it is written. -/
def tooLate : List Move := turns [0, 0, 1, 1, 1, 1, 1, 1, 1, 1, 1, 0, 0]

theorem runs_farewell (moves : List Move) :
    System.Runs (.start withGuest) (farewell.playAll moves).1 (farewell.playAll moves).2 :=
  (System.runs_started _ deployment (by decide)).trans (farewell.runs_playAll moves).1

end Example

open Example in
/-- In the crossing run the second message has been handed over. -/
theorem message_accounted_for_crossing : ∃ first rest copies report,
    ownEvents 1 (system.playAll crossing).1 = first :: rest ∧
      Fate { id := "account" } "sender" none ⟨"more", some "more"⟩ Inbox.defaultAttempts copies rest
        report := by
  have begins : system.clients[1]? = some (.begin deployment messages[1]) := rfl
  obtain ⟨client, there, task⟩ := (system.runs_playAll crossing).1.task begins
  have done : ((system.playAll crossing).2.clients[1]?.bind Client.report?).isSome = true := by
    decide +kernel
  rw [there] at done
  obtain ⟨report, reports⟩ := Option.isSome_iff_exists.mp done
  have served (event : Event) (own : event ∈ ownEvents 1 (system.playAll crossing).1) :
      event.IsServed :=
    (system.runs_playAll crossing).2 event (List.mem_of_mem_filter own)
  obtain ⟨first, rest, copies, own, _, _, _, _, fate⟩ :=
    message_accounted_for (runs crossing) there task (Client.program_of_report? reports) served
  exact ⟨first, rest, copies, report, own, fate⟩

open Example in
/-- A message whose execution has finished since it was listed is neither written anywhere nor
matched with the triggers. -/
theorem not_always_heard : ¬ ∀ (tables : Tables) (events : List Event) (now : System) (i : Nat)
    (account : Account) (senderId : String) (senderUsername : Option String)
    (message : InboundMessage) (attempts : Nat) (client : Client) (report : Task.Report),
    System.Runs (.start tables) events now → now.clients[i]? = some client →
    client.task = .dispatch account senderId senderUsername message attempts →
    client.program = .done (.ok report) → (∀ event ∈ ownEvents i events, event.IsServed) →
    (∃ event ∈ ownEvents i events, ∃ e, event.Saves e.id e ∧ e.accountId = account.id ∧
      e.senderId = senderId ∧ e.context.lastUserMessage = some message.text) ∨
    ∃ event ∈ ownEvents i events, event.query = Store.activeFlowsQuery account.id := by
  intro always
  have begins : farewell.clients[0]? = some (.begin deployment
      (.dispatch { id := "account" } "sender" none ⟨"hi", none⟩ Inbox.defaultAttempts)) := rfl
  obtain ⟨client, there, task⟩ := (farewell.runs_playAll tooLate).1.task begins
  have done : ((farewell.playAll tooLate).2.clients[0]?.bind Client.report?).isSome = true := by
    decide +kernel
  rw [there] at done
  obtain ⟨report, reports⟩ := Option.isSome_iff_exists.mp done
  have served (event : Event) (own : event ∈ ownEvents 0 (farewell.playAll tooLate).1) :
      event.IsServed :=
    (farewell.runs_playAll tooLate).2 event (List.mem_of_mem_filter own)
  have nothing : (ownEvents 0 (farewell.playAll tooLate).1).all (fun event =>
      event.query.table == .executions &&
        (event.query.verb == .select || event.answer.toOption == some [])) = true := by
    decide +kernel
  rcases always _ _ _ 0 _ _ _ _ _ client report (runs_farewell tooLate) there task
    (Client.program_of_report? reports) served with ⟨event, own, e, saves, _⟩ | ⟨event, own, asks⟩
  · have quiet := List.all_eq_true.mp nothing event own
    obtain ⟨row, rows, answered⟩ := saves.succeeds
    rw [saves.asks, answered] at quiet
    simp [Store.saveQuery, Query.verb, Except.toOption] at quiet
  · have quiet := List.all_eq_true.mp nothing event own
    rw [asks] at quiet
    simp [Store.activeFlowsQuery, Query.table] at quiet

end MessageFlow
