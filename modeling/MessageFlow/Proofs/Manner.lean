import MessageFlow.Inbox
import MessageFlow.Proofs.Delivery.Twins
import MessageFlow.Run.Deletion
import MessageFlow.Sweep

/-!
What operations have in common. Some are plain: they ask nothing, and fail only of themselves. The
others are put together from plain ones and from requests, and what holds of every request inside
and passes on to what is put together holds of all of them, if it holds of the traversals.
-/

namespace MessageFlow

variable {α β : Type}

namespace Operation

/-- Asks nothing, and fails only of itself. -/
inductive Plain : Operation α → Prop
  | pure (a : α) : Plain (pure a)
  | throw (failure : Failure) (own : failure.isOwn = true) : Plain (throw failure)

theorem plain_ofValidated (title : String) (result : Validated α) :
    (ofValidated title result).Plain := by
  cases result with
  | valid value => exact .pure value
  | invalid issues => exact .throw _ rfl

theorem plain_parse [DocumentType α] (row : Row) : (parse row : Operation α).Plain :=
  plain_ofValidated _ _

theorem plain_ensureWritable [DocumentType α] (document : α) : (ensureWritable document).Plain := by
  unfold ensureWritable
  split
  · exact .pure ()
  · exact .throw _ rfl

end Operation

namespace Delivery

theorem plain_address (url : String) : (address url).Plain := by
  unfold address
  split
  · exact .pure _
  · exact .throw _ rfl

theorem plain_header (value : String) : (header value).Plain := by
  unfold header
  split
  · exact .pure _
  · exact .throw _ rfl

theorem plain_body (value : Json) : (body value).Plain := by
  unfold body
  split
  · exact .pure _
  · exact .throw _ rfl

theorem plain_isAccepted (address : Address) (codes : List Int) (outcome : PostOutcome) :
    (isAccepted address codes outcome).Plain := by
  unfold isAccepted
  split
  · split
    · exact .pure _
    · exact .throw _ rfl
  · exact .pure false
  · exact .throw _ rfl

end Delivery

/-- What holds of requests inside, and of programs that are put together from such of which it
holds. -/
structure Manner where
  Keeps : {α : Type} → Program α → Prop
  done : ∀ {α : Type} (a : α), Keeps (.done a)
  bind : ∀ {α β : Type} {p : Program α} {f : α → Program β}, Keeps p → (∀ a, Keeps (f a)) →
    Keeps (p.bind f)
  traversing : ∀ {α : Type} {p : Program α} {execution : String}, Keeps p →
    Keeps (p.traversing execution)
  inside : ∀ {request : Request}, request.isOutward = false → Keeps (Program.request request)

variable {manner : Manner}

namespace Operation

def Suits (manner : Manner) (operation : Operation α) : Prop := manner.Keeps operation.run

theorem suits_pure (a : α) : (pure a : Operation α).Suits manner := manner.done _

theorem suits_throw (failure : Failure) : (throw failure : Operation α).Suits manner :=
  manner.done _

theorem suits_of_plain {operation : Operation α} (plain : operation.Plain) :
    operation.Suits manner := by
  cases plain with
  | pure a => exact suits_pure a
  | throw failure _ => exact suits_throw failure

theorem suits_parse [DocumentType α] (row : Row) : (parse row : Operation α).Suits manner :=
  suits_of_plain (plain_parse row)

theorem Suits.bind {operation : Operation α} {f : α → Operation β} (first : operation.Suits manner)
    (rest : ∀ a, (f a).Suits manner) : (operation >>= f).Suits manner := by
  refine manner.bind first ?_
  rintro (failure | a)
  · exact manner.done _
  · exact rest a

theorem Suits.attempt {operation : Operation α} (suits : operation.Suits manner) :
    (attempt operation).Suits manner := manner.bind suits fun _ => manner.done _

theorem suits_map {f : α → β} {operation : Operation α} (suits : operation.Suits manner) :
    (f <$> operation).Suits manner := by
  rw [← bind_pure_comp]
  exact suits.bind fun a => suits_pure (f a)

theorem suits_request (request : Request) (isInside : request.isOutward = false) :
    Suits manner (ExceptT.lift (Program.request request)) :=
  manner.bind (manner.inside isInside) fun _ => manner.done _

theorem suits_now : now.Suits manner := suits_request .now rfl

theorem suits_query (q : Query) : (query q).Suits manner := manner.inside rfl

theorem suits_parseAll [DocumentType α] (rows : List Row) :
    (rows.mapM parse : Operation (List α)).Suits manner := by
  induction rows with
  | nil => exact suits_pure []
  | cons row rows ih =>
    rw [List.mapM_cons]
    exact (suits_parse row).bind fun first => ih.bind fun others => suits_pure (first :: others)

/-- The first row read as a document, or what is done without one. -/
theorem suits_firstOr [DocumentType α] (rows : List Row) {absent : Operation α}
    (suits : absent.Suits manner) :
    (match rows with
      | [] => absent
      | row :: _ => parse row : Operation α).Suits manner := by
  cases rows with
  | nil => exact suits
  | cons row rows => exact suits_parse row

/-- The first row read as a document, unless there is none. -/
theorem suits_first [DocumentType α] (rows : List Row) :
    (match rows with
      | [] => pure none
      | row :: _ => some <$> parse row : Operation (Option α)).Suits manner := by
  cases rows with
  | nil => exact suits_pure none
  | cons row rows => exact suits_map (suits_parse row)

end Operation

namespace Run

def Suits (manner : Manner) (run : Run α) : Prop := ∀ e, manner.Keeps (run.outcome e)

theorem suits_pure (a : α) : (pure a : Run α).Suits manner := fun _ => manner.done _

theorem suits_throw (failure : Failure) : (throw failure : Run α).Suits manner :=
  fun _ => manner.done _

theorem suits_get : (get : Run Execution).Suits manner := fun _ => manner.done _

theorem suits_set (e : Execution) : (set e : Run PUnit).Suits manner := fun _ => manner.done _

theorem suits_modify (change : Execution → Execution) :
    (modify change : Run PUnit).Suits manner := fun _ => manner.done _

theorem Suits.bind {run : Run α} {f : α → Run β} (first : run.Suits manner)
    (rest : ∀ a, (f a).Suits manner) : (run >>= f).Suits manner := by
  intro e
  refine manner.bind (first e) ?_
  rintro ⟨failure | a, e'⟩
  · exact manner.done _
  · exact rest a e'

theorem Suits.attempt {run : Run α} (suits : run.Suits manner) : (attempt run).Suits manner :=
  fun e => manner.bind (suits e) fun _ => manner.done _

theorem Suits.traversing {run : Run α} (suits : run.Suits manner) :
    (Run.traversing run).Suits manner := fun e => manner.traversing (suits e)

theorem suits_lift {operation : Operation α} (suits : operation.Suits manner) :
    (lift operation).Suits manner := fun _ => manner.bind suits fun _ => manner.done _

theorem Suits.on {run : Run α} (suits : run.Suits manner) (e : Execution) :
    (on e run).Suits manner := by
  change manner.Keeps (_ <$> _)
  rw [← bind_pure_comp]
  exact manner.bind (suits e) fun _ => manner.done _

end Run

/-!
The operations that ask only inside.
-/

open Operation

namespace Store

theorem suits_getExecution (id : String) : (getExecution id).Suits manner :=
  (suits_query _).bind fun rows => suits_first rows

theorem suits_createExecution (e : Execution) : (createExecution e).Suits manner :=
  (suits_of_plain (plain_ensureWritable e)).bind fun _ => (suits_query _).bind fun rows =>
    suits_firstOr rows (suits_pure e)

theorem suits_saveExecution : saveExecution.Suits manner := by
  refine Run.suits_get.bind fun e => ?_
  refine (Run.suits_lift (suits_of_plain (plain_ensureWritable e))).bind fun _ => ?_
  refine (Run.suits_lift (suits_query _)).bind fun rows => ?_
  split
  · exact Run.suits_throw _
  · exact Run.suits_set _

theorem suits_listOpenExecutions (flowId accountId senderId : Option String) :
    (listOpenExecutions flowId accountId senderId).Suits manner :=
  (suits_query _).bind fun rows => suits_parseAll rows

theorem suits_getFlow (id : String) : (getFlow id).Suits manner :=
  (suits_query _).bind fun rows => suits_first rows

theorem suits_flowOr (known : Option Flow) (id : String) : (flowOr known id).Suits manner := by
  cases known with
  | some flow => exact suits_pure (some flow)
  | none => exact suits_getFlow id

theorem suits_listActiveFlows (accountId : String) : (listActiveFlows accountId).Suits manner :=
  (suits_query _).bind fun rows => suits_parseAll rows

theorem suits_recordTrigger (flow : Flow) (time : Timestamp) :
    (recordTrigger flow time).Suits manner :=
  (suits_getFlow flow.id).bind fun _ => (suits_query _).bind fun _ => suits_pure ()

theorem suits_deleteFlow (id : String) : (deleteFlow id).Suits manner :=
  (suits_query _).bind fun _ => suits_pure _

theorem suits_createTicket (ticket : Ticket) : (createTicket ticket).Suits manner :=
  (suits_of_plain (plain_ensureWritable ticket)).bind fun _ => (suits_query _).bind fun rows =>
    suits_firstOr rows (suits_pure ticket)

theorem suits_dueTickets (now : Timestamp) (limit : Int) : (dueTickets now limit).Suits manner :=
  (suits_query _).bind fun rows => suits_parseAll rows

theorem suits_claimTicket (id : String) : (claimTicket id).Suits manner :=
  (suits_query _).bind fun _ => suits_pure _

theorem suits_finishTicket (id : String) (status : TicketStatus) (time : Timestamp)
    (error : Option String) : (finishTicket id status time error).Suits manner :=
  (suits_query _).bind fun _ => suits_pure ()

theorem suits_failPendingTickets (flowId : String) (time : Timestamp) (error : String) :
    (failPendingTickets flowId time error).Suits manner :=
  (suits_query _).bind fun _ => suits_pure _

end Store

theorem suits_upsertLead (report : LeadReport) : (upsertLead report).Suits manner := by
  have finds : (getLead report.accountId report.instagramUserId).Suits manner :=
    (suits_query _).bind fun rows => suits_first rows
  refine suits_now.bind fun now => finds.bind fun found => ?_
  cases found with
  | some lead => exact (suits_query _).bind fun rows => suits_firstOr rows (suits_pure _)
  | none => exact (suits_query _).bind fun rows => suits_firstOr rows (suits_parse _)

namespace AccountLookup

theorem suits_rememberAccount (account : Account) : (rememberAccount account).Suits manner := by
  unfold rememberAccount
  induction keys account with
  | nil => exact suits_pure _
  | cons key others ih => exact (suits_request (.remember key account) rfl).bind fun _ => ih

theorem suits_get (id : String) : (get id).Suits manner := by
  refine (suits_request (.remembered _) rfl).bind fun cached => ?_
  cases cached with
  | some account => exact suits_pure _
  | none =>
    refine (suits_query _).bind fun rows => ?_
    cases rows with
    | nil => exact suits_pure _
    | cons row rows =>
      exact (suits_parse row).bind fun account =>
        (suits_rememberAccount account).bind fun _ => suits_pure _

end AccountLookup

namespace Run

theorem suits_now : (Run.lift Operation.now).Suits manner := suits_lift Operation.suits_now

theorem suits_save : save.Suits manner :=
  suits_now.bind fun _ => (suits_modify _).bind fun _ => Store.suits_saveExecution

theorem suits_complete : complete.Suits manner :=
  suits_now.bind fun _ => (suits_modify _).bind fun _ => suits_save

theorem suits_fail (error : String) : (fail error).Suits manner :=
  (suits_modify _).bind fun _ => suits_save

theorem suits_modifyContext (change : Context → Context) :
    (modifyContext change).Suits manner := suits_modify _

theorem suits_ofDelay (result : Except DelayError α) : (ofDelay result).Suits manner := by
  cases result with
  | ok value => exact suits_pure value
  | error error => exact suits_throw _

theorem suits_startDelay (account : Account) (flow : Flow) (node : Node) :
    (startDelay account flow node).Suits manner := by
  refine (suits_ofDelay _).bind fun amount => suits_now.bind fun now => ?_
  refine (suits_ofDelay _).bind fun wake => ?_
  refine (suits_lift (suits_request .freshId rfl)).bind fun id => suits_get.bind fun e => ?_
  exact (suits_lift (Store.suits_createTicket _)).bind fun _ => suits_modify _

theorem suits_initialExecution (flow : Flow) (trigger : Node) (event : TriggerEvent) (id : String)
    (now : Timestamp) : (initialExecution flow trigger event id now).Suits manner :=
  (suits_of_plain (plain_ofValidated _ _)).bind fun _ =>
    (suits_of_plain (plain_ofValidated _ _)).bind fun _ => Operation.suits_pure _

theorem suits_forceFail (reason : String) (attempts : Nat) (e : Execution) :
    (forceFail reason attempts e).Suits manner := by
  induction attempts generalizing e with
  | zero => exact Operation.suits_pure false
  | succ attempts ih =>
    unfold forceFail
    split
    · exact Operation.suits_pure false
    · refine ((suits_fail reason).on e).attempt.bind fun outcome => ?_
      cases outcome with
      | ok _ => exact Operation.suits_pure true
      | error failure =>
        simp only
        split
        · refine (Store.suits_getExecution e.id).bind fun found => ?_
          cases found with
          | some reloaded => exact ih reloaded
          | none => exact Operation.suits_pure false
        · exact Operation.suits_throw failure

theorem suits_forceFailAll (reason : String) (executions : List Execution) :
    (forceFailAll reason executions).Suits manner := by
  induction executions with
  | nil => exact Operation.suits_pure 0
  | cons e executions ih =>
    exact (suits_forceFail reason _ e).bind fun _ => ih.bind fun _ => Operation.suits_pure _

theorem suits_deleteFlow (flowId : String) : (deleteFlow flowId).Suits manner :=
  Operation.suits_now.bind fun _ => (Store.suits_listOpenExecutions _ _ _).bind fun executions =>
    (suits_forceFailAll flowDeleted executions).bind fun _ =>
      (Store.suits_failPendingTickets _ _ _).bind fun _ =>
        (Store.suits_deleteFlow flowId).bind fun _ => Operation.suits_pure _

end Run

namespace Sweep

theorem suits_finish (ticket : Ticket) (status : TicketStatus) (error : Option String) :
    (finish ticket status error).Suits manner :=
  suits_now.bind fun _ =>
    (Store.suits_finishTicket _ _ _ _).attempt.bind fun _ => suits_pure ()

theorem suits_failTicket (ticket : Ticket) (reason : String) :
    (failTicket ticket reason).Suits manner :=
  (suits_finish ticket .failed (some reason)).bind fun _ => suits_pure false

end Sweep

/-!
The operations that begin traversals, if the traversals suit; and those suit if what is done at the
nodes does.
-/

variable {deployment : Deployment} {account : Account}

namespace Run

theorem suits_walk {flow : Flow}
    (visits : ∀ node, (visit deployment account flow node).Suits manner) (steps : Nat) (queue : List Node) (branch : Option Bool) :
    (walk deployment account flow steps queue branch).Suits manner :=
  walk_of (suits_pure ()) suits_complete (suits_fail stepLimitError)
    (fun _ rest => suits_get.bind rest) (fun node _ rest => (visits node).bind rest)
    steps queue branch

/-- Whatever stops a traversal, nothing is asked after it. -/
theorem suits_afterwards (outcome : Except Failure Unit) :
    (match outcome with
      | .ok () => pure ()
      | .error failure => if failure.isConflict then pure () else throw failure : Run Unit).Suits
        manner := by
  cases outcome with
  | ok _ => exact suits_pure ()
  | error failure =>
    simp only
    split
    · exact suits_pure ()
    · exact suits_throw failure

theorem suits_resume
    (visits : ∀ flow node, (visit deployment account flow node).Suits manner)
    (flow : Option Flow) : (resume deployment account flow).Suits manner := by
  have traverses : (traverse deployment account flow).Suits manner := by
    refine suits_get.bind fun e => (suits_lift (Store.suits_flowOr flow e.flowId)).bind ?_
    intro found
    cases found with
    | some flow => exact suits_walk (visits flow) maxSteps [] none
    | none => exact suits_fail flowNotFound
  exact Suits.traversing (traverses.attempt.bind suits_afterwards)

end Run

section resumes

variable (resumes : ∀ flow, (Run.resume deployment account flow).Suits manner)
include resumes

namespace Run

theorem suits_start (flow : Flow) (event : TriggerEvent) (keywords : List String) :
    (start deployment account flow event keywords).Suits manner := by
  unfold start
  cases event.triggers keywords flow with
  | nil => exact Operation.suits_pure none
  | cons trigger others =>
    refine Operation.suits_now.bind fun now => (suits_request .freshId rfl).bind fun id => ?_
    refine (suits_initialExecution flow trigger event id now).bind fun initial => ?_
    refine (Store.suits_createExecution initial).bind fun created => Suits.on ?_ created
    have records : (Run.lift (Store.recordTrigger flow now)).Suits manner :=
      suits_lift (Store.suits_recordTrigger flow now)
    have traverses := records.attempt.bind fun _ => resumes (some flow)
    exact traverses.traversing.bind fun _ => suits_get.bind fun e => suits_pure (some e)

theorem suits_startAll (event : TriggerEvent) (keywords : List String) (flows : List Flow) :
    (startAll deployment account event keywords flows).Suits manner := by
  induction flows with
  | nil => exact Operation.suits_pure []
  | cons flow flows ih =>
    refine (suits_start resumes flow event keywords).attempt.bind fun started =>
      ih.bind fun others => ?_
    split
    · exact Operation.suits_pure _
    · exact Operation.suits_pure _

theorem suits_trigger (event : TriggerEvent) :
    (trigger deployment account event).Suits manner := by
  unfold trigger
  cases event.keywords with
  | error value => exact Operation.suits_throw _
  | ok keywords =>
    exact (Store.suits_listActiveFlows account.id).bind fun flows =>
      suits_startAll resumes event keywords flows

end Run

namespace Inbox

theorem suits_handle (message : InboundMessage) (attempts : Nat) :
    (handle deployment account message attempts).Suits manner := by
  induction attempts with
  | zero => exact Run.suits_get
  | succ attempts ih =>
    unfold handle
    refine Run.suits_get.bind fun e => ?_
    split
    · exact Run.suits_pure e
    · refine (Run.suits_set _).bind fun _ => Run.suits_now.bind fun now =>
        (Run.suits_modify _).bind fun _ => Store.suits_saveExecution.attempt.bind fun saved => ?_
      cases saved with
      | ok _ =>
        simp only
        split
        · exact (resumes none).bind fun _ => Run.suits_get
        · exact Run.suits_get
      | error failure =>
        simp only
        split
        · refine (Run.suits_lift (Store.suits_getExecution e.id)).bind fun found => ?_
          cases found with
          | some reloaded => exact Run.suits_lift (ih.on reloaded)
          | none => exact Run.suits_get
        · exact Run.suits_throw failure

theorem suits_handleAll (message : InboundMessage) (attempts : Nat)
    (executions : List Execution) :
    (handleAll deployment account message attempts executions).Suits manner := by
  induction executions with
  | nil => exact suits_pure []
  | cons e executions ih =>
    exact ((suits_handle resumes message attempts).on e).bind fun handled =>
      ih.bind fun others => suits_pure (handled :: others)

theorem suits_route (senderId : String) (message : InboundMessage) (attempts : Nat) :
    (route deployment account senderId message attempts).Suits manner :=
  (Store.suits_listOpenExecutions _ _ _).bind fun executions =>
    suits_handleAll resumes message attempts executions

theorem suits_dispatch (senderId : String) (senderUsername : Option String)
    (message : InboundMessage) (attempts : Nat) :
    (dispatch deployment account senderId senderUsername message attempts).Suits manner := by
  refine (suits_route resumes senderId message attempts).bind fun handled => ?_
  split
  · exact (Run.suits_trigger resumes _).bind fun started => suits_pure _
  · exact suits_pure _

end Inbox

theorem Sweep.suits_resumeExecution (ticket : Ticket) (attempts : Nat) (known : Option Flow)
    (e : Execution) :
    (resumeExecution deployment account ticket attempts known e).Suits manner := by
  induction attempts generalizing known e with
  | zero => exact suits_failTicket ticket keptChanging
  | succ attempts ih =>
    unfold resumeExecution
    split
    · refine (Store.suits_flowOr known e.flowId).bind fun found => ?_
      cases found with
      | none =>
        exact ((Run.suits_fail Run.flowNotFound).on e).bind fun _ =>
          suits_failTicket ticket Run.flowNotFound
      | some flow =>
        refine suits_now.bind fun now => ?_
        refine (Run.Suits.on (Store.suits_saveExecution.attempt.bind fun saved => ?_) _).bind
          fun outcome => ?_
        · cases saved with
          | ok _ => exact (resumes _).bind fun _ => Run.suits_pure true
          | error failure =>
            simp only
            split
            · exact Run.suits_pure false
            · exact Run.suits_throw failure
        · split
          · exact (suits_finish ticket .completed none).bind fun _ => suits_pure true
          · refine (Store.suits_getExecution ticket.executionId).bind fun found => ?_
            cases found with
            | some reloaded => exact ih (some flow) reloaded
            | none => exact suits_failTicket ticket executionNotFound
    · exact suits_failTicket ticket notWaiting

end resumes

namespace Sweep

theorem suits_resume (resumes : ∀ account flow, (Run.resume deployment account flow).Suits manner)
    {attempts : Nat} (ticket : Ticket) : (resume deployment attempts ticket).Suits manner := by
  refine (Store.suits_getExecution ticket.executionId).bind fun found => ?_
  cases found with
  | none => exact suits_failTicket ticket executionNotFound
  | some e =>
    refine (AccountLookup.suits_get ticket.accountId).bind fun looked => ?_
    cases looked with
    | none => exact suits_failTicket ticket accountNotFound
    | some account => exact suits_resumeExecution (resumes account) ticket attempts none e

variable {attempts : Nat} (resumes : ∀ ticket, (resume deployment attempts ticket).Suits manner)
include resumes

theorem suits_processOne (ticket : Ticket) :
    (processOne deployment attempts ticket).Suits manner := by
  have claims : (claimAndResume deployment attempts ticket).Suits manner := by
    refine (Store.suits_claimTicket ticket.id).bind fun claimed => ?_
    split
    · exact resumes ticket
    · exact suits_pure false
  refine claims.attempt.bind fun outcome => ?_
  cases outcome with
  | ok completed => exact suits_pure completed
  | error failure => exact suits_failTicket ticket failure.record

theorem suits_processAll (tickets : List Ticket) :
    (processAll deployment attempts tickets).Suits manner := by
  induction tickets with
  | nil => exact suits_pure 0
  | cons ticket tickets ih =>
    exact (suits_processOne resumes ticket).bind fun _ => ih.bind fun _ => suits_pure _

theorem suits_process (at? : Option Timestamp) :
    (process deployment attempts at?).Suits manner := by
  have reads : (timeOr at?).Suits manner := by
    cases at? with
    | none => exact suits_now
    | some time => exact suits_pure time
  exact reads.bind fun time => (Store.suits_dueTickets time _).bind
    fun tickets => suits_processAll resumes tickets

end Sweep
end MessageFlow
