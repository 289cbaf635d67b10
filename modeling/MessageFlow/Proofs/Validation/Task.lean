import MessageFlow.Proofs.Interleaving.Sweeping
import MessageFlow.Proofs.Validation.Start

/-!
The tasks of clients but the deletion of a flow keep the tables in order.
-/

namespace MessageFlow
open Operation

variable {watch : Watch} {owners : Owners} {account : Account} {e : Execution}

/-- An execution has one flow. -/
theorem Execution.Proper.flowId_eq {v : Execution} (proper : v.Proper owners)
    (other : e.Proper owners) (agree : owners.Agree) (same : v.id = e.id) :
    v.flowId = e.flowId := by
  have owned := proper.owned
  rw [same] at owned
  exact agree e.id v.flowId e.flowId owned other.owned

namespace Store

/-- A copy of a stored execution is proper, and is of the flow of the execution. -/
theorem getExecution_yields (id : String) : (getExecution id).Yields watch owners fun found later =>
    ∀ v ∈ found, v.id = id ∧ v.Proper later ∧ later.Agree := by
  unfold getExecution
  apply yields_then (P := fun rows later => ∀ row ∈ rows, ∀ v,
    Execution.read (.record row) = .valid v → v.id = id ∧ v.Proper later ∧ later.Agree)
  · apply yields_query
    intro later tables _ sound
    refine ⟨sound, ?_⟩
    intro row found v reads
    obtain ⟨present, selected⟩ := Query.selected_of_mem_select found
    have named : Row.get row "id" = .text id := selects_byId.mp selected
    rw [(Row.heads_of_read reads).id] at named
    exact ⟨Json.text.inj named, sound.proper present reads, sound.agree⟩
  · intro rows later _ read
    cases rows with
    | nil =>
      apply yields_pure
      intro v none
      cases none
    | cons row rows =>
      apply yields_parse
      intro v reads found same
      cases same
      exact read row (.head rows) v reads

theorem listOpenExecutions_yields (flowId accountId senderId : Option String) :
    (listOpenExecutions flowId accountId senderId).Yields watch owners fun found later =>
      ∀ v ∈ found, v.Proper later := by
  unfold listOpenExecutions
  apply yields_then (P := fun rows later => ∀ row ∈ rows, ∀ v,
    Execution.read (.record row) = .valid v → v.Proper later)
  · apply yields_query
    intro later tables _ sound
    refine ⟨sound, ?_⟩
    intro row selected v reads
    exact sound.proper (Query.mem_of_mem_select selected) reads
  · intro rows later _ reads
    apply yields_mono (yields_parseAll reads)
    intro found last grows proper v present
    exact (proper v present).mono grows

end Store

namespace Context.IsFinite

variable {context : Context}

theorem lowered (finite : context.IsFinite) (key : String) (found : Bool) :
    (context.lowered key found).IsFinite := by
  cases found with
  | true => exact finite.setFlag key false
  | false => exact finite

theorem captureEmail (finite : context.IsFinite) (text : String) :
    (context.captureEmail text).IsFinite := by
  rw [captureEmail_eq]
  refine lowered ?_ _ _
  exact finite

theorem capturePhone (finite : context.IsFinite) (text : String) :
    (context.capturePhone text).IsFinite := by
  rw [capturePhone_eq]
  refine lowered ?_ _ _
  exact finite

theorem receive (finite : context.IsFinite) (message : InboundMessage) :
    (context.receive message).IsFinite := by
  have heard : Context.IsFinite { context with lastUserMessage := some message.text } := finite
  have captured := (heard.captureEmail message.text).capturePhone message.text
  unfold Context.receive
  simp only
  split
  · exact captured
  · exact captured

end Context.IsFinite

namespace Execution

/-- A message leaves an open execution unfailed. -/
theorem receive_unfailed (isOpen : e.isTerminal = false) (message : InboundMessage) :
    (e.receive message).status ≠ .failed := by
  intro failed
  unfold receive at failed
  simp only at failed
  split at failed
  · cases failed
  · rw [isTerminal, failed] at isOpen
    cases isOpen

end Execution

namespace Inbox

variable (message : InboundMessage)

/-- By induction on the attempts; every conflict brings a proper copy. -/
theorem handle_yields (delivers : watch.deployment.Delivers account) (attempts : Nat)
    (proper : e.Proper owners) :
    (handle watch.deployment account message attempts).Yields watch e owners
      fun _ _ _ => True := by
  induction attempts generalizing e owners with
  | zero => exact Run.yields_get trivial
  | succ attempts ih =>
    unfold handle
    apply Run.get_then
    simp only
    split
    · exact Run.yields_pure trivial
    · next isOpen =>
      have isOpen : e.isTerminal = false := by simpa using isOpen
      apply Run.set_then
      apply Run.succeeds_then succeeds_now
      intro now later grows _
      apply Run.modify_then
      have heard : ((e.receive message).stamped now).Proper later :=
        (proper.mono grows).of_same rfl rfl rfl (proper.finite.receive message)
      have unfailed := Execution.receive_unfailed isOpen message
      apply Run.yields_then (Run.attemptSave_yields ⟨heard, rfl, unfailed⟩)
      intro outcome e' last _ written
      cases outcome with
      | ok _ =>
        obtain ⟨rfl, goesOn⟩ := written rfl
        simp only
        split
        · apply Run.yields_then (P := fun _ _ _ => True)
          · apply Run.resume_yields delivers _ goesOn
            intro flow none
            cases none
          · intro _ e'' _ _ _
            exact Run.yields_get trivial
        · exact Run.yields_get trivial
      | error failure =>
        simp only
        split
        · apply Run.yields_then (P := fun found _ last => ∀ v ∈ found, v.Proper last)
          · apply Run.yields_lift
            apply Operation.yields_mono (Store.getExecution_yields e.id)
            intro found _ _ copies v isCopy
            exact (copies v isCopy).2.1
          · intro found e'' final _ copies
            cases found with
            | none => exact Run.yields_get trivial
            | some reloaded =>
              apply Run.yields_lift
              apply Run.yields_on
              exact ih (copies reloaded rfl)
        · exact Run.yields_throw

theorem handleAll_yields (delivers : watch.deployment.Delivers account) (attempts : Nat)
    {executions : List Execution} (proper : ∀ v ∈ executions, v.Proper owners) :
    (handleAll watch.deployment account message attempts executions).Yields watch owners
      fun _ _ => True := by
  induction executions generalizing owners with
  | nil => exact yields_pure trivial
  | cons v executions ih =>
    unfold handleAll
    apply yields_then (P := fun _ _ => True)
    · apply Run.yields_on
      exact handle_yields message delivers attempts (proper v (.head executions))
    · intro handled later grows _
      apply yields_then (ih fun w present => (proper w (.tail v present)).mono grows)
      intro others last _ _
      exact yields_pure trivial

theorem route_yields (delivers : watch.deployment.Delivers account) (senderId : String)
    (attempts : Nat) :
    (route watch.deployment account senderId message attempts).Yields watch owners
      fun _ _ => True := by
  apply yields_then (Store.listOpenExecutions_yields _ _ _)
  intro executions later _ proper
  exact handleAll_yields message delivers attempts proper

theorem dispatch_yields (delivers : watch.deployment.Delivers account) (senderId : String)
    (senderUsername : Option String) (attempts : Nat) :
    (dispatch watch.deployment account senderId senderUsername message attempts).Yields watch owners
      fun _ _ => True := by
  apply yields_then (route_yields message delivers senderId attempts)
  intro handled later _ _
  split
  · apply yields_then (Run.trigger_yields delivers _)
    intro started last _ _
    exact yields_pure trivial
  · exact yields_pure trivial

end Inbox

namespace AccountLookup

theorem rememberAll_yields (keys : List String) (account : Account) :
    (keys.forM fun key => remember key account : Operation Unit).Yields watch owners
      fun _ _ => True := by
  induction keys generalizing owners with
  | nil => exact yields_pure trivial
  | cons key keys ih =>
    apply yields_then (P := fun _ _ => True)
    · exact fun later _ _ _ => trivial
    · intro _ later _ _
      exact ih

/-- Whatever is posted for an account that is found can be sent. -/
theorem find_yields (key : String) (filters : List Filter) :
    (find key filters).Yields watch owners fun found _ =>
      ∀ account ∈ found, watch.deployment.Delivers account := by
  unfold find
  apply yields_then (P := fun found _ => ∀ account ∈ found, watch.deployment.Delivers account)
  · intro later _ found delivers value same
    cases same
    exact delivers
  · intro found later _ delivers
    cases found with
    | some account => exact yields_pure delivers
    | none =>
      apply yields_then (P := fun rows _ => ∀ row ∈ rows, ∀ account,
        Account.read (.record row) = .valid account → watch.deployment.Delivers account)
      · apply yields_query
        intro last tables _ sound
        refine ⟨sound, ?_⟩
        intro row selected account reads
        exact sound.accounts row (Query.mem_of_mem_select selected) account reads
      · intro rows last _ delivers
        cases rows with
        | nil =>
          apply yields_pure
          intro account none
          cases none
        | cons row rows =>
          apply yields_then (P := fun account _ => watch.deployment.Delivers account)
          · unfold parse
            cases reads : (DocumentType.read (.record row) : Validated Account) with
            | invalid issues => exact yields_throw
            | valid account => exact yields_pure (delivers row (.head rows) account reads)
          · intro account final _ fits
            apply yields_then (rememberAll_yields (keys account) account)
            intro _ _ _ _
            apply yields_pure
            intro other same
            cases same
            exact fits

end AccountLookup

namespace Sweep

variable (ticket : Ticket)

theorem finish_yields (status : TicketStatus) (error : Option String) :
    (finish ticket status error).Yields watch owners fun _ _ => True := by
  unfold finish
  apply yields_then (P := fun _ _ => True) (yields_now fun _ _ _ => trivial)
  intro now later _ _
  apply yields_then (P := fun _ _ => True)
  · apply yields_passOver (P := fun _ _ => True)
    unfold Store.finishTicket
    apply yields_then (P := fun _ _ => True)
    · apply yields_query
      intro last tables _ sound
      exact ⟨sound.aside (.inl rfl), trivial⟩
    · intro _ last _ _
      exact yields_pure trivial
  · intro _ last _ _
    exact yields_pure trivial

theorem failTicket_yields (reason : String) :
    (failTicket ticket reason).Yields watch owners fun _ _ => True := by
  unfold failTicket
  apply yields_then (finish_yields ticket .failed (some reason))
  intro _ later _ _
  exact yields_pure trivial

/-- The write of an execution that leaves its delay, and its traversal when the write succeeds. -/
theorem wakeAndResume_yields (delivers : watch.deployment.Delivers account) {flow : Flow}
    (isFlow : ∀ other ∈ some flow, e.flowId = watch.flow.id → watch.flow.Matches other)
    (woken : e.GoesOn owners e.flowId) :
    (do
      match ← Run.attempt Store.saveExecution with
      | .ok () =>
        Run.resume watch.deployment account (some flow)
        pure true
      | .error failure => if failure.isConflict then pure false else throw failure :
      Run Bool).Yields watch e owners fun _ _ _ => True := by
  apply Run.yields_then (Run.attemptSave_yields woken)
  intro outcome e' later _ written
  cases outcome with
  | ok nothing =>
    cases nothing
    obtain ⟨rfl, goesOn⟩ := written rfl
    apply Run.yields_then (e := e.saved) (Run.resume_yields delivers isFlow goesOn)
    intro _ _ _ _ _
    exact Run.yields_pure trivial
  | error failure =>
    simp only
    split
    · exact Run.yields_pure trivial
    · exact Run.yields_throw

/-- By induction on the attempts. A copy that a conflict brings is of the same flow, so the flow
that was loaded is still the one it is of. -/
theorem resumeExecution_yields (delivers : watch.deployment.Delivers account) (attempts : Nat)
    {known : Option Flow} (isOwn : e.id = ticket.executionId) (proper : e.Proper owners)
    (isKnown : ∀ flow ∈ known, e.flowId = watch.flow.id → watch.flow.Matches flow) :
    (resumeExecution watch.deployment account ticket attempts known e).Yields watch owners
      fun _ _ => True := by
  induction attempts generalizing known e owners with
  | zero => exact failTicket_yields ticket keptChanging
  | succ attempts ih =>
    unfold resumeExecution
    split
    · apply yields_then (Store.flowOr_yields isKnown)
      intro found later grows shows
      have proper := proper.mono grows
      cases found with
      | none =>
        apply yields_then (P := fun _ _ => True)
        · apply Run.yields_on
          apply Run.fail_yields proper
          intro _ watched
          obtain ⟨_, none, _⟩ := shows watched
          cases none
        · intro _ last _ _
          exact failTicket_yields ticket Run.flowNotFound
      | some flow =>
        have isFlow : ∀ other ∈ some flow, e.flowId = watch.flow.id →
            watch.flow.Matches other := by
          intro other same watched
          obtain ⟨_, found, isAccepted⟩ := shows watched
          cases same
          cases found
          exact isAccepted
        apply yields_then (P := fun _ _ => True) (yields_now fun _ _ _ => trivial)
        intro now last more _
        have woken : (wake e ticket now).GoesOn last (wake e ticket now).flowId :=
          ⟨(proper.mono more).of_same rfl rfl rfl proper.finite, rfl, by simp [wake]⟩
        apply yields_then (P := fun _ _ => True)
        · apply Run.yields_on
          exact wakeAndResume_yields delivers isFlow woken
        · intro completed after grown _
          split
          · apply yields_then (finish_yields ticket .completed none)
            intro _ _ _ _
            exact yields_pure trivial
          · apply yields_then (Store.getExecution_yields ticket.executionId)
            intro copy final most isCopy
            cases copy with
            | none => exact failTicket_yields ticket executionNotFound
            | some reloaded =>
              obtain ⟨id, ofCopy, agree⟩ := isCopy reloaded rfl
              have still := proper.mono (List.Subset.trans more (List.Subset.trans grown most))
              have sameFlow := ofCopy.flowId_eq still agree (id.trans isOwn.symm)
              exact ih id ofCopy (sameFlow ▸ isFlow)
    · exact failTicket_yields ticket notWaiting

theorem resume_yields (attempts : Nat) :
    (resume watch.deployment attempts ticket).Yields watch owners fun _ _ => True := by
  unfold resume
  apply yields_then (Store.getExecution_yields ticket.executionId)
  intro found later _ isCopy
  cases found with
  | none => exact failTicket_yields ticket executionNotFound
  | some execution =>
    obtain ⟨id, proper, _⟩ := isCopy execution rfl
    apply yields_then (AccountLookup.find_yields _ _)
    intro found last grows delivers
    cases found with
    | none => exact failTicket_yields ticket accountNotFound
    | some account =>
      apply resumeExecution_yields ticket (delivers account rfl) attempts id (proper.mono grows)
      intro flow none
      cases none

theorem claimAndResume_yields (attempts : Nat) :
    (claimAndResume watch.deployment attempts ticket).Yields watch owners fun _ _ => True := by
  unfold claimAndResume
  apply yields_then (P := fun _ _ => True)
  · unfold Store.claimTicket
    apply yields_then (P := fun _ _ => True)
    · apply yields_query
      intro later tables _ sound
      exact ⟨sound.aside (.inl rfl), trivial⟩
    · intro _ later _ _
      exact yields_pure trivial
  · intro claimed later _ _
    split
    · exact resume_yields ticket attempts
    · exact yields_pure trivial

theorem processOne_yields (attempts : Nat) :
    (processOne watch.deployment attempts ticket).Yields watch owners fun _ _ => True := by
  unfold processOne
  apply yields_then (P := fun _ _ => True)
  · exact yields_passOver (claimAndResume_yields ticket attempts)
  · intro outcome later _ _
    cases outcome with
    | ok completed => exact yields_pure trivial
    | error failure => exact failTicket_yields ticket failure.record

theorem processAll_yields (attempts : Nat) (tickets : List Ticket) :
    (processAll watch.deployment attempts tickets).Yields watch owners fun _ _ => True := by
  induction tickets generalizing owners with
  | nil => exact yields_pure trivial
  | cons ticket tickets ih =>
    unfold processAll
    apply yields_then (processOne_yields ticket attempts)
    intro completed later _ _
    apply yields_then ih
    intro others last _ _
    exact yields_pure trivial

theorem process_yields (attempts : Nat) (at? : Option Timestamp) :
    (process watch.deployment attempts at?).Yields watch owners fun _ _ => True := by
  unfold process
  apply yields_then (P := fun _ _ => True)
  · cases at? with
    | some time => exact yields_pure trivial
    | none => exact yields_now fun _ _ _ => trivial
  · intro time later _ _
    apply yields_then (P := fun _ _ => True)
    · unfold Store.dueTickets
      apply yields_then (P := fun _ _ => True)
      · apply yields_query
        intro last tables _ sound
        exact ⟨sound, trivial⟩
      · intro rows last _ _
        apply yields_mono (yields_parseAll (P := fun _ => True) fun _ _ _ _ => trivial)
        intro _ _ _ _
        trivial
    · intro tickets last _ _
      exact processAll_yields attempts tickets

end Sweep

namespace Task

/-- A task that leaves the accepted flow in place. What it posts for its account can be sent, and a
flow of that id that it is given is the accepted one. -/
def Suits (watch : Watch) : Task → Prop
  | .start account flow _ _ =>
    watch.deployment.Delivers account ∧ (flow.id = watch.flow.id → watch.flow.Matches flow)
  | .trigger account _ | .handle account .. | .route account .. | .dispatch account .. =>
    watch.deployment.Delivers account
  | .sweep .. => True
  | .deleteFlow _ => False

theorem operation_yields {task : Task} (suits : task.Suits watch)
    (given : ∀ v, task.given = some v → v.Proper owners) :
    (task.operation watch.deployment).Yields watch owners fun _ _ => True := by
  have reports {α : Type} {operation : Operation α} {report : α → Report}
      (yields : operation.Yields watch owners fun _ _ => True) :
      (do pure (report (← operation))).Yields watch owners fun _ _ => True :=
    yields_then yields fun _ _ _ _ => yields_pure trivial
  cases task with
  | start account flow event keywords =>
    exact reports (Run.start_yields suits.1 suits.2 event keywords)
  | trigger account event => exact reports (Run.trigger_yields suits event)
  | handle account message attempts execution =>
    exact reports (Run.yields_on
      (Inbox.handle_yields message suits attempts (given execution rfl)))
  | route account senderId message attempts =>
    exact reports (Inbox.route_yields message suits senderId attempts)
  | dispatch account senderId senderUsername message attempts =>
    exact reports (Inbox.dispatch_yields message suits senderId senderUsername attempts)
  | sweep attempts at? => exact reports (Sweep.process_yields attempts at?)
  | deleteFlow flowId => exact suits.elim

end Task

end MessageFlow
