import MessageFlow.Proofs.Trail.Traversal

/-!
Every task stays on its track: it writes over executions that it has seen, traverses them along
their flows, and starts a flow at the first trigger that its event fires.
-/

namespace MessageFlow
open Track

variable {task : Task} {c : Track} {v e : Execution}

namespace Operation

variable {α β : Type} {operation : Operation α} {f : α → Operation β}

/-- One operation after the other, with what the first one gains. -/
theorem roams_then {gains : α → Track → Prop}
    (first : operation.Obeys task.roaming c fun outcome c' =>
      c.Grows c' ∧ ∀ a, outcome = .ok a → gains a c')
    (next : ∀ a c', c.Grows c' → gains a c' →
      (f a).Obeys task.roaming c' fun _ c'' => c'.Grows c'') :
    (operation >>= f).Obeys task.roaming c fun _ c' => c.Grows c' := by
  apply obeys_then first
  · rintro a c' ⟨grows, gained⟩
    exact obeys_mono (next a c' grows (gained a rfl)) fun _ _ later => grows.trans later
  · exact fun _ _ after => after.1

theorem grows_after (first : operation.Obeys task.roaming c fun _ c' => c.Grows c')
    (next : ∀ a c', c.Grows c' → (f a).Obeys task.roaming c' fun _ c'' => c'.Grows c'') :
    (operation >>= f).Obeys task.roaming c fun _ c' => c.Grows c' := by
  apply obeys_then first
  · intro a c' grows
    exact obeys_mono (next a c' grows) fun _ _ later => grows.trans later
  · exact fun _ _ grows => grows

theorem roams_pure {a : α} : (pure a : Operation α).Obeys task.roaming c fun _ c' => c.Grows c' :=
  obeys_pure (.refl c)

theorem roams_throw {failure : Failure} :
    (throw failure : Operation α).Obeys task.roaming c fun _ c' => c.Grows c' :=
  obeys_throw (.refl c)

theorem Sparing.roams (sparing : operation.Sparing) :
    operation.Obeys task.roaming c fun _ c' => c.Grows c' := by
  apply obeys_mono (sparing.obeys (spares task c))
  rintro outcome c' rfl
  exact .refl c'

end Operation

open Operation

namespace Store

/-- The flows of an account are learned when they are listed. -/
theorem listActiveFlows_roams (accountId : String) :
    (listActiveFlows accountId).Obeys task.roaming c fun outcome c' =>
      c.Grows c' ∧ ∀ flows, outcome = .ok flows → ∀ flow ∈ flows, flow ∈ c'.told := by
  refine obeys_bind (obeys_query c.afterSeek (.seek _ _ _) ?_)
  intro answer _
  cases answer with
  | error failure =>
    refine ⟨.refl c, ?_⟩
    intro flows same
    cases same
  | ok rows =>
    apply obeys_mono (parseAll_reads rows)
    rintro outcome c' ⟨rfl, reads⟩
    refine ⟨c.grows_learn rows, ?_⟩
    intro flows same flow present
    exact .inr (exists_left_of_forall₂ (reads flows same) present)

theorem getExecution_roams (id : String) :
    (getExecution id).Obeys task.roaming c fun outcome c' => c.Grows c' ∧
      ∀ found, outcome = .ok found → ∀ v, found = some v → v ∈ c'.seen ∧ v.id = id := by
  have permitted : task.roaming c none
      (.query (.select .executions [byId id] none (some 1))) c.afterSelect := .select _ _ _
  apply obeys_mono (getExecution_reads id permitted)
  rintro outcome c' ⟨answer, rfl, _, reads⟩
  refine ⟨c.grows_afterSelect answer, ?_⟩
  rintro found rfl v rfl
  obtain ⟨sameId, row, rows, rfl, read⟩ := reads v rfl
  exact ⟨.inr ⟨row, .head rows, read⟩, sameId⟩

theorem listOpenExecutions_roams (flowId accountId senderId : Option String) :
    (listOpenExecutions flowId accountId senderId).Obeys task.roaming c fun outcome c' =>
      c.Grows c' ∧ ∀ copies, outcome = .ok copies → ∀ v ∈ copies, v ∈ c'.seen := by
  have permitted : task.roaming c none
      (.query (openQuery flowId accountId senderId)) c.afterSelect := .select _ _ _
  apply obeys_mono (listOpenExecutions_reads flowId accountId senderId permitted)
  rintro outcome c' ⟨answer, _, rfl, reads⟩
  refine ⟨c.grows_afterSelect answer, ?_⟩
  intro copies same v present
  obtain ⟨rows, rfl, copied⟩ := reads copies same
  exact .inr (exists_left_of_forall₂ copied present)

end Store

/-- A write from outside a traversal over an execution that was seen. -/
theorem Track.permits_write (task : Task) (seen : v ∈ c.seen) (keeps : v.Keeps e) :
    task.roaming c none (.query (Store.saveQuery e)) (c.afterSave e [e.outsetStop]) :=
  .write v e rfl seen keeps

/-- After such a write the client may set out with the execution. -/
theorem Run.write_roams (seen : v ∈ c.seen) (keeps : v.Keeps e) (sameFlow : e.flowId = v.flowId) :
    Store.saveExecution.Obeys task.roaming e c fun
      | .ok _, e', c' => c.Grows c' ∧ e'.id = v.id ∧ c'.Saw e' ∧ c'.way = some (e', [e'.outsetStop])
      | .error _, _, c' => c' = c := by
  apply Run.obeys_mono (Run.saveExecution_roams (permits_write task seen keeps))
  rintro (failure | ⟨⟩) e' c' after
  · exact after
  · obtain ⟨rfl, rfl⟩ := after
    exact ⟨c.grows_goOn _ _, keeps.id, ⟨v, seen, keeps.id.symm, sameFlow.symm⟩, rfl⟩

namespace Inbox

variable (deployment : Deployment) (account : Account) (message : InboundMessage)

theorem handle_roams (attempts : Nat) (seen : v ∈ c.seen) :
    (handle deployment account message attempts).Obeys task.roaming v c
      fun _ _ c' => c.Grows c' := by
  induction attempts generalizing c v with
  | zero => exact Run.obeys_get (.refl c)
  | succ attempts ih =>
    unfold handle
    refine Run.obeys_bind (Run.obeys_get ?_)
    simp only
    by_cases terminal : v.isTerminal = true
    · rw [if_pos terminal]
      exact Run.obeys_pure (.refl c)
    rw [if_neg terminal]
    refine Run.obeys_bind (Run.obeys_set ?_)
    refine Run.obeys_bind (Run.obeys_lift (Operation.obeys_request _
      (spares task c .now trivial) ?_))
    intro now _
    refine Run.obeys_bind (Run.obeys_modify ?_)
    refine Run.obeys_bind (Run.obeys_attempt ?_)
    obtain ⟨id, revision, extras, contextExtras, selectedOptions⟩ := v.receive_keeps message
    have keeps : v.Keeps ((v.receive message).stamped now) :=
      ⟨id, revision, extras, contextExtras, selectedOptions⟩
    apply Run.obeys_mono (Run.write_roams seen keeps rfl)
    rintro (failure | ⟨⟩) e' c' after
    · obtain rfl := after
      by_cases conflict : failure.isConflict = true
      · simp only [conflict, if_true]
        refine Run.obeys_bind (Run.obeys_lift (Operation.obeys_mono
          (Store.getExecution_roams v.id) ?_))
        rintro (refusal | _ | reloaded) c'' ⟨grows, found⟩
        · exact grows
        · exact Run.obeys_get grows
        · refine Run.obeys_lift (Run.obeys_on ?_)
          apply Run.obeys_mono (ih (found _ rfl reloaded rfl).1)
          exact fun _ _ _ later => grows.trans later
      · simp only [conflict]
        exact Run.obeys_throw (.refl c')
    · obtain ⟨grows, _, saw, walks⟩ := after
      cases v.isWaitingOnInput with
      | false => exact Run.obeys_bind (Run.obeys_pure (Run.obeys_get grows))
      | true =>
        apply Run.obeys_then
          (Run.resume_roams deployment account none rfl walks (.of_none task c' e'.id) saw)
        · rintro ⟨⟩ e' c' later
          exact Run.obeys_get (grows.trans later)
        · exact fun _ _ _ later => grows.trans later

theorem handleAll_roams (attempts : Nat) (executions : List Execution)
    (seen : ∀ v ∈ executions, v ∈ c.seen) :
    (handleAll deployment account message attempts executions).Obeys task.roaming c
      fun _ c' => c.Grows c' := by
  induction executions generalizing c with
  | nil => exact roams_pure
  | cons v executions ih =>
    refine grows_after (Run.obeys_on
      (handle_roams deployment account message attempts (seen v (.head executions)))) ?_
    intro handled c' grows
    refine grows_after (ih fun w present => grows.seen (seen w (.tail v present))) ?_
    intro others c'' _
    exact roams_pure

theorem route_roams (senderId : String) (attempts : Nat) :
    (route deployment account senderId message attempts).Obeys task.roaming c
      fun _ c' => c.Grows c' := by
  apply roams_then (Store.listOpenExecutions_roams none (some account.id) (some senderId))
  intro executions c' _ seen
  exact handleAll_roams deployment account message attempts executions seen

end Inbox

namespace Run

variable (deployment : Deployment) (account : Account)

/-- No event brings tags or custom fields along. -/
theorem unmarked_of_isOutset {flow : Flow} {trigger : Node} {id : String}
    (outset : e.IsOutset flow trigger id) : e.context.marks = {} := by
  rw [Context.marks, Context.field?, outset.tags, outset.customFields]
  rfl

theorem createExecution_roams {flow : Flow} {event : TriggerEvent} {keywords : List String}
    {trigger : Node} {rest : List Node} {id : String} (told : task.Told c flow)
    (brings : task.Brings event keywords) (fires : event.triggers keywords flow = trigger :: rest)
    (outset : e.IsOutset flow trigger id) :
    (Store.createExecution e).Obeys task.roaming c fun
      | .ok created, c' => created = e ∧ c.Grows c' ∧ e ∈ c'.seen ∧
          c'.way = some (e, [e.outsetStop])
      | .error _, c' => c.Grows c' := by
  have permitted : task.roaming c none (.query (.insert .executions e.row)) (c.afterCreation e) :=
    .create e flow event keywords trigger rest outset.isNew told brings fires outset.flowId
      outset.currentNodeId (unmarked_of_isOutset outset)
  apply Operation.obeys_mono (createExecution_reads outset.isNew permitted)
  rintro (failure | created) c' after
  · obtain ⟨failure, same⟩ := after
    rw [same]
    exact c.grows_afterCreation e _
  · obtain ⟨rfl, rows, rfl⟩ := after
    exact ⟨rfl, c.grows_afterCreation created _, Set.mem_insert created c.seen, rfl⟩

theorem start_roams (flow : Flow) (event : TriggerEvent) (keywords : List String)
    (told : task.Told c flow) (brings : task.Brings event keywords) :
    (start deployment account flow event keywords).Obeys task.roaming c
      fun _ c' => c.Grows c' := by
  unfold start
  cases fires : event.triggers keywords flow with
  | nil => exact roams_pure
  | cons trigger rest =>
    refine Operation.obeys_bind (Operation.obeys_request _ (spares task c .now trivial) ?_)
    intro now _
    refine Operation.obeys_bind (Operation.obeys_request _ (spares task c .freshId trivial) ?_)
    intro id _
    refine Operation.obeys_bind (Operation.obeys_mono initialExecution_obeys ?_)
    rintro (failure | initial) c' ⟨rfl, new⟩
    · exact .refl c'
    have outset := new initial rfl
    refine Operation.obeys_bind (Operation.obeys_mono
      (createExecution_roams told brings fires outset) ?_)
    rintro (failure | created) c'' after
    · exact after
    obtain ⟨rfl, grows, seen, walks⟩ := after
    have knows : task.Knows c'' flow created.id :=
      ⟨told.mono grows, created, seen, rfl, outset.flowId⟩
    have traverses : (traversing do
        let _ ← Run.attempt (Run.lift (Store.recordTrigger flow now))
        resume deployment account (some flow)).Obeys task.roaming created c''
          fun _ _ c₃ => c''.Grows c₃ := by
      refine obeys_traversing (obeys_bind (obeys_attempt ?_))
      apply obeys_mono (lift_spares (Store.apart_recordTrigger flow now).sparing
        (spares_within task c'' created.id))
      rintro outcome e' c₃ ⟨rfl, rfl⟩
      exact resume_roams deployment account (some flow) rfl walks knows.of_some
        ⟨e', seen, rfl, rfl⟩
    refine obeys_on (obeys_then traverses ?_ ?_)
    · rintro ⟨⟩ e' c₃ later
      exact Run.obeys_bind (obeys_get (Run.obeys_pure (grows.trans later)))
    · exact fun _ _ _ later => grows.trans later

theorem startAll_roams (event : TriggerEvent) (keywords : List String) (flows : List Flow)
    (told : ∀ flow ∈ flows, task.Told c flow) (brings : task.Brings event keywords) :
    (startAll deployment account event keywords flows).Obeys task.roaming c
      fun _ c' => c.Grows c' := by
  induction flows generalizing c with
  | nil => exact roams_pure
  | cons flow flows ih =>
    unfold startAll
    refine grows_after (Operation.obeys_attempt
      (start_roams deployment account flow event keywords (told flow (.head flows)) brings)) ?_
    intro started c' grows
    refine grows_after (ih fun other present => (told other (.tail flow present)).mono grows) ?_
    intro others c'' _
    split
    · exact roams_pure
    · exact roams_pure

theorem trigger_roams (event : TriggerEvent)
    (brings : ∀ keywords, event.keywords = .ok keywords → task.Brings event keywords) :
    (trigger deployment account event).Obeys task.roaming c fun _ c' => c.Grows c' := by
  unfold trigger
  cases told : event.keywords with
  | error value => exact roams_throw
  | ok keywords =>
    apply roams_then (Store.listActiveFlows_roams account.id)
    intro flows c' _ learned
    exact startAll_roams deployment account event keywords flows
      (fun flow present => .inr (learned flow present)) (brings keywords told)

/-- Writing an execution off over a copy, from outside. -/
theorem failOver_roams (reason : String) (seen : v ∈ c.seen) :
    (Run.on v (fail reason)).Obeys task.roaming c fun _ c' => c.Grows c' := by
  have permitted (now : Timestamp) : task.roaming c none
      (.query (Store.saveQuery ((v.failed reason).stamped now)))
      (c.afterSave ((v.failed reason).stamped now) [v.outsetStop]) :=
    permits_write task seen (.of_same_context rfl rfl rfl rfl)
  exact obeys_on (fail_roams (spares task c) permitted)

theorem forceFail_roams (reason : String) (attempts : Nat) (seen : v ∈ c.seen) :
    (forceFail reason attempts v).Obeys task.roaming c fun _ c' => c.Grows c' := by
  induction attempts generalizing c v with
  | zero => exact roams_pure
  | succ attempts ih =>
    unfold forceFail
    by_cases terminal : v.isTerminal = true
    · rw [if_pos terminal]
      exact roams_pure
    · rw [if_neg terminal]
      refine grows_after (Operation.obeys_attempt (failOver_roams reason seen)) ?_
      rintro (failure | _) c' _
      · by_cases conflict : failure.isConflict = true
        · simp only [conflict, if_true]
          apply roams_then (Store.getExecution_roams v.id)
          rintro (_ | reloaded) c'' _ found
          · exact roams_pure
          · exact ih (found reloaded rfl).1
        · simp only [conflict]
          exact roams_throw
      · exact roams_pure

theorem forceFailAll_roams (reason : String) (executions : List Execution)
    (seen : ∀ v ∈ executions, v ∈ c.seen) :
    (forceFailAll reason executions).Obeys task.roaming c fun _ c' => c.Grows c' := by
  induction executions generalizing c with
  | nil => exact roams_pure
  | cons v executions ih =>
    refine grows_after (forceFail_roams reason forceFailAttempts (seen v (.head executions))) ?_
    intro failed c' grows
    refine grows_after (ih fun w present => grows.seen (seen w (.tail v present))) ?_
    intro others c'' _
    exact roams_pure

theorem deleteFlow_roams (flowId : String) :
    (deleteFlow flowId).Obeys task.roaming c fun _ c' => c.Grows c' := by
  unfold deleteFlow
  refine grows_after apart_now.sparing.roams fun now c₁ _ => ?_
  refine roams_then (Store.listOpenExecutions_roams (some flowId) none none)
    fun executions c₂ _ seen => ?_
  refine grows_after (forceFailAll_roams flowDeleted executions seen) fun failed c₃ _ => ?_
  have annul : (Store.failPendingTickets flowId now flowDeleted).Sparing :=
    (sparing_query rfl).bind fun rows => (apart_pure _).sparing
  refine grows_after annul.roams fun _ c₄ _ => ?_
  refine grows_after (Store.apart_deleteFlow flowId).sparing.roams fun _ c₅ _ => ?_
  exact roams_pure

end Run

theorem Inbox.dispatch_roams (deployment : Deployment) (account : Account) (senderId : String)
    (senderUsername : Option String) (message : InboundMessage) (attempts : Nat)
    (isTask : task = .dispatch account senderId senderUsername message attempts) :
    (dispatch deployment account senderId senderUsername message attempts).Obeys task.roaming c
      fun _ c' => c.Grows c' := by
  refine grows_after (route_roams deployment account message senderId attempts)
    fun handled c' _ => ?_
  split
  · refine grows_after (Run.trigger_roams deployment account _ ?_) fun started c'' _ => ?_
    · intro keywords told
      rw [isTask]
      exact .dispatch account senderId senderUsername message attempts _ keywords rfl told
    · exact roams_pure
  · exact roams_pure

namespace Sweep

variable (deployment : Deployment) (account : Account) {ticket : Ticket}

theorem sparing_finish (ticket : Ticket) (status : TicketStatus) (error : Option String) :
    (finish ticket status error).Sparing := by
  refine apart_now.sparing.bind fun now => ?_
  have marks : (Store.finishTicket ticket.id status now error).Sparing :=
    (sparing_query rfl).bind fun _ => (apart_pure _).sparing
  exact Operation.obeys_bind (Operation.obeys_attempt (obeys_mono marks fun _ _ _ =>
    obeys_pure trivial))

theorem sparing_failTicket (ticket : Ticket) (reason : String) :
    (failTicket ticket reason).Sparing :=
  (sparing_finish ticket .failed (some reason)).bind fun _ => (apart_pure false).sparing

theorem failTicket_roams (reason : String) :
    (failTicket ticket reason).Obeys task.roaming c fun _ c' => c.Grows c' :=
  (sparing_failTicket ticket reason).roams

/-- Waking an execution and its traversal. -/
theorem wakeAndResume_roams {flow : Flow} (now : Timestamp) (seen : v ∈ c.seen)
    (knows : task.Knows c flow v.id) :
    (Run.on (wake v ticket now) do
      match ← Run.attempt Store.saveExecution with
      | .ok () =>
        Run.resume deployment account (some flow)
        pure true
      | .error failure => if failure.isConflict then pure false else throw failure).Obeys
        task.roaming c fun _ c' => c.Grows c' := by
  refine Run.obeys_on (Run.obeys_bind (Run.obeys_attempt ?_))
  have keeps : v.Keeps (wake v ticket now) := .of_same_context rfl rfl rfl rfl
  apply Run.obeys_mono (Run.write_roams seen keeps rfl)
  rintro (failure | ⟨⟩) e' c' after
  · obtain rfl := after
    by_cases conflict : failure.isConflict = true
    · simp only [conflict, if_true]
      exact Run.obeys_pure (.refl c')
    · simp only [conflict]
      exact Run.obeys_throw (.refl c')
  · obtain ⟨grows, sameId, saw, walks⟩ := after
    rw [← sameId] at knows
    apply Run.obeys_then (Run.resume_roams deployment account (some flow) rfl walks
      (Task.Knows.of_some (knows.mono grows)) saw)
    · rintro ⟨⟩ e' c' later
      exact Run.obeys_pure (grows.trans later)
    · exact fun _ _ _ later => grows.trans later

theorem resumeExecution_roams (attempts : Nat) (known : Option Flow) (seen : v ∈ c.seen)
    (owner : v.id = ticket.executionId)
    (knows : ∀ flow ∈ known, task.Knows c flow ticket.executionId) :
    (resumeExecution deployment account ticket attempts known v).Obeys task.roaming c
      fun _ c' => c.Grows c' := by
  induction attempts generalizing c v known with
  | zero => exact failTicket_roams _
  | succ attempts ih =>
    unfold resumeExecution
    by_cases parked : isParkedOn v ticket = true
    · rw [if_pos parked]
      have loads : (Store.flowOr known v.flowId).Obeys task.roaming c fun outcome c' =>
          c.Grows c' ∧ ∀ found, outcome = .ok found →
            ∀ flow, found = some flow → task.Knows c' flow ticket.executionId := by
        apply Operation.obeys_mono
          (Store.flowOr_roams (.seek _ _ _) knows ⟨v, seen, rfl, rfl⟩ owner)
        rintro outcome c' ⟨grows, _, found⟩
        refine ⟨grows, ?_⟩
        rintro _ rfl flow rfl
        exact found flow rfl
      apply roams_then loads
      rintro (_ | flow) c₁ grows₁ found
      · exact grows_after (Run.failOver_roams Run.flowNotFound (grows₁.seen seen))
          fun _ _ _ => failTicket_roams _
      · have knows₁ := found flow rfl
        refine grows_after apart_now.sparing.roams fun now c₂ grows₂ => ?_
        refine grows_after (wakeAndResume_roams deployment account now
          (grows₂.seen (grows₁.seen seen)) (owner ▸ knows₁.mono grows₂)) ?_
        rintro (_ | _) c₃ grows₃
        · apply roams_then (Store.getExecution_roams ticket.executionId)
          rintro (_ | reloaded) c₄ grows₄ again
          · exact failTicket_roams _
          · obtain ⟨seenAgain, named⟩ := again reloaded rfl
            exact ih (some flow) seenAgain named
              (Task.Knows.of_some (knows₁.mono (grows₂.trans (grows₃.trans grows₄))))
        · refine grows_after (sparing_finish ticket .completed none).roams fun _ _ _ => ?_
          exact roams_pure
    · rw [if_neg parked]
      exact failTicket_roams _

theorem resume_roams (attempts : Nat) (ticket : Ticket) :
    (resume deployment attempts ticket).Obeys task.roaming c fun _ c' => c.Grows c' := by
  unfold resume
  apply roams_then (Store.getExecution_roams ticket.executionId)
  rintro (_ | v) c₁ _ found
  · exact failTicket_roams _
  · obtain ⟨seen, named⟩ := found v rfl
    refine grows_after (AccountLookup.apart_get ticket.accountId).sparing.roams ?_
    rintro (_ | account) c₂ grows₂
    · exact failTicket_roams _
    · exact resumeExecution_roams deployment account attempts none (grows₂.seen seen) named
        (.of_none task c₂ ticket.executionId)

theorem processOne_roams (attempts : Nat) (ticket : Ticket) :
    (processOne deployment attempts ticket).Obeys task.roaming c fun _ c' => c.Grows c' := by
  have claims : (Store.claimTicket ticket.id).Sparing :=
    (sparing_query rfl).bind fun _ => (apart_pure _).sparing
  have works : (claimAndResume deployment attempts ticket).Obeys task.roaming c
      fun _ c' => c.Grows c' := by
    refine grows_after claims.roams fun granted c' _ => ?_
    cases granted with
    | false => exact roams_pure
    | true => exact resume_roams deployment attempts ticket
  refine grows_after (Operation.obeys_attempt works) ?_
  rintro (failure | completed) c' _
  · exact failTicket_roams _
  · exact roams_pure

theorem processAll_roams (attempts : Nat) (tickets : List Ticket) :
    (processAll deployment attempts tickets).Obeys task.roaming c fun _ c' => c.Grows c' := by
  induction tickets generalizing c with
  | nil => exact roams_pure
  | cons ticket tickets ih =>
    refine grows_after (processOne_roams deployment attempts ticket) fun completed c' _ => ?_
    exact grows_after ih fun others c'' _ => roams_pure

theorem process_roams (attempts : Nat) (at? : Option Timestamp) :
    (process deployment attempts at?).Obeys task.roaming c fun _ c' => c.Grows c' := by
  have due (time : Timestamp) (limit : Int) : (Store.dueTickets time limit).Sparing :=
    (sparing_query rfl).bind fun rows => (apart_mapM apart_parse rows).sparing
  have sweeps (time : Timestamp) {c : Track} : (do
      let tickets ← Store.dueTickets time deployment.batchSize
      processAll deployment attempts tickets).Obeys task.roaming c fun _ c' => c.Grows c' :=
    grows_after (due time _).roams fun tickets c' _ => processAll_roams deployment attempts tickets
  unfold process
  cases at? with
  | some time => exact grows_after roams_pure fun _ _ _ => sweeps _
  | none => exact grows_after apart_now.sparing.roams fun _ _ _ => sweeps _

end Sweep

/-- A task stays on its track. -/
theorem Task.operation_roams (deployment : Deployment) (task : Task) :
    (task.operation deployment).Obeys task.roaming task.departure fun _ _ => True := by
  have reports {α : Type} {operation : Operation α} {report : α → Report}
      (roams : operation.Obeys task.roaming task.departure fun _ c' => task.departure.Grows c') :
      (operation >>= fun a => pure (report a)).Obeys task.roaming task.departure
        fun _ _ => True :=
    obeys_mono (grows_after roams fun _ _ _ => roams_pure) fun _ _ _ => trivial
  cases task with
  | start account flow event keywords =>
    exact reports (Run.start_roams deployment account flow event keywords (.inl rfl)
      (.start account flow event keywords))
  | trigger account event =>
    exact reports (Run.trigger_roams deployment account event (.trigger account event))
  | handle account message attempts execution =>
    exact reports (Run.obeys_on (Inbox.handle_roams deployment account message attempts rfl))
  | route account senderId message attempts =>
    exact reports (Inbox.route_roams deployment account message senderId attempts)
  | dispatch account senderId senderUsername message attempts =>
    exact reports (Inbox.dispatch_roams deployment account senderId senderUsername message attempts
      rfl)
  | sweep attempts at? => exact reports (Sweep.process_roams deployment attempts at?)
  | deleteFlow flowId => exact reports (Run.deleteFlow_roams flowId)

end MessageFlow
