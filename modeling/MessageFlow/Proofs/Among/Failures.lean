import MessageFlow.Proofs.Among.Run
import MessageFlow.Proofs.Manner

/-!
Where the store refuses nothing, a node fails of itself: neither with a conflict nor in words of the
store. So what is recorded of it is never mistaken for the step limit.
-/

namespace MessageFlow

variable {α β : Type}

namespace Operation

/-- Where the store refuses nothing, every failure is the operation's own. -/
def FailsItself (operation : Operation α) : Prop :=
  ∀ tables, operation.Among tables fun outcome _ _ =>
    ∀ failure, outcome = .error failure → failure.isOwn = true

theorem failsItself_pure (a : α) : (pure a : Operation α).FailsItself :=
  fun _ => among_pure nofun

theorem failsItself_throw {failure : Failure} (own : failure.isOwn = true) :
    (throw failure : Operation α).FailsItself := by
  refine fun _ => among_throw fun _ same => ?_
  cases same
  exact own

theorem FailsItself.bind {operation : Operation α} {f : α → Operation β}
    (first : operation.FailsItself) (rest : ∀ a, (f a).FailsItself) :
    (operation >>= f).FailsItself := by
  intro tables
  refine among_bind (among_mono (first tables) ?_)
  rintro (failure | a) mid _ own
  · intro _ same
    cases same
    exact own failure rfl
  · exact rest a mid

theorem FailsItself.map {f : α → β} {operation : Operation α} (first : operation.FailsItself) :
    (f <$> operation).FailsItself := by
  rw [← bind_pure_comp]
  exact first.bind fun a => failsItself_pure (f a)

theorem FailsItself.attempt {operation : Operation α} (first : operation.FailsItself) :
    (attempt operation).FailsItself :=
  fun tables => among_attempt (among_mono (first tables) fun _ _ _ _ => nofun)

theorem failsItself_query (q : Query) : (query q).FailsItself :=
  fun _ => among_query fun _ _ _ => nofun

theorem failsItself_request (request : Request) (noQuery : ∀ q, request ≠ .query q) :
    FailsItself (ExceptT.lift (Program.request request)) :=
  fun _ => Program.among_bind (Program.among_request noQuery fun _ => Program.among_done nofun)

theorem failsItself_of_plain {operation : Operation α} (plain : operation.Plain) :
    operation.FailsItself := by
  cases plain with
  | pure a => exact failsItself_pure a
  | throw failure own => exact failsItself_throw own

theorem failsItself_parse [DocumentType α] (row : Row) : (parse row : Operation α).FailsItself :=
  failsItself_of_plain (plain_parse row)

end Operation

open Operation

theorem Gateway.failsItself_send (deployment : Deployment) (account : Account) (recipient : String)
    (content : MessageContent) : (send deployment account recipient content).FailsItself := by
  unfold send
  split
  · exact failsItself_pure _
  · exact (failsItself_of_plain (Delivery.plain_address _)).bind fun address =>
      (failsItself_of_plain (Delivery.plain_header _)).bind fun authorization =>
        (failsItself_request (.post ⟨address.text, authorization, recipient, content⟩) nofun).bind
          fun outcome => failsItself_of_plain (Delivery.plain_isAccepted address _ outcome)

theorem Assistant.failsItself_reply (deployment : Deployment) (prompt : String) (turns : List Turn)
    (maxTokens : Int) : (reply deployment prompt turns maxTokens).FailsItself := by
  unfold reply
  split
  · exact (failsItself_request (.complete _) nofun).bind fun _ => failsItself_pure _
  · exact failsItself_pure _

theorem Notification.failsItself_send (deployment : Deployment) (execution : Execution)
    (recipient : Option String) (type : NotificationType) :
    (send deployment execution recipient type).FailsItself := by
  have announces (notification : Notification) : (announce deployment notification).FailsItself :=
    (failsItself_of_plain (Delivery.plain_address _)).bind fun address =>
      (failsItself_of_plain (Delivery.plain_body _)).bind fun body =>
        (failsItself_request (.announce ⟨address.text, body⟩) nofun).bind fun outcome =>
          failsItself_of_plain (Delivery.plain_isAccepted address _ outcome)
  have told (notification : Notification) :
      (if deployment.webhookUrl.isEmpty then pure notification
        else do
          let delivered ← announce deployment notification
          pure { notification with delivered } : Operation Notification).FailsItself := by
    split
    · exact failsItself_pure _
    · exact (announces _).bind fun _ => failsItself_pure _
  refine (failsItself_of_plain (plain_ensureWritable _)).bind fun _ =>
    (failsItself_request .now nofun).bind fun now => ?_
  by_cases keeps : deployment.keepsNotifications = true
  · simp only [keeps, if_true]
    exact (failsItself_query _).attempt.bind fun _ => told _
  · simp only [keeps]
    exact told _

theorem failsItself_upsertLead (report : LeadReport) : (upsertLead report).FailsItself := by
  have found : (getLead report.accountId report.instagramUserId).FailsItself := by
    refine (failsItself_query _).bind fun rows => ?_
    split
    · exact failsItself_pure _
    · exact (failsItself_parse _).map
  unfold upsertLead
  refine (failsItself_request .now nofun).bind fun now => found.bind fun lead? => ?_
  split
  · refine (failsItself_query _).bind fun rows => ?_
    split
    · exact failsItself_pure _
    · exact failsItself_parse _
  · refine (failsItself_query _).bind fun rows => ?_
    split
    · exact failsItself_parse _
    · exact failsItself_parse _

theorem Store.failsItself_createTicket (ticket : Ticket) : (createTicket ticket).FailsItself := by
  refine (failsItself_of_plain (plain_ensureWritable ticket)).bind fun _ =>
    (failsItself_query _).bind fun rows => ?_
  split
  · exact failsItself_pure _
  · exact failsItself_parse _

namespace Run

/-- Where the store refuses nothing, every failure is the run's own. -/
def FailsItself (run : Run α) : Prop :=
  ∀ e tables, run.Among e tables fun outcome _ _ _ =>
    ∀ failure, outcome = .error failure → failure.isOwn = true

theorem failsItself_pure (a : α) : (pure a : Run α).FailsItself :=
  fun _ _ => among_pure nofun

theorem failsItself_get : (get : Run Execution).FailsItself := fun _ _ => among_get nofun

theorem failsItself_modify (change : Execution → Execution) :
    (modify change : Run PUnit).FailsItself := fun _ _ => among_modify nofun

theorem FailsItself.bind {run : Run α} {f : α → Run β} (first : run.FailsItself)
    (rest : ∀ a, (f a).FailsItself) : (run >>= f).FailsItself := by
  intro e tables
  refine among_bind (among_mono (first e tables) ?_)
  rintro (failure | a) e' mid _ own
  · intro _ same
    cases same
    exact own failure rfl
  · exact rest a e' mid

theorem failsItself_lift {operation : Operation α} (itself : operation.FailsItself) :
    (lift operation).FailsItself :=
  fun _ tables => among_lift (itself tables)

theorem failsItself_ofDelay (result : Except DelayError α) : (ofDelay result).FailsItself := by
  cases result with
  | ok value => exact failsItself_pure value
  | error error =>
    refine fun _ _ => among_throw fun _ same => ?_
    cases same
    rfl

variable (deployment : Deployment) (account : Account) (flow : Flow)

theorem failsItself_sendMessage (node : Node) :
    (sendMessage deployment account node).FailsItself := by
  have text : (messageText deployment account node).FailsItself := by
    refine failsItself_get.bind fun execution => ?_
    split
    · exact failsItself_lift (Assistant.failsItself_reply _ _ _ _)
    · exact failsItself_pure _
  have sends (recipient : String) (content : MessageContent) :
      (do let _ ← lift (Gateway.send deployment account recipient content) :
        Run PUnit).FailsItself :=
    (failsItself_lift (Gateway.failsItself_send _ _ _ _)).bind fun _ => failsItself_pure _
  unfold sendMessage
  refine text.bind fun text => failsItself_get.bind fun execution => ?_
  dsimp only
  split
  · refine (failsItself_lift (Gateway.failsItself_send _ _ _ _)).bind fun _ => ?_
    split
    · exact sends _ _
    · exact failsItself_pure _
  · split
    · split
      · exact sends _ _
      · exact sends _ _
    · exact failsItself_pure _

theorem failsItself_performAction (data : NodeData) :
    (performAction deployment account data).FailsItself := by
  have prompts (text : String) : (sendPrompt deployment account text).FailsItself :=
    failsItself_get.bind fun _ =>
      (failsItself_lift (Gateway.failsItself_send _ _ _ _)).bind fun _ => failsItself_pure _
  unfold performAction
  split
  · exact (prompts _).bind fun _ => failsItself_modify _
  · exact (prompts _).bind fun _ => failsItself_modify _
  · exact failsItself_modify _
  · exact failsItself_modify _
  · exact failsItself_modify _
  · exact failsItself_modify _
  · exact failsItself_get.bind fun _ =>
      (failsItself_lift (failsItself_upsertLead _)).bind fun _ => failsItself_pure _
  · exact failsItself_get.bind fun _ =>
      (failsItself_lift (Notification.failsItself_send _ _ _ _)).bind fun _ => failsItself_pure _
  · exact failsItself_pure _

theorem failsItself_startDelay (node : Node) : (startDelay account flow node).FailsItself :=
  (failsItself_ofDelay _).bind fun _ =>
    (failsItself_lift (failsItself_request .now nofun)).bind fun _ =>
      (failsItself_ofDelay _).bind fun _ =>
        (failsItself_lift (failsItself_request .freshId nofun)).bind fun _ =>
          failsItself_get.bind fun _ =>
            (failsItself_lift (Store.failsItself_createTicket _)).bind fun _ => failsItself_modify _

/-- A node fails of itself. -/
theorem failsItself_handleNode (node : Node) :
    (handleNode deployment account flow node).FailsItself := by
  unfold handleNode
  split
  · exact (failsItself_sendMessage deployment account node).bind fun _ => failsItself_pure _
  · exact failsItself_get.bind fun _ => failsItself_pure _
  · exact (failsItself_startDelay account flow node).bind fun _ => failsItself_pure _
  · refine (failsItself_performAction deployment account node.data).bind fun _ => ?_
    split
    · exact (failsItself_modify _).bind fun _ => failsItself_pure _
    · exact failsItself_pure _
  · exact failsItself_pure _
  · exact failsItself_pure _

end Run

/-- A text that begins in another way than the step limit. -/
theorem ne_stepLimitError {beginning rest : String}
    (other : beginning.toList.isPrefixOf Run.stepLimitError.toList = false) :
    beginning ++ rest ≠ Run.stepLimitError := by
  intro same
  rw [← same, String.toList_append] at other
  have begins := List.isPrefixOf_iff_prefix.mpr
    (List.prefix_append beginning.toList rest.toList)
  exact Bool.false_ne_true (other.symm.trans begins)

/-- A report begins with a digit. -/
theorem report_ne_stepLimitError (title : String) (issues : List Issue) :
    report title issues ≠ Run.stepLimitError := by
  have digits : ∃ c rest, (toString issues.length).toList = c :: rest ∧ c.isDigit = true := by
    have isText : (toString issues.length).toList = Nat.toDigits 10 issues.length :=
      Nat.toList_repr
    rw [isText]
    cases isDigits : Nat.toDigits 10 issues.length with
    | nil => exact absurd isDigits Nat.toDigits_ne_nil
    | cons c rest =>
      have present : c ∈ Nat.toDigits 10 issues.length := isDigits ▸ List.mem_cons_self
      exact ⟨c, rest, rfl, Nat.isDigit_of_mem_toDigits (by decide) (by decide) present⟩
  have joined (first : String) (others : List String) :
      ∃ more : String, "\n".intercalate (first :: others) = first ++ more := by
    cases others with
    | nil => exact ⟨"", by simp⟩
    | cons next others =>
      refine ⟨"\n" ++ "\n".intercalate (next :: others), ?_⟩
      rw [String.intercalate_cons_of_ne_nil (by simp), String.append_assoc]
  intro same
  obtain ⟨c, rest, isText, isDigit⟩ := digits
  obtain ⟨more, isJoined⟩ := joined _ (issues.map Issue.text)
  have heads := congrArg (fun text : String => text.toList.head?) same
  simp only [report] at heads
  rw [isJoined] at heads
  simp only [String.toList_append, isText] at heads
  cases heads
  cases isDigit

theorem DelayError.message_ne_stepLimitError (error : DelayError) :
    error.message ≠ Run.stepLimitError := by
  unfold message
  cases error with
  | notNumeral excerpt => exact ne_stepLimitError (by decide)
  | tooManyDigits count =>
    dsimp only
    rw [String.append_assoc]
    exact ne_stepLimitError (by decide)
  | unusableUnit kind =>
    dsimp only
    rw [String.append_assoc]
    exact ne_stepLimitError (by decide)
  | tooManyDays days =>
    dsimp only
    rw [String.append_assoc]
    exact ne_stepLimitError (by decide)
  | missingAmount | recordAmount | listAmount | infiniteAmount | undefinedAmount | tooLarge
  | outOfCalendar => decide

theorem AddressError.message_ne_stepLimitError (error : AddressError) :
    error.message ≠ Run.stepLimitError := by
  unfold message
  cases error with
  | partTooLong part =>
    dsimp only
    rw [String.append_assoc]
    exact ne_stepLimitError (by decide)
  | control c position =>
    dsimp only
    rw [String.append_assoc, String.append_assoc, String.append_assoc]
    exact ne_stepLimitError (by decide)
  | port text => exact ne_stepLimitError (by decide)
  | host error written =>
    cases error with
    | octets => exact ne_stepLimitError (by decide)
    | groups => exact ne_stepLimitError (by decide)
    | name => exact ne_stepLimitError (by decide)
  | tooLong | pathWithoutSlash | pathWithTwoSlashes | pathWithColon => decide

namespace Failure

theorem message_ne_stepLimitError {failure : Failure} (own : failure.isOwn = true) :
    failure.message ≠ Run.stepLimitError := by
  unfold message
  cases failure with
  | store message => cases own
  | conflict id revision => cases own
  | invalidDocument title issues => exact report_ne_stepLimitError title issues
  | delay error => exact error.message_ne_stepLimitError
  | address error => exact error.message_ne_stepLimitError
  | unknownScheme written => exact ne_stepLimitError (by decide)
  | foreignHeader value =>
    dsimp only
    rw [String.append_assoc]
    exact ne_stepLimitError (by decide)
  | wordsOf value =>
    dsimp only
    rw [String.append_assoc]
    exact ne_stepLimitError (by decide)
  | storeNotConfigured | transportCrashed | nestedTooDeep | numberWithoutText => decide

/-- What is recorded of a failure is the step limit only where the store says so. -/
theorem record_ne_stepLimitError {failure : Failure} (own : failure.isOwn = true) :
    failure.record ≠ Run.stepLimitError := by
  have names : failure.kind ≠ Run.stepLimitError := by
    unfold kind
    split
    all_goals try split
    all_goals decide
  unfold record
  split
  · exact names
  · exact message_ne_stepLimitError own

end Failure
end MessageFlow
