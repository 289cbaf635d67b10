import MessageFlow.Proofs.Delivery.Operations
import MessageFlow.Proofs.Tickets.Rows
import MessageFlow.Proofs.Validation.Upkeep

/-!
The nodes of an accepted flow. When nothing outside fails, a node fails only at a delay that is too
long, or at a context that cannot be written, for which no failure can be recorded.
-/

namespace MessageFlow
open Document

variable {watch : Watch} {owners : Owners}

namespace Deployment.Delivers

variable {deployment : Deployment} {account : Account}

theorem quiet_send (delivers : deployment.Delivers account) (recipient : String)
    (content : MessageContent) : (Gateway.send deployment account recipient content).Quiet := by
  cases given : account.token? with
  | none =>
    rw [Gateway.send_of_no_token given]
    exact Operation.quiet_pure false
  | some token =>
    obtain ⟨address, targets, toHost⟩ := delivers.messages token given
    rw [Gateway.send_of_target given (delivers.header token given) targets]
    exact Gateway.quiet_posted toHost _

theorem quiet_announce (delivers : deployment.Delivers account)
    (hasWebhook : deployment.webhookUrl.isEmpty = false) {notification : Notification}
    (finite : Json.isFinite (.record notification.row) = true) :
    (Notification.announce deployment notification).Quiet := by
  obtain ⟨address, targets, toHost⟩ := delivers.webhook hasWebhook
  rw [Notification.announce_of_target targets finite]
  exact .ask rfl fun _ normal => Delivery.quiet_isAccepted toHost _ normal

end Deployment.Delivers

theorem Notification.isFinite_row {notification : Notification}
    (finite : notification.context.IsFinite) :
    Json.isFinite (.record notification.row) = true := by
  simp [Json.isFinite, row, Json.haveFinite, finite.write]

namespace Operation

variable {α β : Type}

theorem parse_of_valid [DocumentType α] {row : Row} {a : α}
    (reads : DocumentType.read (.record row) = .valid a) : (parse row : Operation α) = pure a := by
  rw [parse, reads]
  rfl

/-- The operation does not fail, and `P` holds. -/
def Succeeds (watch : Watch) (operation : Operation α) (owners : Owners)
    (P : α → Owners → Prop) : Prop :=
  operation.Upholds watch owners fun outcome later => ∃ a, outcome = .ok a ∧ P a later

variable {operation : Operation α} {f : α → Operation β} {P : α → Owners → Prop}

theorem succeeds_pure {a : α} (holds : P a owners) :
    (pure a : Operation α).Succeeds watch owners P := ⟨a, rfl, holds⟩

theorem succeeds_then {Q : β → Owners → Prop} (first : operation.Succeeds watch owners P)
    (next : ∀ a later, owners ⊆ later → P a later → (f a).Succeeds watch later Q) :
    (operation >>= f).Succeeds watch owners Q := by
  apply upholds_then first
  · intro a later grows holds
    obtain ⟨_, same, gained⟩ := holds
    cases same
    exact next a later grows gained
  · intro failure later holds
    obtain ⟨_, same, _⟩ := holds
    cases same

theorem Quiet.succeeds (quiet : operation.Quiet) :
    operation.Succeeds watch owners fun _ _ => True := by
  apply Program.upholds_mono (Program.Mute.upholds quiet)
  intro outcome later _ holds
  obtain ⟨a, same⟩ := holds
  exact ⟨a, same, trivial⟩

theorem Succeeds.upholds {post : Except Failure α → Owners → Prop}
    (succeeds : operation.Succeeds watch owners P)
    (implies : ∀ a later, P a later → post (.ok a) later) :
    operation.Upholds watch owners post := by
  apply upholds_mono succeeds
  intro outcome later _ holds
  obtain ⟨a, rfl, gained⟩ := holds
  exact implies a later gained

theorem succeeds_attempt {P : Except Failure α → Owners → Prop}
    (upholds : operation.Upholds watch owners P) :
    (attempt operation).Succeeds watch owners P := by
  apply Program.upholds_bind
  apply Program.upholds_mono upholds
  intro outcome later _ holds
  exact ⟨outcome, rfl, holds⟩

theorem succeeds_now : now.Succeeds watch owners fun _ _ => True :=
  upholds_now fun time _ _ => ⟨time, rfl, trivial⟩

/-- The new id goes to no execution. -/
theorem succeeds_freshId : freshId.Succeeds watch owners fun _ _ => True :=
  fun _ _ => ⟨"", fun id _ => ⟨id, rfl, trivial⟩⟩

theorem succeeds_query {q : Query} {P : List Row → Owners → Prop}
    (serves : ∀ later tables, owners ⊆ later → watch.Sound later tables →
      watch.Sound later (q.run tables).2 ∧ P (q.run tables).1 later) :
    (query q).Succeeds watch owners P := by
  apply upholds_query
  intro later tables grows sound
  obtain ⟨still, gained⟩ := serves later tables grows sound
  exact ⟨still, _, rfl, gained⟩

end Operation

open Operation

/-- A known lead is found, or none. -/
theorem getLead_succeeds (accountId senderId : String) :
    (getLead accountId senderId).Succeeds watch owners fun _ _ => True := by
  unfold getLead
  apply succeeds_then (P := fun rows _ =>
    ∀ row ∈ rows, ∃ lead, Lead.read (.record row) = .valid lead)
  · apply succeeds_query
    intro later tables _ sound
    refine ⟨sound, ?_⟩
    intro row found
    exact sound.leads row (Query.mem_of_mem_select found)
  · intro rows later _ read
    cases rows with
    | nil => exact succeeds_pure trivial
    | cons row rows =>
      obtain ⟨lead, reads⟩ := read row (.head rows)
      simp only [parse_of_valid (α := Lead) reads]
      exact succeeds_pure trivial

theorem upsertLead_succeeds (report : LeadReport) :
    (upsertLead report).Succeeds watch owners fun _ _ => True := by
  unfold upsertLead
  apply succeeds_then succeeds_now
  intro now later _ _
  apply succeeds_then (getLead_succeeds _ _)
  intro known later _ _
  cases known with
  | some lead =>
    have columns : ∀ entry ∈ ("updated_at", Json.text now.columnText) :: report.news,
        Lead.Column entry := by
      intro entry present
      rcases List.mem_cons.mp present with rfl | new
      · exact .time "updated_at" now (by decide)
      · exact LeadReport.column_of_news entry new
    apply succeeds_then (P := fun rows _ =>
      ∀ row ∈ rows, ∃ lead, Lead.read (.record row) = .valid lead)
    · apply succeeds_query
      intro later tables _ sound
      refine ⟨sound.updateLeads _ columns, ?_⟩
      intro updated found
      obtain ⟨row, selected, rfl⟩ := List.mem_map.mp found
      obtain ⟨lead, reads⟩ := sound.leads row (List.mem_filter.mp selected).1
      exact Lead.exists_read_update reads columns
    · intro rows later _ read
      cases rows with
      | nil => exact succeeds_pure trivial
      | cons row rows =>
        obtain ⟨lead, reads⟩ := read row (.head rows)
        simp only [parse_of_valid (α := Lead) reads]
        exact succeeds_pure trivial
  | none =>
    obtain ⟨lead, creates⟩ := LeadReport.exists_read_creation report now
    apply succeeds_then (P := fun rows _ =>
      ∃ row lead, rows = [row] ∧ Lead.read (.record row) = .valid lead)
    · apply succeeds_query
      intro later tables _ sound
      obtain ⟨stored, reads⟩ := Lead.exists_read_insert creates (tables.get .leads) .leads
      exact ⟨sound.insertLead creates, _, stored, rfl, reads⟩
    · intro rows later _ stored
      obtain ⟨row, lead, rfl, reads⟩ := stored
      simp only [parse_of_valid (α := Lead) reads]
      exact succeeds_pure trivial

/-- A new ticket is stored, and read back from its row. -/
theorem Store.createTicket_succeeds {ticket : Ticket} (isNew : ticket.IsNew) :
    (createTicket ticket).Succeeds watch owners fun _ _ => True := by
  have writable : DocumentType.isWritable ticket = true := by
    change (ticket.extras.map (·.2)).all _ = true
    rw [isNew.extras]
    rfl
  have kept : Kept .columns Ticket.names ticket.extras :=
    isNew.extras ▸ kept_nil .columns Ticket.names
  have reads : DocumentType.read (.record ticket.row) = .valid ticket := Ticket.read_write kept
  unfold createTicket ensureWritable
  rw [if_pos writable, pure_bind]
  apply succeeds_then (P := fun rows _ => rows = [ticket.row])
  · apply succeeds_query
    intro later tables _ sound
    exact ⟨sound.aside (.inl rfl), (Query.run_insert isNew.get_id).1⟩
  · intro rows later _ stored
    rw [stored]
    simp only [parse_of_valid (α := Ticket) reads]
    exact succeeds_pure trivial

theorem isWritable_of_context {e : Execution} (writable : DocumentType.isWritable e = true) :
    DocumentType.isWritable e.context = true := by
  change (e.context.extras.map (·.2)).all _ = true
  change ((e.context.extras ++ e.extras).map (·.2)).all _ = true at writable
  rw [List.map_append, List.all_append, Bool.and_eq_true] at writable
  exact writable.1

/-- Only a notification whose context cannot be written is not sent. -/
theorem Notification.send_upholds {account : Account}
    (delivers : watch.deployment.Delivers account) {e : Execution} (finite : e.context.IsFinite)
    (recipient : Option String) (type : NotificationType) :
    (send watch.deployment e recipient type).Upholds watch owners fun outcome _ =>
      ∀ failure, outcome = .error failure →
        failure.isConflict = false ∧ DocumentType.isWritable e = false := by
  have tells (notification : Notification) (later : Owners)
      (ofContext : notification.context.IsFinite) :
      (if watch.deployment.webhookUrl.isEmpty then pure notification
        else do
          let delivered ← announce watch.deployment notification
          pure { notification with delivered } :
        Operation Notification).Succeeds watch later fun _ _ => True := by
    cases hasNone : watch.deployment.webhookUrl.isEmpty with
    | true => exact succeeds_pure trivial
    | false =>
      have quiet := delivers.quiet_announce hasNone (isFinite_row ofContext)
      exact succeeds_then quiet.succeeds fun _ _ _ _ => succeeds_pure trivial
  unfold send
  apply upholds_then (M := fun outcome _ => ∀ failure, outcome = .error failure →
    failure.isConflict = false ∧ DocumentType.isWritable e = false)
  · unfold ensureWritable
    split
    · exact upholds_pure nofun
    · next unwritable =>
      apply upholds_throw
      intro failure same
      cases same
      refine ⟨rfl, ?_⟩
      cases writable : DocumentType.isWritable e with
      | false => rfl
      | true => exact absurd (isWritable_of_context writable) unwritable
  · intro _ later _ _
    apply Succeeds.upholds (P := fun _ _ => True) _ fun _ _ _ => nofun
    apply succeeds_then succeeds_now
    intro now later _ _
    simp only
    cases watch.deployment.keepsNotifications with
    | false => exact tells _ later finite
    | true =>
      apply succeeds_then (P := fun _ _ => True)
      · apply succeeds_attempt
        exact upholds_query fun later tables _ sound => ⟨sound.aside (.inr rfl), trivial⟩
      · intro _ later _ _
        exact tells _ later finite
  · intro failure later fails thrown same
    cases same
    exact fails failure rfl

namespace Execution

variable {v e : Execution} {flowId : String}

/-- An execution object of that flow, proper and not failed. -/
structure GoesOn (owners : Owners) (flowId : String) (e : Execution) : Prop where
  proper : e.Proper owners
  flowId : e.flowId = flowId
  unfailed : e.status ≠ .failed

theorem GoesOn.mono {later : Owners} (goesOn : e.GoesOn owners flowId) (grows : owners ⊆ later) :
    e.GoesOn later flowId := ⟨goesOn.proper.mono grows, goesOn.flowId, goesOn.unfailed⟩

theorem GoesOn.withContext {context : Context} (goesOn : e.GoesOn owners flowId)
    (finite : context.IsFinite) : GoesOn owners flowId { e with context } :=
  ⟨goesOn.proper.of_same rfl rfl rfl finite, goesOn.flowId, goesOn.unfailed⟩

end Execution

theorem Context.IsFinite.addTag {context : Context} (finite : context.IsFinite)
    (tag : Option String) : (context.addTag tag).IsFinite := by
  unfold Context.addTag
  split
  · split
    · exact finite
    · exact finite
  · exact finite

theorem Context.IsFinite.removeTag {context : Context} (finite : context.IsFinite)
    (tag : Option String) : (context.removeTag tag).IsFinite := by
  unfold Context.removeTag
  split
  · exact finite
  · exact finite

namespace Run

variable {α β : Type} {e : Execution} {flowId : String} {account : Account}

/-- The failure has an excuse, if the execution is watched and can be written. -/
def Excused (watch : Watch) (e : Execution) (failure : Failure) : Prop :=
  failure.isConflict = false ∧ (DocumentType.isWritable e = true → e.flowId = watch.flow.id →
    watch.flow.Excuses e.currentNodeId (some failure.record))

/-- The execution goes on, or a failure with an excuse has left it as it was. -/
def Settles (watch : Watch) (e : Execution) : Except Failure α → Execution → Owners → Prop
  | .ok _, e', later => e'.GoesOn later e.flowId
  | .error failure, e', _ => e' = e ∧ Excused watch e failure

/-- A run that settles, and a rest that settles where it goes on. -/
theorem settles_then {run : Run α} {f : α → Run β}
    (first : run.Upholds watch e owners (Settles watch e))
    (next : ∀ a e' later, e'.GoesOn later e.flowId →
      (f a).Upholds watch e' later (Settles watch e)) :
    (run >>= f).Upholds watch e owners (Settles watch e) := by
  apply upholds_then first
  · intro a e' later _ goesOn
    exact next a e' later goesOn
  · intro failure e' later _ excused
    exact excused

theorem get_then {f : Execution → Run β} {post : Except Failure β → Execution → Owners → Prop}
    (rest : (f e).Upholds watch e owners post) : (get >>= f).Upholds watch e owners post := rest

theorem set_then {e' : Execution} {f : PUnit → Run β}
    {post : Except Failure β → Execution → Owners → Prop}
    (rest : (f ⟨⟩).Upholds watch e' owners post) :
    (set e' >>= f).Upholds watch e owners post := rest

theorem modify_then {change : Execution → Execution} {f : PUnit → Run β}
    {post : Except Failure β → Execution → Owners → Prop}
    (rest : (f ⟨⟩).Upholds watch (change e) owners post) :
    (modify change >>= f).Upholds watch e owners post := rest

theorem quiet_then {run : Run α} {f : α → Run β}
    {post : Except Failure β → Execution → Owners → Prop}
    (quiet : run.Quiet)
    (next : ∀ a later, owners ⊆ later → (f a).Upholds watch e later post) :
    (run >>= f).Upholds watch e owners post := by
  apply upholds_then (M := fun outcome e' _ => ∃ a, outcome = .ok a ∧ e' = e)
  · apply Program.upholds_mono (Program.Mute.upholds (quiet e))
    intro _ later _ holds
    obtain ⟨a, rfl⟩ := holds
    exact ⟨a, rfl, rfl⟩
  · intro a e' later grows holds
    obtain ⟨_, same, rfl⟩ := holds
    cases same
    exact next a later grows
  · intro failure e' later _ holds
    obtain ⟨_, same, _⟩ := holds
    cases same

/-- An operation that does not fail, and the rest of a run. -/
theorem succeeds_then {operation : Operation α} {f : α → Run β} {P : α → Owners → Prop}
    {post : Except Failure β → Execution → Owners → Prop}
    (succeeds : operation.Succeeds watch owners P)
    (next : ∀ a later, owners ⊆ later → P a later → (f a).Upholds watch e later post) :
    (lift operation >>= f).Upholds watch e owners post := by
  apply upholds_then (M := fun outcome e' later => ∃ a, outcome = .ok a ∧ e' = e ∧ P a later)
  · apply upholds_lift
    apply succeeds.upholds
    intro a later gained
    exact ⟨a, rfl, rfl, gained⟩
  · intro a e' later grows holds
    obtain ⟨_, same, rfl, gained⟩ := holds
    cases same
    exact next a later grows gained
  · intro failure e' later _ holds
    obtain ⟨_, same, _⟩ := holds
    cases same

theorem quiet_sendPrompt (delivers : watch.deployment.Delivers account) (text : String) :
    (sendPrompt watch.deployment account text).Quiet :=
  quiet_get.bind fun _ => (quiet_lift (delivers.quiet_send _ _)).bind fun _ => quiet_pure ()

theorem performAction_settles (delivers : watch.deployment.Delivers account) (data : NodeData)
    (goesOn : e.GoesOn owners e.flowId) :
    (performAction watch.deployment account data).Upholds watch e owners (Settles watch e) := by
  have finite := goesOn.proper.finite
  unfold performAction
  cases data.actionKind? with
  | none => exact upholds_pure goesOn
  | some kind =>
    cases kind with
    | collectEmail | collectPhone =>
      apply quiet_then (quiet_sendPrompt delivers _)
      intro _ later grows
      exact upholds_modify ((goesOn.mono grows).withContext (finite.setFlag _ _))
    | addTag => exact upholds_modify (goesOn.withContext (finite.addTag _))
    | removeTag => exact upholds_modify (goesOn.withContext (finite.removeTag _))
    | subscribe | unsubscribe =>
      exact upholds_modify (goesOn.withContext (finite.setFlag _ _))
    | createLead =>
      apply get_then
      apply succeeds_then (upsertLead_succeeds _)
      intro _ later grows _
      exact upholds_pure (goesOn.mono grows)
    | notify =>
      apply get_then
      apply settles_then
      · apply upholds_lift
        apply Operation.upholds_mono (Notification.send_upholds delivers finite _ _)
        intro outcome later grows holds
        cases outcome with
        | ok _ => exact goesOn.mono grows
        | error failure =>
          obtain ⟨noConflict, unwritable⟩ := holds failure rfl
          refine ⟨rfl, noConflict, ?_⟩
          intro writable
          rw [unwritable] at writable
          cases writable
      · intro _ e' later still
        exact upholds_pure still

end Run

namespace AcceptedFlow

variable {flow : AcceptedFlow} {node : Node}

theorem isPositive (isNode : node ∈ flow.nodes) (delays : node.kind? = some .delay) :
    node.data.value.isPositiveNumber = true := by
  have none := flow.accepted
  unfold flowProblems at none
  have contents : flow.nodes.flatMap Node.contentProblems = [] := (List.append_eq_nil_iff.mp none).2
  have fine := List.flatMap_eq_nil_iff.mp contents node isNode
  rw [Node.contentProblems, delays] at fine
  by_contra notPositive
  simp [notPositive] at fine

/-- A delay of an accepted flow fails only if it is too long. -/
theorem excuses_delay (isNode : node ∈ flow.nodes) (delays : node.kind? = some .delay)
    {now : Timestamp} {error : DelayError}
    (fails : Delay.ending now node.data.value node.data.delayType = .error error) :
    flow.Excuses node.id (some (Failure.delay error).record) := by
  refine .tooLong node now error isNode rfl delays ?_ fails
  by_contra fits
  obtain ⟨_, t, _, ends, _⟩ := Delay.ending_of_isPositive now (isPositive isNode delays) fits
  rw [ends] at fails
  cases fails

end AcceptedFlow

namespace Run

variable {α β : Type} {e : Execution} {account : Account}

theorem startDelay_settles (account : Account) (flow : Flow) {node : Node}
    (delays : node.kind? = some .delay)
    (isHere : e.currentNodeId = node.id)
    (isNode : e.flowId = watch.flow.id → node ∈ watch.flow.nodes)
    (goesOn : e.GoesOn owners e.flowId) :
    (startDelay account flow node).Upholds watch e owners (Settles watch e) := by
  have excused {error : DelayError} {now : Timestamp}
      (fails : Delay.ending now node.data.value node.data.delayType = .error error) :
      Excused watch e (.delay error) := by
    refine ⟨rfl, fun _ watched => ?_⟩
    rw [isHere]
    exact AcceptedFlow.excuses_delay (isNode watched) delays fails
  unfold startDelay
  cases converts : Delay.milliseconds node.data.value (.ofText? node.data.delayType) with
  | error error =>
    have fails : Delay.ending default node.data.value node.data.delayType = .error error := by
      rw [Delay.ending, converts]
      rfl
    exact upholds_throw ⟨rfl, excused fails⟩
  | ok amount =>
    change (lift Operation.now >>= _).Upholds watch e owners (Settles watch e)
    apply succeeds_then succeeds_now
    intro now later grows _
    cases schedules : Delay.wakeTime now amount with
    | error error =>
      have fails : Delay.ending now node.data.value node.data.delayType = .error error := by
        rw [Delay.ending, converts]
        exact schedules
      exact upholds_throw ⟨rfl, excused fails⟩
    | ok executeAt =>
      change (lift Operation.freshId >>= _).Upholds watch e later (Settles watch e)
      apply succeeds_then succeeds_freshId
      intro id last more _
      apply get_then
      apply succeeds_then (Store.createTicket_succeeds ⟨rfl, rfl⟩)
      intro _ final most _
      have still := goesOn.mono (List.Subset.trans grows (List.Subset.trans more most))
      exact upholds_modify ⟨still.proper.of_same rfl rfl rfl still.proper.finite, still.flowId,
        by simp⟩

theorem handleNode_settles (delivers : watch.deployment.Delivers account) (flow : Flow)
    {node : Node}
    (isHere : e.currentNodeId = node.id)
    (isNode : e.flowId = watch.flow.id → node ∈ watch.flow.nodes)
    (goesOn : e.GoesOn owners e.flowId) :
    (handleNode watch.deployment account flow node).Upholds watch e owners (Settles watch e) := by
  unfold handleNode
  split
  · apply quiet_then (quiet_sendMessage delivers.quiet_send node)
    intro _ later grows
    exact upholds_pure (goesOn.mono grows)
  · apply get_then
    exact upholds_pure goesOn
  · next delays =>
    apply settles_then (startDelay_settles account flow delays isHere isNode goesOn)
    intro _ e' later still
    exact upholds_pure still
  · apply settles_then (performAction_settles delivers node.data goesOn)
    intro _ e' later still
    split
    · apply modify_then
      apply upholds_pure
      exact ⟨still.proper.of_same rfl rfl rfl still.proper.finite, still.flowId, nofun⟩
    · exact upholds_pure still
  · exact upholds_pure goesOn
  · exact upholds_pure goesOn

end Run

end MessageFlow
