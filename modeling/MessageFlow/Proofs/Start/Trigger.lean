import MessageFlow.Proofs.Alone.Store
import MessageFlow.Proofs.Errand.Frame

/-!
The start of flows for an event, and how it is counted: the row of a flow that starts is written,
and of the flow only the counter and the time of the last start are others.
-/

namespace MessageFlow

section count
open Document Operation Store

/-- No field is given under the key of an authored document, where that is not its column. -/
def Row.IsSnakeCase (names : List FieldName) (row : Row) : Prop :=
  ∀ name ∈ names, name.key ≠ name.column → Entries.get? row name.key = none

namespace Document

variable {names : List FieldName} {doc changes : Row}

/-- Members that are filtered out may be changed. -/
theorem filter_update {keeps : String → Bool} (dropped : ∀ key ∈ changes.map Prod.fst,
    keeps key = false) : (Entries.update doc changes).filter (fun entry => keeps entry.1) =
      doc.filter fun entry => keeps entry.1 := by
  have one {key : String} (drops : keeps key = false) (doc : Row) (value : Json) :
      (Entries.set doc key value).filter (fun entry => keeps entry.1) =
        doc.filter fun entry => keeps entry.1 := by
    induction doc with
    | nil => simp [Entries.set, drops]
    | cons entry rest ih =>
      obtain ⟨other, before⟩ := entry
      by_cases same : other = key
      · subst same
        simp [Entries.set, drops]
      · simp only [Entries.set, if_neg same, List.filter_cons, ih]
  induction changes generalizing doc with
  | nil => rfl
  | cons change changes ih =>
    obtain ⟨first, others⟩ := List.forall_mem_cons.mp dropped
    exact (ih others).trans (one first doc change.2)

/-- A change of fields leaves the extras alone. -/
theorem extras_update (keys : ∀ name ∈ names, name.key ∉ changes.map Prod.fst)
    (taken : ∀ key ∈ changes.map Prod.fst, names.any (·.takes doc key) = true) :
    extras names (Entries.update doc changes) = extras names doc := by
  have same : (fun entry : String × Json =>
      !names.any fun name => name.takes (Entries.update doc changes) entry.1) =
        fun entry => !names.any fun name => name.takes doc entry.1 := by
    funext entry
    congr 1
    rw [Bool.eq_iff_iff, List.any_eq_true, List.any_eq_true]
    refine exists_congr fun name => and_congr_right fun present => ?_
    rw [FieldName.takes, FieldName.takes, Entries.get?_update_of_absent (keys name present)]
  unfold extras
  rw [same]
  have drops : ∀ key ∈ changes.map Prod.fst, (!names.any (·.takes doc key)) = false := by
    intro key changed
    rw [taken key changed]
    rfl
  exact filter_update drops

end Document

namespace Flow

theorem extras_count {row : Row} (snake : row.IsSnakeCase names) (count : Int) (time : Timestamp) :
    Document.extras names (Entries.update row (countColumns count time)) =
      Document.extras names row := by
  have keys : ∀ name ∈ names, name.key ∉ ["trigger_count", "last_triggered_at"] := by decide
  refine extras_update keys fun key changed => ?_
  have taken (name : FieldName) (present : name ∈ names) (other : name.key ≠ name.column) :
      names.any (·.takes row name.column) = true := by
    refine List.any_eq_true.mpr ⟨name, present, ?_⟩
    rw [FieldName.takes, snake name present other]
    simp
  simp only [countColumns, List.map_cons, List.map_nil, List.mem_cons, List.not_mem_nil,
    or_false] at changed
  rcases changed with rfl | rfl
  · exact taken Field.triggerCount (by decide) (by decide)
  · exact taken Field.lastTriggeredAt (by decide) (by decide)

/-- Of a flow in a row with no other names, a start changes the counter and the time. -/
theorem read_count {row : Row} {flow : Flow} (reads : read (.record row) = .valid flow)
    (snake : row.IsSnakeCase names) (count : Int) (time : Timestamp) :
    read (.record (Entries.update row (countColumns count time))) =
      .valid { flow with triggerCount := count, lastTriggeredAt := some time } := by
  have absent {name : FieldName} (present : name ∈ names) (other : name.key ≠ name.column)
      (key : name.key ∉ ["trigger_count", "last_triggered_at"]) :
      Entries.get? (Entries.update row (countColumns count time)) name.key = none :=
    (Entries.get?_update_of_absent key).trans (snake name present other)
  have given {name : FieldName} {value : Json}
      (changed : Entries.get? (countColumns count time) name.column = some value) :
      Entries.get? (Entries.update row (countColumns count time)) name.column = some value :=
    Entries.get?_update_of_get? (by simp [countColumns]) changed
  have counted : withDefault Field.triggerCount 0 asInt
      (Entries.update row (countColumns count time)) = .valid count := by
    have changed : Entries.get? (countColumns count time) Field.triggerCount.column =
        some (.int count) := rfl
    rw [withDefault, FieldName.find?, absent (by decide) (by decide) (by decide), given changed]
    rfl
  have timed : maybe Field.lastTriggeredAt asTime
      (Entries.update row (countColumns count time)) = .valid (some time) := by
    have changed : Entries.get? (countColumns count time) Field.lastTriggeredAt.column =
        some (.text time.columnText) := rfl
    rw [maybe, withDefault, FieldName.find?, absent (by decide) (by decide) (by decide),
      given changed]
    simp only [Option.map_some, nullable_columnText]
    rfl
  have sameExtras := extras_count snake count time
  simp only [read, object, Validated.map_eq_valid, Validated.fmap_eq_valid,
    Validated.seq_eq_valid, ↓existsAndEq, and_true] at reads ⊢
  obtain ⟨updatedAt, createdAt, _, _, isActive, edges, nodes, description, name, accountId, userId,
    id, fields, rfl⟩ := reads
  simp (disch := decide) only [maybe, required_count_iff, withDefault_count_eq] at fields timed ⊢
  refine ⟨updatedAt, createdAt, some time, count, isActive, edges, nodes, description, name,
    accountId, userId, id, ?_, ?_⟩
  · simp only [fields, counted, timed, and_self]
  · rw [sameExtras]

end Flow

/-- No two rows of the flows have the same id. -/
def Tables.UniqueFlows (tables : Tables) : Prop :=
  ((tables.rows .flows).map fun row => row.get "id").Nodup

variable {setting : Setting} {tables : Tables}

/-- The start of a stored flow is counted in its row. -/
theorem Operation.recordTrigger_alone (faultless : setting.IsFaultless)
    (unique : tables.UniqueFlows) {row : Row} {flow : Flow} (present : row ∈ tables.rows .flows)
    (reads : Flow.read (.record row) = .valid flow) (time : Timestamp) :
    (recordTrigger flow time).Leaves setting tables fun outcome after _ =>
      outcome = .ok () ∧ after.executionRows = tables.executionRows ∧
        after.rows .flows = (tables.rows .flows).map
          (·.revise [byId flow.id] (Flow.countColumns (flow.triggerCount + 1) time)) := by
  have stored : tables.first? (flowQuery flow.id) = some flow :=
    Tables.first?_byId unique present (Row.get_id_of_readFlow reads) reads
  refine leaves_of_leavesAt fun asked => ?_
  unfold recordTrigger
  rw [getFlow_eq_first]
  refine first_then faultless rfl (fun current found => ?_) (fun none => ?_) fun none => ?_
  · cases stored.symm.trans found
    exact query_then faultless ⟨rfl, Query.rows_run_of_ne nofun, tables.rows_put .flows _⟩
  · cases stored.symm.trans none
  · cases stored.symm.trans none

end count

/-!
The start of flows for an event, alone with the store and with nothing refused: one execution for
each flow that the event matches, from its first matching trigger.
-/

open Operation Store

/-- What happened, as the entry point is told it: all members are texts. -/
structure Occasion where
  triggerType : String
  senderId : String
  senderUsername : Option String := none
  postId : Option String := none
  commentText : Option String := none
  storyId : Option String := none
  messageText : Option String := none

namespace Occasion

def event (occasion : Occasion) : TriggerEvent where
  triggerType := .text occasion.triggerType
  senderId := .text occasion.senderId
  senderUsername := .ofText? occasion.senderUsername
  postId := .ofText? occasion.postId
  commentText := .ofText? occasion.commentText
  storyId := .ofText? occasion.storyId
  messageText := .ofText? occasion.messageText

/-- The words of the comment, or of the message when the comment has none. -/
def keywords (occasion : Occasion) : List String :=
  let words := keywordsOf occasion.commentText
  if words.isEmpty then keywordsOf occasion.messageText else words

/-- The trigger nodes of a flow that match, in node order. -/
def triggers (occasion : Occasion) (flow : Flow) : List Node :=
  flow.matchingTriggers (some occasion.triggerType) occasion.keywords occasion.postId

variable (occasion : Occasion)

theorem keywords_event : occasion.event.keywords = .ok occasion.keywords := by
  have words (text : Option String) :
      TriggerEvent.wordsOf (.ofText? text) = .ok (keywordsOf text) := by
    cases text <;> rfl
  change (TriggerEvent.wordsOf (.ofText? occasion.commentText) >>= _) = _
  rw [words]
  change (if _ then TriggerEvent.wordsOf (.ofText? occasion.messageText) else _) = _
  rw [words, keywords]
  split <;> rfl

theorem triggers_event (flow : Flow) :
    occasion.event.triggers occasion.keywords flow = occasion.triggers flow := by
  have post : (Document.nullable Document.asText (.ofText? occasion.postId)).toOption.join =
      occasion.postId := by
    rw [Document.nullable_ofText?]
    rfl
  change flow.matchingTriggers _ _
    (Document.nullable _ (.ofText? occasion.postId)).toOption.join = _
  rw [post]
  rfl

theorem sender_event :
    occasion.event.sender = .valid (occasion.senderId, occasion.senderUsername) := by
  unfold TriggerEvent.sender event
  rw [Document.nullable_ofText?]
  rfl

theorem exists_context : ∃ context, occasion.event.context = .valid context := by
  obtain ⟨triggerType, senderId, senderUsername, postId, commentText, storyId, messageText⟩ :=
    occasion
  cases postId <;> cases commentText <;> cases storyId <;> exact ⟨_, rfl⟩

/-- An execution of the flow that began at the first matching trigger. -/
structure Starts (flow : Flow) (e : Execution) : Prop where
  flowId : e.flowId = flow.id
  trigger : ∃ trigger ∈ (occasion.triggers flow).head?, e.trail.head? = some trigger.id

end Occasion

namespace Run

variable {setting : Setting} {tables : Tables} {ids : Set String} {asked : Nat}
  (deployment : Deployment) (account : Account) {flow : Flow} {trigger : Node} {others : List Node}
  (occasion : Occasion)

theorem exists_initialExecution_event (flow : Flow) (trigger : Node) (id : String)
    (now : Timestamp) : ∃ e, initialExecution flow trigger occasion.event id now = pure e ∧
      e.IsOutset flow trigger id := by
  obtain ⟨context, reads⟩ := occasion.exists_context
  exact exists_initialExecution reads occasion.sender_event flow trigger id now

theorem createExecution_alone (faultless : setting.IsFaultless) {e : Execution} (isNew : e.IsNew) :
    (createExecution e).Leaves setting tables fun outcome after _ =>
      outcome = .ok e ∧ after = ((Query.insert .executions e.row).run tables).2 := by
  have reads : DocumentType.read (.record e.row) = .valid e :=
    Execution.read_row (Execution.regular_of_isNew isNew)
  refine leaves_of_leavesAt fun asked => ?_
  unfold createExecution ensureWritable
  rw [if_pos (isWritable_of_isNew isNew)]
  refine query_then faultless ?_
  rw [(Execution.run_insert isNew tables).1]
  simp only [parse_of_valid reads]
  exact ⟨rfl, rfl⟩

/-- A new execution stands after those that there were. -/
theorem stands_of_isNew {e : Execution} (isNew : e.IsNew)
    (fresh : ∀ row ∈ tables.executionRows, row.get "id" ≠ .text e.id) :
    ((Query.insert .executions e.row).run tables).2.Stands tables.executionRows [] e where
  rows := (Execution.run_insert isNew tables).2
  others row present := fresh row (by simpa using present)
  regular := Execution.regular_of_isNew isNew
  writable := isWritable_of_isNew isNew

/-- What is done with a new execution: its start is counted, and it is traversed. -/
theorem begin_alone (faultless : setting.IsFaultless) (draws : setting.Draws ids)
    (unique : tables.UniqueFlows) {row : Row} (present : row ∈ tables.rows .flows)
    (reads : Flow.read (.record row) = .valid flow) {v : Execution} {front : List Row}
    (stands : tables.Stands front [] v) (isOpen : v.isTerminal = false)
    (isFlow : flow.id = v.flowId) (now : Timestamp) :
    (Run.on v do
      traversing do
        let _ ← Run.attempt (Run.lift (recordTrigger flow now))
        resume deployment account (some flow)
      pure (some (← get))).Leaves setting tables fun outcome after _ =>
        ∃ e, outcome = .ok (some e) ∧ after.executionRows = front ++ [e.row] ∧
          Row.get e.row "id" = .text v.id ∧ e.flowId = v.flowId ∧ v.trail <+: e.trail ∧
          after.rows .flows = (tables.rows .flows).map
            (·.revise [byId flow.id] (Flow.countColumns (flow.triggerCount + 1) now)) := by
  let custody := Custody.between front []
  refine leaves_on (leaves_bind (leaves_traversing (leaves_bind (leaves_attempt (leaves_lift
    (leaves_mono (recordTrigger_alone faultless unique present reads now) ?_))))))
  rintro _ mid _ ⟨rfl, rows, counted⟩
  have still : custody.Holds v mid := custody.of_same stands rows
  refine Program.leaves_mono
    (resume_traverses deployment account faultless draws still isOpen isFlow) ?_
  rintro ⟨_, e⟩ after _ traverses
  cases traverses.succeeds
  have stored : after.Stands front [] e := traverses.stored
  exact fun _ => ⟨e, rfl, stored.rows, traverses.id ▸ stored.regular.get_id, traverses.flowId,
    traverses.trail,
    traverses.files.flows.trans counted⟩

/-- A flow that matches is started; the id of its execution is the first that is drawn. -/
theorem start_alone (faultless : setting.IsFaultless) (draws : setting.Draws ids)
    (unique : tables.UniqueFlows) {row : Row} (present : row ∈ tables.rows .flows)
    (reads : Flow.read (.record row) = .valid flow) (matching : occasion.triggers flow ≠ [])
    (fresh : ∀ row ∈ tables.executionRows,
      row.get "id" ≠ .text (setting.told (asked + 1) .freshId)) :
    (start deployment account flow occasion.event occasion.keywords).LeavesAt setting tables asked
      fun outcome after => ∃ e time, outcome = .ok (some e) ∧ occasion.Starts flow e ∧
        Row.get e.row "id" = .text (setting.told (asked + 1) .freshId) ∧
        after.executionRows = tables.executionRows ++ [e.row] ∧
        after.rows .flows = (tables.rows .flows).map
          (·.revise [byId flow.id] (Flow.countColumns (flow.triggerCount + 1) time)) := by
  obtain ⟨trigger, others, triggers⟩ := List.exists_cons_of_ne_nil matching
  unfold start
  rw [occasion.triggers_event, triggers]
  let now := setting.told asked .now
  obtain ⟨v, initial, outset⟩ :=
    exists_initialExecution_event occasion flow trigger (setting.told (asked + 1) .freshId) now
  obtain ⟨isNew, id, flowId, currentNodeId, -, -⟩ := outset
  have unknown : ∀ row ∈ tables.executionRows, row.get "id" ≠ .text v.id := id ▸ fresh
  have stands := stands_of_isNew isNew unknown
  have same : ((Query.insert .executions v.row).run tables).2.rows .flows = tables.rows .flows :=
    Query.rows_run_of_ne nofun
  refine outside_then (by nofun) (outside_then (by nofun) ?_)
  rw [initial, pure_bind]
  refine leavesAt_of_leaves (Operation.leaves_bind (Operation.leaves_mono
    (createExecution_alone faultless isNew) ?_))
  rintro _ mid _ ⟨rfl, rfl⟩
  generalize ((Query.insert .executions v.row).run tables).2 = mid at stands same
  have isOpen : v.isTerminal = false := by
    rw [Execution.isTerminal, isNew.status]
    rfl
  have stillUnique : mid.UniqueFlows := by
    rw [Tables.UniqueFlows, same]
    exact unique
  refine Operation.leaves_mono (begin_alone deployment account faultless draws stillUnique
    (same ▸ present) reads stands isOpen flowId.symm now) ?_
  rintro _ after _ ⟨e, rfl, rows, isId, isFlow, ⟨walked, trail'⟩, counted⟩
  refine ⟨e, now, rfl, ⟨isFlow.trans flowId, trigger, ?_, ?_⟩, id ▸ isId, rows, same ▸ counted⟩
  · rw [triggers]
    rfl
  · rw [← trail', Execution.trail, isNew.previousNodeIds, currentNodeId]
    rfl

variable (setting) in
/-- Two requests are made at least. -/
theorem asked_start (matching : occasion.triggers flow ≠ []) (tables : Tables) (asked : Nat) :
    asked + 2 ≤ ((start deployment account flow occasion.event
      occasion.keywords).run.alone setting tables asked).asked := by
  obtain ⟨trigger, others, triggers⟩ := List.exists_cons_of_ne_nil matching
  unfold start
  rw [occasion.triggers_event, triggers]
  exact Program.le_asked setting _ tables (asked + 2)

end Run

end MessageFlow
