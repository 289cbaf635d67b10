import MessageFlow.Inbox
import MessageFlow.Proofs.Interleaving.Task
import MessageFlow.Proofs.Reading.Document

/-!
What a message changes of an execution.
-/

namespace MessageFlow

namespace Context

/-- The email address in the text, where one is awaited. -/
def awaitedEmail? (context : Context) (text : String) : Option String :=
  if context.isSet Run.awaitingEmail then Email.extract text else none

/-- The phone number in the text, where one is awaited. -/
def awaitedPhone? (context : Context) (text : String) : Option String :=
  if context.isSet Run.awaitingPhone then Phone.extract text else none

/-- What a message changes of a context, and nothing else. An empty payload is none. -/
structure Hears (context : Context) (message : InboundMessage) (heard : Context) : Prop where
  rest : heard = { context with
    lastUserMessage := some message.text
    email := (context.awaitedEmail? message.text).or context.email
    phone := (context.awaitedPhone? message.text).or context.phone
    customFields := heard.customFields
    selectedOptions := context.selectedOptions ++
      if hasText message.quickReplyPayload then [message.text] else [] }
  fields : ∀ key, heard.field? key =
    if (key = Run.awaitingEmail ∧ (context.awaitedEmail? message.text).isSome) ∨
      (key = Run.awaitingPhone ∧ (context.awaitedPhone? message.text).isSome)
    then some (.flag false) else context.field? key
  keys : heard.customFields.map Prod.fst = context.customFields.map Prod.fst

/-- The flag is lowered if something was found. -/
def lowered (context : Context) (key : String) (found : Bool) : Context :=
  if found then context.setFlag key false else context

section
variable (context : Context) (key : String) (found : Bool)

theorem lowered_eq : ∃ customFields, context.lowered key found = { context with customFields } := by
  cases found with
  | true => exact ⟨_, rfl⟩
  | false => exact ⟨_, rfl⟩

theorem field?_lowered (other : String) : (context.lowered key found).field? other =
    if other = key ∧ found = true then some (.flag false) else context.field? other := by
  cases found with
  | true =>
    by_cases same : other = key
    · rw [same, if_pos ⟨rfl, rfl⟩]
      exact field?_setFlag_self _ _ _
    · rw [if_neg fun both => same both.1]
      exact field?_setFlag_of_ne _ same _
  | false =>
    rw [if_neg fun both => Bool.false_ne_true both.2]
    rfl

/-- A flag that is set is lowered in its place. -/
theorem keys_lowered (isSet : found = true → context.isSet key = true) :
    (context.lowered key found).customFields.map Prod.fst = context.customFields.map Prod.fst := by
  cases found with
  | true =>
    refine Entries.names_set_of_mem _ ?_
    by_contra absent
    have unset : context.isSet key = false := by
      rw [Context.isSet, Context.field?, Entries.get?_eq_none absent]
      rfl
    cases unset.symm.trans (isSet rfl)
  | false => rfl

end

variable (context : Context) (text : String)

theorem isSet_awaitingEmail (found : (context.awaitedEmail? text).isSome = true) :
    context.isSet Run.awaitingEmail = true := by
  by_contra unset
  rw [awaitedEmail?, if_neg unset] at found
  cases found

theorem isSet_awaitingPhone (found : (context.awaitedPhone? text).isSome = true) :
    context.isSet Run.awaitingPhone = true := by
  by_contra unset
  rw [awaitedPhone?, if_neg unset] at found
  cases found

theorem captureEmail_eq : context.captureEmail text =
    { context with email := (context.awaitedEmail? text).or context.email }.lowered
      Run.awaitingEmail (context.awaitedEmail? text).isSome := by
  unfold captureEmail awaitedEmail?
  split
  · cases Email.extract text with
    | none => rfl
    | some email => rfl
  · rfl

theorem capturePhone_eq : context.capturePhone text =
    { context with phone := (context.awaitedPhone? text).or context.phone }.lowered
      Run.awaitingPhone (context.awaitedPhone? text).isSome := by
  unfold capturePhone awaitedPhone?
  split
  · cases Phone.extract text with
    | none => rfl
    | some phone => rfl
  · rfl

/-- The capture of an email address leaves it open whether a phone number is awaited. -/
theorem awaitedPhone?_captureEmail :
    (context.captureEmail text).awaitedPhone? text = context.awaitedPhone? text := by
  have other : Run.awaitingPhone ≠ Run.awaitingEmail := by decide
  have same : (context.captureEmail text).field? Run.awaitingPhone =
      context.field? Run.awaitingPhone := by
    rw [captureEmail_eq, field?_lowered, if_neg fun both => other both.1]
    rfl
  unfold awaitedPhone? isSet
  rw [same]

/-- The context after the text of a message, before any selected option. -/
def captured : Context :=
  ({ context with lastUserMessage := some text }.captureEmail text).capturePhone text

theorem captured_eq : ∃ customFields, context.captured text = { context with
    lastUserMessage := some text
    email := (context.awaitedEmail? text).or context.email
    phone := (context.awaitedPhone? text).or context.phone
    customFields } := by
  have email (context : Context) : ∃ customFields, context.captureEmail text =
      { context with email := (context.awaitedEmail? text).or context.email, customFields } := by
    rw [captureEmail_eq]
    exact lowered_eq _ _ _
  have phone (context : Context) : ∃ customFields, context.capturePhone text =
      { context with phone := (context.awaitedPhone? text).or context.phone, customFields } := by
    rw [capturePhone_eq]
    exact lowered_eq _ _ _
  obtain ⟨_, first⟩ := email { context with lastUserMessage := some text }
  obtain ⟨_, second⟩ := phone (captureEmail _ text)
  rw [captured, second, awaitedPhone?_captureEmail, first]
  exact ⟨_, rfl⟩

theorem field?_captured (key : String) : (context.captured text).field? key =
    if (key = Run.awaitingEmail ∧ (context.awaitedEmail? text).isSome) ∨
      (key = Run.awaitingPhone ∧ (context.awaitedPhone? text).isSome)
    then some (.flag false) else context.field? key := by
  rw [captured, capturePhone_eq, awaitedPhone?_captureEmail, field?_lowered]
  change (if key = Run.awaitingPhone ∧ (context.awaitedPhone? text).isSome = true then _ else
    (captureEmail _ text).field? key) = _
  rw [captureEmail_eq, field?_lowered]
  change (if key = Run.awaitingPhone ∧ (context.awaitedPhone? text).isSome then _ else
    if key = Run.awaitingEmail ∧ (context.awaitedEmail? text).isSome then _ else
      context.field? key) = _
  grind

theorem keys_captured : (context.captured text).customFields.map Prod.fst =
    context.customFields.map Prod.fst := by
  rw [captured, capturePhone_eq, keys_lowered, captureEmail_eq, keys_lowered]
  · exact isSet_awaitingEmail context text
  · exact isSet_awaitingPhone (captureEmail _ text) text

theorem hears_receive (message : InboundMessage) :
    context.Hears message (context.receive message) := by
  obtain ⟨_, whole⟩ := context.captured_eq message.text
  have fields := context.field?_captured message.text
  have keys := context.keys_captured message.text
  have received : context.receive message = if hasText message.quickReplyPayload then
      { context.captured message.text with selectedOptions :=
        (context.captured message.text).selectedOptions ++ [message.text] }
      else context.captured message.text := rfl
  rw [received]
  split
  · next given => exact ⟨by rw [whole, if_pos given], fields, keys⟩
  · next none => exact ⟨by rw [whole, if_neg none, List.append_nil], fields, keys⟩

end Context

/-- The next version of an execution that a message was written over. -/
structure Execution.Hears (v : Execution) (message : InboundMessage) (w : Execution) : Prop where
  context : v.context.Hears message w.context
  rest : ∃ now, w = { v with
    context := w.context
    status := if v.isWaitingOnInput then .active else v.status
    updatedAt := some now
    revision := v.revision + 1 }

theorem Execution.hears_receive (v : Execution) (message : InboundMessage) (now : Timestamp) :
    v.Hears message ((v.receive message).stamped now).saved :=
  ⟨v.context.hears_receive message, now, rfl⟩

end MessageFlow
