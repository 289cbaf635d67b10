import MessageFlow.Proofs.Among.Message
import MessageFlow.Proofs.Among.Sweep

/-!
Messages that are written to an execution while a sweep is about to wake it.
-/

namespace MessageFlow
open Store Happening

/-- Another client writes the message over the version that is stored. -/
def Happening.IsReply (id : String) (message : InboundMessage) (h : Happening) : Prop :=
  ∃ u now, h.before.Has id (some u) ∧ h.after = ((Inbox.answer message u now).run h.before).2

variable {ticket : Ticket} {id : String} {tables mid after : Tables} {history : List Happening}
  {v w : Execution} {messages : List InboundMessage} {message : InboundMessage} {h : Happening}

/-- A message does not wake an execution that is parked on a delay. -/
theorem Sweep.isParkedOn_receive (parked : Sweep.isParkedOn v ticket = true) (now : Timestamp) :
    Sweep.isParkedOn ((v.receive message).stamped now).saved ticket = true := by
  obtain ⟨_, isNode⟩ := Bool.and_eq_true_iff.mp parked
  have notInput : v.isWaitingOnInput = false := by
    rw [Execution.isWaitingOnInput, beq_iff_eq.mp isNode, Option.isNone_some, Bool.and_false]
  have status : (v.receive message).status = v.status := by
    rw [Execution.receive, notInput]
    rfl
  have node : (v.receive message).scheduledNodeId = v.scheduledNodeId := rfl
  change ((v.receive message).status == .waiting &&
    (v.receive message).scheduledNodeId == some ticket.nodeId) = true
  rw [status, node]
  exact parked

/-- What a reply makes of a version. -/
theorem Happening.IsReply.next (reply : h.IsReply id message) (has : h.before.Has id (some v)) :
    ∃ now, h.after.Has id (some ((v.receive message).stamped now).saved) := by
  obtain ⟨u, now, stored, same⟩ := reply
  cases stored.eq has
  exact ⟨now, same ▸ (stored.save_hit (Inbox.keeps_answer message v now)).2⟩

/-- Replies to a parked execution leave it parked, and their messages are all in its context. -/
theorem Leads.replied (leads : Leads tables history mid)
    (rewrites : ∀ h ∈ history, h.isOther = true → h.before.Rewrites ticket.executionId h.after)
    (aside : ∀ h ∈ history, h.IsAside)
    (replies : List.Forall₂ (Happening.IsReply ticket.executionId) messages
      (history.filter (·.intrudes ticket.executionId)))
    (has : tables.Has ticket.executionId (some v)) (parked : Sweep.isParkedOn v ticket = true) :
    ∃ w, mid.Has ticket.executionId (some w) ∧ Sweep.isParkedOn w ticket = true ∧
      w.context = messages.foldl .receive v.context := by
  -- The messages are used up by the replies, in the same order.
  induction leads generalizing messages v with
  | nil =>
    cases replies
    exact ⟨v, has, parked, rfl⟩
  | @cons h history after rest ih =>
    obtain ⟨rewritesFirst, rewritesLater⟩ := List.forall_mem_cons.mp rewrites
    obtain ⟨asideFirst, asideLater⟩ := List.forall_mem_cons.mp aside
    cases intrudes : h.intrudes ticket.executionId with
    | true =>
      rw [List.filter_cons, if_pos intrudes] at replies
      cases replies with
      | cons reply replies =>
        obtain ⟨now, next⟩ := reply.next has
        obtain ⟨w, hasW, stillParked, context⟩ :=
          ih rewritesLater asideLater replies next (Sweep.isParkedOn_receive parked now)
        exact ⟨w, hasW, stillParked, context⟩
    | false =>
      rw [List.filter_cons, if_neg (by rw [intrudes]; decide)] at replies
      obtain ⟨next, hasNext, _, changed⟩ := has.after rewritesFirst asideFirst
      have same : next = some v := by
        by_contra other
        cases intrudes.symm.trans (changed.mp other)
      exact ih rewritesLater asideLater replies (same ▸ hasNext) parked

namespace Sweep

variable {deployment : Deployment} {flow : Flow} {attempts : Nat} {front later : List Happening}
  {now : Timestamp}

/-- The write that wakes the execution is the only one. -/
theorem Wakes.writes (wakes : Wakes deployment ticket flow w mid now front later) :
    (∀ h ∈ front, h.writes ticket.executionId = false) ∧
      (Happening.own none (saveQuery (wake w ticket now)) mid).writes ticket.executionId = true ∧
      ∀ h ∈ later, h.writes ticket.executionId = false := by
  have named : (wake w ticket now).saved.id = ticket.executionId := wakes.written.named
  obtain ⟨account, walk, e, store, last, rfl, walks, aside⟩ := wakes.continues
  refine ⟨fun h present => not_writes_of_isAside (wakes.aside h present), ?_,
    List.forall_mem_append.mpr ⟨fun h present => ?_, fun h present => ?_⟩⟩
  · refine (wakes.stored.touches_iff (h := .own none _ mid) wakes.written).mpr fun same => ?_
    have raised : w.revision + 1 = w.revision :=
      congrArg Execution.revision (Option.some.inj same)
    omega
  · exact not_writes_of_within (Program.amid_traversing walks h present)
  · exact not_writes_of_isAside (aside h present)

/-- A sweep is not beaten by fewer replies than it has attempts. -/
theorem not_isBeaten (leads : Leads tables history after)
    (provides : ∀ h ∈ history, Provides ticket flow h) (aside : ∀ h ∈ history, h.IsAside)
    (replies : List.Forall₂ (IsReply ticket.executionId) messages
      (history.filter (·.intrudes ticket.executionId))) (few : messages.length < attempts)
    (has : tables.Has ticket.executionId (some v)) (parked : isParkedOn v ticket = true) :
    ¬ IsBeaten ticket attempts history := by
  rintro (⟨before, asked, gone⟩ | spent)
  · obtain ⟨first, rest, rfl⟩ := List.append_of_mem asked
    obtain ⟨reached, leadsFirst, leadsRest⟩ := leads_append.mp leads
    have isBefore : reached = before := by
      cases leadsRest
      rfl
    rw [List.filter_append] at replies
    obtain ⟨givenFirst, _⟩ := List.forall_mem_append.mp provides
    obtain ⟨asideFirst, _⟩ := List.forall_mem_append.mp aside
    obtain ⟨w, hasW, still, _⟩ := leadsFirst.replied
      (fun h present => (givenFirst h present).rewrites) asideFirst
      (List.forall₂_take_append _ _ _ replies) has parked
    cases (gone w (isBefore ▸ hasW)).symm.trans still
  · have same : messages.length = intrusions ticket.executionId history := replies.length_eq
    omega

end Sweep

namespace Example

/-- The ticket of the parked execution. -/
def alarmTicket : Ticket where
  id := "ticket"
  executionId := "execution"
  flowId := "flow"
  nodeId := "wait"
  accountId := "account"
  senderId := "sender"
  executeAt := anHour

def alarmTables : Tables where
  executions := ⟨[parked.row], 0⟩
  flows := ⟨[reminder], 0⟩
  accounts := ⟨[account], 0⟩
  tickets := ⟨[alarmTicket.row], 0⟩

/-- The sweep of the ticket; another client asks its query before the sweep writes. -/
def raced (other : Query) : Option (List Happening × Except Failure Bool × Tables) :=
  (Sweep.processOne deployment 2 alarmTicket).run.follow alarmTables
    (List.replicate 8 ({} : Cue) ++ { others := [other] } :: List.replicate 20 ({} : Cue))

/-- The parked execution when its flow is deleted. -/
def dismissed : Execution :=
  { parked with status := .failed, lastError := some "Flow was deleted" }.stamped default

/-- Others make this of the parked execution, and the sweep finds what it asks for. -/
def Fits (w : Execution) : Happening → Prop
  | .other before after => Turns w (.other before after)
  | .own none query before =>
    (query = claimQuery "ticket" → (query.run before).1 ≠ []) ∧
      (query.table = .accounts → (query.run before).1 = [account]) ∧
      (query.table = .flows → (query.run before).1 = [reminder])
  | .own (some _) _ _ => True

instance (w : Execution) (h : Happening) : Decidable (Fits w h) :=
  match h with
  | .other before after => inferInstanceAs (Decidable (Turns w (.other before after)))
  | .own none _ _ => inferInstanceAs (Decidable (_ ∧ _ ∧ _))
  | .own (some _) _ _ => inferInstanceAs (Decidable True)

theorem provides_of_fits {flow : Flow} (readsFlow : Flow.read (.record reminder) = .valid flow)
    {w : Execution} (extras : w.extras = []) (contextExtras : w.context.extras = [])
    (later : parked.revision < w.revision) {h : Happening} (fits : Fits w h) :
    Sweep.Provides alarmTicket flow h := by
  have readable : (Account.read (.record account)).toOption.isSome = true := by decide +kernel
  cases h with
  | other before after =>
    exact rewrites_of_turns (h := .other before after) fits extras contextExtras later
  | own traversed query before =>
    cases traversed with
    | some execution => trivial
    | none =>
      obtain ⟨granted, accounts, flows⟩ := fits
      refine ⟨granted, fun same => ?_, fun id same => ?_⟩
      · cases reads : Account.read (.record account) with
        | valid read => exact ⟨read, _, _, accounts (same ▸ rfl), reads⟩
        | invalid issues =>
          rw [reads] at readable
          cases readable
      · exact ⟨_, _, flows (same ▸ rfl), readsFlow⟩

theorem has_alarm : alarmTables.Has "execution" (some parked) :=
  has_of_row rfl (List.nodup_singleton _) rfl rfl

/-- The message was written over the parked execution. -/
def Answered (h : Happening) : Prop :=
  Turns greeted h ∧ (h.before.executionRows.map fun row => row.get "id").Nodup ∧
    h.after = ((Inbox.answer ⟨"hello", none⟩ parked default).run h.before).2

instance (h : Happening) : Decidable (Answered h) := inferInstanceAs (Decidable (_ ∧ _ ∧ _))

theorem isReply_of_answered {h : Happening} (answered : Answered h) :
    h.IsReply "execution" ⟨"hello", none⟩ :=
  ⟨parked, default, has_of_row answered.1.1 answered.2.1 rfl rfl, answered.2.2⟩

end Example

end MessageFlow
