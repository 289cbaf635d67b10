import MessageFlow.Proofs.Among.Traversal
import MessageFlow.Proofs.Tickets.Rows
import MessageFlow.Sweep

/-!
The sweep of one ticket among other writers. Either it wakes its execution, over the version that is
stored by then and that is still parked on the ticket, and continues it; or it leaves all executions
alone and fails the ticket.
-/

namespace MessageFlow
open Store Operation Happening

theorem Happening.isAside_of_ne {query : Query} {before : Tables}
    (elsewhere : query.table ≠ .executions) : (own none query before).IsAside :=
  ⟨rfl, Query.rows_run_of_ne elsewhere⟩

namespace Sweep

/-- Other clients keep to what they may write of the execution, and what the sweep asks for is
there. -/
def Provides (ticket : Ticket) (flow : Flow) : Happening → Prop
  | .other before after => before.Rewrites ticket.executionId after
  | .own none query before =>
    (query = claimQuery ticket.id → (query.run before).1 ≠ []) ∧
      (query = accountQuery ticket.accountId → ∃ account : Account, before.Shows query account) ∧
      ∀ id, query = flowQuery id → before.Shows query flow
  | .own (some _) _ _ => True

/-- The last thing that is asked finishes the ticket with that status. -/
structure Closes (ticket : Ticket) (status : TicketStatus) (history : List Happening)
    (after : Tables) : Prop where
  last : ∃ front before time error,
    history = front ++ [.own none (finishQuery ticket.id status time error) before]
  rows : ∀ row ∈ after.ticketRows, row.get "id" = .text ticket.id →
    row.get "status" = .text status.text

/-- The execution is woken as it is stored, and the traversal from its delay follows. -/
structure Wakes (deployment : Deployment) (ticket : Ticket) (flow : Flow) (w : Execution)
    (mid : Tables) (now : Timestamp) (front later : List Happening) : Prop where
  aside : ∀ h ∈ front, h.IsAside
  stored : mid.Has ticket.executionId (some w)
  parked : isParkedOn w ticket = true
  written : ((saveQuery (wake w ticket now)).run mid).2.Has ticket.executionId
    (some (wake w ticket now).saved)
  continues : ∃ account walk e store last, later = walk ++ last ∧
    ((Run.resume deployment account (some flow)).outcome (wake w ticket now).saved).Amid
      ((saveQuery (wake w ticket now)).run mid).2 walk (.ok (), e) store ∧
    ∀ h ∈ last, h.IsAside

/-- How the sweep of a claimed ticket ends; `why` tells when it may give up. -/
inductive Ends (deployment : Deployment) (ticket : Ticket) (flow : Flow)
    (why : List Happening → Prop) : List Happening → Except Failure Bool → Tables → Prop
  | woken {w : Execution} {mid after : Tables} {now : Timestamp} {front later : List Happening}
    (wakes : Wakes deployment ticket flow w mid now front later)
    (closes : Closes ticket .completed
      (front ++ .own none (saveQuery (wake w ticket now)) mid :: later) after) :
    Ends deployment ticket flow why
      (front ++ .own none (saveQuery (wake w ticket now)) mid :: later) (.ok true) after
  | gaveUp {after : Tables} {history : List Happening} (aside : ∀ h ∈ history, h.IsAside)
    (reason : why history) (closes : Closes ticket .failed history after) :
    Ends deployment ticket flow why history (.ok false) after

/-- The sweep read its execution when that was not parked on the ticket. -/
def Misses (ticket : Ticket) (history : List Happening) : Prop :=
  ∃ before, .own none (executionQuery ticket.executionId) before ∈ history ∧
    ∀ v, before.Has ticket.executionId (some v) → isParkedOn v ticket = false

variable {deployment : Deployment} {ticket : Ticket} {flow : Flow}
  {why other : List Happening → Prop} {front history : List Happening} {tables after : Tables}
  {outcome : Except Failure Bool}

theorem Closes.append {status : TicketStatus} (closes : Closes ticket status history after)
    (front : List Happening) : Closes ticket status (front ++ history) after where
  last := by
    obtain ⟨rest, before, time, error, rfl⟩ := closes.last
    exact ⟨front ++ rest, before, time, error, (List.append_assoc ..).symm⟩
  rows := closes.rows

/-- What the sweep did aside before does not change how it ends. -/
theorem Ends.append (ends : Ends deployment ticket flow why history outcome after)
    (aside : ∀ h ∈ front, h.IsAside) (implies : why history → other (front ++ history)) :
    Ends deployment ticket flow other (front ++ history) outcome after := by
  cases ends with
  | @woken w mid _ now first later wakes closes =>
    have closes := closes.append front
    rw [← List.append_assoc] at closes ⊢
    exact .woken { wakes with aside := List.forall_mem_append.mpr ⟨aside, wakes.aside⟩ } closes
  | gaveUp asideLater reason closes =>
    exact .gaveUp (List.forall_mem_append.mpr ⟨aside, asideLater⟩) (implies reason)
      (closes.append front)

/-- A ticket is finished last. -/
theorem finish_among (ticket : Ticket) (status : TicketStatus) (error : Option String)
    (tables : Tables) : (finish ticket status error).Among tables fun outcome after history =>
      outcome = .ok () ∧ (∀ h ∈ history, h.IsAside) ∧ Closes ticket status history after := by
  unfold finish finishTicket
  refine among_bind (among_now fun time => ?_)
  refine among_bind (among_attempt (among_bind (among_query fun others mid meanwhile => ?_)))
  refine among_pure (among_pure ?_)
  simp only [List.nil_append, List.append_nil]
  refine ⟨trivial, List.forall_mem_append.mpr ⟨meanwhile.isAside, ?_⟩,
    ⟨others, mid, time, error, rfl⟩, ?_⟩
  · exact List.forall_mem_singleton.mpr (isAside_of_ne nofun)
  · have marks := finishQuery_marks ticket.id status time error
    intro row present isTicket
    rw [marks.ticketRows_run] at present
    obtain ⟨old, _, rfl⟩ := List.mem_map.mp present
    rw [marks.get_id_revise] at isTicket
    exact marks.status_of_selects (selects_byId.mpr isTicket)

theorem failTicket_among (ticket : Ticket) (reason : String) (tables : Tables) :
    (failTicket ticket reason).Among tables fun outcome after history => outcome = .ok false ∧
      (∀ h ∈ history, h.IsAside) ∧ Closes ticket .failed history after := by
  unfold failTicket
  refine among_bind (among_mono (finish_among ticket .failed (some reason) tables) ?_)
  rintro outcome mid first ⟨rfl, holds⟩
  refine among_pure ?_
  rw [List.append_nil]
  exact ⟨rfl, holds⟩

/-- How an attempt to wake an execution among others goes: the traversal follows a write that meets
the row, and nothing follows one that does not. -/
inductive Tries (deployment : Deployment) (account : Account) (flow : Flow) (e : Execution)
    (tables : Tables) : List Happening → Bool → Tables → Prop
  | hit {others walk : List Happening} {mid store : Tables} {e' : Execution}
    (meanwhile : Meanwhile tables others mid) (met : ((saveQuery e).run mid).1 ≠ [])
    (walks : ((Run.resume deployment account (some flow)).outcome e.saved).Amid
      ((saveQuery e).run mid).2 walk (.ok (), e') store) :
    Tries deployment account flow e tables (others ++ .own none (saveQuery e) mid :: walk)
      true store
  | miss {others : List Happening} {mid : Tables} (meanwhile : Meanwhile tables others mid)
    (unmet : ((saveQuery e).run mid).1 = []) :
    Tries deployment account flow e tables (others ++ [.own none (saveQuery e) mid]) false
      ((saveQuery e).run mid).2

theorem wake_among (deployment : Deployment) (account : Account) (flow : Flow) {e : Execution}
    (tables : Tables) (writable : DocumentType.isWritable e = true) :
    Run.Among (do
      match ← Run.attempt saveExecution with
      | .ok () =>
        Run.resume deployment account (some flow)
        pure true
      | .error failure => if failure.isConflict then pure false else throw failure) e tables
      fun outcome _ store history => ∃ woken, outcome = .ok woken ∧
        Tries deployment account flow e tables history woken store := by
  refine Run.among_bind (Run.among_attempt (saveExecution_among ?_ ?_ ?_))
  · intro others mid meanwhile met
    have continues : (Run.resume deployment account (some flow)).Among e.saved
        ((saveQuery e).run mid).2 fun outcome e' store walk => outcome = .ok () ∧
          ((Run.resume deployment account (some flow)).outcome e.saved).Amid
            ((saveQuery e).run mid).2 walk (outcome, e') store :=
      fun walk outcome store amid =>
        ⟨Run.resume_succeeds (e := e.saved) deployment account flow _ writable walk outcome store
          amid, amid⟩
    refine Run.among_bind (Run.among_mono continues ?_)
    rintro _ e' store walk ⟨rfl, walks⟩
    refine Run.among_pure ?_
    rw [List.append_nil, List.append_assoc, List.singleton_append]
    exact ⟨true, rfl, .hit meanwhile met walks⟩
  · intro others mid meanwhile unmet
    refine Run.among_pure ?_
    rw [List.append_nil]
    exact ⟨false, rfl, .miss meanwhile unmet⟩
  · intro unwritable
    cases writable.symm.trans unwritable

theorem Provides.rewrites {h : Happening} (provides : Provides ticket flow h)
    (other : h.isOther = true) : h.before.Rewrites ticket.executionId h.after := by
  cases h with
  | other => exact provides
  | own => cases other

theorem wake_keeps (v : Execution) (ticket : Ticket) (now : Timestamp) :
    v.Keeps (wake v ticket now) := .of_same_context rfl rfl rfl rfl

/-- So far the sweep left the executions alone. -/
structure Quiet (ticket : Ticket) (flow : Flow) (tables : Tables) (history : List Happening)
    (mid : Tables) : Prop where
  leads : Leads tables history mid
  provides : ∀ h ∈ history, Provides ticket flow h
  aside : ∀ h ∈ history, h.IsAside

variable {v w : Execution} {version : Option Execution} {mid next : Tables} {query : Query}
  {later others walk last : List Happening} {attempts : Nat} {now : Timestamp}

/-- After a query that leaves the executions alone. -/
theorem quiet_query (meanwhile : Meanwhile tables others mid)
    (provides : ∀ h ∈ others ++ [.own none query mid], Provides ticket flow h)
    (same : (query.run mid).2.executionRows = mid.executionRows) :
    Quiet ticket flow tables (others ++ [.own none query mid]) (query.run mid).2 where
  leads := leads_append.mpr ⟨mid, meanwhile.leads, .cons (h := .own _ _ _) (.nil _)⟩
  provides := provides
  aside := List.forall_mem_append.mpr
    ⟨meanwhile.isAside, List.forall_mem_singleton.mpr ⟨rfl, same⟩⟩

namespace Quiet

theorem nil (tables : Tables) : Quiet ticket flow tables [] tables :=
  ⟨.nil tables, List.forall_mem_nil _, List.forall_mem_nil _⟩

theorem append (quiet : Quiet ticket flow tables front mid)
    (after : Quiet ticket flow mid later next) :
    Quiet ticket flow tables (front ++ later) next where
  leads := leads_append.mpr ⟨mid, quiet.leads, after.leads⟩
  provides := List.forall_mem_append.mpr ⟨quiet.provides, after.provides⟩
  aside := List.forall_mem_append.mpr ⟨quiet.aside, after.aside⟩

variable (quiet : Quiet ticket flow tables front mid)
include quiet

theorem rewrites :
    ∀ h ∈ front, h.isOther = true → h.before.Rewrites ticket.executionId h.after :=
  fun h present => (quiet.provides h present).rewrites

variable (has : tables.Has ticket.executionId version)
include has

theorem grows : ∃ version', mid.Has ticket.executionId version' ∧ Grows version version' ∧
    (version' ≠ version → ∃ h ∈ front, h.intrudes ticket.executionId = true) :=
  quiet.leads.grows quiet.rewrites quiet.aside has

/-- A write that meets the row wakes the execution. -/
theorem wakes {account : Account} {e : Execution} {store : Tables}
    (copy : v.IsCopy ticket.executionId version) (parked : isParkedOn v ticket = true)
    (met : ((saveQuery (wake v ticket now)).run mid).1 ≠ [])
    (walks : ((Run.resume deployment account (some flow)).outcome (wake v ticket now).saved).Amid
      ((saveQuery (wake v ticket now)).run mid).2 walk (.ok (), e) store)
    (aside : ∀ h ∈ last, h.IsAside) :
    Wakes deployment ticket flow v mid now front (walk ++ last) := by
  obtain ⟨stored, written⟩ :=
    quiet.leads.hit quiet.rewrites quiet.aside has copy (wake_keeps v ticket now) met
  exact ⟨quiet.aside, stored, parked, written, account, walk, e, store, last, rfl, walks, aside⟩

/-- A write that does not comes after one of another client, and changes nothing. -/
theorem misses (copy : v.IsCopy ticket.executionId version)
    (unmet : ((saveQuery (wake v ticket now)).run mid).1 = []) :
    Quiet ticket flow tables (front ++ [.own none (saveQuery (wake v ticket now)) mid])
        ((saveQuery (wake v ticket now)).run mid).2 ∧
      (version = some v → ∃ h ∈ front ++ [.own none (saveQuery (wake v ticket now)) mid],
        h.intrudes ticket.executionId = true) := by
  obtain ⟨_, same, intruded⟩ :=
    quiet.leads.miss quiet.rewrites quiet.aside has copy (wake_keeps v ticket now) unmet
  have provides : Provides ticket flow (.own none (saveQuery (wake v ticket now)) mid) :=
    ⟨nofun, nofun, nofun⟩
  have write := quiet_query (.nil mid) (List.forall_mem_singleton.mpr provides) same
  refine ⟨quiet.append write, fun isCopy => ?_⟩
  obtain ⟨h, present, intrudes⟩ := intruded isCopy
  exact ⟨h, List.mem_append.mpr (.inl present), intrudes⟩

end Quiet

/-- A sweep reads the version that is stored then. -/
theorem getExecution_provided (has : tables.Has ticket.executionId version) :
    (getExecution ticket.executionId).AmongGiven (Provides ticket flow) tables
      fun outcome next history => ∃ fresh, outcome = .ok fresh ∧
        next.Has ticket.executionId fresh ∧ Quiet ticket flow tables history next ∧
        .own none (executionQuery ticket.executionId) next ∈ history := by
  refine getExecution_among fun others next outcome meanwhile tells given => ?_
  have quiet := quiet_query meanwhile given rfl
  obtain ⟨fresh, stored, _⟩ := quiet.grows has
  exact ⟨fresh, tells fresh stored, stored, quiet, List.mem_append.mpr (.inr (.head _))⟩

/-- The flow of a sweep is at hand or there to be read. -/
theorem flowOr_provided {known : Option Flow} (knows : known = none ∨ known = some flow)
    (id : String) (tables : Tables) : (flowOr known id).AmongGiven (Provides ticket flow) tables
      fun outcome mid history => ∃ told, outcome = .ok told ∧ told = some flow ∧
        Quiet ticket flow tables history mid := by
  rcases knows with rfl | rfl
  · refine first_among fun others mid outcome meanwhile _ found given => ?_
    obtain ⟨_, _, shows⟩ := given _ (List.mem_append.mpr (.inr (.head _)))
    exact ⟨_, found flow (shows id rfl), rfl, quiet_query meanwhile given rfl⟩
  · exact among_pure fun _ => ⟨_, rfl, rfl, .nil tables⟩

theorem getAccount_provided (tables : Tables) :
    (AccountLookup.get ticket.accountId).AmongGiven (Provides ticket flow) tables
      fun outcome mid history => ∃ told, outcome = .ok told ∧ (∃ account, told = some account) ∧
        Quiet ticket flow tables history mid := by
  refine getAccount_among (fun account _ => ?_) fun others mid outcome meanwhile tells given => ?_
  · exact ⟨_, rfl, ⟨account, rfl⟩, .nil tables⟩
  · obtain ⟨_, accounts, _⟩ := given _ (List.mem_append.mpr (.inr (.head _)))
    obtain ⟨account, shows⟩ := accounts rfl
    exact ⟨_, tells account shows, ⟨account, rfl⟩, quiet_query meanwhile given rfl⟩

theorem claimTicket_provided (tables : Tables) :
    (claimTicket ticket.id).AmongGiven (Provides ticket flow) tables fun outcome mid history =>
      ∃ told, outcome = .ok told ∧ told = true ∧ Quiet ticket flow tables history mid := by
  unfold claimTicket
  refine among_bind (among_query fun others mid meanwhile => among_pure fun given => ?_)
  rw [List.append_nil] at given ⊢
  obtain ⟨granted, _⟩ := given _ (List.mem_append.mpr (.inr (.head _)))
  have some := List.isEmpty_eq_false_iff.mpr (granted rfl)
  exact ⟨_, rfl, by rw [some]; rfl, quiet_query meanwhile given (Query.rows_run_of_ne nofun)⟩

/-- The sweep saw that its execution had left the delay, or used up its attempts. -/
def IsBeaten (ticket : Ticket) (attempts : Nat) (history : List Happening) : Prop :=
  Misses ticket history ∨ attempts ≤ intrusions ticket.executionId history

theorem IsBeaten.append (beaten : IsBeaten ticket attempts later) :
    IsBeaten ticket attempts (front ++ later) := by
  rcases beaten with ⟨before, asked, gone⟩ | few
  · exact .inl ⟨before, List.mem_append.mpr (.inr asked), gone⟩
  · refine .inr ?_
    rw [intrusions_append]
    exact few.trans (Nat.le_add_left _ _)

/-- Why a sweep that has so many attempts left and that copy in hand may give up. -/
def MayGiveUp (ticket : Ticket) (attempts : Nat) (v : Execution) (version : Option Execution)
    (history : List Happening) : Prop :=
  isParkedOn v ticket = false ∨ Misses ticket history ∨
    attempts ≤ intrusions ticket.executionId history + if version = some v then 0 else 1

/-- With the copy that the sweep read, it gives up only if it is beaten. -/
theorem MayGiveUp.isBeaten {spent : Nat} (stored : next.Has ticket.executionId (some w))
    (asked : .own none (executionQuery ticket.executionId) next ∈ front)
    (enough : spent + (if version = some w then 0 else 1) ≤ intrusions ticket.executionId front)
    (mayGiveUp : MayGiveUp ticket attempts w version later) :
    IsBeaten ticket (attempts + spent) (front ++ later) := by
  rcases mayGiveUp with unparked | ⟨before, missed, gone⟩ | few
  · refine .inl ⟨next, List.mem_append.mpr (.inl asked), fun u has => ?_⟩
    rw [Option.some.inj (has.eq stored)]
    exact unparked
  · exact .inl ⟨before, List.mem_append.mpr (.inr missed), gone⟩
  · refine .inr ?_
    rw [intrusions_append]
    omega

/-- A fresh copy costs one attempt, and others have written before it. -/
theorem MayGiveUp.append (stored : next.Has ticket.executionId (some w))
    (asked : .own none (executionQuery ticket.executionId) next ∈ front)
    (intruded : version = some v → ∃ h ∈ front, h.intrudes ticket.executionId = true)
    (mayGiveUp : MayGiveUp ticket attempts w (some w) later) :
    MayGiveUp ticket (attempts + 1) v version (front ++ later) := by
  by_cases same : version = some v
  · have enough : 1 + (if some w = some w then 0 else 1) ≤ intrusions ticket.executionId front := by
      rw [if_pos rfl]
      exact intrusions_pos (intruded same)
    rcases mayGiveUp.isBeaten stored asked enough with missed | few
    · exact .inr (.inl missed)
    · exact .inr (.inr (few.trans (Nat.le_add_right _ _)))
  · have enough : 0 + (if some w = some w then 0 else 1) ≤ intrusions ticket.executionId front := by
      rw [if_pos rfl]
      exact Nat.zero_le _
    rcases mayGiveUp.isBeaten stored asked enough with missed | few
    · exact .inr (.inl missed)
    · refine .inr (.inr ?_)
      rw [if_neg same]
      exact Nat.succ_le_succ few

/-- After the traversal the ticket is completed. -/
theorem complete_among (store : Tables) (why : List Happening → Prop)
    (wakes : ∀ last, (∀ h ∈ last, h.IsAside) →
      Wakes deployment ticket flow v mid now front (walk ++ last)) :
    Operation.Among (do
      finish ticket .completed none
      pure true) store fun outcome after last => Ends deployment ticket flow why
        (front ++ .own none (saveQuery (wake v ticket now)) mid :: (walk ++ last)) outcome
        after := by
  refine among_bind (among_mono (finish_among ticket .completed none store) ?_)
  rintro _ after last ⟨rfl, aside, closes⟩
  refine among_pure ?_
  rw [List.append_nil]
  have closes := closes.append (front ++ .own none (saveQuery (wake v ticket now)) mid :: walk)
  rw [List.append_assoc, List.cons_append] at closes
  exact .woken (wakes last aside) closes

/-- After a write that met no row the sweep goes on with a fresh copy. -/
theorem reload_among {account : Account} {store : Tables}
    (quiet : Quiet ticket flow tables front store) (has : tables.Has ticket.executionId version)
    (intruded : version = some v → ∃ h ∈ front, h.intrudes ticket.executionId = true)
    (again : ∀ {next : Tables} {w : Execution}, next.Has ticket.executionId (some w) →
      (resumeExecution deployment account ticket attempts (some flow) w).AmongGiven
        (Provides ticket flow) next fun outcome after history => Ends deployment ticket flow
          (MayGiveUp ticket attempts w (some w)) history outcome after) :
    Operation.AmongGiven (Provides ticket flow) (do
      match ← getExecution ticket.executionId with
      | some reloaded => resumeExecution deployment account ticket attempts (some flow) reloaded
      | none => failTicket ticket executionNotFound) store fun outcome after later =>
        Ends deployment ticket flow (MayGiveUp ticket (attempts + 1) v version) (front ++ later)
          outcome after := by
  obtain ⟨version', stored, _⟩ := quiet.grows has
  refine amongGiven_bind (getExecution_provided stored) ?_
  rintro told next read ⟨fits, quietRead, asked⟩
  have quiet := quiet.append quietRead
  have asked : .own none (executionQuery ticket.executionId) next ∈ front ++ read :=
    List.mem_append.mpr (.inr asked)
  cases told with
  | none =>
    refine among_mono (failTicket_among ticket executionNotFound next) ?_
    rintro _ after last ⟨rfl, aside, closes⟩ _
    have missed : Misses ticket (front ++ read ++ last) :=
      ⟨next, List.mem_append.mpr (.inl asked), fun u has => by cases has.eq fits⟩
    rw [← List.append_assoc]
    exact .gaveUp (List.forall_mem_append.mpr ⟨quiet.aside, aside⟩) (.inr (.inl missed))
      (closes.append _)
  | some w =>
    refine among_mono (again fits) fun outcome after later ends given => ?_
    have intruded : version = some v →
        ∃ h ∈ front ++ read, h.intrudes ticket.executionId = true := by
      intro same
      obtain ⟨h, present, intrudes⟩ := intruded same
      exact ⟨h, List.mem_append.mpr (.inl present), intrudes⟩
    have ends := (ends given).append quiet.aside fun mayGiveUp =>
      mayGiveUp.append fits asked intruded
    simpa only [List.append_assoc] using ends

/-- A copy that is parked is woken, unless others wrote in the meantime; then there is a fresh
copy. -/
theorem resumeExecution_among (account : Account) (attempts : Nat) {known : Option Flow}
    (knows : known = none ∨ known = some flow) {v : Execution} {version : Option Execution}
    (copy : v.IsCopy ticket.executionId version) (has : tables.Has ticket.executionId version) :
    (resumeExecution deployment account ticket attempts known v).AmongGiven (Provides ticket flow)
      tables fun outcome after history =>
        Ends deployment ticket flow (MayGiveUp ticket attempts v version) history outcome
          after := by
  -- A failed attempt costs others a write: either it came before the attempt, and the copy in hand
  -- was outdated, or it came during the attempt.
  induction attempts generalizing known v version tables with
  | zero =>
    refine among_mono (failTicket_among ticket keptChanging tables) ?_
    rintro _ after history ⟨rfl, aside, closes⟩ _
    exact .gaveUp aside (.inr (.inr (Nat.zero_le _))) closes
  | succ attempts ih =>
    unfold resumeExecution
    by_cases parked : isParkedOn v ticket = true
    swap
    · rw [if_neg parked]
      refine among_mono (failTicket_among ticket notWaiting tables) ?_
      rintro _ after history ⟨rfl, aside, closes⟩ _
      exact .gaveUp aside (.inl (Bool.eq_false_iff.mpr parked)) closes
    rw [if_pos parked]
    refine amongGiven_bind (flowOr_provided knows v.flowId tables) ?_
    rintro _ mid first ⟨rfl, quiet⟩
    refine among_bind (among_now fun now => ?_)
    have tries := Run.among_on (wake_among deployment account flow mid
      ((wake_keeps v ticket now).isWritable.trans copy.writable))
    refine amongGiven_bind (amongGiven_of_among tries) ?_
    rintro woken store second ⟨given, tries⟩
    cases tries with
    | @hit others walk mid _ e meanwhile met walks =>
      obtain ⟨givenOthers, _⟩ := List.forall_mem_append.mp given
      have quiet := quiet.append ⟨meanwhile.leads, givenOthers, meanwhile.isAside⟩
      have completes := complete_among store
        (MayGiveUp ticket (attempts + 1) v version) fun last aside =>
          quiet.wakes has copy parked met walks aside
      refine among_mono completes fun outcome after last ends _ => ?_
      simpa only [List.append_assoc, List.nil_append, List.cons_append] using ends
    | @miss others mid meanwhile unmet =>
      obtain ⟨givenOthers, _⟩ := List.forall_mem_append.mp given
      have quiet := quiet.append ⟨meanwhile.leads, givenOthers, meanwhile.isAside⟩
      obtain ⟨quiet, intruded⟩ := quiet.misses has copy unmet
      refine among_mono (reload_among quiet has intruded fun fits => ih (.inr rfl) fits.isCopy fits)
        fun outcome after later ends given => ?_
      simpa only [List.append_assoc, List.nil_append] using ends given

theorem resume_among (flow : Flow) (attempts : Nat) (has : tables.Has ticket.executionId version) :
    (resume deployment attempts ticket).AmongGiven (Provides ticket flow) tables
      fun outcome after history =>
        Ends deployment ticket flow (IsBeaten ticket attempts) history outcome after := by
  unfold resume
  refine amongGiven_bind (getExecution_provided has) ?_
  rintro told next first ⟨fits, quiet, asked⟩
  cases told with
  | none =>
    refine among_mono (failTicket_among ticket executionNotFound next) ?_
    rintro _ after last ⟨rfl, asideLast, closes⟩ _
    have missed : Misses ticket (first ++ last) :=
      ⟨next, List.mem_append.mpr (.inl asked), fun u has => by cases has.eq fits⟩
    exact .gaveUp (List.forall_mem_append.mpr ⟨quiet.aside, asideLast⟩) (.inl missed)
      (closes.append first)
  | some v =>
    refine amongGiven_bind (getAccount_provided next) ?_
    rintro _ mid second ⟨⟨account, rfl⟩, quietSecond⟩
    obtain ⟨version', stored, grows, intruded⟩ := quietSecond.grows fits
    have copy : v.IsCopy ticket.executionId version' := { fits.isCopy with grows }
    have knows : (none : Option Flow) = none ∨ none = some flow := .inl rfl
    refine among_mono (resumeExecution_among account attempts knows copy stored) ?_
    intro outcome after later ends given
    have enough : 0 + (if version' = some v then 0 else 1) ≤
        intrusions ticket.executionId (first ++ second) := by
      split
      · exact Nat.zero_le _
      · next changed =>
        rw [intrusions_append]
        exact (intrusions_pos (intruded changed)).trans_le (Nat.le_add_left _ _)
    have ends : Ends deployment ticket flow (IsBeaten ticket attempts) (first ++ second ++ later)
        outcome after :=
      (ends given).append (quiet.append quietSecond).aside fun mayGiveUp =>
        mayGiveUp.isBeaten fits (List.mem_append.mpr (.inl asked)) enough
    simpa only [List.append_assoc] using ends

theorem claimAndResume_among (flow : Flow) (attempts : Nat)
    (has : tables.Has ticket.executionId version) :
    (claimAndResume deployment attempts ticket).AmongGiven (Provides ticket flow) tables
      fun outcome after history =>
        Ends deployment ticket flow (IsBeaten ticket attempts) history outcome after := by
  unfold claimAndResume
  refine amongGiven_bind (claimTicket_provided tables) ?_
  rintro _ mid first ⟨rfl, quiet⟩
  obtain ⟨version', stored, _⟩ := quiet.grows has
  refine among_mono (resume_among flow attempts stored) fun outcome after later ends given => ?_
  exact (ends given).append quiet.aside IsBeaten.append

/-- The sweep of a ticket that is granted does not fail. -/
theorem processOne_among (flow : Flow) (attempts : Nat)
    (has : tables.Has ticket.executionId version) :
    (processOne deployment attempts ticket).AmongGiven (Provides ticket flow) tables
      fun outcome after history =>
        Ends deployment ticket flow (IsBeaten ticket attempts) history outcome after := by
  have attempted : (attempt (claimAndResume deployment attempts ticket)).AmongGiven
      (Provides ticket flow) tables fun outcome after history => ∃ result, outcome = .ok result ∧
        Ends deployment ticket flow (IsBeaten ticket attempts) history result after :=
    among_attempt (among_mono (claimAndResume_among flow attempts has)
      fun result _ _ ends given => ⟨result, rfl, ends given⟩)
  unfold processOne
  refine amongGiven_bind attempted ?_
  intro result after history ends
  cases ends with
  | woken wakes closes =>
    refine among_pure fun _ => ?_
    simp only [List.append_nil]
    exact .woken wakes closes
  | gaveUp aside reason closes =>
    refine among_pure fun _ => ?_
    simp only [List.append_nil]
    exact .gaveUp aside reason closes

end Sweep
end MessageFlow
