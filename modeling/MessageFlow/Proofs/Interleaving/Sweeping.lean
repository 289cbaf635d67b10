import MessageFlow.Proofs.Interleaving.Obedience

/-!
Sweeps keep to the discipline: they claim a ticket that they have read as due, wake its execution at
most once with the claim, and give the claim up when they mark the ticket. With them every task
keeps to it.
-/

namespace MessageFlow
open Station

variable {task : Task} {s s' : Station} {v : Execution} {ticket : Ticket}

namespace Station

/-- How the work on a claimed ticket ends: the claim is given up, unless the work has failed. -/
def Settles {α : Type} (s : Station) (ticket : Ticket) : Except Failure α → Station → Prop
  | .ok _, s' => s.Passes s' ∧ s'.desk.claim = none
  | .error _, s' => s.Passes s' ∧ ∃ claim, s'.desk.claim = some (ticket, claim)

theorem Settles.after {α : Type} {outcome : Except Failure α} {s'' : Station}
    (settles : s'.Settles ticket outcome s'') (passes : s.Passes s') :
    s.Settles ticket outcome s'' := by
  cases outcome with
  | ok a => exact ⟨passes.trans settles.1, settles.2⟩
  | error failure => exact ⟨passes.trans settles.1, settles.2⟩

end Station

/-- A step of the work that keeps the claim, and what follows it. -/
theorem Operation.settles_then {α β : Type} {operation : Operation α} {f : α → Operation β}
    {gains : α → Station → Prop} {claim : Claim} (claimed : s.desk.claim = some (ticket, claim))
    (first : operation.Obeys task.conduct s fun outcome s' =>
      s.Rests s' ∧ ∀ a, outcome = .ok a → gains a s')
    (next : ∀ a s', s.Rests s' → gains a s' →
      (f a).Obeys task.conduct s' (s'.Settles ticket)) :
    (operation >>= f).Obeys task.conduct s (s.Settles ticket) := by
  apply obeys_then first
  · rintro a s' ⟨rests, gained⟩
    exact obeys_mono (next a s' rests (gained a rfl)) fun _ _ settles =>
      settles.after rests.toPasses
  · rintro failure s' ⟨rests, _⟩
    exact ⟨rests.toPasses, claim, rests.claims.trans claimed⟩

/-- A step that gains nothing. -/
theorem Operation.apart_settles_then {α β : Type} {operation : Operation α}
    {f : α → Operation β} {claim : Claim} (claimed : s.desk.claim = some (ticket, claim))
    (apart : operation.Apart) (idle : s.walking = none)
    (next : ∀ a, (f a).Obeys task.conduct s (s.Settles ticket)) :
    (operation >>= f).Obeys task.conduct s (s.Settles ticket) := by
  apply obeys_then (apart.obeys (idles task idle))
  · rintro a s' ⟨rfl, _⟩
    exact next a
  · rintro failure s' ⟨rfl, _⟩
    exact ⟨(rests_self idle).toPasses, claim, claimed⟩

namespace Sweep

variable (deployment : Deployment) (account : Account)

/-- A ticket is marked in any case; the claim is given up with it. -/
theorem finish_obeys {claim : Claim} {status : TicketStatus} (error : Option String)
    (sweeps : task.isSweep = true) (idle : s.walking = none)
    (claimed : s.desk.claim = some (ticket, claim))
    (ends : status = .failed ∨ (status = .completed ∧ claim = .spent)) :
    (finish ticket status error).Obeys task.conduct s fun outcome s' =>
      outcome = .ok () ∧ s.Passes s' ∧ s'.desk.claim = none := by
  refine Operation.obeys_bind (Operation.obeys_request _ (idles task idle .now trivial) ?_)
  intro now _
  refine Operation.obeys_bind (Operation.obeys_attempt (Operation.obeys_bind
    (Operation.obeys_query _ ⟨(Standing.traversed_of_idle idle).symm,
      .finish ticket claim status now error sweeps claimed ends⟩ ?_)))
  intro answer _
  have closed : s.Passes (s.withDesk s.desk.close) ∧ (s.withDesk s.desk.close).desk.claim = none :=
    ⟨⟨idle, subset_rfl, subset_rfl⟩, rfl⟩
  cases answer with
  | error failure => exact ⟨rfl, closed⟩
  | ok rows => exact ⟨rfl, closed⟩

theorem failTicket_obeys {claim : Claim} (reason : String) (sweeps : task.isSweep = true)
    (idle : s.walking = none) (claimed : s.desk.claim = some (ticket, claim)) :
    (failTicket ticket reason).Obeys task.conduct s fun outcome s' =>
      outcome = .ok false ∧ s.Passes s' ∧ s'.desk.claim = none := by
  refine Operation.obeys_bind (Operation.obeys_mono
    (finish_obeys (some reason) sweeps idle claimed (.inl rfl)) ?_)
  rintro outcome s' ⟨rfl, closed⟩
  exact ⟨rfl, closed⟩

theorem failTicket_settles {claim : Claim} (reason : String) (sweeps : task.isSweep = true)
    (idle : s.walking = none) (claimed : s.desk.claim = some (ticket, claim)) :
    (failTicket ticket reason).Obeys task.conduct s (s.Settles ticket) := by
  apply Operation.obeys_mono (failTicket_obeys reason sweeps idle claimed)
  rintro outcome s' ⟨rfl, closed⟩
  exact closed

/-- Loading the flow of an execution between two traversals. -/
theorem flowOr_obeys (known : Option Flow) (flowId : String) (idle : s.walking = none) :
    (Store.flowOr known flowId).Obeys task.conduct s fun outcome s' =>
      s.Rests s' ∧ ∀ found, outcome = .ok found → found = none → flowId ∈ s'.desk.missing := by
  have rests := rests_self idle
  cases known with
  | some flow =>
    refine Operation.obeys_pure ⟨rests, ?_⟩
    intro found same none
    cases same
    cases none
  | none =>
    refine Operation.obeys_bind (Operation.obeys_query _
      ⟨(Standing.traversed_of_idle idle).symm, .look flowId⟩ ?_)
    intro answer _
    cases answer with
    | error failure =>
      refine ⟨rests, ?_⟩
      intro found same
      cases same
    | ok rows =>
      cases rows with
      | nil =>
        refine Operation.obeys_pure ⟨⟨⟨idle, subset_rfl, subset_rfl⟩, rfl⟩, ?_⟩
        intro found same none
        exact Set.mem_insert flowId s.desk.missing
      | cons row rows =>
        change (some <$> Operation.ofValidated _ (Flow.read (.record row))).Obeys _ s _
        rw [← bind_pure_comp]
        cases Flow.read (.record row) with
        | valid flow =>
          refine Operation.obeys_bind (Operation.obeys_pure (Operation.obeys_pure ⟨rests, ?_⟩))
          intro found same none
          cases same
          cases none
        | invalid issues =>
          refine Operation.obeys_bind (Operation.obeys_throw ⟨rests, ?_⟩)
          intro found same
          cases same

/-- What comes of waking an execution: it was woken and has been traversed, it was changed by
someone else, or the work has failed. -/
def Woken (s : Station) (ticket : Ticket) : Except Failure Bool → Station → Prop
  | .ok true, s' => s.Passes s' ∧ s'.desk.claim = some (ticket, .spent)
  | .ok false, s' => s.Rests s'
  | .error _, s' => s.Passes s' ∧ ∃ claim, s'.desk.claim = some (ticket, claim)

/-- Waking an execution, and its traversal when the write succeeds. -/
theorem wakeAndResume_obeys (flow : Flow) (now : Timestamp) (sweeps : task.isSweep = true)
    (parked : isParkedOn v ticket = true) (idle : s.walking = none) (held : v ∈ s.held)
    (claimed : s.desk.claim = some (ticket, .granted)) (owner : ticket.executionId = v.id) :
    (Run.on (wake v ticket now) do
      match ← Run.attempt Store.saveExecution with
      | .ok () =>
        Run.resume deployment account (some flow)
        pure true
      | .error failure => if failure.isConflict then pure false else throw failure).Obeys
        task.conduct s (Woken s ticket) := by
  have goesOn : (v.status == .waiting && (wake v ticket now).status == .active) = true := by
    rw [Task.status_of_isParkedOn parked]
    rfl
  have permitted : task.conduct s none (.query (Store.saveQuery (wake v ticket now)))
      (s.afterWake (wake v ticket now) true ticket) := by
    have acts := Task.Acts.wake v ticket now idle held sweeps claimed owner parked
    rw [goesOn] at acts
    exact ⟨(Standing.traversed_of_idle idle).symm, acts⟩
  have refused {answer : Except Failure (List Row)} (refusal : Query.IsRefusal answer) :
      s.afterWake (wake v ticket now) true ticket answer = s.rest := by
    rcases refusal with rfl | ⟨failure, rfl, _⟩
    · rfl
    · rfl
  refine Run.obeys_on (Run.obeys_bind (Run.obeys_attempt ?_))
  apply Run.obeys_mono (Run.saveExecution_obeys permitted)
  intro outcome e' s' after
  rcases outcome with failure | ⟨⟩
  · have rests : s.Rests s' := by
      rcases after with ⟨rfl, _⟩ | ⟨answer, refusal, rfl⟩
      · exact rests_self idle
      · rw [refused refusal]
        exact rests_rest s
    by_cases conflict : failure.isConflict = true
    · simp only [conflict, if_true]
      exact Run.obeys_pure rests
    · simp only [conflict]
      exact Run.obeys_throw ⟨rests.toPasses, .granted, rests.claims.trans claimed⟩
  · obtain ⟨rfl, writable, row, rows, rfl⟩ := after
    have keeps : s.held ⊆ insert (wake v ticket now).saved s.held := Set.subset_insert _ s.held
    refine Run.obeys_then (Run.resume_obeys deployment account (some flow) rfl rfl rfl rfl writable)
      ?_ ?_
    · rintro ⟨⟩ e' s' rests
      exact Run.obeys_pure ⟨⟨rests.idle, keeps.trans rests.keeps, rests.lists⟩, rests.claims⟩
    · intro failure e' s' rests
      exact ⟨⟨rests.idle, keeps.trans rests.keeps, rests.lists⟩, .spent, rests.claims⟩

theorem resumeExecution_obeys (attempts : Nat) (known : Option Flow)
    (sweeps : task.isSweep = true) (idle : s.walking = none) (held : v ∈ s.held)
    (claimed : s.desk.claim = some (ticket, .granted)) (owner : ticket.executionId = v.id) :
    (resumeExecution deployment account ticket attempts known v).Obeys task.conduct s
      (s.Settles ticket) := by
  induction attempts generalizing s v known with
  | zero => exact failTicket_settles _ sweeps idle claimed
  | succ attempts ih =>
    unfold resumeExecution
    by_cases parked : isParkedOn v ticket = true
    · rw [if_pos parked]
      apply Operation.settles_then claimed (flowOr_obeys known v.flowId idle)
      intro flow s₁ rests₁ missing
      have claimed₁ := rests₁.claims.trans claimed
      have held₁ := rests₁.keeps held
      cases flow with
      | none =>
        have lost := Run.failOver_obeys rests₁.idle fun now =>
          ⟨(Standing.traversed_of_idle rests₁.idle).symm,
            .lose v ticket now rests₁.idle held₁ sweeps claimed₁ owner parked (missing rfl)⟩
        apply Operation.settles_then claimed₁ (Operation.obeys_mono lost fun _ _ rests =>
          ⟨rests, fun _ _ => trivial⟩)
        intro _ s₂ rests₂ _
        exact failTicket_settles _ sweeps rests₂.idle (rests₂.claims.trans claimed₁)
      | some flow =>
        apply Operation.apart_settles_then claimed₁ Operation.apart_now rests₁.idle
        intro now
        apply Operation.obeys_then (wakeAndResume_obeys deployment account flow now sweeps parked
          rests₁.idle held₁ claimed₁ owner)
        · intro outcome s₂ woken
          cases outcome with
          | true =>
            obtain ⟨passes, spent⟩ := woken
            refine Operation.obeys_bind (Operation.obeys_mono (finish_obeys none sweeps passes.idle
              spent (.inr ⟨rfl, rfl⟩)) ?_)
            rintro outcome s₃ ⟨rfl, closes, closed⟩
            exact Operation.obeys_pure ⟨passes.trans closes, closed⟩
          | false =>
            have claimed₂ := woken.claims.trans claimed₁
            have later (outcome : Except Failure Bool) (s₃ : Station)
                (settles : s₂.Settles ticket outcome s₃) : s₁.Settles ticket outcome s₃ :=
              settles.after woken.toPasses
            refine Operation.obeys_mono ?_ later
            apply Operation.settles_then claimed₂
              (Store.getExecution_obeys ticket.executionId woken.idle)
            intro found s₃ rests₃ gained
            have claimed₃ := rests₃.claims.trans claimed₂
            cases found with
            | none => exact failTicket_settles _ sweeps rests₃.idle claimed₃
            | some reloaded =>
              obtain ⟨heldAgain, named⟩ := gained reloaded rfl
              exact ih (some flow) rests₃.idle heldAgain claimed₃ named.symm
        · exact fun failure s₂ fails => fails
    · rw [if_neg parked]
      exact failTicket_settles _ sweeps idle claimed

theorem resume_obeys (attempts : Nat) (sweeps : task.isSweep = true) (idle : s.walking = none)
    (claimed : s.desk.claim = some (ticket, .granted)) :
    (resume deployment attempts ticket).Obeys task.conduct s (s.Settles ticket) := by
  unfold resume
  apply Operation.settles_then claimed (Store.getExecution_obeys ticket.executionId idle)
  intro found s₁ rests₁ gained
  have claimed₁ := rests₁.claims.trans claimed
  cases found with
  | none => exact failTicket_settles _ sweeps rests₁.idle claimed₁
  | some v =>
    obtain ⟨held, named⟩ := gained v rfl
    apply Operation.apart_settles_then claimed₁ (AccountLookup.apart_get ticket.accountId)
      rests₁.idle
    intro account
    cases account with
    | none => exact failTicket_settles _ sweeps rests₁.idle claimed₁
    | some account =>
      exact resumeExecution_obeys deployment account attempts none sweeps rests₁.idle held claimed₁
        named.symm

theorem claimAndResume_obeys (attempts : Nat) (sweeps : task.isSweep = true)
    (idle : s.walking = none) (listed : ticket ∈ s.desk.listed) :
    (claimAndResume deployment attempts ticket).Obeys task.conduct s (s.Settles ticket) := by
  have passes (desk : Desk) (same : desk.listed = s.desk.listed) : s.Passes (s.withDesk desk) :=
    ⟨idle, subset_rfl, same.symm.subset⟩
  refine Operation.obeys_bind (Operation.obeys_bind (Operation.obeys_query _
    ⟨(Standing.traversed_of_idle idle).symm, .claim ticket sweeps listed⟩ ?_))
  intro answer _
  cases answer with
  | error failure => exact ⟨passes _ rfl, .unanswered, rfl⟩
  | ok rows =>
    cases rows with
    | nil => exact Operation.obeys_pure (Operation.obeys_pure ⟨passes _ rfl, rfl⟩)
    | cons row rows =>
      have begins : s.Passes (s.withDesk (s.desk.afterClaim ticket (.ok (row :: rows)))) :=
        passes _ rfl
      apply Operation.obeys_pure
      exact Operation.obeys_mono (resume_obeys deployment attempts sweeps begins.idle rfl)
        fun _ _ settles => settles.after begins

theorem processOne_obeys (attempts : Nat) (sweeps : task.isSweep = true)
    (idle : s.walking = none) (listed : ticket ∈ s.desk.listed) :
    (processOne deployment attempts ticket).Obeys task.conduct s fun _ s' => s.Passes s' := by
  refine Operation.obeys_bind (Operation.obeys_attempt (Operation.obeys_mono
    (claimAndResume_obeys deployment attempts sweeps idle listed) ?_))
  intro outcome s' settles
  cases outcome with
  | ok completed => exact Operation.obeys_pure settles.1
  | error failure =>
    obtain ⟨passes, claim, claimed⟩ := settles
    apply Operation.obeys_mono (failTicket_obeys failure.record sweeps passes.idle claimed)
    exact fun _ _ closed => passes.trans closed.2.1

theorem processAll_obeys (attempts : Nat) (tickets : List Ticket) (sweeps : task.isSweep = true)
    (idle : s.walking = none) (listed : ∀ ticket ∈ tickets, ticket ∈ s.desk.listed) :
    (processAll deployment attempts tickets).Obeys task.conduct s fun _ s' => s.Passes s' := by
  induction tickets generalizing s with
  | nil => exact Operation.obeys_pure (rests_self idle).toPasses
  | cons ticket tickets ih =>
    apply Operation.obeys_then
      (processOne_obeys deployment attempts sweeps idle (listed ticket (.head tickets)))
    case fails => exact fun _ _ passes => passes
    intro completed s₁ passes₁
    apply Operation.obeys_then (ih passes₁.idle fun other present =>
      passes₁.lists (listed other (.tail ticket present)))
    · intro others s₂ passes₂
      exact Operation.obeys_pure (passes₁.trans passes₂)
    · exact fun _ _ passes₂ => passes₁.trans passes₂

theorem dueTickets_obeys (now : Timestamp) (limit : Int) (sweeps : task.SweepsAt now)
    (idle : s.walking = none) :
    (Store.dueTickets now limit).Obeys task.conduct s fun outcome s' =>
      s.Passes s' ∧ ∀ tickets, outcome = .ok tickets →
        ∀ ticket ∈ tickets, ticket ∈ s'.desk.listed := by
  refine Operation.obeys_bind (Operation.obeys_query _
    ⟨(Standing.traversed_of_idle idle).symm, .list now limit sweeps⟩ ?_)
  intro answer _
  cases answer with
  | error failure =>
    refine ⟨(rests_self idle).toPasses, ?_⟩
    intro tickets same
    cases same
  | ok rows =>
    apply Operation.obeys_mono (Operation.parseAll_obeys rows)
    rintro outcome s' ⟨rfl, read⟩
    exact ⟨⟨idle, subset_rfl, Set.subset_union_left⟩, fun tickets same ticket present =>
      .inr (read tickets same ticket present)⟩

theorem process_obeys (attempts : Nat) (at? : Option Timestamp) (idle : s.walking = none) :
    (process deployment attempts at?).Obeys (Task.sweep attempts at?).conduct s
      fun _ s' => s'.walking = none := by
  have sweepAt (now : Timestamp) (given : ∀ time, at? = some time → time = now) :
      (do
        let tickets ← Store.dueTickets now deployment.batchSize
        processAll deployment attempts tickets).Obeys (Task.sweep attempts at?).conduct s
        fun _ s' => s'.walking = none := by
    apply Operation.obeys_then (dueTickets_obeys now _ ⟨attempts, at?, rfl, given⟩ idle)
    · rintro tickets s₁ ⟨passes, listed⟩
      apply Operation.obeys_mono
        (processAll_obeys deployment attempts tickets rfl passes.idle (listed tickets rfl))
      exact fun _ _ later => later.idle
    · exact fun _ _ listing => listing.1.idle
  unfold process
  cases at? with
  | some time => exact Operation.obeys_bind (Operation.obeys_pure (sweepAt time fun _ same => by
      cases same
      rfl))
  | none =>
    refine Operation.obeys_bind (Operation.obeys_request _ (idles _ idle .now trivial) ?_)
    exact fun now _ => sweepAt now nofun

end Sweep

namespace Task

/-- Where a task begins. -/
def outset (task : Task) : Station := .holding { v | task.given = some v }

/-- A task keeps to the discipline of executions and tickets, and ends at rest. -/
theorem operation_conducts (deployment : Deployment) (task : Task) :
    (task.operation deployment).Obeys task.conduct task.outset fun _ s' => s'.walking = none := by
  have reports {α : Type} {operation : Operation α} {report : α → Report}
      (obeys : operation.Obeys task.conduct task.outset fun _ s' => s'.walking = none) :
      (operation >>= fun a => pure (report a)).Obeys task.conduct task.outset
        fun _ s' => s'.walking = none := by
    apply Operation.obeys_then obeys
    · exact fun a s' idle => Operation.obeys_pure idle
    · exact fun failure s' idle => idle
  have rests {α : Type} {operation : Operation α} {report : α → Report}
      (obeys : operation.Obeys task.conduct task.outset fun _ s' => task.outset.Rests s') :
      (operation >>= fun a => pure (report a)).Obeys task.conduct task.outset
        fun _ s' => s'.walking = none :=
    reports (Operation.obeys_mono obeys fun _ _ rests => rests.idle)
  cases task with
  | start account flow event keywords =>
    exact rests (Run.start_obeys deployment account flow event keywords rfl)
  | trigger account event => exact rests (Run.trigger_obeys deployment account event rfl)
  | handle account message attempts execution =>
    exact rests (Run.obeys_on (Inbox.handle_obeys deployment account attempts rfl rfl rfl))
  | route account senderId message attempts =>
    exact rests (Inbox.route_obeys deployment account senderId attempts rfl rfl)
  | dispatch account senderId senderUsername message attempts =>
    exact rests (Inbox.dispatch_obeys deployment account senderId senderUsername attempts rfl rfl)
  | sweep attempts at? => exact reports (Sweep.process_obeys deployment attempts at? rfl)
  | deleteFlow flowId => exact rests (Run.deleteFlow_obeys flowId rfl rfl)

/-- Where a task begins, tickets aside. -/
def beginning (task : Task) : Standing := task.outset.toStanding

/-- A task keeps to its discipline and ends at rest. -/
theorem operation_obeys (deployment : Deployment) (task : Task) :
    (task.operation deployment).Obeys task.discipline task.beginning
      fun _ s' => s'.walking = none :=
  Program.obeys_project Station.toStanding
    (fun _ _ _ _ conducts => ⟨conducts.1, conducts.2.permits⟩)
    (task.operation_conducts deployment)

end Task
end MessageFlow
