import MessageFlow.Proofs.Among.Failures
import MessageFlow.Proofs.Among.Knowledge
import MessageFlow.Proofs.Among.Message
import MessageFlow.Proofs.Traversal.Visit

/-!
What a call that handles a message gives back. It holds a copy of the execution and changes it
before each write. Main statement: it gives back the version that it has read or written last, unless
it wrote something else after that and met no row, as in a traversal that another client stops; then
it gives back what was never stored.
-/

namespace MessageFlow
open Store

variable {α β : Type} {id : String} {tables mid : Tables} {history later : List Happening}
  {u v w e : Execution} {vain : List Query}

namespace Run
open Operation

/-- The object is the version that is known; or after a conflict, what could not be written over
that. -/
def Tallies (id : String) (v : Execution) :
    Except Failure α → Execution → Tables → List Happening → Prop
  | .ok _, e, after, history => Follows id v history after e []
  | .error failure, e, after, history => failure.isConflict = true →
    ∃ w, w.Keeps e ∧ Follows id v history after w [saveQuery e]

theorem Tallies.trans {outcome : Except Failure α} (first : Follows id u history mid v [])
    (tallies : Tallies id v outcome e after later) :
    Tallies id u outcome e after (history ++ later) := by
  cases outcome with
  | ok a => exact first.trans tallies
  | error failure =>
    intro conflict
    obtain ⟨w, keeps, follows⟩ := tallies conflict
    exact ⟨w, keeps, first.trans follows⟩

/-- A run that tallies when it begins with a copy. -/
def Tallying (run : Run α) : Prop :=
  ∀ ⦃id v tables⦄, tables.Knows id v → run.AmongGiven (Happening.IsFair id) v tables (Tallies id v)

/-- A run that tallies also when the copy was changed before it: it writes the object. -/
def Secures (run : Run α) : Prop :=
  ∀ ⦃id v e tables⦄, tables.Knows id v → v.Keeps e →
    run.AmongGiven (Happening.IsFair id) e tables (Tallies id v)

theorem Secures.tallying {run : Run α} (secures : run.Secures) : run.Tallying :=
  fun _ _ _ knows => secures knows (.of_same_context rfl rfl rfl rfl)

/-- What follows a run that tallies begins with a copy. -/
theorem tallies_bind {run : Run α} {f : α → Run β}
    (first : run.AmongGiven (Happening.IsFair id) e tables (Tallies id v))
    (rest : ∀ a, (f a).Tallying) :
    (run >>= f).AmongGiven (Happening.IsFair id) e tables (Tallies id v) :=
  amongGiven_bind first
    (fun a _ _ _ follows => amongGiven_mono (rest a follows.knows) fun _ _ _ _ => .trans follows)
    fun _ _ _ _ tallies => tallies

theorem Tallying.bind {run : Run α} {f : α → Run β} (first : run.Tallying)
    (rest : ∀ a, (f a).Tallying) : (run >>= f).Tallying :=
  fun _ _ _ knows => tallies_bind (first knows) rest

theorem tallying_pure (a : α) : (pure a : Run α).Tallying :=
  fun _ _ _ knows => among_pure fun _ => .refl knows

theorem tallying_get : (get : Run Execution).Tallying :=
  fun _ _ _ knows => among_get fun _ => .refl knows

theorem tallying_lift {operation : Operation α} (sparing : operation.Sparing)
    (itself : operation.FailsItself) : (lift operation).Tallying := by
  intro id v tables knows
  refine among_lift fun history outcome after amid fair => ?_
  have follows := (Follows.refl knows).aside amid.leads (amid.isElsewhere sparing).1 fair
  cases outcome with
  | ok a => exact follows
  | error failure =>
    intro conflict
    have own := itself tables _ _ _ amid failure rfl
    cases conflict.symm.trans (Failure.isConflict_of_isOwn own)

theorem Secures.after_modify {change : Execution → Execution} {run : Run α}
    (rest : run.Secures) (keeps : ∀ e : Execution, e.Keeps (change e)) :
    (do modify change; run : Run α).Secures :=
  fun _ _ _ _ knows kept => among_bind (among_modify (rest knows (kept.trans (keeps _))))

theorem Secures.after_now {f : Timestamp → Run α} (rest : ∀ time, (f time).Secures) :
    (lift now >>= f).Secures :=
  fun _ _ _ _ knows keeps => among_bind (among_lift (among_now fun time => rest time knows keeps))

theorem saveExecution_secures : saveExecution.Secures := by
  intro id v e tables knows keeps
  have before {others : List Happening} {mid : Tables} (meanwhile : Meanwhile tables others mid)
      (fair : ∀ h ∈ others ++ [.own none (saveQuery e) mid], h.IsFair id) :
      Follows id v others mid v [] :=
    (Follows.refl knows).aside meanwhile.leads meanwhile.isElsewhere
      (List.forall_mem_append.mp fair).1
  refine saveExecution_among (fun others mid meanwhile met fair => ?_)
    (fun others mid meanwhile unmet fair _ => ?_) fun _ _ => nofun
  · have first := before meanwhile fair
    exact first.trans (follows_hit first.knows keeps met)
  · have first := before meanwhile fair
    exact ⟨v, keeps, first.trans (follows_miss first.knows keeps unmet)⟩

theorem save_secures : save.Secures :=
  .after_now fun _ =>
    saveExecution_secures.after_modify fun _ => .of_same_context rfl rfl rfl rfl

theorem complete_secures : complete.Secures :=
  .after_now fun _ => save_secures.after_modify fun _ => .of_same_context rfl rfl rfl rfl

theorem fail_secures (reason : String) : (fail reason).Secures :=
  save_secures.after_modify fun _ => .of_same_context rfl rfl rfl rfl

section Traversals

variable (deployment : Deployment) (account : Account) (flow : Flow)

/-- A node asks for no executions, and it fails with no conflict. -/
theorem handleNode_elsewhere (node : Node) (e : Execution) (tables : Tables) :
    (handleNode deployment account flow node).Among e tables fun outcome e' _ history =>
      (∀ h ∈ history, h.IsElsewhere) ∧ e.Keeps e' ∧
        (∀ failure, outcome = .error failure → failure.isConflict = false) ∧
        ∀ error, outcome ≠ .ok (.failed error) := by
  intro history outcome after amid
  have spares : Discipline.sparing.Spares () := fun _ spares => ⟨rfl, spares⟩
  obtain ⟨elsewhere, gives⟩ :=
    amid.isElsewhere (handleNode_gives deployment account flow node spares)
  have own := failsItself_handleNode deployment account flow node e tables _ _ _ amid
  rcases outcome with ⟨failure | outcome, e'⟩
  · obtain ⟨-, rfl⟩ := gives
    exact ⟨elsewhere, .of_same_context rfl rfl rfl rfl,
      fun failure same => Failure.isConflict_of_isOwn (own failure same), nofun⟩
  · obtain ⟨-, rfl, wake, rfl⟩ := gives
    exact ⟨elsewhere, e.afterNode_keeps node wake, nofun,
      fun error same => node.outcome_ne_failed e.context error (Except.ok.inj same)⟩

/-- As `Tallies`, but a node that does not fail leaves the object to be written. -/
def Executed (id : String) (v : Execution) :
    Except Failure NodeOutcome → Execution → Tables → List Happening → Prop
  | .ok (.failed _), e, after, history => Follows id v history after e []
  | .ok _, e, after, history => v.Keeps e ∧ Follows id v history after v []
  | .error failure, e, after, history =>
    Tallies (α := Unit) id v (.error failure) e after history

theorem executeNode_among (node : Node) (knows : tables.Knows id v) (keeps : v.Keeps e) :
    (executeNode deployment account flow node).AmongGiven (Happening.IsFair id) e tables
      (Executed id v) := by
  have handled : (handleNode deployment account flow node).AmongGiven (Happening.IsFair id) e tables
      fun outcome e' mid history => v.Keeps e' ∧ Follows id v history mid v [] ∧
        (∀ failure, outcome = .error failure → failure.isConflict = false) ∧
        ∀ error, outcome ≠ .ok (.failed error) := by
    intro history outcome mid amid fair
    obtain ⟨elsewhere, kept, own, unfailed⟩ :=
      handleNode_elsewhere deployment account flow node e tables _ _ _ amid
    exact ⟨keeps.trans kept, (Follows.refl knows).aside amid.leads elsewhere fair, own, unfailed⟩
  unfold executeNode
  refine amongGiven_attempt handled ?_
  rintro outcome e' mid history ⟨kept, follows, own, unfailed⟩
  rcases outcome with failure | outcome
  · simp only [if_neg (Bool.eq_false_iff.mp (own failure rfl))]
    refine amongGiven_bind (fail_secures failure.record follows.knows kept) ?_ ?_
    · refine fun _ e'' last later written => among_pure fun _ => ?_
      simp only [List.append_nil]
      exact follows.trans written
    · exact fun _ _ _ _ tallies => Tallies.trans follows tallies
  · refine among_pure fun _ => ?_
    simp only [List.append_nil]
    cases outcome with
    | failed error => exact absurd rfl (unfailed error)
    | proceed | branch | suspend => exact ⟨kept, follows⟩

theorem visit_secures (node : Node) : (visit deployment account flow node).Secures := by
  unfold visit
  refine Secures.after_modify ?_ fun _ => .of_same_context rfl rfl rfl rfl
  intro id v e tables knows keeps
  refine amongGiven_bind (executeNode_among deployment account flow node knows keeps) ?_
    fun _ _ _ _ tallies => tallies
  intro outcome e' mid history executed
  cases outcome with
  | failed error =>
    refine among_pure fun _ => ?_
    simp only [List.append_nil]
    exact executed
  | proceed | branch | suspend =>
    obtain ⟨kept, follows⟩ := executed
    refine amongGiven_mono ?_ fun _ _ _ _ tallies => .trans follows tallies
    exact tallies_bind (save_secures follows.knows kept) fun _ => tallying_pure _

theorem walk_tallying (steps : Nat) (queue : List Node) (branch : Option Bool) :
    (walk deployment account flow steps queue branch).Tallying :=
  walk_of (tallying_pure ()) complete_secures.tallying (fail_secures stepLimitError).tallying
    (fun _ rest => tallying_get.bind rest)
    (fun node _ rest => (visit_secures deployment account flow node).tallying.bind rest)
    steps queue branch

theorem traverse_tallying (flow : Option Flow) : (traverse deployment account flow).Tallying := by
  have loads (id : String) : (flowOr flow id).FailsItself := by
    cases flow with
    | some flow => exact Operation.failsItself_pure (some flow)
    | none =>
      refine (failsItself_query _).bind fun rows => ?_
      cases rows with
      | nil => exact Operation.failsItself_pure none
      | cons row rows => exact (failsItself_parse row).map
  unfold traverse
  refine tallying_get.bind fun e =>
    (tallying_lift (sparing_flowOr flow e.flowId) (loads e.flowId)).bind fun found => ?_
  cases found with
  | none => exact (fail_secures flowNotFound).tallying
  | some flow => exact walk_tallying deployment account flow maxSteps [] none

/-- As a traversal a run leaves the same. -/
theorem remains_traversing {run : Run Unit} (among : run.AmongGiven (Happening.IsFair id) v tables
      fun outcome e after history => outcome = .ok () → Remains id v history after e) :
    (traversing run).AmongGiven (Happening.IsFair id) v tables
      fun outcome e after history => outcome = .ok () → Remains id v history after e := by
  intro history outcome after amid fair isOk
  obtain ⟨history, runs, rfl⟩ := Program.amid_of_traversing amid
  refine (among history outcome after runs (fun h present => ?_) isOk).mark v.id
  exact (Happening.isFair_mark v.id).mp (fair _ (List.mem_map_of_mem present))

/-- A continued traversal ends with what it has written, or with what it could not write. -/
theorem resume_remains (flow : Option Flow) (knows : tables.Knows id v) :
    (resume deployment account flow).AmongGiven (Happening.IsFair id) v tables
      fun outcome e after history => outcome = .ok () → Remains id v history after e := by
  unfold resume
  refine remains_traversing (amongGiven_attempt (traverse_tallying deployment account flow knows) ?_)
  intro outcome e mid history tallies
  rcases outcome with failure | ⟨⟩
  · by_cases conflict : failure.isConflict = true
    · simp only [if_pos conflict]
      refine among_pure fun _ _ => ?_
      rw [List.append_nil]
      obtain ⟨w, keeps, follows⟩ := tallies conflict
      exact .unwritten keeps follows
    · simp only [if_neg conflict]
      refine among_throw fun _ isOk => ?_
      cases isOk
  · refine among_pure fun _ _ => ?_
    rw [List.append_nil]
    exact .known tallies

end Traversals

/-- Who reads the execution again knows what is found, or what was known before. -/
theorem reread_among (follows : Follows id v history mid w vain) :
    (lift (getExecution id)).AmongGiven (Happening.IsFair id) e mid fun told e' next later =>
      ∃ version, told = .ok version ∧ e' = e ∧
        (version = none → Follows id v (history ++ later) next w vain) ∧
        ∀ u, version = some u → Follows id v (history ++ later) next u [] := by
  refine among_lift (getExecution_among fun others next told meanwhile tells fair => ?_)
  have aside := follows.aside meanwhile.leads meanwhile.isElsewhere
    (List.forall_mem_append.mp fair).1
  obtain ⟨version, has, -⟩ := aside.knows
  refine ⟨version, tells version has, rfl, fun gone => ?_, fun u found => ?_⟩
  · rw [← List.append_assoc]
    exact aside.gone (gone ▸ has)
  · rw [← List.append_assoc]
    exact aside.reload (found ▸ has)

end Run

namespace Inbox
open Run

/-- What a call gives back is what remains in its hands. -/
def GivesBack (id : String) (v : Execution) (outcome : Except Failure Execution) (after : Tables)
    (history : List Happening) : Prop :=
  ∀ e, outcome = .ok e → Remains id v history after e

theorem givesBack_ok (remains : Remains id v history tables e) :
    GivesBack id v (.ok e) tables history := by
  intro e' same
  obtain rfl := Except.ok.inj same
  exact remains

theorem givesBack_error (failure : Failure) : GivesBack id v (.error failure) tables history := by
  intro e same
  cases same

theorem givesBack_get (remains : Remains id v history tables e) :
    (get : Run Execution).AmongGiven (Happening.IsFair id) e tables
      fun outcome _ after later => GivesBack id v outcome after (history ++ later) := by
  refine among_get fun _ => ?_
  simpa only [List.append_nil] using givesBack_ok remains

variable (deployment : Deployment) (account : Account)

/-- After the write of the message its execution goes on, or not. -/
theorem written_among (goesOn : Bool) (follows : Follows id v history tables e []) :
    (do if goesOn then resume deployment account none
        get : Run Execution).AmongGiven (Happening.IsFair id) e tables
      fun outcome _ after later => GivesBack id v outcome after (history ++ later) := by
  cases goesOn with
  | false => exact givesBack_get (.known follows)
  | true =>
    refine amongGiven_bind (resume_remains deployment account none follows.knows) ?_ ?_
    · intro _ e' mid later remains
      have whole := (remains rfl).trans follows
      simpa using givesBack_get whole
    · exact fun failure _ _ _ _ => givesBack_error failure

/-- Who could not write the message reads the execution again, and begins again with what is
found. -/
theorem missed_among {again : Run Execution} (keeps : w.Keeps e)
    (follows : Follows id v history tables w [saveQuery e])
    (begins : ∀ {u next}, next.Knows id u → again.AmongGiven (Happening.IsFair id) u next
      fun outcome _ after later => GivesBack id u outcome after later) :
    (do match ← lift (getExecution id) with
        | some reloaded => lift (on reloaded again)
        | none => get : Run Execution).AmongGiven (Happening.IsFair id) e tables
      fun outcome _ after later => GivesBack id v outcome after (history ++ later) := by
  refine amongGiven_bind (reread_among follows) ?_ ?_
  · rintro version e' next later ⟨_, same, rfl, gone, found⟩
    obtain rfl := Except.ok.inj same
    cases version with
    | none => simpa using givesBack_get (.unwritten keeps (gone rfl))
    | some u =>
      refine among_lift (among_on (amongGiven_mono (begins (found u rfl).knows) ?_))
      intro outcome _ after rest remains e same
      have whole := (remains e same).trans (found u rfl)
      rwa [List.append_assoc] at whole
  · rintro failure e' next later ⟨_, same, -⟩
    cases same

/-- A call that handles a message gives back the version that it knows in the end, or what it could
not write over that. -/
theorem handle_givesBack (message : InboundMessage) (attempts : Nat) (knows : tables.Knows id v) :
    (handle deployment account message attempts).AmongGiven (Happening.IsFair id) v tables
      fun outcome _ after history => GivesBack id v outcome after history := by
  induction attempts generalizing v tables with
  | zero => exact givesBack_get (.known (.refl knows))
  | succ attempts ih =>
    obtain rfl : v.id = id := by
      obtain ⟨_, _, copy⟩ := knows
      exact copy.named
    unfold handle
    refine among_bind (among_get ?_)
    simp only
    by_cases terminal : v.isTerminal = true
    · rw [if_pos terminal]
      exact among_pure fun _ => givesBack_ok (.known (.refl knows))
    rw [if_neg terminal]
    refine among_bind (among_set (among_bind (among_lift (Operation.among_now fun now => ?_))))
    refine among_bind (among_modify ?_)
    change Run.Among _ ((v.receive message).stamped now) tables _
    refine amongGiven_attempt (saveExecution_secures knows (keeps_answer message v now)) ?_
    intro outcome e mid history tallies
    rcases outcome with failure | ⟨⟩
    · by_cases conflict : failure.isConflict = true
      · simp only [if_pos conflict]
        obtain ⟨w, keeps, follows⟩ := tallies conflict
        exact missed_among keeps follows ih
      · simp only [if_neg conflict]
        exact among_throw fun _ => givesBack_error failure
    · exact written_among deployment account v.isWaitingOnInput tallies

end Inbox

/-- A write over a copy tells what it writes. -/
theorem Execution.Keeps.eq_of_saveQuery (keeps : v.Keeps e) (regular : v.Regular)
    (same : saveQuery e = saveQuery v) : e = v := by
  have changed : e.Regular := regular.keeps keeps
  have rows : e.saved.row = v.saved.row := by
    rw [← Execution.row_saved changed, ← Execution.row_saved regular]
    exact (Query.update.inj same).2.2
  have saved : e.saved = v.saved := Execution.row_injective changed.saved regular.saved rows
  have unsaved (u : Execution) : { u.saved with revision := u.saved.revision - 1 } = u := by
    simp [Execution.saved]
  rw [← unsaved e, saved, unsaved v]

/-- Whatever other clients write to the execution between the queries of a call that are all served:
the call gives back the version that it has read or written last if and only if the writes that it
asked for after that, and that met no row, would have written nothing else; otherwise what it gives
back was never stored. -/
theorem answer_is_stored_iff (deployment : Deployment) (account : Account)
    (message : InboundMessage) (attempts : Nat) {v e left : Execution} {tables after : Tables}
    {history : List Happening}
    (runs : ((Inbox.handle deployment account message attempts).outcome v).Amid tables history
      (.ok e, left) after)
    (knows : tables.Knows v.id v)
    (rewrites : ∀ h ∈ history, h.isOther = true → h.before.Rewrites v.id h.after) :
    ∃ last, (Known.since v history).version = some last ∧ OnRecord v.id v history last ∧
      (e = last ↔ ∀ write ∈ (Known.since v history).vain, write = saveQuery last) ∧
      (OnRecord v.id v history e ↔ e = last) := by
  have remains := Inbox.handle_givesBack deployment account message attempts knows
    history _ after runs rewrites e rfl
  cases remains with
  | known follows =>
    rw [follows.learned]
    exact ⟨e, rfl, follows.recorded, iff_of_true rfl (List.forall_mem_nil _),
      iff_of_true follows.recorded rfl⟩
  | @unwritten w _ keeps follows =>
    rw [follows.learned]
    refine ⟨w, rfl, follows.recorded, ?_, fun recorded => ?_, fun same => same ▸ follows.recorded⟩
    · simp only [List.forall_mem_singleton]
      obtain ⟨_, _, copy⟩ := follows.knows
      exact ⟨congrArg saveQuery, keeps.eq_of_saveQuery copy.regular⟩
    · exact follows.recorded.eq_of_revision knows runs.leads follows.rewrites recorded keeps.revision

namespace Example

theorem knows_parked : parkedTables.Knows "execution" parked := ⟨_, has_parked, has_parked.isCopy⟩

end Example

/-- The message is written over the other one, and that is given back. -/
theorem answer_is_stored_iff_overtaken : ∃ history e left after,
    Example.overtaken = some (history, (.ok e, left), after) ∧
      (Known.since Example.parked history).version = some e ∧
      OnRecord "execution" Example.parked history e := by
  have happens : Example.overtaken.any (fun run =>
      (∀ h ∈ run.1, h.isOther = true → Example.Turns Example.greeted h) ∧
        (Known.since Example.parked run.1).vain = [] ∧ run.2.1.1.isOk = true) = true := by
    decide +kernel
  obtain ⟨⟨history, ⟨outcome, left⟩, after⟩, runs, facts⟩ := (Option.any_eq_true _ _).mp happens
  obtain ⟨turns, vain, isOk⟩ := of_decide_eq_true facts
  obtain ⟨e, rfl⟩ : ∃ e, outcome = .ok e := by
    cases outcome with
    | ok e => exact ⟨e, rfl⟩
    | error failure => cases isOk
  obtain ⟨last, known, recorded, same, -⟩ := answer_is_stored_iff Example.deployment
    { id := "account" } _ 2 (Program.amid_follow runs) Example.knows_parked fun h present other =>
      Example.rewrites_of_turns (turns h present other) rfl rfl (by decide)
  obtain rfl : e = last := same.mpr (by rw [vain]; exact List.forall_mem_nil _)
  exact ⟨history, e, left, after, runs, known, recorded⟩

namespace Example

/-- The parked execution, when it waits for an answer. -/
def expecting : Execution := { parked with scheduledAt := none, scheduledNodeId := none }

/-- Tables that hold nothing but that execution. -/
def storing (v : Execution) : Tables := { executions := ⟨[v.row], 0⟩ }

/-- The execution that goes on with the answer. -/
def answered : Execution := ((expecting.receive ⟨"more", none⟩).stamped default).saved

/-- The execution after one more message. -/
def answeredTwice : Execution := ((answered.receive ⟨"hello", none⟩).stamped default).saved

/-- A message lets the execution go on. Its flow is gone, but before that is written down someone
else writes one more message. -/
def stopped : Option (List Happening × (Except Failure Execution × Execution) × Tables) :=
  ((Inbox.handle deployment { id := "account" } ⟨"more", none⟩ 1).outcome expecting).follow
    (storing expecting)
    [{}, {}, {}, {}, { others := [Inbox.answer ⟨"hello", none⟩ answered default] }]

theorem has_expecting : (storing expecting).Has "execution" (some expecting) :=
  has_of_row rfl (List.nodup_singleton _) rfl rfl

theorem has_answered : (storing answered).Has "execution" (some answered) :=
  has_of_row rfl (List.nodup_singleton _) rfl rfl

end Example

/-- The answer is a failed execution, and none was ever stored. -/
theorem not_every_answer_is_stored : ∃ history e left after,
    ((Inbox.handle Example.deployment { id := "account" } ⟨"more", none⟩ 1).outcome
        Example.expecting).Amid (Example.storing Example.expecting) history (.ok e, left) after ∧
      (Example.storing Example.expecting).Has "execution" (some Example.expecting) ∧
      (∀ h ∈ history, h.isOther = true → h.before.Rewrites "execution" h.after) ∧
      e.status = .failed ∧ ¬OnRecord "execution" Example.expecting history e := by
  have happens : Example.stopped.any (fun run =>
      (∀ h ∈ run.1, h.isOther = true →
        h.before.executionRow? "execution" = some Example.answered.row ∧
          h.after.executionRow? "execution" = some Example.answeredTwice.row ∧
            (h.after.executionRows.map fun row => row.get "id").Nodup) ∧
        run.2.1.1.toOption.any (fun e => e.status = .failed ∧
          ∀ h ∈ run.1, h.after.executionRow? "execution" ≠ some e.row) = true) = true := by
    decide +kernel
  obtain ⟨⟨history, ⟨outcome, left⟩, after⟩, runs, facts⟩ := (Option.any_eq_true _ _).mp happens
  obtain ⟨turns, answers⟩ := of_decide_eq_true facts
  obtain ⟨e, isOk, unseen⟩ := (Option.any_eq_true _ _).mp answers
  obtain ⟨failed, unstored⟩ := of_decide_eq_true unseen
  cases outcome with
  | error failure => cases isOk
  | ok e' =>
    obtain rfl : e' = e := Option.some.inj isOk
    refine ⟨history, e', left, after, Program.amid_follow runs, Example.has_expecting,
      fun h present other => ?_, failed, ?_⟩
    · obtain ⟨before, after, unique⟩ := turns h present other
      have later : h.after.Has "execution" (some Example.answeredTwice) :=
        Example.has_of_row after unique rfl rfl
      exact Example.has_answered.rewrites before later (by decide)
    · rintro (rfl | ⟨h, present, has⟩)
      · cases failed
      · exact unstored h present has.stored

end MessageFlow
