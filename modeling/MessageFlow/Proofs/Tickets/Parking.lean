import MessageFlow.Proofs.Interleaving.Writes
import MessageFlow.Proofs.Tickets.Ledger

/-!
A ticket that may still wake its execution is that of the delay on which the execution is parked, or
is about to be.
-/

namespace MessageFlow
open Store

/-- The ticket waits to be claimed, or its claim was granted and the execution is not woken yet. -/
inductive Scene.Live (scene : Scene) (terms : Terms) : Prop
  | pending (row : Row) (present : row ∈ scene.tables.ticketRows) (bears : row.Bears terms)
    (waits : row.IsPending)
  | granted (i : Nat) (ticket : Ticket)
    (claimed : (scene.station i).desk.claim = some (ticket, .granted))
    (same : ticket.terms = terms)

/-- The execution waits for the end of that delay. -/
structure Execution.ParkedBy (v : Execution) (terms : Terms) : Prop where
  named : v.id = terms.executionId
  waits : v.status = .waiting
  node : v.scheduledNodeId = some terms.nodeId
  time : v.scheduledAt = some terms.executeAt

namespace Scene

/-- Nobody traverses the execution, and it does not wait: no ticket can wake it any more. -/
structure Settled (scene : Scene) (id : String) : Prop where
  known : ∃ i, ∃ v ∈ (scene.station i).held, v.id = id
  idle : ∀ i v, (scene.station i).walking = some v → v.id ≠ id
  calm : ∀ v, scene.tables.Stores v → v.id = id → v.status ≠ .waiting

/-- The client has opened the ticket for the execution that it traverses. -/
structure Opens (scene : Scene) (i : Nat) (terms : Terms) : Prop where
  walks : ∃ v, (scene.station i).walking = some v ∧ v.id = terms.executionId
  opened : ∃ ticket taken, (scene.station i).desk.opened = some (ticket, taken) ∧
    ticket.terms = terms

/-- What the execution of a ticket may be doing. -/
inductive Fits (scene : Scene) (terms : Terms) : Prop
  | settled (settled : scene.Settled terms.executionId)
  | parked (v : Execution) (stores : scene.tables.Stores v) (parked : v.ParkedBy terms)
  | opens (i : Nat) (opens : scene.Opens i terms)

end Scene

theorem Execution.ParkedBy.saved {v : Execution} {terms : Terms} (parked : v.ParkedBy terms) :
    v.saved.ParkedBy terms := ⟨parked.named, parked.waits, parked.node, parked.time⟩

/-- A message leaves a parked execution parked. -/
theorem Execution.ParkedBy.receive {v : Execution} {terms : Terms} (parked : v.ParkedBy terms)
    (message : InboundMessage) (now : Timestamp) :
    ((v.receive message).stamped now).ParkedBy terms where
  named := parked.named
  waits := by
    simp [Execution.stamped, Execution.receive, Execution.isWaitingOnInput, parked.node,
      parked.waits]
  node := parked.node
  time := parked.time

/-- What a traversal parks, it parks on the ticket that it has opened. -/
theorem Desk.Suits.parkedBy {desk : Desk} {e : Execution} (suits : desk.Suits e)
    (isParked : e.isWaitingOnDelay = true) : ∃ ticket, desk.opened = some (ticket, true) ∧
      (ticket.executionId = e.id → e.ParkedBy ticket.terms) := by
  obtain ⟨waits, nodeId, node⟩ := Execution.isWaitingOnDelay_iff.mp isParked
  obtain ⟨ticket, opened, isNode, time⟩ := suits.parks nodeId waits node
  refine ⟨ticket, opened, fun owner => ⟨owner.symm, waits, ?_, time⟩⟩
  exact node.trans (congrArg some isNode.symm)

theorem Standing.walking_afterSave {s : Standing} {e w : Execution} {goesOn : Bool}
    {answer : Except Failure (List Row)} (walks : (s.afterSave e goesOn answer).walking = some w) :
    w = e.saved ∧ goesOn = true := by
  rcases answer with failure | _ | _
  · cases walks
  · cases walks
  · cases goesOn with
    | true => exact ⟨(Option.some.inj walks).symm, rfl⟩
    | false => cases walks

namespace Scene

/-- Of the executions, the scene is as a run may leave it. -/
def IsSound (scene : Scene) : Prop :=
  Sound .exact scene.tables.executionRows scene.issued scene.standing

theorem IsSound.start {tables : Tables} {issued : List String}
    (noExecutions : tables.executionRows = []) :
    IsSound ⟨tables, issued, fun _ => .holding ∅, []⟩ := by
  refine Sound.start ?_ ?_
  · rw [noExecutions]
    exact List.nodup_nil
  · rw [noExecutions]
    exact fun row present => absurd present List.not_mem_nil

variable {scene : Scene} {event : Event} {after : Except Failure (List Row) → Station} {id : String}
  {terms : Terms}

theorem held_next (asks : scene.Asks event after) (i : Nat) :
    (scene.station i).held ⊆ ((scene.next event after).station i).held := by
  rw [station_next]
  split
  · next mine =>
    subst mine
    exact asks.acts.held_subset event.answer
  · exact subset_rfl

theorem stores_of_same {tables tables' : Tables} {v : Execution}
    (same : tables'.executionRows = tables.executionRows) (stores : tables.Stores v) :
    tables'.Stores v := ⟨stores.regular, same ▸ stores.present⟩

namespace Asks

/-- A query that spares the stored executions leaves them in the scene. -/
theorem stores_iff_of_spares (asks : scene.Asks event after)
    (spares : ∀ tables, (event.query.run tables).2.executionRows = tables.executionRows)
    (v : Execution) : event.after.Stores v ↔ scene.tables.Stores v := by
  have same : event.after.executionRows = scene.tables.executionRows := by
    rw [← asks.before]
    rcases asks.handles.after_cases with same | stored
    · rw [same]
    · rw [stored, spares]
  exact ⟨stores_of_same same.symm, stores_of_same same⟩

theorem stores_of_create (asks : scene.Asks event after) {e : Execution}
    (creates : event.query = .insert .executions e.row) (isNew : e.IsNew) :
    (∀ v, scene.tables.Stores v → event.after.Stores v) ∧
      ∀ v, event.after.Stores v → scene.tables.Stores v ∨ v = e := by
  rw [← asks.before]
  rcases asks.handles.after_cases with same | stored
  · rw [same]
    exact ⟨fun _ stores => stores, fun _ stores => .inl stores⟩
  · have rows : event.after.executionRows = event.before.executionRows ++ [e.row] := by
      rw [stored, creates]
      exact (Execution.run_insert isNew event.before).2
    refine ⟨fun v stores => ⟨stores.regular, rows ▸ List.mem_append_left _ stores.present⟩, ?_⟩
    rintro v ⟨regular, present⟩
    rw [rows] at present
    rcases List.mem_append.mp present with old | new
    · exact .inl ⟨regular, old⟩
    · exact .inr (Execution.row_injective regular (Execution.regular_of_isNew isNew)
        (List.mem_singleton.mp new))

/-- A write of an execution either changes nothing and lets its client rest, or replaces the version
that its client holds. -/
theorem write_cases (sound : scene.IsSound) (asks : scene.Asks event after) {v e : Execution}
    (held : v ∈ (scene.station event.client).held) (keeps : v.Keeps e)
    (saves : event.query = saveQuery e) :
    ((∀ w, event.after.Stores w ↔ scene.tables.Stores w) ∧
      ∀ (s : Standing) (goesOn : Bool), s.afterSave e goesOn event.answer = s.rest) ∨
    (scene.tables.Stores v ∧
      ∀ w, event.after.Stores w ↔ w = e.saved ∨ (scene.tables.Stores w ∧ w.id ≠ v.id)) := by
  have handles := asks.handles
  rw [saves, asks.before] at handles
  rcases Sound.write_cases sound held keeps handles with ⟨same, rests⟩ | replaced
  · exact .inl ⟨fun w => ⟨stores_of_same same.symm, stores_of_same same⟩, rests⟩
  · exact .inr replaced

/-- An execution that is stored after a query was stored before, is new, or was written by its
client over the version before it. -/
theorem stored_cases (sound : scene.IsSound) (asks : scene.Asks event after) {w : Execution}
    (stored : event.after.Stores w) : scene.tables.Stores w ∨
      (w.IsNew ∧ ∀ v, scene.tables.Stores v → v.id ≠ w.id) ∨
      ∃ v e goesOn desk, event.task.Writes (scene.station event.client) v e goesOn desk ∧
        scene.tables.Stores v ∧ w = e.saved := by
  cases asks.acts.treats with
  | aside spares goes => exact .inl ((asks.stores_iff_of_spares spares w).mp stored)
  | create e creates idle reserved isNew goes =>
    rcases (asks.stores_of_create creates isNew).2 w stored with old | rfl
    · exact .inl old
    · refine .inr (.inl ⟨isNew, fun v stores same => ?_⟩)
      refine (sound.reserves _ _ reserved).2.1 v.row stores.present ?_
      rw [stores.get_id, same]
  | write v e goesOn desk saves held writes goes =>
    rcases asks.write_cases sound held writes.keeps saves with ⟨unchanged, _⟩ | ⟨stores, replaced⟩
    · exact .inl ((unchanged w).mp stored)
    · rcases (replaced w).mp stored with rfl | ⟨old, _⟩
      · exact .inr (.inr ⟨v, e, goesOn, desk, writes, stores, rfl⟩)
      · exact .inl old

/-- A version after a query is that before it, or its client has written it. -/
theorem version_cases (sound : scene.IsSound) (asks : scene.Asks event after) {v w : Execution}
    (before : scene.tables.Stores v) (stored : event.after.Stores w) (same : w.id = v.id) :
    w = v ∨ ∃ e goesOn desk, event.task.Writes (scene.station event.client) v e goesOn desk ∧
      w = e.saved := by
  have only {u : Execution} (stores : scene.tables.Stores u) (sameId : u.id = v.id) : u = v :=
    stores.eq_of_id sound.unique before sameId
  rcases asks.stored_cases sound stored with
    old | ⟨_, unknown⟩ | ⟨u, e, goesOn, desk, writes, stores, rfl⟩
  · exact .inl (only old same)
  · exact absurd same.symm (unknown v before)
  · obtain rfl := only stores (writes.keeps.id.symm.trans same)
    exact .inr ⟨e, goesOn, desk, writes, rfl⟩

end Asks

namespace Settled

theorem calm_next (sound : scene.IsSound) (settled : scene.Settled id)
    (asks : scene.Asks event after) {w : Execution} (stores : event.after.Stores w)
    (same : w.id = id) : w.status ≠ .waiting := by
  rcases asks.stored_cases sound stores with
    old | ⟨isNew, _⟩ | ⟨v, e, goesOn, desk, writes, before, rfl⟩
  · exact settled.calm w old same
  · rw [isNew.status]
    exact Status.noConfusion
  · have named : v.id = id := writes.keeps.id.symm.trans same
    exact (writes.calm (settled.calm v before named) fun walks => settled.idle _ v walks named).1

/-- The client does not come to traverse the execution. -/
theorem idle_next (sound : scene.IsSound) (settled : scene.Settled id)
    (asks : scene.Asks event after) {w : Execution}
    (walks : (after event.answer).walking = some w) : w.id ≠ id := by
  intro same
  cases asks.acts.treats with
  | aside spares goes =>
    rcases goes event.answer with none | ⟨goesOn, _⟩
    · rw [none] at walks
      cases walks
    · exact settled.idle _ w (goesOn.symm.trans walks) same
  | create e creates idle reserved isNew goes =>
    rcases goes event.answer with none | new
    · rw [none] at walks
      cases walks
    · rw [new] at walks
      cases walks
      obtain ⟨j, known, held, named⟩ := settled.known
      exact (sound.reserves _ _ reserved).2.2.1 j known held (named.trans same.symm)
  | write v e goesOn desk saves held writes goes =>
    rw [goes] at walks
    obtain ⟨rfl, goesOn⟩ := Standing.walking_afterSave walks
    have named : v.id = id := writes.keeps.id.symm.trans same
    rcases asks.write_cases sound held writes.keeps saves with ⟨_, rests⟩ | ⟨stores, _⟩
    · rw [rests] at walks
      cases walks
    · -- Its copy does not wait, so the write does not make the client go on with it.
      have calm := writes.calm (settled.calm v stores named) fun walks =>
        settled.idle _ v walks named
      rw [calm.2] at goesOn
      cases goesOn

/-- What is settled stays settled. -/
theorem next (sound : scene.IsSound) (settled : scene.Settled id) (asks : scene.Asks event after) :
    (scene.next event after).Settled id where
  known := by
    obtain ⟨j, known, held, named⟩ := settled.known
    exact ⟨j, known, held_next asks j held, named⟩
  idle i w walks := by
    rw [station_next] at walks
    split at walks
    · exact settled.idle_next sound asks walks
    · exact settled.idle i w walks
  calm _ stores same := settled.calm_next sound asks stores same

end Settled

/-- When a traversal ends, and the execution does not wait, it is settled. -/
theorem settled_of_rest (asks : scene.Asks event after) {v : Execution}
    (others : ∀ i w, i ≠ event.client → (scene.station i).walking = some w → w.id ≠ v.id)
    (held : v ∈ (scene.station event.client).held)
    (rests : (after event.answer).walking = none)
    (calm : ∀ w, event.after.Stores w → w.id = v.id → w.status ≠ .waiting) :
    (scene.next event after).Settled v.id where
  known := ⟨event.client, v, held_next asks _ held, rfl⟩
  idle i w walks := by
    rw [station_next] at walks
    split at walks
    · rw [rests] at walks
      cases walks
    · next other => exact others i w other walks
  calm := calm

/-- A traversal that ends and leaves the execution not waiting settles it. -/
theorem fits_of_rest (sound : scene.IsSound) (asks : scene.Asks event after) {v : Execution}
    (walks : (scene.station event.client).walking = some v) (named : v.id = terms.executionId)
    (rests : (after event.answer).walking = none)
    (calm : ∀ w, event.after.Stores w → w.id = v.id → w.status ≠ .waiting) :
    (scene.next event after).Fits terms := by
  have held : v ∈ (scene.station event.client).held :=
    (scene.station event.client).walkingHeld v walks
  have others : ∀ i w, i ≠ event.client → (scene.station i).walking = some w → w.id ≠ v.id :=
    fun i w other alsoWalks same =>
      other (sound.alone i event.client w v alsoWalks walks same)
  exact .settled (named ▸ settled_of_rest asks others held rests calm)

/-- A traversal that has opened a ticket parks the execution by it with its next write, or ends. -/
theorem fits_of_advance (sound : scene.IsSound) (asks : scene.Asks event after) {v e : Execution}
    {ticket : Ticket} {taken : Bool} {desk : Desk}
    (walks : (scene.station event.client).walking = some v)
    (named : v.id = ticket.terms.executionId)
    (opened : (scene.station event.client).desk.opened = some (ticket, taken))
    (change : v.Advance e) (suits : (scene.station event.client).desk.Suits e)
    (saves : event.query = saveQuery e)
    (goes : after event.answer = ⟨(scene.station event.client).toStanding.afterSave e
      (e.status == .active) event.answer, desk⟩) :
    (scene.next event after).Fits ticket.terms := by
  have held := (scene.station event.client).walkingHeld v walks
  have calm {w : Execution} (stores : scene.tables.Stores w) (same : w.id = v.id) :
      w.status ≠ .waiting := sound.not_waiting walks stores same
  rcases asks.write_cases sound held change.keeps saves with ⟨unchanged, rests⟩ | ⟨_, replaced⟩
  · refine fits_of_rest sound asks walks named ?_ fun w stores => calm ((unchanged w).mp stores)
    rw [goes, rests]
    rfl
  cases isEnd : e.isTerminal with
  | true =>
    have ended {status : Status} (isStatus : e.status = status) : status.isTerminal = true :=
      isStatus ▸ isEnd
    refine fits_of_rest sound asks walks named ?_ fun w stores sameId waits => ?_
    · rw [goes]
      cases walking : (Standing.afterSave _ e (e.status == .active) event.answer).walking with
      | none => rfl
      | some w => cases ended (eq_of_beq (Standing.walking_afterSave walking).2)
    · rcases (replaced w).mp stores with rfl | ⟨_, other⟩
      · cases ended waits
      · exact other sameId
  | false =>
    have isParked : e.isWaitingOnDelay = true := by
      by_contra notParked
      rw [suits.goesOn isEnd (Bool.eq_false_iff.mpr notParked)] at opened
      cases opened
    obtain ⟨_, isOpened, parked⟩ := suits.parkedBy isParked
    rw [opened] at isOpened
    cases isOpened
    have owner : ticket.executionId = e.id := (change.keeps.id.trans named).symm
    exact .parked e.saved ((replaced _).mpr (.inl rfl)) (parked owner).saved

/-- A ticket that was opened stays so, or the execution comes to be parked by it or is settled. -/
theorem Opens.next {i : Nat} (sound : scene.IsSound) (opens : scene.Opens i terms)
    (asks : scene.Asks event after) : (scene.next event after).Fits terms := by
  obtain ⟨v, walks, named⟩ := opens.walks
  obtain ⟨ticket, taken, opened, rfl⟩ := opens.opened
  by_cases mine : i = event.client
  swap
  · refine .opens i ⟨⟨v, ?_, named⟩, ⟨ticket, taken, ?_, rfl⟩⟩
    · rw [station_next, if_neg mine]
      exact walks
    · rw [station_next, if_neg mine]
      exact opened
  subst mine
  cases asks.acts.treats with
  | aside spares goes =>
    rcases goes event.answer with rests | ⟨walking, keeps⟩
    · refine fits_of_rest sound asks walks named rests fun w stores => ?_
      exact sound.not_waiting walks ((asks.stores_iff_of_spares spares w).mp stores)
    · have isOpened : (scene.station event.client).desk.opened ≠ none := by
        rw [opened]
        exact Option.some_ne_none _
      refine .opens event.client ⟨⟨v, ?_, named⟩, ⟨ticket, taken, ?_, rfl⟩⟩
      · rw [station_next, if_pos rfl, walking]
        exact walks
      · rw [station_next, if_pos rfl, keeps isOpened]
        exact opened
  | create e creates idle =>
    rw [idle] at walks
    cases walks
  | write u e goesOn desk saves held writes goes =>
    cases writes with
    | message _ _ idle | deletion _ idle | wake _ _ idle | lose _ _ idle =>
      rw [idle] at walks
      cases walks
    | advance e isWalked change suits =>
      rw [walks] at isWalked
      cases isWalked
      exact fits_of_advance sound asks walks named opened change suits saves (goes event.answer)

/-- The client wakes the execution by the ticket that it was granted. -/
def Woken (scene : Scene) (event : Event) (after : Except Failure (List Row) → Station)
    (id : String) : Prop :=
  ∃ ticket : Ticket, ticket.executionId = id ∧
    (scene.station event.client).desk.claim = some (ticket, .granted) ∧
    (after event.answer).desk.claim = some (ticket, .spent)

/-- An execution that is parked stays so, or is settled, unless it is woken. -/
theorem parked_next (sound : scene.IsSound) (asks : scene.Asks event after) {v : Execution}
    (stores : scene.tables.Stores v) (parked : v.ParkedBy terms) :
    (scene.next event after).Fits terms ∨ scene.Woken event after terms.executionId := by
  have unwalked {i : Nat} {w : Execution} (walks : (scene.station i).walking = some w) :
      w.id ≠ v.id := fun same => sound.not_waiting walks stores same.symm parked.waits
  have stays (still : event.after.Stores v) : (scene.next event after).Fits terms :=
    .parked v still parked
  cases asks.acts.treats with
  | aside spares goes => exact .inl (stays ((asks.stores_iff_of_spares spares v).mpr stores))
  | create e creates idle reserved isNew goes =>
    exact .inl (stays ((asks.stores_of_create creates isNew).1 v stores))
  | write u e goesOn desk saves held writes goes =>
    rcases asks.write_cases sound held writes.keeps saves with ⟨unchanged, _⟩ | ⟨storesU, replaced⟩
    · exact .inl (stays ((unchanged v).mpr stores))
    by_cases same : v.id = u.id
    swap
    · exact .inl (stays ((replaced v).mpr (.inr ⟨stores, same⟩)))
    obtain rfl := stores.eq_of_id sound.unique storesU same
    have settles (rests : (after event.answer).walking = none) (calm : e.status ≠ .waiting) :
        (scene.next event after).Fits terms := by
      have after : ∀ w, event.after.Stores w → w.id = v.id → w.status ≠ .waiting := by
        intro w isStored sameId
        rcases (replaced w).mp isStored with rfl | ⟨_, other⟩
        · exact calm
        · exact absurd sameId other
      exact .settled (parked.named ▸
        settled_of_rest asks (fun i w _ walks => unwalked walks) held rests after)
    have rests (stops : ∀ w, (after event.answer).walking ≠ some w) :
        (after event.answer).walking = none := Option.eq_none_iff_forall_ne_some.mpr stops
    cases writes with
    | message message now idle brought isOpen =>
      exact .inl (.parked _ ((replaced _).mpr (.inl rfl)) (parked.receive message now).saved)
    | deletion | lose =>
      refine .inl (settles (rests fun w walks => ?_) Status.noConfusion)
      rw [goes] at walks
      cases (Standing.walking_afterSave walks).2
    | wake ticket now idle sweeps claimed owner isParked =>
      rcases answered : event.answer with failure | _ | ⟨row, rows⟩
      · refine .inl (settles ?_ Status.noConfusion)
        rw [goes, answered]
        rfl
      · refine .inl (settles ?_ Status.noConfusion)
        rw [goes, answered]
        rfl
      · refine .inr ⟨ticket, owner.trans parked.named, claimed, ?_⟩
        rw [goes, answered]
        rfl
    | advance e walks => exact absurd rfl (unwalked walks)

/-- What is woken has waited, and waits no more. -/
theorem Woken.wakes (woken : scene.Woken event after id) (sound : scene.IsSound)
    (asks : scene.Asks event after) :
    (∃ v, scene.tables.Stores v ∧ v.id = id ∧ v.status = .waiting) ∧
      ∀ w, event.after.Stores w → w.id = id → w.status ≠ .waiting := by
  obtain ⟨ticket, rfl, granted, spent⟩ := woken
  rcases asks.acts.deals.claim_cases spent with ⟨_, same | ⟨_, _, v, wakes⟩⟩ | ⟨_, _, never, _⟩
  · rw [granted] at same
    cases same
  · obtain ⟨⟨now, saves⟩, held, owner, parked, row, rows, answered⟩ := wakes
    have keeps : v.Keeps (Sweep.wake v ticket now) := .of_same_context rfl rfl rfl rfl
    rcases asks.write_cases sound held keeps saves with ⟨_, rests⟩ | ⟨stores, replaced⟩
    · have walks := congrArg Standing.walking (rests (scene.station event.client).toStanding true)
      rw [answered] at walks
      cases walks
    · refine ⟨⟨v, stores, owner.symm, Task.status_of_isParkedOn parked⟩, fun w stored same => ?_⟩
      rcases (replaced w).mp stored with rfl | ⟨_, other⟩
      · exact Status.noConfusion
      · exact absurd (same.trans owner) other
  · exact absurd rfl never

/-- The client opens a first ticket with these terms for the execution that it traverses. -/
structure Opened (scene : Scene) (event : Event) (after : Except Failure (List Row) → Station)
    (terms : Terms) : Prop where
  asks : ∃ ticket : Ticket, event.query = .insert .tickets ticket.row ∧ ticket.IsNew ∧
    ticket.terms = terms
  walks : ∃ v, (scene.station event.client).walking = some v ∧ v.id = terms.executionId
  first : (scene.station event.client).desk.opened = none
  opens : (scene.next event after).Opens event.client terms

theorem opened_of_insert (asks : scene.Asks event after) {ticket : Ticket} (isNew : ticket.IsNew)
    (isInsert : event.query = .insert .tickets ticket.row) :
    scene.Opened event after ticket.terms := by
  obtain ⟨v, entered, same, enteredNew, walks, owner, _, first, desk⟩ :=
    asks.acts.deals.enters isInsert
  have terms : entered.terms = ticket.terms :=
    (same ▸ enteredNew.isFiled.bears).unique isNew.isFiled.bears
  have named : v.id = ticket.terms.executionId := by
    rw [← terms, ← owner]
    rfl
  refine ⟨⟨ticket, isInsert, isNew, rfl⟩, ⟨v, walks, named⟩, first, ⟨v, ?_, named⟩, entered,
    event.answer.isOk, ?_, terms⟩
  · rw [station_next, if_pos rfl, desk]
    exact walks
  · rw [station_next, if_pos rfl, desk]
    rfl

/-- A ticket that may wake its execution could do so before, or is a new one. -/
theorem live_cases (ledger : Ledger scene) (asks : scene.Asks event after)
    (live : (scene.next event after).Live terms) :
    scene.Live terms ∨ scene.Opened event after terms := by
  cases live with
  | pending row present bears waits =>
    change row ∈ event.after.ticketRows at present
    have before {row : Row} (old : row ∈ event.before.ticketRows) (bears : row.Bears terms)
        (waits : row.IsPending) : scene.Live terms := .pending row (asks.before ▸ old) bears waits
    cases ledger.claimed.filed.files asks with
    | aside same => exact .inl (before (same ▸ present) bears waits)
    | entry ticket isNew isInsert unknown stores =>
      rw [stores] at present
      rcases List.mem_append.mp present with old | new
      · exact .inl (before old bears waits)
      · rw [List.mem_singleton.mp new] at bears
        rw [← isNew.isFiled.bears.unique bears]
        exact .inr (opened_of_insert asks isNew isInsert)
    | mark filters changes status marks active stores =>
      rw [stores] at present
      obtain ⟨earlier, old, rfl⟩ := List.mem_map.mp present
      by_cases meant : selects filters earlier = true
      · exact absurd waits (Row.not_isPending_of_status (marks.status_of_selects meant) active)
      · rw [Row.revise_of_not meant] at bears waits
        exact .inl (before old bears waits)
  | granted i ticket claimed same =>
    left
    rw [station_next] at claimed
    split at claimed
    · next mine =>
      subst mine
      rcases asks.acts.deals.claim_cases claimed with
        ⟨_, before | ⟨spent, _⟩⟩ | ⟨isClaim, follows, _, listed⟩
      · exact .granted _ ticket before same
      · cases spent
      · have claims : event.Claims ticket.id := ⟨isClaim, follows⟩
        obtain ⟨⟨row, present, meant⟩, _⟩ := claims.finds asks.handles
        obtain ⟨isId, waits⟩ := selects_claim.mp meant
        rw [asks.before] at present
        obtain ⟨other, stored, bears⟩ := (ledger.listed _ ticket listed).1
        have only : other = row :=
          List.inj_on_of_nodup_map ledger.unique stored present (bears.id.trans isId.symm)
        rw [← same]
        exact .pending row present (only ▸ bears) waits
    · exact .granted i ticket claimed same

/-- A ticket that has woken its execution can do so no more. -/
theorem not_live_of_spent {scene : Scene} (grants : Grants scene) {i : Nat} {ticket : Ticket}
    (spent : (scene.station i).desk.claim = some (ticket, .spent)) : ¬ scene.Live ticket.terms := by
  intro live
  cases live with
  | pending row present bears waits =>
    exact (grants.taken spent trivial).marked row present bears.id waits
  | granted j other claimed same =>
    have sameId : ticket.id = other.id := congrArg Terms.id same.symm
    obtain rfl := grants.alone spent trivial claimed trivial sameId
    rw [spent] at claimed
    cases claimed

end Scene

/-- A ticket that may wake its execution fits it, and unless the execution is settled there is no
other. -/
structure Matched (scene : Scene) : Prop where
  fits : ∀ terms, scene.Live terms → scene.Fits terms
  alone : ∀ terms other, scene.Live terms → scene.Live other →
    terms.executionId = other.executionId → scene.Settled terms.executionId ∨ terms = other

namespace Matched

variable {scene : Scene} {event : Event} {after : Except Failure (List Row) → Station}
  {terms : Terms}

/-- No other ticket may wake an execution for which a first ticket is opened. -/
theorem not_live_of_opened (matched : Matched scene) (sound : scene.IsSound)
    (opened : scene.Opened event after terms) {other : Terms} (live : scene.Live other) :
    terms.executionId ≠ other.executionId := by
  intro same
  obtain ⟨v, walks, named⟩ := opened.walks
  cases matched.fits other live with
  | settled settled => exact settled.idle _ v walks (named.trans same)
  | parked w stores parked =>
    have sameId := parked.named.trans (same.symm.trans named.symm)
    exact sound.not_waiting walks stores sameId parked.waits
  | opens i opens =>
    obtain ⟨w, alsoWalks, alsoNamed⟩ := opens.walks
    obtain ⟨ticket, taken, isOpened, _⟩ := opens.opened
    obtain rfl := sound.alone i event.client w v alsoWalks walks
      (alsoNamed.trans (same.symm.trans named.symm))
    rw [opened.first] at isOpened
    cases isOpened

/-- A ticket that could wake its execution before a query, and still can, fits it after it. -/
theorem fits_next (matched : Matched scene) (sound : scene.IsSound)
    (grants : Grants (scene.next event after)) (asks : scene.Asks event after)
    (before : scene.Live terms) (live : (scene.next event after).Live terms) :
    (scene.next event after).Fits terms := by
  cases matched.fits terms before with
  | settled settled => exact .settled (settled.next sound asks)
  | opens i opens => exact opens.next sound asks
  | parked v stores parked =>
    rcases Scene.parked_next sound asks stores parked with fits | ⟨ticket, owner, granted, spent⟩
    · exact fits
    · -- The ticket that wakes the execution is the only one it has, and is spent now.
      have alsoLive : scene.Live ticket.terms := .granted _ ticket granted rfl
      rcases matched.alone terms ticket.terms before alsoLive owner.symm with settled | same
      · exact absurd parked.waits (settled.calm v stores parked.named)
      · rw [same] at live
        refine absurd live (Scene.not_live_of_spent grants (i := event.client) ?_)
        rw [Scene.station_next, if_pos rfl]
        exact spent

theorem next (matched : Matched scene) (sound : scene.IsSound) (ledger : Ledger scene)
    (grants : Grants (scene.next event after)) (asks : scene.Asks event after) :
    Matched (scene.next event after) where
  fits terms live := by
    rcases Scene.live_cases ledger asks live with before | opened
    · exact matched.fits_next sound grants asks before live
    · exact .opens event.client opened.opens
  alone terms other live alsoLive same := by
    rcases Scene.live_cases ledger asks live with before | opened
    · rcases Scene.live_cases ledger asks alsoLive with alsoBefore | alsoOpened
      · exact (matched.alone terms other before alsoBefore same).imp_left (·.next sound asks)
      · exact absurd same.symm (matched.not_live_of_opened sound alsoOpened before)
    · rcases Scene.live_cases ledger asks alsoLive with alsoBefore | alsoOpened
      · exact absurd same (matched.not_live_of_opened sound opened alsoBefore)
      · obtain ⟨ticket, isInsert, isNew, rfl⟩ := opened.asks
        obtain ⟨second, alsoInsert, alsoNew, rfl⟩ := alsoOpened.asks
        injection isInsert.symm.trans alsoInsert with _ sameRow
        exact .inr (isNew.isFiled.bears.unique (sameRow ▸ alsoNew.isFiled.bears))

/-- Where nothing was asked of the store, nothing changes for the tickets. -/
theorem still {scene' : Scene} (matched : Matched scene) (tables : scene'.tables = scene.tables)
    (still : ∀ i, (scene.station i).Still (scene'.station i)) : Matched scene' := by
  have live {terms : Terms} (live : scene'.Live terms) : scene.Live terms := by
    cases live with
    | pending row present bears waits => exact .pending row (tables ▸ present) bears waits
    | granted i ticket claimed same =>
      rw [(still i).claim] at claimed
      exact .granted i ticket claimed same
  have settled {id : String} (settled : scene.Settled id) : scene'.Settled id := by
    obtain ⟨⟨i, v, held, named⟩, idle, calm⟩ := settled
    refine ⟨⟨i, v, (still i).held held, named⟩, fun j w walks => ?_, tables ▸ calm⟩
    rw [(still j).walking] at walks
    exact idle j w walks
  refine ⟨fun terms isLive => ?_, fun terms other isLive alsoLive same =>
    (matched.alone terms other (live isLive) (live alsoLive) same).imp_left settled⟩
  cases matched.fits terms (live isLive) with
  | settled isSettled => exact .settled (settled isSettled)
  | parked v stores parked => exact .parked v (tables ▸ stores) parked
  | opens i opens =>
    refine .opens i ⟨?_, ?_⟩
    · rw [(still i).walking]
      exact opens.walks
    · rw [(still i).opened]
      exact opens.opened

end Matched

/-- What every run keeps that begins without executions and tickets. -/
structure Parking (scene : Scene) : Prop where
  sound : scene.IsSound
  ledger : Ledger scene
  matched : Matched scene

theorem Scene.kept_parking : Kept Parking := by
  intro scene scene' step parking
  have ledger := kept_ledger step parking.ledger
  refine ⟨kept_sound .exact step parking.sound, ledger, ?_⟩
  rcases step.still_or_asks with ⟨tables, _, still⟩ | ⟨event, after, asks, rfl⟩
  · exact parking.matched.still tables still
  · exact parking.matched.next parking.sound parking.ledger ledger.toGrants asks

theorem Parking.start {tables : Tables} {issued : List String}
    (noExecutions : tables.executionRows = []) (noTickets : tables.ticketRows = []) :
    Parking ⟨tables, issued, fun _ => .holding ∅, []⟩ := by
  have dead {terms : Terms} (live : Scene.Live ⟨tables, issued, fun _ => .holding ∅, []⟩ terms) :
      False := by
    cases live with
    | pending row present =>
      change row ∈ tables.ticketRows at present
      rw [noTickets] at present
      cases present
    | granted i ticket claimed => cases claimed
  exact ⟨.start noExecutions, .start noTickets, fun terms live => (dead live).elim,
    fun terms other live => (dead live).elim⟩

end MessageFlow
