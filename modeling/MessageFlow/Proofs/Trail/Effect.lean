import MessageFlow.Proofs.Trail.Survey

/-!
The trails of a flow are on charts, and so are the ways of all traversals: what a party keeps with
every query as long as the flow is not edited.
-/

namespace MessageFlow

theorem Execution.not_spares_save (e : Execution) :
    ¬ ∀ tables, ((Store.saveQuery e).run tables).2.executionRows = tables.executionRows := by
  intro spares
  let row : Row := [("id", .text e.id), ("revision", .int e.revision)]
  have meant : e.isWrittenOver row = true :=
    isWrittenOver_iff.mpr ⟨rfl, Json.same_int.mpr rfl⟩
  have same := spares { executions := ⟨[row], 0⟩ }
  rw [e.executionRows_run_save] at same
  exact Execution.overwrite_ne meant (List.cons.inj same).1

/-- The rows of an answer are rows of the table. -/
theorem Query.Handles.mem_of_select {table : Table} {filters : List Filter}
    {order : Option SortOrder} {limit : Option Int} {before after : Tables} {rows : List Row}
    (handles : (Query.select table filters order limit).Handles before after (.ok rows))
    {row : Row} (present : row ∈ rows) : row ∈ before.rows table := by
  cases rows with
  | nil => cases present
  | cons first rest =>
    rw [← (handles.served_of_rows rfl).1] at present
    exact Query.mem_of_mem_select present

namespace Scene.Asks

variable {scene : Scene} {event : Event} {after : Except Failure (List Row) → Station}

/-- A query of another table ends the traversal of its client, or leaves it as it is. -/
theorem walking_of_ne (asks : scene.Asks event after)
    (elsewhere : event.query.table ≠ .executions) :
    (after event.answer).walking = none ∨
      (after event.answer).walking = (scene.station event.client).walking := by
  cases asks.acts.treats with
  | aside spares goes => exact (goes event.answer).imp_right (·.1)
  | create e creates => exact absurd (congrArg Query.table creates) elsewhere
  | write v e goesOn desk saves => exact absurd (congrArg Query.table saves) elsewhere

/-- A write of an execution over a copy either lets its client rest and changes nothing, or the copy
is the stored version and is replaced. -/
theorem save_cases (sound : scene.IsSound) (asks : scene.Asks event after) {v e : Execution}
    (saves : event.query = Store.saveQuery e) (held : v ∈ (scene.station event.client).held)
    (keeps : v.Keeps e) :
    ((∀ w, event.after.Stores w ↔ scene.tables.Stores w) ∧
      (after event.answer).walking = none) ∨
    ∃ e' goesOn desk,
      event.task.Writes (scene.station event.client) v e' goesOn desk ∧ e'.saved = e.saved ∧
      scene.tables.Stores v ∧
      (∀ w, event.after.Stores w ↔ w = e.saved ∨ (scene.tables.Stores w ∧ w.id ≠ v.id)) ∧
      ∀ w, (after event.answer).walking = some w →
        w = e.saved ∧ goesOn = true ∧ ∃ row rows, event.answer = .ok (row :: rows) := by
  cases asks.acts.treats with
  | aside spares goes =>
    rw [saves] at spares
    exact absurd spares e.not_spares_save
  | create f creates =>
    rw [saves] at creates
    cases creates
  | write u e' goesOn desk saves' held' writes goes =>
    have same : Store.saveQuery e' = Store.saveQuery e := saves'.symm.trans saves
    have named : u.id = v.id :=
      writes.keeps.id.symm.trans ((Execution.saveQuery_id same).trans keeps.id)
    rcases asks.write_cases sound held' writes.keeps saves' with
      ⟨unchanged, rests⟩ | ⟨storesU, replaced'⟩
    · refine .inl ⟨unchanged, ?_⟩
      rw [goes, rests]
      rfl
    right
    have stored : event.after.Stores e'.saved := (replaced' e'.saved).mpr (.inl rfl)
    rcases asks.write_cases sound held keeps saves with ⟨unchanged, _⟩ | ⟨storesV, replaced⟩
    -- What was written is stored now, so it was not refused.
    · have before := (unchanged e'.saved).mp stored
      have isU : e'.saved = u := before.eq_of_id sound.unique storesU writes.keeps.id
      have revision : e'.revision + 1 = u.revision := congrArg Execution.revision isU
      rw [writes.keeps.revision] at revision
      omega
    · obtain rfl : u = v := storesU.eq_of_id sound.unique storesV named
      have written : e'.saved = e.saved := by
        rcases (replaced e'.saved).mp stored with same | ⟨_, other⟩
        · exact same
        · exact absurd writes.keeps.id other
      refine ⟨e', goesOn, desk, writes, written, storesV, replaced, fun w walks => ?_⟩
      rw [goes] at walks
      obtain ⟨rfl, goesOn⟩ := Standing.walking_afterSave walks
      refine ⟨written, goesOn, ?_⟩
      rcases answered : event.answer with failure | _ | ⟨row, rows⟩
      · rw [answered] at walks
        cases walks
      · rw [answered] at walks
        cases walks
      · exact ⟨row, rows, rfl⟩

/-- A stored execution of which a client has a copy was stored before the query, in a version of the
same flow. -/
theorem stored_of_held (sound : scene.IsSound) (asks : scene.Asks event after) {j : Nat}
    {u w : Execution} (held : u ∈ (scene.station j).held) (stored : event.after.Stores w)
    (same : w.id = u.id) : ∃ v, scene.tables.Stores v ∧ v.id = w.id ∧ v.flowId = w.flowId := by
  cases asks.acts.treats with
  | aside spares goes => exact ⟨w, (asks.stores_iff_of_spares spares w).mp stored, rfl, rfl⟩
  | create e creates idle reserved isNew goes =>
    rcases (asks.stores_of_create creates isNew).2 w stored with old | rfl
    · exact ⟨w, old, rfl, rfl⟩
    · exact absurd same.symm ((sound.reserves _ _ reserved).2.2.1 j u held)
  | write v e goesOn desk saves held writes goes =>
    rcases asks.write_cases sound held writes.keeps saves with ⟨unchanged, _⟩ | ⟨stores, replaced⟩
    · exact ⟨w, (unchanged w).mp stored, rfl, rfl⟩
    · rcases (replaced w).mp stored with rfl | ⟨old, _⟩
      · exact ⟨v, stores, writes.keeps.id.symm, writes.flowId.symm⟩
      · exact ⟨w, old, rfl, rfl⟩

end Scene.Asks

namespace Party

/-- What is known of a flow and of the trails of its executions. -/
structure Surveyed (flow : Flow) (party : Party) : Prop where
  scheduled : party.toScene.Scheduled
  seen : ∀ i, (party.track i).seen ⊆ (party.station i).held
  sameFlow : ∀ i, ∀ u ∈ (party.track i).seen, ∀ v, party.tables.Stores v → v.id = u.id →
    v.flowId = u.flowId
  told : ∀ i, ∀ other ∈ (party.track i).told, other.id = flow.id → flow.SharesGraph other
  stored : ∀ v, party.tables.Stores v → v.flowId = flow.id → flow.Surveys party.past v []
  walking : ∀ i v, (party.station i).walking = some v → ∃ way,
    (party.track i).way = some (v, way) ∧ ∀ w, party.tables.Stores w → w.id = v.id →
      w.flowId = flow.id → flow.Surveys party.past v way

/-- What a query makes of the stored executions, and of the traversal of its client. -/
inductive Effect (flow : Flow) (party : Party) (event : Event) (s : Station) (c : Track) : Prop
  | stays (unchanged : ∀ w, event.after.Stores w ↔ party.tables.Stores w)
    (goes : s.walking = none ∨ (s.walking = (party.station event.client).walking ∧
      c.way = (party.track event.client).way))
  | creates (e : Execution) (way : List Stop)
    (stored : ∀ w, event.after.Stores w → w = e ∨ (party.tables.Stores w ∧ w.id ≠ e.id))
    (surveys : event.after.Stores e → e.flowId = flow.id →
      flow.Surveys (party.past ++ [event]) e way)
    (goes : ∀ w, s.walking = some w → w = e ∧ c.way = some (e, way))
  | writes (v e : Execution) (way : List Stop) (before : party.tables.Stores v)
    (replaced : ∀ w, event.after.Stores w ↔ w = e ∨ (party.tables.Stores w ∧ w.id ≠ v.id))
    (sameId : e.id = v.id) (sameFlow : e.flowId = v.flowId)
    (surveys : v.flowId = flow.id → flow.Surveys (party.past ++ [event]) e [])
    (goes : ∀ w, s.walking = some w → w = e ∧ c.way = some (e, way) ∧
      (v.flowId = flow.id → flow.Surveys (party.past ++ [event]) e way))

namespace Surveyed

variable {flow : Flow} {party : Party} {event : Event}
  {after : Except Failure (List Row) → Station} (surveyed : party.Surveyed flow)
include surveyed

theorem sharesGraph (shows : event.Shows flow) {other : Flow}
    (told : event.task.Told (party.track event.client) other) (isFlow : other.id = flow.id) :
    flow.SharesGraph other := by
  rcases told with given | told
  · exact shows.given other given isFlow
  · exact surveyed.told _ other told isFlow

variable (asks : party.toScene.Asks event after)
include asks

theorem effect_create (shows : event.Shows flow) {e : Execution} {other : Flow}
    {brought : TriggerEvent} {keywords : List String} {trigger : Node} {rest : List Node}
    (asked : event.query = .insert .executions e.row) (isNew : e.IsNew)
    (told : event.task.Told (party.track event.client) other)
    (brings : event.task.Brings brought keywords)
    (fires : brought.triggers keywords other = trigger :: rest) (ofFlow : e.flowId = other.id)
    (starts : e.currentNodeId = trigger.id) :
    party.Effect flow event (after event.answer)
      ((party.track event.client).afterCreation e event.answer) := by
  have acts := asks.acts
  rw [asked] at acts
  obtain ⟨reserved, rfl⟩ := acts.reserved_of_creation isNew
  obtain ⟨_, unknown, _, _⟩ := surveyed.scheduled.sound.reserves _ _ reserved
  have here : e.outsetStop = ⟨trigger.id, none⟩ := by rw [Execution.outsetStop, starts]
  refine .creates e [e.outsetStop] (fun w stores => ?_) (fun stores isFlow => ?_) fun w walks => ?_
  · rcases (asks.stores_of_create asked isNew).2 w stores with old | new
    · refine .inr ⟨old, fun sameId => unknown w.row old.present ?_⟩
      rw [old.get_id, sameId]
    · exact .inl new
  · have shares := surveyed.sharesGraph shows told (ofFlow.symm.trans isFlow)
    have isStart : event.Starts flow e trigger := by
      refine ⟨asked, isFlow, ?_, stores, brought, keywords, rest, brings, ?_⟩
      · rw [asks.before]
        exact unknown
      · rw [← shares.triggers, fires]
    have isLast : event ∈ party.past ++ [event] := List.mem_append_right _ (.head [])
    have trail : e.trail = [trigger.id] := by
      rw [Execution.trail, isNew.previousNodeIds, starts]
      rfl
    rw [here]
    refine ⟨_, .start isLast isStart rfl, trail, List.Subset.refl _, fun _ => ?_⟩
    rw [here]
    exact .head []
  · cases answered : event.answer with
    | error failure =>
      rw [answered] at walks
      cases walks
    | ok rows =>
      rw [answered] at walks
      cases walks
      exact ⟨rfl, rfl⟩

/-- A write from outside does not move the execution, and what it lets go on was waiting. -/
theorem effect_write {v e : Execution} (asked : event.query = Store.saveQuery e)
    (outside : event.traversed = none) (seen : v ∈ (party.track event.client).seen)
    (keeps : v.Keeps e) :
    party.Effect flow event (after event.answer)
      ((party.track event.client).afterSave e [e.outsetStop] event.answer) := by
  have idle : (party.station event.client).walking = none := by
    rw [asks.label] at outside
    exact Option.map_eq_none_iff.mp outside
  rcases asks.save_cases surveyed.scheduled.sound asked (surveyed.seen _ seen) keeps with
    ⟨unchanged, rests⟩ | ⟨e', goesOn, desk, writes, written, before, replaced, goes⟩
  · exact .stays unchanged (.inl rests)
  obtain ⟨trail, waits, goesOn_waits⟩ := writes.stays idle (surveyed.scheduled.keeps v before)
  have trail : e.saved.trail = v.trail := written ▸ trail
  have waits : e.saved.status = .waiting → v.status = .waiting := written ▸ waits
  have surveys (ofFlow : v.flowId = flow.id) : flow.Surveys (party.past ++ [event]) v [] :=
    (surveyed.stored v before ofFlow).mono (List.subset_append_left _ _)
  refine .writes v e.saved [e.outsetStop] before replaced keeps.id ?_ (fun ofFlow => ?_)
    fun w walks => ?_
  · rw [← written]
    exact writes.flowId
  · exact (surveys ofFlow).remain keeps.id trail waits
  · obtain ⟨rfl, isGoing, row, rows, answered⟩ := goes w walks
    rw [answered]
    refine ⟨rfl, rfl, fun ofFlow => ?_⟩
    have here : e.outsetStop = v.outsetStop := Execution.outsetStop_of_trail trail
    rw [here]
    exact ((surveys ofFlow).setOut (goesOn_waits isGoing)).remain keeps.id trail waits

/-- The client goes the way of its track. -/
theorem walks_of_way {v : Execution} {way : List Stop} (inside : event.traversed = some v.id)
    (walks : (party.track event.client).way = some (v, way)) :
    (party.station event.client).walking = some v ∧
      (party.tables.Stores v → v.flowId = flow.id → flow.Surveys party.past v way) := by
  rw [asks.label] at inside
  obtain ⟨u, isWalking, _⟩ := Option.map_eq_some_iff.mp inside
  obtain ⟨_, onWay, surveys⟩ := surveyed.walking _ u isWalking
  rw [walks] at onWay
  cases onWay
  exact ⟨isWalking, fun stores => surveys v stores rfl⟩

/-- A write within a traversal, from the chart that goes with it. -/
theorem effect_within {v e : Execution} {way way' : List Stop}
    (asked : event.query = Store.saveQuery e) (inside : event.traversed = some v.id)
    (walks : (party.track event.client).way = some (v, way)) (keeps : v.Keeps e)
    (surveys : party.tables.Stores v → event.after.Stores e.saved → v.flowId = flow.id →
      flow.Surveys party.past v way → flow.Surveys (party.past ++ [event]) e.saved way') :
    party.Effect flow event (after event.answer)
      ((party.track event.client).afterSave e way' event.answer) := by
  obtain ⟨isWalking, onChart⟩ := surveyed.walks_of_way asks inside walks
  have held := (party.station event.client).walkingHeld v isWalking
  rcases asks.save_cases surveyed.scheduled.sound asked held keeps with
    ⟨unchanged, rests⟩ | ⟨e', goesOn, desk, writes, written, before, replaced, goes⟩
  · exact .stays unchanged (.inl rests)
  have stored : event.after.Stores e.saved := (replaced e.saved).mpr (.inl rfl)
  have surveys (ofFlow : v.flowId = flow.id) :
      flow.Surveys (party.past ++ [event]) e.saved way' :=
    surveys before stored ofFlow (onChart before ofFlow)
  refine .writes v e.saved way' before replaced keeps.id ?_ (fun ofFlow => (surveys ofFlow).forget)
    fun w walks => ?_
  · rw [← written]
    exact writes.flowId
  · obtain ⟨rfl, _, row, rows, answered⟩ := goes w walks
    rw [answered]
    exact ⟨rfl, rfl, surveys⟩

theorem effect_visit (shows : event.Shows flow) {v e : Execution} {way : List Stop} {other : Flow}
    {node : Node} (asked : event.query = Store.saveQuery e) (inside : event.traversed = some v.id)
    (walks : (party.track event.client).way = some (v, way))
    (knows : event.task.Knows (party.track event.client) other v.id)
    (follows : other.Follows way node) (visits : v.Visits node e) :
    party.Effect flow event (after event.answer) ((party.track event.client).afterSave e
      (way ++ [⟨node.id, node.branch? e.context⟩]) event.answer) := by
  refine surveyed.effect_within asks asked inside walks visits.keeps
    fun before stored ofFlow surveys => ?_
  obtain ⟨isWalking, _⟩ := surveyed.walks_of_way asks inside walks
  have active := surveyed.scheduled.sound.active _ v isWalking
  obtain ⟨u, seen, sameId, sameFlow⟩ := knows.seen
  have isFlow : other.id = flow.id :=
    (sameFlow.symm.trans (surveyed.sameFlow _ u seen v before sameId.symm).symm).trans ofFlow
  have shares := surveyed.sharesGraph shows knows.told isFlow
  exact surveys.visit active (shares.follows follows) asked (asks.before ▸ before) stored visits

theorem effect_stop {v e : Execution} {way : List Stop} (asked : event.query = Store.saveQuery e)
    (inside : event.traversed = some v.id)
    (walks : (party.track event.client).way = some (v, way)) (accompanies : v.Accompanies e)
    (ends : e.status ≠ .waiting) :
    party.Effect flow event (after event.answer)
      ((party.track event.client).afterSave e way event.answer) := by
  refine surveyed.effect_within asks asked inside walks accompanies.toKeeps fun _ _ _ surveys => ?_
  exact (surveys.mono (List.subset_append_left _ _)).remain accompanies.id accompanies.trail
    fun waits => absurd waits ends

theorem effect (shows : event.Shows flow) {goes : Except Failure (List Row) → Track}
    (roams : event.task.Roams (party.track event.client) event.traversed (.query event.query)
      goes) : party.Effect flow event (after event.answer) (goes event.answer) := by
  have stays {c : Track} (elsewhere : event.query.table ≠ .executions)
      (sameWay : c.way = (party.track event.client).way) :
      party.Effect flow event (after event.answer) c := by
    refine .stays (fun w => ?_) ((asks.walking_of_ne elsewhere).imp_right (⟨·, sameWay⟩))
    exact asks.stores_iff_of_spares (fun _ => event.query.rows_run_of_ne elsewhere) w
  generalize asked : event.query = query at roams
  cases roams with
  | aside _ spares => exact stays (asked ▸ spares) rfl
  | seek => exact stays (by rw [asked]; exact nofun) (Track.way_afterSeek _ _)
  | select =>
    have acts := asks.acts
    rw [asked] at acts
    obtain rfl := acts.eq_afterSelect
    refine .stays (asks.stores_iff_of_spares fun _ => by rw [asked]; rfl) (.inr ?_)
    cases event.answer with
    | error failure => exact ⟨rfl, rfl⟩
    | ok rows => exact ⟨rfl, rfl⟩
  | create e other brought keywords node rest isNew told brings fires ofFlow starts unmarked =>
    exact surveyed.effect_create asks shows asked isNew told brings fires ofFlow starts
  | write v e outside seen keeps => exact surveyed.effect_write asks asked outside seen keeps
  | visit v e way other node inside walks knows follows visits marks =>
    exact surveyed.effect_visit asks shows asked inside walks knows follows visits
  | stop v e way inside walks accompanies ends =>
    exact surveyed.effect_stop asks asked inside walks accompanies ends

/-- Of what a client has seen and has a copy, the flow is known. -/
theorem sameFlow_next {j : Nat} {u v : Execution} (seen : u ∈ (party.track j).seen)
    (stores : event.after.Stores v) (same : v.id = u.id) : v.flowId = u.flowId := by
  obtain ⟨before, stored, sameId, sameFlow⟩ :=
    asks.stored_of_held surveyed.scheduled.sound (surveyed.seen j seen) stores same
  rw [← sameFlow]
  exact surveyed.sameFlow j u seen before stored (sameId.trans same)

/-- What a client sees new, it has a copy of, and it is stored as it was seen. -/
theorem seen_next {goes : Except Failure (List Row) → Track}
    (roams : event.task.Roams (party.track event.client) event.traversed (.query event.query)
      goes) : ∀ u ∈ (goes event.answer).seen, u ∈ (after event.answer).held ∧
        ∀ v, event.after.Stores v → v.id = u.id → v.flowId = u.flowId := by
  have old (u : Execution) (seen : u ∈ (party.track event.client).seen) :
      u ∈ (after event.answer).held ∧
        ∀ v, event.after.Stores v → v.id = u.id → v.flowId = u.flowId :=
    ⟨asks.acts.held_subset event.answer (surveyed.seen _ seen),
      fun v stores same => surveyed.sameFlow_next asks seen stores same⟩
  have sound := surveyed.scheduled.sound
  have acts := asks.acts
  have handles := asks.handles
  generalize asked : event.query = query at roams
  rw [asked] at acts handles
  cases roams with
  | aside => exact old
  | seek =>
    rw [Track.seen_afterSeek]
    exact old
  | select filters order limit =>
    obtain rfl := acts.eq_afterSelect
    have unchanged := asks.stores_iff_of_spares fun _ => by rw [asked]; rfl
    cases answered : event.answer with
    | error failure =>
      rw [answered] at old
      exact old
    | ok rows =>
      rw [answered] at old handles
      rintro u (seen | ⟨row, present, reads⟩)
      · exact old u seen
      · refine ⟨.inr ⟨row, present, reads⟩, fun v stores same => ?_⟩
        have isRow : row ∈ party.tables.executionRows := asks.before ▸ handles.mem_of_select present
        obtain ⟨w, regular, rfl⟩ := sound.formed row isRow
        rw [Execution.read_row regular] at reads
        cases reads
        rw [((unchanged v).mp stores).eq_of_id sound.unique ⟨regular, isRow⟩ same]
  | create e other brought keywords node rest isNew told brings fires ofFlow starts unmarked =>
    obtain ⟨reserved, rfl⟩ := acts.reserved_of_creation isNew
    cases answered : event.answer with
    | error failure =>
      rw [answered] at old
      exact old
    | ok rows =>
      rw [answered] at old
      rintro u (rfl | seen)
      · refine ⟨Set.mem_insert u _, fun v stores same => ?_⟩
        rcases (asks.stores_of_create asked isNew).2 v stores with before | rfl
        · refine absurd ?_ ((sound.reserves _ _ reserved).2.1 v.row before.present)
          rw [before.get_id, same]
        · rfl
      · exact old u seen
  | write | visit | stop =>
    rw [Track.seen_afterSave]
    exact old

/-- Flows are read from the store, where the flow has its graph. -/
theorem told_next (shows : event.Shows flow) {goes : Except Failure (List Row) → Track}
    (roams : event.task.Roams (party.track event.client) event.traversed (.query event.query)
      goes) : ∀ other ∈ (goes event.answer).told, other.id = flow.id → flow.SharesGraph other := by
  have old := surveyed.told event.client
  have handles := asks.handles
  generalize asked : event.query = query at roams
  rw [asked] at handles
  cases roams with
  | aside => exact old
  | seek filters order limit =>
    cases answered : event.answer with
    | error failure => exact old
    | ok rows =>
      rw [answered] at handles
      rintro other (told | ⟨row, present, reads⟩) isFlow
      · exact old other told isFlow
      · exact shows.stored row (handles.mem_of_select present) other reads isFlow
  | select =>
    rw [Track.told_afterSelect]
    exact old
  | create =>
    rw [Track.told_afterCreation]
    exact old
  | write | visit | stop =>
    rw [Track.told_afterSave]
    exact old

omit asks in
theorem stored_next {s : Station} {c : Track} (effect : party.Effect flow event s c) (w : Execution)
    (stores : event.after.Stores w) (ofFlow : w.flowId = flow.id) :
    flow.Surveys (party.past ++ [event]) w [] := by
  have old (before : party.tables.Stores w) : flow.Surveys (party.past ++ [event]) w [] :=
    (surveyed.stored w before ofFlow).mono (List.subset_append_left _ _)
  cases effect with
  | stays unchanged goes => exact old ((unchanged w).mp stores)
  | creates e way stored surveys goes =>
    rcases stored w stores with rfl | ⟨before, _⟩
    · exact (surveys stores ofFlow).forget
    · exact old before
  | writes v e way before replaced sameId sameFlow surveys goes =>
    rcases (replaced w).mp stores with rfl | ⟨stored, _⟩
    · exact surveys (sameFlow.symm.trans ofFlow)
    · exact old stored

omit asks in
/-- The traversal of the client itself. -/
theorem walking_next {s : Station} {c : Track} (effect : party.Effect flow event s c)
    {v : Execution} (walks : s.walking = some v) :
    ∃ way, c.way = some (v, way) ∧ ∀ w, event.after.Stores w → w.id = v.id →
      w.flowId = flow.id → flow.Surveys (party.past ++ [event]) v way := by
  cases effect with
  | stays unchanged goes =>
    rcases goes with none | ⟨same, sameWay⟩
    · rw [none] at walks
      cases walks
    · obtain ⟨way, onWay, surveys⟩ := surveyed.walking event.client v (same.symm.trans walks)
      exact ⟨way, sameWay.trans onWay, fun w stores sameId ofFlow =>
        (surveys w ((unchanged w).mp stores) sameId ofFlow).mono (List.subset_append_left _ _)⟩
  | creates e way stored surveys goes =>
    obtain ⟨rfl, onWay⟩ := goes v walks
    refine ⟨way, onWay, fun w stores sameId ofFlow => ?_⟩
    rcases stored w stores with rfl | ⟨_, other⟩
    · exact surveys stores ofFlow
    · exact absurd sameId other
  | writes u e way before replaced sameId sameFlow surveys goes =>
    obtain ⟨rfl, onWay, onChart⟩ := goes v walks
    refine ⟨way, onWay, fun w stores same ofFlow => ?_⟩
    rcases (replaced w).mp stores with rfl | ⟨_, other⟩
    · exact onChart (sameFlow.symm.trans ofFlow)
    · exact absurd (same.trans sameId) other

/-- Every query keeps what is known. -/
theorem next (shows : event.Shows flow) {goes : Except Failure (List Row) → Track}
    (roams : event.task.Roams (party.track event.client) event.traversed (.query event.query)
      goes) : (party.next event after goes).Surveyed flow where
  scheduled := Scene.kept_scheduled (.query party.toScene event after asks) surveyed.scheduled
  seen i := by
    change _ ⊆ ((party.toScene.next event after).station i).held
    rw [track_next, Scene.station_next]
    split
    · exact fun u seen => (surveyed.seen_next asks roams u seen).1
    · exact surveyed.seen i
  sameFlow i u seen v stores same := by
    rw [track_next] at seen
    split at seen
    · exact (surveyed.seen_next asks roams u seen).2 v stores same
    · exact surveyed.sameFlow_next asks seen stores same
  told i := by
    rw [track_next]
    split
    · exact surveyed.told_next asks shows roams
    · exact surveyed.told i
  stored := surveyed.stored_next (surveyed.effect asks shows roams)
  walking i v walks := by
    change ((party.toScene.next event after).station i).walking = some v at walks
    rw [Scene.station_next] at walks
    rw [track_next]
    split at walks
    · next mine =>
      rw [if_pos mine]
      exact surveyed.walking_next (surveyed.effect asks shows roams) walks
    · next other =>
      rw [if_neg other]
      obtain ⟨way, onWay, surveys⟩ := surveyed.walking i v walks
      refine ⟨way, onWay, fun w stores sameId ofFlow => ?_⟩
      have held := (party.station i).walkingHeld v walks
      obtain ⟨before, stored, same, sameFlow⟩ :=
        asks.stored_of_held surveyed.scheduled.sound held stores sameId
      exact (surveys before stored (same.trans sameId) (sameFlow.trans ofFlow)).mono
        (List.subset_append_left _ _)

omit asks in
theorem enter {i : Nat} {task : Task} (free : party.station i = .holding ∅)
    (ready : task.Ready party.tables) : (party.enter i task).Surveyed flow where
  scheduled := Scene.kept_scheduled (.begin party.toScene i task free ready) surveyed.scheduled
  seen j := by
    change _ ⊆ ((party.toScene.move i task.outset).station j).held
    rw [track_enter, Scene.station_move]
    split
    · exact subset_rfl
    · exact surveyed.seen j
  sameFlow j u seen v stores same := by
    rw [track_enter] at seen
    split at seen
    · obtain ⟨row, present, reads⟩ := ready u seen
      obtain ⟨w, regular, rfl⟩ := surveyed.scheduled.sound.formed row present
      rw [Execution.read_row regular] at reads
      cases reads
      have stored : party.tables.Stores v := stores
      rw [stored.eq_of_id surveyed.scheduled.sound.unique ⟨regular, present⟩ same]
    · exact surveyed.sameFlow j u seen v stores same
  told j other told isFlow := by
    rw [track_enter] at told
    split at told
    · cases told
    · exact surveyed.told j other told isFlow
  stored := surveyed.stored
  walking j v walks := by
    change ((party.toScene.move i task.outset).station j).walking = some v at walks
    rw [Scene.station_move] at walks
    rw [track_enter]
    split at walks
    · cases walks
    · next other =>
      rw [if_neg other]
      exact surveyed.walking j v walks

omit asks in
/-- An id that is given to a client is nothing to the trails. -/
theorem freshId {i : Nat} {task : Task} {id : String} {after : String → Station}
    (acts : task.Acts (party.station i) .freshId after) (unissued : id ∉ party.issued)
    (unknown : ∀ row ∈ party.tables.executionRows, row.get "id" ≠ .text id) :
    Surveyed flow
      ⟨{ party.toScene.move i (after id) with issued := id :: party.issued }, party.track⟩ := by
  have still (j : Nat) :
      (party.station j).held ⊆ ((party.toScene.move i (after id)).station j).held ∧
        ((party.toScene.move i (after id)).station j).walking = (party.station j).walking := by
    rw [Scene.station_move]
    split
    · next mine =>
      subst mine
      cases acts with
      | aside _ apart => exact apart.elim
      | reserve idle => exact ⟨subset_rfl, rfl⟩
      | draw => exact ⟨subset_rfl, rfl⟩
    · exact ⟨subset_rfl, rfl⟩
  exact {
    scheduled := Scene.kept_scheduled
      (.freshId party.toScene i task id after acts unissued unknown) surveyed.scheduled
    seen j := (surveyed.seen j).trans (still j).1
    sameFlow := surveyed.sameFlow
    told := surveyed.told
    stored := surveyed.stored
    walking j v walks := surveyed.walking j v ((still j).2.symm.trans walks) }

end Surveyed

/-- As long as the flow is not edited, every step keeps what is known of it. -/
theorem kept_surveyed (flow : Flow) :
    Kept fun party => (∀ event ∈ party.past, event.Shows flow) → party.Surveyed flow := by
  intro party party' step holds
  cases step with
  | begin i task free ready => exact fun shows => (holds shows).enter free ready
  | freshId i task id after acts unissued unknown =>
    exact fun shows => (holds shows).freshId acts unissued unknown
  | query event after goes asks roams =>
    intro shows
    refine (holds fun earlier present => ?_).next asks (shows event ?_) roams
    · exact shows earlier (List.mem_append_left _ present)
    · exact List.mem_append_right _ (.head [])

end Party
end MessageFlow
