import Mathlib.Logic.Relation
import MessageFlow.Proofs.Interleaving.Schedule
import MessageFlow.Proofs.Traversal.Pace

/-!
How far a traversal may be ahead of the store. Main statement: whatever the store answers and the
other writers do, all nodes that the traversal has entered but the last one are in the stored trail,
and after a write that does not succeed it asks nothing and enters no node.
-/

namespace MessageFlow

/-- The ids of the visited nodes, as the row has them. -/
def Row.trail (row : Row) : List Json :=
  (match row.get "previous_node_ids" with
    | .list items => items
    | _ => []) ++ [row.get "current_node_id"]

namespace Execution

/-- No extra is named as the identity or as a part of the trail. A row gives rise to such an extra
only if it has one of these fields under both its names. -/
structure Clear (e : Execution) : Prop where
  id : Field.id.column ∉ e.extras.map Prod.fst
  previousNodeIds : Field.previousNodeIds.column ∉ e.extras.map Prod.fst
  currentNodeId : Field.currentNodeId.column ∉ e.extras.map Prod.fst

variable {v e : Execution} {entered : List String}

theorem Clear.carried (clear : v.Clear) (carries : v.Carries entered e) : e.Clear := by
  obtain ⟨id, previousNodeIds, currentNodeId⟩ := clear
  rw [← carries.extras] at id previousNodeIds currentNodeId
  exact ⟨id, previousNodeIds, currentNodeId⟩

theorem Clear.get_id_writeOver (clear : e.Clear) (row : Row) :
    (e.writeOver row).get "id" = .text e.id := by
  have written : (Field.id, Json.text e.id) ∈ e.fields .columns := by simp [fields]
  have found : Entries.get? (e.writeOver row) "id" = some (.text e.id) :=
    get?_writeOver (get?_row written clear.id) (by decide)
  rw [Row.get, found]
  rfl

theorem Clear.trail_writeOver (clear : e.Clear) (row : Row) :
    (e.writeOver row).trail = e.trail.map .text := by
  have previous : (Field.previousNodeIds, Json.ofTexts e.previousNodeIds) ∈ e.fields .columns := by
    simp [fields]
  have current : (Field.currentNodeId, Json.text e.currentNodeId) ∈ e.fields .columns := by
    simp [fields]
  have foundPrevious : Entries.get? (e.writeOver row) "previous_node_ids" =
      some (.ofTexts e.previousNodeIds) :=
    get?_writeOver (get?_row previous clear.previousNodeIds) (by decide)
  have foundCurrent : Entries.get? (e.writeOver row) "current_node_id" =
      some (.text e.currentNodeId) :=
    get?_writeOver (get?_row current clear.currentNodeId) (by decide)
  rw [Row.trail, Row.get, Row.get, foundPrevious, foundCurrent, Execution.trail, List.map_append]
  rfl

end Execution

namespace Tables

/-- The stored trail of the execution contains all these nodes. -/
def Records (tables : Tables) (id : String) (nodeIds : List String) : Prop :=
  nodeIds = [] ∨ ∃ row ∈ tables.executionRows, row.get "id" = .text id ∧
    ∀ nodeId ∈ nodeIds, .text nodeId ∈ row.trail

/-- Every stored execution is kept, with all nodes of its trail. -/
def KeepTrails (before after : Tables) : Prop :=
  ∀ row ∈ before.executionRows, ∃ kept ∈ after.executionRows,
    kept.get "id" = row.get "id" ∧ ∀ node ∈ row.trail, node ∈ kept.trail

instance (tables : Tables) (id : String) (nodeIds : List String) :
    Decidable (tables.Records id nodeIds) :=
  inferInstanceAs (Decidable (nodeIds = [] ∨ ∃ row ∈ tables.executionRows,
    row.get "id" = .text id ∧ ∀ nodeId ∈ nodeIds, Json.text nodeId ∈ row.trail))

instance (before after : Tables) : Decidable (KeepTrails before after) :=
  inferInstanceAs (Decidable (∀ row ∈ before.executionRows, ∃ kept ∈ after.executionRows,
    kept.get "id" = row.get "id" ∧ ∀ node ∈ row.trail, node ∈ kept.trail))

variable {before after : Tables} {id : String} {nodeIds : List String}

theorem Records.kept (records : before.Records id nodeIds) (keeps : before.KeepTrails after) :
    after.Records id nodeIds := by
  rcases records with none | ⟨row, present, isId, visited⟩
  · exact .inl none
  · obtain ⟨kept, stored, sameId, sameTrail⟩ := keeps row present
    exact .inr ⟨kept, stored, sameId.trans isId, fun nodeId isNode =>
      sameTrail _ (visited nodeId isNode)⟩

end Tables

section save

variable {v e : Execution} {entered : List String} {before after : Tables}
  {answer : Except Failure (List Row)}

/-- A write loses none of the nodes that were entered, whatever becomes of it. -/
theorem Tables.Records.saved {nodeIds : List String} (records : before.Records v.id nodeIds)
    (subset : nodeIds ⊆ entered) (clear : v.Clear) (carries : v.Carries entered e)
    (handles : (Store.saveQuery e).Handles before after answer) : after.Records v.id nodeIds := by
  rcases handles.after_cases with rfl | rfl
  · exact records
  · rcases records with none | ⟨row, present, isId, visited⟩
    · exact .inl none
    · have stored : e.overwrite row ∈ ((Store.saveQuery e).run before).2.executionRows := by
        rw [e.executionRows_run_save]
        exact List.mem_map_of_mem present
      refine .inr ⟨_, stored, ?_⟩
      have written := clear.carried carries
      unfold Execution.overwrite
      split
      · rw [written.get_id_writeOver, written.trail_writeOver, carries.id]
        exact ⟨rfl, fun nodeId isNode =>
          List.mem_map_of_mem (carries.trail nodeId (subset isNode))⟩
      · exact ⟨isId, visited⟩

/-- A write that succeeds writes all nodes down. -/
theorem Tables.records_of_saved {row : Row} {rows : List Row} (clear : v.Clear)
    (carries : v.Carries entered e)
    (handles : (Store.saveQuery e).Handles before after (.ok (row :: rows))) :
    after.Records v.id entered := by
  have written := clear.carried carries
  obtain ⟨answered, rfl⟩ := handles.served_of_rows rfl
  rw [e.run_save] at answered
  have isWritten : row ∈ (before.executionRows.filter e.isWrittenOver).map e.writeOver := by
    rw [answered]
    exact .head rows
  obtain ⟨earlier, isMeant, rfl⟩ := List.mem_map.mp isWritten
  obtain ⟨present, meant⟩ := List.mem_filter.mp isMeant
  have stored : e.writeOver earlier ∈ ((Store.saveQuery e).run before).2.executionRows := by
    have overwritten : e.overwrite earlier = e.writeOver earlier := if_pos meant
    rw [e.executionRows_run_save, ← overwritten]
    exact List.mem_map_of_mem present
  refine .inr ⟨_, stored, ?_⟩
  rw [written.get_id_writeOver, written.trail_writeOver, carries.id]
  exact ⟨rfl, fun nodeId isNode => List.mem_map_of_mem (carries.trail nodeId isNode)⟩

end save

/-- The query is a write of an execution that did not succeed. -/
def Query.failsToWrite (query : Query) (answer : Except Failure (List Row)) : Bool :=
  match query, answer with
  | .update .executions _ _, .ok (_ :: _) => false
  | .update .executions _ _, _ => true
  | _, _ => false

theorem Query.failsToWrite_of_ne {query : Query} (elsewhere : query.table ≠ .executions)
    (answer : Except Failure (List Row)) : query.failsToWrite answer = false := by
  unfold failsToWrite
  split
  · rfl
  · exact absurd rfl elsewhere
  · rfl

namespace Pace

variable {answer : Except Failure (List Row)}

theorem afterSave_of_fails {e : Execution}
    (fails : (Store.saveQuery e).failsToWrite answer = true) : afterSave answer = .over := by
  rcases answer with failure | _ | ⟨row, rows⟩
  · rfl
  · rfl
  · cases fails

theorem rows_of_afterSave (level : afterSave answer = .level) :
    ∃ row rows, answer = .ok (row :: rows) := by
  rcases answer with failure | _ | ⟨row, rows⟩
  · cases level
  · cases level
  · exact ⟨row, rows, rfl⟩

end Pace

/-- A journey under way, with the store. -/
structure Moment where
  journey : Journey (Except Failure Unit × Execution)
  tables : Tables
  /-- The nodes that were executed so far. -/
  entered : List Node := []
  /-- Whether a write has not succeeded. -/
  failed : Bool := false

namespace Moment

/-- The journey goes on, with any answer to what it asks, or someone else writes. -/
inductive Step : Moment → Moment → Prop
  | enter (node : Node) (rest : Journey (Except Failure Unit × Execution)) (tables : Tables)
    (entered : List Node) (failed : Bool) :
    Step ⟨.enter node rest, tables, entered, failed⟩ ⟨rest, tables, entered ++ [node], failed⟩
  | query (query : Query)
    (next : Except Failure (List Row) → Journey (Except Failure Unit × Execution))
    (before after : Tables) (answer : Except Failure (List Row)) (entered : List Node)
    (failed : Bool) (handles : query.Handles before after answer) :
    Step ⟨.ask (.query query) next, before, entered, failed⟩
      ⟨next answer, after, entered, failed || query.failsToWrite answer⟩
  | outside (request : Request)
    (next : request.Answer → Journey (Except Failure Unit × Execution)) (answer : request.Answer)
    (tables : Tables) (entered : List Node) (failed : Bool)
    (noQuery : ∀ query, request ≠ .query query) :
    Step ⟨.ask request next, tables, entered, failed⟩ ⟨next answer, tables, entered, failed⟩
  | others (moment : Moment) (after : Tables) (keeps : moment.tables.KeepTrails after) :
    Step moment { moment with tables := after }

def Reaches : Moment → Moment → Prop := Relation.ReflTransGen Step

/-- The ids of the executed nodes. -/
def visited (moment : Moment) : List String := moment.entered.map (·.id)

variable {v : Execution} {moment moment' : Moment}

/-- What holds of the journey of `v` at every moment. -/
structure Paced (v : Execution) (moment : Moment) (pace : Pace) : Prop where
  keeps : moment.journey.Keeps v moment.visited pace
  failed : moment.failed = true → pace = .over
  level : v.Clear → pace = .level → moment.tables.Records v.id moment.visited
  behind : v.Clear → moment.tables.Records v.id moment.visited.dropLast
  writable : DocumentType.isWritable v = false →
    (pace = .level → moment.entered = []) ∧ moment.entered.length ≤ 1

theorem Paced.step {pace : Pace} (paced : moment.Paced v pace) (step : Step moment moment') :
    ∃ pace', moment'.Paced v pace' := by
  obtain ⟨keeps, failed, level, behind, writable⟩ := paced
  cases step with
  | enter node rest tables entered hasFailed =>
    obtain ⟨rfl, keeps⟩ := keeps
    have visited : (entered ++ [node]).map (·.id) = entered.map (·.id) ++ [node.id] :=
      List.map_append
    refine ⟨.ahead, ?_, ?_, nofun, ?_, ?_⟩
    · change rest.Keeps v ((entered ++ [node]).map (·.id)) .ahead
      rw [visited]
      exact keeps
    · intro hasFailed
      cases failed hasFailed
    · intro clear
      change tables.Records v.id ((entered ++ [node]).map (·.id)).dropLast
      rw [visited, List.dropLast_concat]
      exact level clear rfl
    · intro unwritable
      refine ⟨nofun, ?_⟩
      obtain rfl : entered = [] := (writable unwritable).1 rfl
      exact le_rfl
  | query query next before after answer entered hasFailed handles =>
    obtain ⟨then?, permits, rest⟩ := keeps
    have goes := rest answer handles.mayAnswer
    cases permits with
    | aside _ goesOn spares =>
      have kept {nodeIds : List String} (records : before.Records v.id nodeIds) :
          after.Records v.id nodeIds := by
        rw [Tables.Records, handles.executionRows_of_ne spares]
        exact records
      refine ⟨pace, goes, ?_, fun clear same => kept (level clear same),
        fun clear => kept (behind clear), writable⟩
      rw [query.failsToWrite_of_ne spares, Bool.or_false]
      exact failed
    | save e goesOn carries canWrite =>
      have unwritable (tooDeep : DocumentType.isWritable v = false) : False := by
        rw [canWrite] at tooDeep
        cases tooDeep
      refine ⟨Pace.afterSave answer, goes, ?_, ?_, ?_, fun tooDeep => (unwritable tooDeep).elim⟩
      · intro failsNow
        rcases Bool.or_eq_true_iff.mp failsNow with earlier | now
        · exact absurd (failed earlier) goesOn
        · exact Pace.afterSave_of_fails now
      · intro clear isLevel
        obtain ⟨row, rows, rfl⟩ := Pace.rows_of_afterSave isLevel
        exact Tables.records_of_saved clear carries handles
      · intro clear
        exact (behind clear).saved (List.dropLast_subset _) clear carries handles
  | outside request next answer tables entered hasFailed noQuery =>
    obtain ⟨then?, permits, rest⟩ := keeps
    cases permits with
    | aside _ goesOn spares =>
      have may : request.MayAnswer answer := Request.mayAnswer_of_noQuery noQuery answer
      exact ⟨pace, rest answer may, failed, level, behind, writable⟩
    | save => exact absurd rfl (noQuery _)
  | others _ after trails =>
    exact ⟨pace, keeps, failed, fun clear same => (level clear same).kept trails,
      fun clear => (behind clear).kept trails, writable⟩

theorem Paced.reaches {pace : Pace} (paced : moment.Paced v pace)
    (reaches : Reaches moment moment') : ∃ pace', moment'.Paced v pace' := by
  induction reaches with
  | refl => exact ⟨pace, paced⟩
  | tail earlier step ih =>
    obtain ⟨pace', paced'⟩ := ih
    exact paced'.step step

/-- Before the journey. -/
theorem paced_of_keeps {journey : Journey (Except Failure Unit × Execution)}
    (keeps : journey.Keeps v [] .level) (tables : Tables) :
    Paced v { journey, tables } .level where
  keeps := keeps
  failed := nofun
  level _ _ := .inl rfl
  behind _ := .inl rfl
  writable _ := ⟨fun _ => rfl, Nat.zero_le 1⟩

/-- The journey goes on by itself: its query is served, and all else is answered somehow. -/
def next : Moment → Moment
  | ⟨.done result, tables, entered, failed⟩ => ⟨.done result, tables, entered, failed⟩
  | ⟨.enter node rest, tables, entered, failed⟩ => ⟨rest, tables, entered ++ [node], failed⟩
  | ⟨.ask (.query query) next, tables, entered, failed⟩ =>
    let answer := Except.ok (query.run tables).1
    ⟨next answer, (query.run tables).2, entered, failed || query.failsToWrite answer⟩
  | ⟨.ask request next, tables, entered, failed⟩ =>
    ⟨next (Move.reply { client := 0 } request), tables, entered, failed⟩

theorem reaches_next (moment : Moment) : Reaches moment moment.next := by
  obtain ⟨journey, tables, entered, failed⟩ := moment
  cases journey with
  | done result => exact .refl
  | enter node rest => exact .single (.enter node rest tables entered failed)
  | ask request next =>
    cases request with
    | query query => exact .single (.query query next tables _ _ entered failed .served)
    | now | freshId | post | announce | complete | remembered | remember | forget =>
      exact .single (.outside _ next _ tables entered failed nofun)

theorem reaches_iterate (moment : Moment) (n : Nat) : Reaches moment (next^[n] moment) := by
  induction n with
  | zero => exact .refl
  | succ n ih =>
    rw [Function.iterate_succ_apply']
    exact ih.trans (reaches_next _)

end Moment

/-- At every moment of a traversal, whatever the store answers and whatever the other writers do
that leave the trails alone: once a write has not succeeded, the traversal has ended; and the stored
trail contains all nodes that were executed but the last one. Of an execution that is nested too
deep to be written at most one node is executed. -/
theorem one_node_ahead (deployment : Deployment) (account : Account) (flow : Option Flow)
    (v : Execution) (tables : Tables) {moment : Moment}
    (reaches : Moment.Reaches { journey := .resume deployment account flow v, tables } moment) :
    (Journey.resume deployment account flow v).program v.id =
        Run.outcome v (Run.resume deployment account flow) ∧
      (moment.failed = true → ∃ result, moment.journey = .done result) ∧
      (v.Clear → moment.tables.Records v.id moment.visited.dropLast) ∧
      (DocumentType.isWritable v = false → moment.entered.length ≤ 1) := by
  have begins := Moment.paced_of_keeps (Journey.resume_keeps deployment account flow v) tables
  -- After a failed write the pace is `over`, and only a journey that has ended keeps it.
  obtain ⟨pace, keeps, failed, _, behind, writable⟩ := begins.reaches reaches
  refine ⟨Journey.program_resume flow v, ?_, behind, fun tooDeep => (writable tooDeep).2⟩
  intro hasFailed
  rw [failed hasFailed] at keeps
  exact Journey.done_of_over keeps

namespace Example

/-- A flow with two tags one after the other. -/
def tour : Row :=
  [("id", .text "flow"), ("account_id", .text "account"), ("name", .text "Tour"),
    ("nodes", .list [
      .record [("id", .text "begin"), ("type", .text "trigger"), ("data", .record [])],
      .record [("id", .text "first"), ("type", .text "action"), ("data", .record
        [("action_type", .text "add_tag"), ("tag", .text "seen")])],
      .record [("id", .text "second"), ("type", .text "action"), ("data", .record
        [("action_type", .text "add_tag"), ("tag", .text "seen again")])]]),
    ("edges", .list [
      .record [("source", .text "begin"), ("target", .text "first")],
      .record [("source", .text "first"), ("target", .text "second")]])]

def tourist : Execution where
  id := "execution"
  flowId := "flow"
  userId := none
  accountId := "account"
  senderId := "sender"
  senderUsername := none
  currentNodeId := "begin"

/-- The execution sets out. -/
def departure (v : Execution) : Moment where
  journey := .resume deployment { id := "account" } none v
  tables := { flows := ⟨[tour], 0⟩, executions := ⟨[v.row], 0⟩ }

/-- Both nodes were entered, and only the first is written down. -/
def underway : Moment := Moment.next^[5] (departure tourist)

/-- Someone else has written over the execution, at that moment. -/
def disturbed : Moment :=
  { underway with
    tables := { underway.tables with executions :=
      ⟨underway.tables.executionRows.map fun row => Entries.set row "revision" (.int 7), 0⟩ } }

/-- A tourist that was read from a row with two lists of visited nodes. -/
def stray : Execution := { tourist with extras := [("previous_node_ids", .list [])] }

end Example

open Example in
/-- A write between the two nodes: the second one is executed, its write fails, and the stored trail
ends with the first. -/
theorem one_node_ahead_tour : ∃ moment, Moment.Reaches (departure tourist) moment ∧
    tourist.Clear ∧ moment.visited = ["first", "second"] ∧ moment.failed = true ∧
    (∃ result, moment.journey = .done result) ∧ moment.tables.Records "execution" ["first"] ∧
    ¬ moment.tables.Records "execution" ["first", "second"] := by
  have disturbs : Moment.Reaches underway disturbed := .single (.others _ _ (by decide +kernel))
  have reaches : Moment.Reaches (departure tourist) (Moment.next^[2] disturbed) :=
    ((departure tourist).reaches_iterate 5).trans (disturbs.trans (disturbed.reaches_iterate 2))
  have clear : tourist.Clear := ⟨List.not_mem_nil, List.not_mem_nil, List.not_mem_nil⟩
  have visited : (Moment.next^[2] disturbed).visited = ["first", "second"] := by decide +kernel
  have failed : (Moment.next^[2] disturbed).failed = true := by decide +kernel
  obtain ⟨_, ends, records, _⟩ :=
    one_node_ahead deployment { id := "account" } none tourist _ reaches
  have recorded := records clear
  rw [visited] at recorded
  exact ⟨_, reaches, clear, visited, failed, ends failed, recorded, by decide +kernel⟩

open Example in
/-- An extra that is named as the visited nodes is written in their place. -/
theorem not_always_one_node_ahead : ¬ ∀ (deployment : Deployment) (account : Account)
    (flow : Option Flow) (v : Execution) (tables : Tables) (moment : Moment),
    Moment.Reaches { journey := .resume deployment account flow v, tables } moment →
      moment.tables.Records v.id moment.visited.dropLast := by
  intro always
  have records := always _ _ _ _ _ _ ((departure stray).reaches_iterate 7)
  revert records
  decide +kernel

end MessageFlow
