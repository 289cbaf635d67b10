import MessageFlow.Proofs.Interleaving.Schedule
import MessageFlow.Proofs.Validation.Task
import Mathlib.Logic.Relation

/-!
Runs in which neither the store nor anything outside fails, with an accepted flow in place. In them
no execution of the flow fails but at the step limit or at a delay that is too long.
-/

namespace MessageFlow

variable {watch : Watch} {owners : Owners} {sys sys' : System}

/-- An answer from outside that is no failure: nothing crashes, and whatever is posted for a
remembered account can be sent. -/
def Request.IsFair (deployment : Deployment) : (request : Request) → request.Answer → Prop
  | .post _, outcome | .announce _, outcome => outcome ≠ .crashed
  | .remembered _, found => ∀ account ∈ found, deployment.Delivers account
  | .query _, _ | .freshId, _ => False
  | .now, _ | .complete _, _ | .remember _ _, _ | .forget _, _ => True

theorem Request.IsFair.answers {request : Request} {answer : request.Answer}
    {next : request.Answer → Owners → Prop} (fair : request.IsFair watch.deployment answer)
    (upholds : request.Upholds watch owners next) : next answer owners := by
  cases request with
  | query | freshId => exact fair.elim
  | post | announce | remembered => exact upholds answer fair
  | now | complete => exact upholds answer
  | remember | forget => exact upholds

namespace Watch

/-- A client begins, or one client has one request answered; every query is served. -/
inductive Step (watch : Watch) : System → System → Prop
  | begin (sys : System) (task : Task) (suits : task.Suits watch) (ready : task.Ready sys.tables) :
    Step watch sys { sys with clients := sys.clients ++ [.begin watch.deployment task] }
  | query (sys : System) (i : Nat) (task : Task) (traversed : Option String) (query : Query)
    (next : Except Failure (List Row) → Program (Except Failure Task.Report))
    (asks : sys.clients[i]? = some ⟨task, .ask traversed (.query query) next⟩) :
    Step watch sys { sys with
      tables := (query.run sys.tables).2
      clients := sys.clients.set i ⟨task, next (.ok (query.run sys.tables).1)⟩ }
  | freshId (sys : System) (i : Nat) (task : Task) (traversed : Option String)
    (next : String → Program (Except Failure Task.Report)) (id : String)
    (asks : sys.clients[i]? = some ⟨task, .ask traversed .freshId next⟩) (fresh : sys.IsFresh id) :
    Step watch sys
      { sys with issued := id :: sys.issued, clients := sys.clients.set i ⟨task, next id⟩ }
  | outside (sys : System) (i : Nat) (task : Task) (traversed : Option String) (request : Request)
    (next : request.Answer → Program (Except Failure Task.Report)) (answer : request.Answer)
    (asks : sys.clients[i]? = some ⟨task, .ask traversed request next⟩)
    (fair : request.IsFair watch.deployment answer) :
    Step watch sys { sys with clients := sys.clients.set i ⟨task, next answer⟩ }

def Reaches (watch : Watch) : System → System → Prop := Relation.ReflTransGen watch.Step

/-- The tables in order before anything is done. Executions differ in their ids, their rows are in
columns, and their numbers have texts. -/
structure Begins (watch : Watch) : Prop where
  unique : watch.first.UniqueIds
  columnar : ∀ row ∈ watch.first.executionRows, row.IsColumnar
  finite : ∀ row ∈ watch.first.executionRows, Json.haveFinite row = true
  flows : watch.Shows (watch.first.rows .flows)
  leads : ∀ row ∈ watch.first.rows .leads, ∃ lead, Lead.read (.record row) = .valid lead
  accounts : ∀ row ∈ watch.first.rows .accounts, ∀ account,
    Account.read (.record row) = .valid account → watch.deployment.Delivers account

/-- What holds at every moment of such a run. -/
structure Steady (watch : Watch) (owners : Owners) (sys : System) : Prop where
  sound : watch.Sound owners sys.tables
  clients : ∀ client ∈ sys.clients, ∃ known, known ⊆ owners ∧
    client.program.Upholds watch known fun _ _ => True
  drawn : ∀ entry ∈ owners, entry.1 ∈ sys.issued ∨
    ∃ row ∈ watch.first.executionRows, row.get "id" = .text entry.1

/-- A new id is that of no execution whose flow is known. -/
theorem Steady.not_owned {id : String} (steady : watch.Steady owners sys) (fresh : sys.IsFresh id) :
    id ∉ owners.map Prod.fst := by
  intro owned
  obtain ⟨entry, present, rfl⟩ := List.mem_map.mp owned
  rcases steady.drawn entry present with issued | ⟨row, isRow, isId⟩
  · exact fresh.1 issued
  · obtain ⟨later, stored, same⟩ := steady.sound.kept row isRow
    exact fresh.2 later stored (same.trans isId)

/-- The other clients wait while one goes on. -/
theorem Steady.turn {later : Owners} {i : Nat} {client : Client} (steady : watch.Steady owners sys)
    (grows : owners ⊆ later) (goesOn : client.program.Upholds watch later fun _ _ => True) :
    ∀ other ∈ sys.clients.set i client, ∃ known, known ⊆ later ∧
      other.program.Upholds watch known fun _ _ => True := by
  intro other present
  rcases List.mem_or_eq_of_mem_set present with waits | rfl
  · obtain ⟨known, isKnown, upholds⟩ := steady.clients other waits
    exact ⟨known, List.Subset.trans isKnown grows, upholds⟩
  · exact ⟨later, List.Subset.refl later, goesOn⟩

/-- What a client asks for keeps the tables in order whoever was served before. -/
theorem Steady.asks {i : Nat} {task : Task} {traversed : Option String} {request : Request}
    {next : request.Answer → Program (Except Failure Task.Report)}
    (steady : watch.Steady owners sys)
    (asks : sys.clients[i]? = some ⟨task, .ask traversed request next⟩) :
    request.Upholds watch owners fun answer after =>
      (next answer).Upholds watch after fun _ _ => True := by
  obtain ⟨known, isKnown, upholds⟩ := steady.clients _ (List.mem_of_getElem? asks)
  exact upholds owners isKnown

theorem Steady.step (steady : watch.Steady owners sys) (step : watch.Step sys sys') :
    ∃ later, watch.Steady later sys' := by
  cases step with
  | begin task suits ready =>
    refine ⟨owners, steady.sound, ?_, steady.drawn⟩
    intro client present
    rcases List.mem_append.mp present with old | new
    · exact steady.clients client old
    · rw [List.mem_singleton.mp new]
      have given : ∀ v, task.given = some v → v.Proper owners := by
        intro v isGiven
        obtain ⟨row, stored, reads⟩ := ready v isGiven
        exact steady.sound.proper stored reads
      refine ⟨owners, List.Subset.refl owners, ?_⟩
      apply Program.upholds_mono (Task.operation_yields suits given)
      intro _ _ _ _
      trivial
  | query i task traversed query next asks =>
    obtain ⟨sound, goesOn⟩ := steady.asks asks sys.tables steady.sound
    exact ⟨owners, sound, steady.turn (List.Subset.refl owners) goesOn, steady.drawn⟩
  | freshId i task traversed next id asks fresh =>
    obtain ⟨flowId, goesOn⟩ := steady.asks asks
    have isNew := steady.not_owned fresh
    have grows : owners ⊆ (id, flowId) :: owners := List.subset_cons_self _ owners
    have agree : Owners.Agree ((id, flowId) :: owners) := steady.sound.agree.cons isNew flowId
    refine ⟨(id, flowId) :: owners, steady.sound.grow grows agree,
      steady.turn grows (goesOn id isNew), ?_⟩
    intro entry present
    rcases List.mem_cons.mp present with rfl | old
    · exact .inl (.head _)
    · exact (steady.drawn entry old).imp_left (List.mem_cons_of_mem id)
  | outside i task traversed request next answer asks fair =>
    have goesOn := fair.answers (steady.asks asks)
    exact ⟨owners, steady.sound, steady.turn (List.Subset.refl owners) goesOn, steady.drawn⟩

theorem Steady.reaches (steady : watch.Steady owners sys) (reaches : watch.Reaches sys sys') :
    ∃ later, watch.Steady later sys' := by
  induction reaches with
  | refl => exact ⟨owners, steady⟩
  | tail _ step ih =>
    obtain ⟨later, still⟩ := ih
    exact still.step step

/-- The flows of the executions that are stored at the beginning. -/
def firstOwners (watch : Watch) : Owners :=
  watch.first.executionRows.filterMap fun row =>
    (Execution.read (.record row)).toOption.map fun v => (v.id, v.flowId)

theorem mem_firstOwners {id flowId : String} : (id, flowId) ∈ watch.firstOwners ↔
    ∃ row ∈ watch.first.executionRows, ∃ v, Execution.read (.record row) = .valid v ∧
      v.id = id ∧ v.flowId = flowId := by
  simp only [firstOwners, List.mem_filterMap, Option.map_eq_some_iff, Prod.mk.injEq,
    Validated.toOption_eq_some]

theorem Begins.agree (begins : watch.Begins) : watch.firstOwners.Agree := by
  intro id flowId other isFirst isSecond
  obtain ⟨row, stored, v, reads, rfl, rfl⟩ := mem_firstOwners.mp isFirst
  obtain ⟨also, alsoStored, w, alsoReads, sameId, rfl⟩ := mem_firstOwners.mp isSecond
  have named : also.get "id" = row.get "id" := by
    rw [(Row.heads_of_read reads).id, (Row.heads_of_read alsoReads).id, sameId]
  obtain rfl := List.inj_on_of_nodup_map begins.unique alsoStored stored named
  cases reads.symm.trans alsoReads
  rfl

theorem Begins.steady (begins : watch.Begins) :
    watch.Steady watch.firstOwners (.start watch.first) where
  sound :=
    { agree := begins.agree
      executions := fun row stored =>
        { columnar := begins.columnar row stored
          finite := begins.finite row stored
          owned := fun v reads => mem_firstOwners.mpr ⟨row, stored, v, reads, rfl, rfl⟩
          spared := .inl stored }
      kept := fun row stored => ⟨row, stored, rfl⟩
      flows := begins.flows
      leads := begins.leads
      accounts := begins.accounts }
  clients := fun client none => absurd none List.not_mem_nil
  drawn := by
    intro entry present
    obtain ⟨row, stored, v, reads, id, _⟩ := mem_firstOwners.mp present
    refine .inr ⟨row, stored, ?_⟩
    rw [(Row.heads_of_read reads).id, id]

/-- Clients may begin in any order. -/
theorem reaches_begin (sys : System) {tasks : List Task}
    (suit : ∀ task ∈ tasks, task.Suits watch ∧ task.given = none) :
    watch.Reaches sys
      { sys with clients := sys.clients ++ tasks.map (.begin watch.deployment) } := by
  induction tasks generalizing sys with
  | nil =>
    rw [List.map_nil, List.append_nil]
    exact .refl
  | cons task tasks ih =>
    obtain ⟨suits, free⟩ := suit task (.head tasks)
    have ready : task.Ready sys.tables := by
      intro v given
      rw [free] at given
      cases given
    have others := ih { sys with clients := sys.clients ++ [.begin watch.deployment task] }
      fun other present => suit other (.tail task present)
    rw [List.append_assoc] at others
    exact .head (.begin sys task suits ready) others

theorem step_play (sys : System) (move : Move) :
    (sys.play move).2 = sys ∨ watch.Step sys (sys.play move).2 := by
  cases found : sys.clients[move.client]? with
  | none =>
    left
    simp only [System.play, found]
  | some client =>
    obtain ⟨task, program⟩ := client
    cases program with
    | done value =>
      left
      simp only [System.play, found]
    | ask traversed request next =>
      cases request with
      | query query =>
        right
        simp only [System.play, found]
        exact .query sys move.client task traversed query next found
      | freshId =>
        by_cases fresh : sys.IsFresh move.id
        · right
          simp only [System.play, found, if_pos fresh]
          exact .freshId sys move.client task traversed next move.id found fresh
        · left
          simp only [System.play, found, if_neg fresh]
      | remembered key =>
        right
        simp only [System.play, found]
        exact .outside sys move.client task traversed _ next none found
          fun account absent => absurd absent (Option.not_mem_none account)
      | post | announce =>
        right
        simp only [System.play, found]
        have fair : ∀ code, PostOutcome.status code ≠ .crashed := by simp
        exact .outside sys move.client task traversed _ next _ found (fair 200)
      | now | complete | remember | forget =>
        right
        simp only [System.play, found]
        exact .outside sys move.client task traversed _ next _ found trivial

/-- Nothing fails by a schedule. -/
theorem reaches_playAll (sys : System) (moves : List Move) :
    watch.Reaches sys (sys.playAll moves).2 := by
  induction moves generalizing sys with
  | nil => exact .refl
  | cons move moves ih =>
    have later := ih (sys.play move).2
    change watch.Reaches sys ((sys.play move).2.playAll moves).2
    rcases @step_play watch sys move with stays | step
    · rw [stays] at later ⊢
      exact later
    · exact .head step later

end Watch

/-- No execution of an accepted flow fails but at the step limit or at a delay that is too long;
what had failed before is left as it was. Every delay of the flow that is not too long is converted,
and it ends that much later. -/
theorem accepted_flow_is_spared {last : System} (begins : watch.Begins)
    (reaches : watch.Reaches (.start watch.first) last) :
    (∀ row ∈ last.tables.executionRows, row ∈ watch.first.executionRows ∨
      ∀ v, Execution.read (.record row) = .valid v → watch.flow.Spares v) ∧
    ∀ node ∈ watch.flow.nodes, node.kind? = some .delay → ∀ now,
      ¬ Delay.TooLong now node.data.value node.data.delayType → ∃ count t,
        Delay.milliseconds node.data.value (.ofText? node.data.delayType) = .ok count ∧
        Delay.wakeTime now count = .ok t ∧
        t.localMicroseconds = now.localMicroseconds + count * 1000 ∧ t.offset = now.offset := by
  constructor
  · obtain ⟨owners, steady⟩ := begins.steady.reaches reaches
    intro row stored
    exact (steady.sound.executions row stored).spared
  · intro node isNode delays now fits
    obtain ⟨count, t, converted, ends, later⟩ :=
      Delay.ending_of_isPositive now (AcceptedFlow.isPositive isNode delays) fits
    rw [Delay.ending, converted] at ends
    exact ⟨count, t, converted, ends, later⟩

namespace Example

/-- A flow that the word "hi" starts, and that waits for ten million days. -/
def vigil : Flow where
  id := "flow"
  userId := none
  accountId := "account"
  name := "Vigil"
  description := none
  nodes := [
    ⟨"begin", "trigger", { triggerType := some "keyword", keywords := some ["hi"] }, none, []⟩,
    ⟨"wait", "delay", { delayType := some "days", value := .int 10000000 }, none, []⟩,
    ⟨"tag", "action", { actionType := some "add_tag", tag := some "late" }, none, []⟩]
  edges := [⟨none, "begin", "wait", none, []⟩, ⟨none, "wait", "tag", none, []⟩]
  isActive := true
  triggerCount := 0
  lastTriggeredAt := none
  createdAt := none
  updatedAt := none
  extras := []

def vigilRow : Row :=
  [("id", .text "flow"), ("account_id", .text "account"), ("name", .text "Vigil"),
    ("is_active", .bool true),
    ("nodes", .list [
      .record [("id", .text "begin"), ("type", .text "trigger"), ("data", .record
        [("trigger_type", .text "keyword"), ("keywords", .list [.text "hi"])])],
      .record [("id", .text "wait"), ("type", .text "delay"), ("data", .record
        [("delay_type", .text "days"), ("value", .int 10000000)])],
      .record [("id", .text "tag"), ("type", .text "action"), ("data", .record
        [("action_type", .text "add_tag"), ("tag", .text "late")])]]),
    ("edges", .list [
      .record [("source", .text "begin"), ("target", .text "wait")],
      .record [("source", .text "wait"), ("target", .text "tag")]])]

def vigilWatch : Watch where
  deployment := deployment
  flow := ⟨vigil.id, vigil.nodes, vigil.edges, by decide +kernel⟩
  first := { flows := ⟨[vigilRow], 0⟩ }

/-- The execution after its delay has failed. -/
def lost : Execution where
  id := "execution"
  flowId := "flow"
  userId := none
  accountId := "account"
  senderId := "sender"
  senderUsername := none
  currentNodeId := "wait"
  previousNodeIds := ["begin"]
  status := .failed
  context := { triggerType := some "keyword" }
  lastError := some DelayError.outOfCalendar.message
  revision := 1
  createdAt := some default
  updatedAt := some default

/-- The word "hi" is heard, and nothing fails outside. -/
def vigilEnd : System :=
  ((System.started vigilWatch.first deployment messages).playAll (turns (List.replicate 16 0))).2

theorem begins_vigil : vigilWatch.Begins where
  unique := List.nodup_nil
  columnar := nofun
  finite := nofun
  flows := by
    refine ⟨⟨vigilRow, .head [], rfl⟩, ?_⟩
    intro row stored _
    obtain rfl := List.mem_singleton.mp stored
    exact ⟨vigil, by decide +kernel, rfl, rfl⟩
  leads := nofun
  accounts := nofun

theorem reaches_vigil : vigilWatch.Reaches (.start vigilWatch.first) vigilEnd := by
  have delivers : vigilWatch.deployment.Delivers { id := "account" } := ⟨nofun, nofun, nofun⟩
  have suit : ∀ task ∈ messages, task.Suits vigilWatch ∧ task.given = none := by
    intro task present
    rcases present with _ | ⟨_, _ | ⟨_, ⟨⟩⟩⟩
    · exact ⟨delivers, rfl⟩
    · exact ⟨delivers, rfl⟩
  exact (Watch.reaches_begin _ suit).trans (Watch.reaches_playAll _ _)

theorem stores_lost : lost.row ∈ vigilEnd.tables.executionRows := by decide +kernel

theorem reads_lost : Execution.read (.record lost.row) = .valid lost := by decide +kernel

end Example

open Example in
/-- The execution that waits for ten million days has failed, and there is an excuse for it. -/
theorem accepted_flow_is_spared_vigil : ∃ row ∈ vigilEnd.tables.executionRows, ∃ v,
    Execution.read (.record row) = .valid v ∧ v.status = .failed ∧
      vigilWatch.flow.Excuses v.currentNodeId v.lastError := by
  refine ⟨lost.row, stores_lost, lost, reads_lost, rfl, ?_⟩
  have spares := (accepted_flow_is_spared begins_vigil reaches_vigil).1
  rcases spares lost.row stores_lost with first | spared
  · cases first
  · exact spared lost reads_lost rfl rfl

open Example in
/-- It is not so that an execution of an accepted flow fails at the step limit only. -/
theorem not_only_at_step_limit : ¬ ∀ (watch : Watch) (last : System), watch.Begins →
    watch.first.executionRows = [] → watch.Reaches (.start watch.first) last →
    ∀ row ∈ last.tables.executionRows, ∀ v, Execution.read (.record row) = .valid v →
      v.flowId = watch.flow.id → v.status = .failed → v.lastError = some Run.stepLimitError := by
  intro always
  have atLimit := always vigilWatch vigilEnd begins_vigil rfl reaches_vigil lost.row stores_lost
    lost reads_lost rfl rfl
  revert atLimit
  decide

end MessageFlow
