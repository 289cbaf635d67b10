import MessageFlow.Cache
import MessageFlow.Program.Basic
import MessageFlow.Store.Tables

/-!
A world in which operations run: tables, a clock, prepared answers of the outside, and faults that
strike chosen queries.
-/

namespace MessageFlow

/-- A change of one row made past the program. -/
structure ManualWrite where
  table : Table
  id : Json
  assigned : Row := []
  added : Row := []
  removed : Bool := false
  deriving DecidableEq

inductive FaultAction where
  | empty
  | refuse (message : String)
  | interfere (writes : List ManualWrite)
  deriving DecidableEq

/-- A fault of the queries of one kind on one table: `skip` of them pass, then `times` of them are
struck. -/
structure Fault where
  table : Table
  verb : Verb
  action : FaultAction
  skip : Int := 0
  times : Int := 1
  deriving DecidableEq

/-- What left the program. -/
inductive Effect where
  | posted (post : MessagePost)
  | announced (post : WebhookPost)
  | completed (completion : Completion)
  deriving DecidableEq

structure World where
  tables : Tables := {}
  connected : Bool := true
  clock : Timestamp
  /-- Microseconds since the beginning. -/
  elapsed : Int := 0
  issuedIds : Nat := 0
  faults : List Fault := []
  postReplies : List PostOutcome := []
  announceReplies : List PostOutcome := []
  completionReplies : List CompletionOutcome := []
  cache : Cache Number Account := .empty
  /-- How long an account is cached, in seconds. -/
  cacheLifetime : Number
  effects : List Effect := []
  queries : List Query := []

/-- The sum of a stored number and an increment; an absent number counts as zero. -/
def Json.plus (stored increment : Json) : Json :=
  match increment.number? with
  | none => stored
  | some amount => match (stored.number?.getD (.int 0)).add amount with
    | .int sum => .int sum
    | .real sum => .real sum

def ManualWrite.changeRow (write : ManualWrite) (row : Row) : Row :=
  write.added.foldl
    (fun row (key, increment) => Entries.set row key ((Row.get row key).plus increment))
    (Entries.update row write.assigned)

def ManualWrite.apply (write : ManualWrite) (tables : Tables) : Tables :=
  let content := tables.get write.table
  let isMeant := fun row : Row => Json.same (Row.get row "id") write.id
  let rows := if write.removed then content.rows.filter fun row => !isMeant row
    else content.rows.map fun row => if isMeant row then write.changeRow row else row
  tables.put write.table { content with rows }

/-- The fault that strikes a query, and the faults as they stand afterwards. -/
def strike (table : Table) (verb : Verb) : List Fault → Option FaultAction × List Fault
  | [] => (none, [])
  | fault :: faults =>
    if fault.table = table ∧ fault.verb = verb then
      if 0 < fault.skip then
        let (action, faults) := strike table verb faults
        (action, { fault with skip := fault.skip - 1 } :: faults)
      else if 0 < fault.times then
        (some fault.action, { fault with times := fault.times - 1 } :: faults)
      else
        let (action, faults) := strike table verb faults
        (action, fault :: faults)
    else
      let (action, faults) := strike table verb faults
      (action, fault :: faults)

namespace World

/-- The next prepared answer, or the usual one. -/
def nextReply (usual : α) : List α → α × List α
  | [] => (usual, [])
  | reply :: replies => (reply, replies)

def runQuery (query : Query) (world : World) : List Row × World :=
  let (rows, tables) := query.run world.tables
  (rows, { world with tables })

/-- Answers a query, unless a fault strikes it. -/
def answerQuery (query : Query) (world : World) : Except Failure (List Row) × World :=
  if world.connected then
    let (action, faults) := strike query.table query.verb world.faults
    let world := { world with faults, queries := world.queries ++ [query] }
    match action with
    | some .empty => (.ok [], world)
    | some (.refuse message) => (.error (.store message), world)
    | some (.interfere writes) =>
      let tables := writes.foldl (fun tables write => write.apply tables) world.tables
      let (rows, world) := runQuery query { world with tables }
      (.ok rows, world)
    | none =>
      let (rows, world) := runQuery query world
      (.ok rows, world)
  else (.error .storeNotConfigured, world)

/-- Seconds since the beginning, as a binary number. -/
def seconds (world : World) : Number :=
  .real (.ofRatio (world.elapsed < 0) world.elapsed.natAbs 1000000)

def usualCompletion : CompletionOutcome := .text (some "Hi from the assistant")

def answer (request : Request) (world : World) : request.Answer × World :=
  match request with
  | .now => (world.clock, world)
  | .freshId =>
    let issuedIds := world.issuedIds + 1
    ("id-" ++ toString issuedIds, { world with issuedIds })
  | .query query => world.answerQuery query
  | .post post =>
    let (outcome, postReplies) := nextReply (.status 200) world.postReplies
    (outcome, { world with postReplies, effects := world.effects ++ [.posted post] })
  | .announce post =>
    let (outcome, announceReplies) := nextReply (.status 200) world.announceReplies
    (outcome, { world with announceReplies, effects := world.effects ++ [.announced post] })
  | .complete completion =>
    let (outcome, completionReplies) := nextReply usualCompletion world.completionReplies
    (outcome, { world with completionReplies, effects := world.effects ++ [.completed completion] })
  | .remembered key =>
    let (account, cache) := world.cache.lookup world.cacheLifetime world.seconds key
    (account, { world with cache })
  | .remember key account =>
    ((), { world with cache := world.cache.store world.seconds key account })
  | .forget key => ((), { world with cache := (world.cache.invalidate key).2 })

/-- Lets a number of seconds pass, if the clock can show the time then. -/
def advance (seconds : Number) (world : World) : Except DelayError World := do
  let amount ← Delay.microseconds seconds
  let clock ← Delay.timeAfter world.clock amount
  .ok { world with clock, elapsed := world.elapsed + amount }

end World

namespace Program

/-- Runs a program alone. -/
def run (program : Program α) (world : World) : α × World :=
  match program with
  | .done value => (value, world)
  | .ask _ request next =>
    let (answer, world) := world.answer request
    (next answer).run world

@[simp] theorem run_done (a : α) (world : World) : (Program.done a).run world = (a, world) := rfl

/-- A sequence runs its second part in the world that the first one leaves. -/
theorem run_bind (p : Program α) (f : α → Program β) (world : World) :
    (p.bind f).run world = (f (p.run world).1).run (p.run world).2 := by
  induction p generalizing world with
  | done a => rfl
  | ask traversed request rest ih => exact ih _ _

end Program

/-- Runs an operation alone. -/
def Operation.perform (operation : Operation α) (world : World) : Except Failure α × World :=
  Program.run operation.run world

end MessageFlow
