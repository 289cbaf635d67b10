import MessageFlow.Proofs.Delivery.Posting
import MessageFlow.Proofs.Interleaving.System
import MessageFlow.Proofs.Validation.Columns
import MessageFlow.Proofs.Validation.Delay

/-!
What is kept in order while the executions of an accepted flow are watched, and the programs that
keep it in order. Clients share the store, so a program may rely on nothing about the tables but
that they are in order, and on the owners of executions that were known before.
-/

namespace MessageFlow

/-- A flow in which the validation finds no problem. -/
structure AcceptedFlow where
  id : String
  nodes : List Node
  edges : List Edge
  accepted : flowProblems nodes edges = []

namespace AcceptedFlow

/-- Why an execution of an accepted flow may fail at a node: it ran into the step limit there, or the
node is a delay that is too long. -/
inductive Excuses (flow : AcceptedFlow) (nodeId : String) : Option String → Prop
  | stepLimit : flow.Excuses nodeId (some Run.stepLimitError)
  | tooLong (node : Node) (now : Timestamp) (error : DelayError) (isNode : node ∈ flow.nodes)
    (isHere : node.id = nodeId) (delays : node.kind? = some .delay)
    (tooLong : Delay.TooLong now node.data.value node.data.delayType)
    (fails : Delay.ending now node.data.value node.data.delayType = .error error) :
    flow.Excuses nodeId (some (Failure.delay error).record)

/-- The flow has the nodes and the edges that were accepted. -/
def Matches (accepted : AcceptedFlow) (flow : Flow) : Prop :=
  flow.nodes = accepted.nodes ∧ flow.edges = accepted.edges

/-- If it is an execution of the flow and has failed, there is an excuse for that. -/
def Spares (flow : AcceptedFlow) (v : Execution) : Prop :=
  v.flowId = flow.id → v.status = .failed → flow.Excuses v.currentNodeId v.lastError

end AcceptedFlow

/-- Whatever is posted for the account can be sent: its token can stand in a header, and its
messages and the notifications go to a host. -/
structure Deployment.Delivers (deployment : Deployment) (account : Account) : Prop where
  header : ∀ token, account.token? = some token → IsHeader token
  messages : ∀ token, account.token? = some token → ∃ address,
    Delivery.target (account.messagesUrl deployment.graphUrl) = .ok address ∧
      address.isAbsolute = true
  webhook : deployment.webhookUrl.isEmpty = false → ∃ address,
    Delivery.target deployment.webhookUrl = .ok address ∧ address.isAbsolute = true

/-- Which flow each execution is of, both by their ids. -/
abbrev Owners := List (String × String)

/-- No execution is of two flows. -/
def Owners.Agree (owners : Owners) : Prop :=
  ∀ id flowId other, (id, flowId) ∈ owners → (id, other) ∈ owners → flowId = other

/-- A new execution is of one flow. -/
theorem Owners.Agree.cons {owners : Owners} {id : String} (agree : owners.Agree)
    (isNew : id ∉ owners.map Prod.fst) (flowId : String) :
    Owners.Agree ((id, flowId) :: owners) := by
  have known {other : String × String} (present : other ∈ owners) : other.1 ≠ id := by
    intro same
    exact isNew (same ▸ List.mem_map_of_mem present)
  intro other first second isFirst isSecond
  rcases List.mem_cons.mp isFirst with new | old
  · rcases List.mem_cons.mp isSecond with alsoNew | alsoOld
    · exact (Prod.mk.inj new).2.trans (Prod.mk.inj alsoNew).2.symm
    · exact absurd (Prod.mk.inj new).1 (known alsoOld)
  · rcases List.mem_cons.mp isSecond with alsoNew | alsoOld
    · exact absurd (Prod.mk.inj alsoNew).1 (known old)
    · exact agree other first second old alsoOld

/-- An accepted flow whose executions are watched in a deployment, from some tables on. -/
structure Watch where
  deployment : Deployment
  flow : AcceptedFlow
  first : Tables

/-- The row has the columns of executions: none is named by the key of a field. -/
def Row.IsColumnar (row : Row) : Prop :=
  ∀ name ∈ Execution.names, name.key ≠ name.column → name.key ∉ row.map Prod.fst

namespace Watch

/-- A stored execution in order. Its flow is known, and it has failed with an excuse only, unless it
was stored like that from the beginning. -/
structure Admits (watch : Watch) (owners : Owners) (row : Row) : Prop where
  columnar : row.IsColumnar
  finite : Json.haveFinite row = true
  owned : ∀ v, Execution.read (.record row) = .valid v → (v.id, v.flowId) ∈ owners
  spared : row ∈ watch.first.executionRows ∨
    ∀ v, Execution.read (.record row) = .valid v → watch.flow.Spares v

/-- Among the stored flows is the accepted one, and it can be read. -/
structure Shows (watch : Watch) (rows : List Row) : Prop where
  present : ∃ row ∈ rows, row.get "id" = .text watch.flow.id
  reads : ∀ row ∈ rows, row.get "id" = .text watch.flow.id → ∃ flow,
    Flow.read (.record row) = .valid flow ∧ watch.flow.Matches flow

/-- The tables in order: stored executions are, the accepted flow and all leads can be read, and
whatever is posted for an account can be sent. -/
structure Sound (watch : Watch) (owners : Owners) (tables : Tables) : Prop where
  agree : owners.Agree
  executions : ∀ row ∈ tables.executionRows, watch.Admits owners row
  kept : ∀ row ∈ watch.first.executionRows, ∃ later ∈ tables.executionRows,
    later.get "id" = row.get "id"
  flows : watch.Shows (tables.rows .flows)
  leads : ∀ row ∈ tables.rows .leads, ∃ lead, Lead.read (.record row) = .valid lead
  accounts : ∀ row ∈ tables.rows .accounts, ∀ account,
    Account.read (.record row) = .valid account → watch.deployment.Delivers account

end Watch

variable {watch : Watch} {owners : Owners} {α β : Type}

/-- The request keeps the tables in order, and `next` holds of the answer when nothing fails. A new
id may be given to an execution of one flow. -/
def Request.Upholds (watch : Watch) : (request : Request) → Owners →
    (request.Answer → Owners → Prop) → Prop
  | .query q, owners, next => ∀ tables, watch.Sound owners tables →
    watch.Sound owners (q.run tables).2 ∧ next (.ok (q.run tables).1) owners
  | .freshId, owners, next => ∃ flowId, ∀ id, id ∉ owners.map Prod.fst →
    next id ((id, flowId) :: owners)
  | .post _, owners, next | .announce _, owners, next => ∀ outcome, outcome ≠ .crashed →
    next outcome owners
  | .remembered _, owners, next => ∀ found : Option Account,
    (∀ account ∈ found, watch.deployment.Delivers account) → next found owners
  | .now, owners, next => ∀ time, next time owners
  | .complete _, owners, next => ∀ outcome, next outcome owners
  | .remember _ _, owners, next | .forget _, owners, next => next () owners

theorem Request.upholds_mono {request : Request} {post weaker : request.Answer → Owners → Prop}
    (upholds : request.Upholds watch owners post)
    (implies : ∀ answer later, owners ⊆ later → post answer later → weaker answer later) :
    request.Upholds watch owners weaker := by
  cases request with
  | query q =>
    intro tables sound
    obtain ⟨still, holds⟩ := upholds tables sound
    exact ⟨still, implies _ _ (List.Subset.refl _) holds⟩
  | freshId =>
    obtain ⟨flowId, holds⟩ := upholds
    exact ⟨flowId, fun id fresh =>
      implies id _ (List.subset_cons_self _ _) (holds id fresh)⟩
  | post | announce =>
    intro outcome normal
    exact implies outcome _ (List.Subset.refl _) (upholds outcome normal)
  | remembered key =>
    intro found fit
    exact implies found _ (List.Subset.refl _) (upholds found fit)
  | now | complete =>
    intro answer
    exact implies answer _ (List.Subset.refl _) (upholds answer)
  | remember | forget => exact implies () _ (List.Subset.refl _) upholds

namespace Program

/-- Every request keeps the tables in order, however many owners others have learned before it, and
`post` holds of the value and of the owners known at the end. -/
def Upholds (watch : Watch) : Program α → Owners → (α → Owners → Prop) → Prop
  | .done value, owners, post => post value owners
  | .ask _ request next, owners, post => ∀ later, owners ⊆ later →
    request.Upholds watch later fun answer after => (next answer).Upholds watch after post

variable {p : Program α} {post weaker : α → Owners → Prop}

theorem upholds_mono (upholds : p.Upholds watch owners post)
    (implies : ∀ a later, owners ⊆ later → post a later → weaker a later) :
    p.Upholds watch owners weaker := by
  induction p generalizing owners with
  | done value => exact implies value owners (List.Subset.refl _) upholds
  | ask traversed request next ih =>
    intro later grows
    apply Request.upholds_mono (upholds later grows)
    intro answer after more rest
    apply ih answer rest
    intro a last most
    exact implies a last (List.Subset.trans grows (List.Subset.trans more most))

theorem upholds_bind {f : α → Program β} {post : β → Owners → Prop}
    (upholds : p.Upholds watch owners fun a later => (f a).Upholds watch later post) :
    (p.bind f).Upholds watch owners post := by
  induction p generalizing owners with
  | done value => exact upholds
  | ask traversed request next ih =>
    intro later grows
    apply Request.upholds_mono (upholds later grows)
    intro answer after _ rest
    exact ih answer rest

theorem upholds_traversing {execution : String} (upholds : p.Upholds watch owners post) :
    (p.traversing execution).Upholds watch owners post := by
  induction p generalizing owners with
  | done value => exact upholds
  | ask traversed request next ih =>
    intro later grows
    apply Request.upholds_mono (upholds later grows)
    intro answer after _ rest
    exact ih answer rest

theorem Mute.upholds {post : α → Prop} (mute : p.Mute post) :
    p.Upholds watch owners fun a _ => post a := by
  induction mute generalizing owners with
  | done holds => exact holds
  | @ask traversed request next isOutward rest ih =>
    intro later _
    cases request with
    | post | announce => exact fun outcome normal => ih outcome normal
    | complete completion => exact fun outcome => ih outcome trivial
    | now | freshId | query | remembered | remember | forget => cases isOutward

end Program

namespace Operation

def Upholds (watch : Watch) (operation : Operation α) (owners : Owners)
    (post : Except Failure α → Owners → Prop) : Prop :=
  operation.run.Upholds watch owners post

/-- If the operation does not fail, `P` holds. -/
abbrev Yields (watch : Watch) (operation : Operation α) (owners : Owners)
    (P : α → Owners → Prop) : Prop :=
  operation.Upholds watch owners fun outcome later => ∀ a, outcome = .ok a → P a later

variable {operation : Operation α} {f : α → Operation β} {post : Except Failure α → Owners → Prop}

theorem upholds_mono {weaker : Except Failure α → Owners → Prop}
    (upholds : operation.Upholds watch owners post)
    (implies : ∀ outcome later, owners ⊆ later → post outcome later → weaker outcome later) :
    operation.Upholds watch owners weaker :=
  Program.upholds_mono upholds implies

theorem upholds_pure {a : α} (holds : post (.ok a) owners) :
    (pure a : Operation α).Upholds watch owners post := holds

theorem upholds_throw {failure : Failure} (holds : post (.error failure) owners) :
    (throw failure : Operation α).Upholds watch owners post := holds

theorem upholds_then {M : Except Failure α → Owners → Prop}
    {post : Except Failure β → Owners → Prop} (first : operation.Upholds watch owners M)
    (next : ∀ a later, owners ⊆ later → M (.ok a) later → (f a).Upholds watch later post)
    (fails : ∀ failure later, M (.error failure) later → post (.error failure) later) :
    (operation >>= f).Upholds watch owners post := by
  apply Program.upholds_bind
  apply Program.upholds_mono first
  intro outcome later grows holds
  cases outcome with
  | error failure => exact fails failure later holds
  | ok a => exact next a later grows holds

theorem upholds_query {q : Query} {post : Except Failure (List Row) → Owners → Prop}
    (serves : ∀ later tables, owners ⊆ later → watch.Sound later tables →
      watch.Sound later (q.run tables).2 ∧ post (.ok (q.run tables).1) later) :
    (query q).Upholds watch owners post :=
  fun later grows tables sound => serves later tables grows sound

theorem upholds_now {post : Except Failure Timestamp → Owners → Prop}
    (holds : ∀ time later, owners ⊆ later → post (.ok time) later) :
    now.Upholds watch owners post :=
  fun later grows time => holds time later grows

section Yields

variable {P : α → Owners → Prop}

theorem yields_mono {weaker : α → Owners → Prop} (yields : operation.Yields watch owners P)
    (implies : ∀ a later, owners ⊆ later → P a later → weaker a later) :
    operation.Yields watch owners weaker :=
  upholds_mono yields fun _ later grows holds a same => implies a later grows (holds a same)

theorem yields_pure {a : α} (holds : P a owners) :
    (pure a : Operation α).Yields watch owners P := by
  intro value same
  cases same
  exact holds

theorem yields_throw {failure : Failure} : (throw failure : Operation α).Yields watch owners P := by
  intro value same
  cases same

theorem yields_then {Q : β → Owners → Prop} (first : operation.Yields watch owners P)
    (next : ∀ a later, owners ⊆ later → P a later → (f a).Yields watch later Q) :
    (operation >>= f).Yields watch owners Q := by
  apply upholds_then first
  · intro a later grows holds
    exact next a later grows (holds a rfl)
  · intro failure later _ a same
    cases same

theorem yields_attempt {P : Except Failure α → Owners → Prop}
    (upholds : operation.Upholds watch owners P) :
    (attempt operation).Yields watch owners P := by
  apply Program.upholds_bind
  apply Program.upholds_mono upholds
  intro outcome later _ holds value same
  cases same
  exact holds

/-- Whatever comes of the operation is passed over. -/
theorem yields_passOver (yields : operation.Yields watch owners P) :
    (attempt operation).Yields watch owners fun _ _ => True :=
  yields_attempt (upholds_mono yields fun _ _ _ _ => trivial)

theorem yields_query {q : Query} {P : List Row → Owners → Prop}
    (serves : ∀ later tables, owners ⊆ later → watch.Sound later tables →
      watch.Sound later (q.run tables).2 ∧ P (q.run tables).1 later) :
    (query q).Yields watch owners P := by
  apply upholds_query
  intro later tables grows sound
  obtain ⟨still, holds⟩ := serves later tables grows sound
  refine ⟨still, ?_⟩
  intro rows same
  cases same
  exact holds

theorem yields_now {P : Timestamp → Owners → Prop}
    (holds : ∀ time later, owners ⊆ later → P time later) : now.Yields watch owners P := by
  apply upholds_now
  intro time later grows value same
  cases same
  exact holds time later grows

end Yields

end Operation

namespace Run

def Upholds (watch : Watch) (run : Run α) (e : Execution) (owners : Owners)
    (post : Except Failure α → Execution → Owners → Prop) : Prop :=
  (run.outcome e).Upholds watch owners fun outcome => post outcome.1 outcome.2

/-- If the run does not fail, `P` holds of what it leaves. -/
abbrev Yields (watch : Watch) (run : Run α) (e : Execution) (owners : Owners)
    (P : α → Execution → Owners → Prop) : Prop :=
  run.Upholds watch e owners fun outcome e' later => ∀ a, outcome = .ok a → P a e' later

variable {run : Run α} {f : α → Run β} {e : Execution}
  {post : Except Failure α → Execution → Owners → Prop}

theorem upholds_mono {weaker : Except Failure α → Execution → Owners → Prop}
    (upholds : run.Upholds watch e owners post)
    (implies : ∀ outcome e' later, owners ⊆ later → post outcome e' later →
      weaker outcome e' later) : run.Upholds watch e owners weaker :=
  Program.upholds_mono upholds fun outcome later => implies outcome.1 outcome.2 later

theorem upholds_pure {a : α} (holds : post (.ok a) e owners) :
    (pure a : Run α).Upholds watch e owners post := holds

theorem upholds_throw {failure : Failure} (holds : post (.error failure) e owners) :
    (throw failure : Run α).Upholds watch e owners post := holds

theorem upholds_modify {change : Execution → Execution}
    {post : Except Failure PUnit → Execution → Owners → Prop}
    (holds : post (.ok ⟨⟩) (change e) owners) :
    (modify change : Run PUnit).Upholds watch e owners post := holds

theorem upholds_then {M : Except Failure α → Execution → Owners → Prop}
    {post : Except Failure β → Execution → Owners → Prop} (first : run.Upholds watch e owners M)
    (next : ∀ a e' later, owners ⊆ later → M (.ok a) e' later →
      (f a).Upholds watch e' later post)
    (fails : ∀ failure e' later, owners ⊆ later → M (.error failure) e' later →
      post (.error failure) e' later) :
    (run >>= f).Upholds watch e owners post := by
  apply Program.upholds_bind
  apply Program.upholds_mono first
  intro outcome later grows holds
  obtain ⟨failure | a, e'⟩ := outcome
  · exact fails failure e' later grows holds
  · exact next a e' later grows holds

theorem upholds_lift {operation : Operation α}
    (upholds : operation.Upholds watch owners fun outcome later => post outcome e later) :
    (lift operation).Upholds watch e owners post :=
  Program.upholds_bind upholds

section Yields

variable {P : α → Execution → Owners → Prop}

theorem yields_mono {weaker : α → Execution → Owners → Prop}
    (yields : run.Yields watch e owners P)
    (implies : ∀ a e' later, owners ⊆ later → P a e' later → weaker a e' later) :
    run.Yields watch e owners weaker :=
  upholds_mono yields fun _ e' later grows holds a same => implies a e' later grows (holds a same)

theorem yields_pure {a : α} (holds : P a e owners) :
    (pure a : Run α).Yields watch e owners P := by
  intro value same
  cases same
  exact holds

theorem yields_throw {failure : Failure} : (throw failure : Run α).Yields watch e owners P := by
  intro value same
  cases same

theorem yields_get {P : Execution → Execution → Owners → Prop} (holds : P e e owners) :
    (get : Run Execution).Yields watch e owners P := by
  intro value same
  cases same
  exact holds

theorem yields_set {e' : Execution} {P : PUnit → Execution → Owners → Prop}
    (holds : P ⟨⟩ e' owners) : (set e' : Run PUnit).Yields watch e owners P := by
  intro value same
  cases same
  exact holds

theorem yields_then {Q : β → Execution → Owners → Prop}
    (first : run.Yields watch e owners P)
    (next : ∀ a e' later, owners ⊆ later → P a e' later → (f a).Yields watch e' later Q) :
    (run >>= f).Yields watch e owners Q := by
  apply upholds_then first
  · intro a e' later grows holds
    exact next a e' later grows (holds a rfl)
  · intro failure e' later _ _ a same
    cases same

theorem yields_lift {operation : Operation α}
    (yields : operation.Yields watch owners fun a later => P a e later) :
    (lift operation).Yields watch e owners P := upholds_lift yields

theorem yields_attempt {P : Except Failure α → Execution → Owners → Prop}
    (upholds : run.Upholds watch e owners P) :
    (attempt run).Yields watch e owners P := by
  apply Program.upholds_bind
  apply Program.upholds_mono upholds
  intro outcome later _ holds value same
  cases same
  exact holds

theorem yields_on {P : α → Owners → Prop}
    (yields : run.Yields watch e owners fun a _ later => P a later) :
    (on e run).Yields watch owners P := by
  apply Program.upholds_bind
  apply Program.upholds_mono yields
  intro outcome later _ holds
  exact holds

theorem yields_traversing (yields : run.Yields watch e owners P) :
    (traversing run).Yields watch e owners P := Program.upholds_traversing yields

end Yields

end Run
end MessageFlow
