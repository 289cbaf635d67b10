import MessageFlow.Proofs.Delivery.Steering
import MessageFlow.Simulation.World

/-!
Deliveries do not steer flows. Main statement: two runs of the same tasks on the same inside give
the same results and leave the inside in the same state after every task, whatever the outside
answers, exactly where the deployment reaches the accounts that the tasks work with. Where it does
not, the text of the assistant decides whether a message that cannot be posted is tried, or the
answer of an address without a host cannot be received.
-/

namespace MessageFlow

variable {σ : Type}

/-- How tasks run, one after the other. -/
def Deployment.playAll (deployment : Deployment) (inside : Inside σ) (outside : Outside) :
    List Task → σ → Nat → List (Played (Except Failure Task.Report) σ)
  | [], _, _ => []
  | task :: tasks, s, sent =>
    let played := (task.operation deployment).run.play inside outside s sent
    played :: deployment.playAll inside outside tasks played.state played.sent

/-- What a task gives back, and the state in which it leaves the inside. -/
def Played.result {α : Type} (played : Played α σ) : α × σ := (played.value, played.state)

/-- Two runs that differ only outside have the same results and pass through the same states, as
long as the tasks work with such accounts: are given them, or look them up. -/
def Deployment.Indifferent (deployment : Deployment) (works : Account → Prop) : Prop :=
  ∀ {σ : Type} (inside : Inside σ) (outside outside' : Outside), outside.IsNormal →
    outside'.IsNormal → ∀ (tasks : List Task) (s : σ) (sent sent' : Nat),
    (∀ task ∈ tasks, ∀ account, task.account? = some account → works account) →
    (∀ played ∈ deployment.playAll inside outside tasks s sent, ∀ account ∈ played.looked,
      works account) →
    (deployment.playAll inside outside' tasks s sent').map Played.result =
      (deployment.playAll inside outside tasks s sent).map Played.result

theorem indifferent_of_reaches {deployment : Deployment} {works : Account → Prop}
    (reaches : ∀ account, works account → deployment.Reaches account) :
    deployment.Indifferent works := by
  intro σ inside outside outside' normal normal' tasks s sent sent' given looked
  -- One run may have sent more than the other, so the two counts go their own ways.
  induction tasks generalizing s sent sent' with
  | nil => rfl
  | cons task tasks ih =>
    have steady := task.steady_operation fun account isGiven =>
      reaches account (given task (.head tasks) account isGiven)
    obtain ⟨sameValue, sameState, _⟩ := steady.play inside normal normal' s sent sent'
      fun account isLooked => reaches account (looked _ (.head _) account isLooked)
    have others := ih ((task.operation deployment).run.play inside outside s sent).state
      ((task.operation deployment).run.play inside outside s sent).sent
      ((task.operation deployment).run.play inside outside' s sent').sent
      (fun other present => given other (.tail task present))
      fun played present => looked played (.tail _ present)
    simp only [Deployment.playAll, List.map_cons, Played.result, List.cons.injEq, Prod.mk.injEq]
    rw [sameState]
    exact ⟨⟨sameValue.symm, rfl⟩, others⟩

/-- A fork leaves the execution completed in one run and failed in the other. -/
theorem not_forks_of_indifferent {deployment : Deployment} {works : Account → Prop}
    (indifferent : deployment.Indifferent works) {account : Account} (isWorked : works account) :
    ¬ Steering.Forks deployment account := by
  rintro ⟨kind, data, reply, reply', failure, acts, normal, normal', other, proceeds, fails⟩
  obtain ⟨_, completes⟩ := Steering.task_completes (s := .null) acts proceeds
  obtain ⟨_, fails⟩ := Steering.task_fails (s := .null) acts other fails
  obtain ⟨_, completed⟩ := completes.play 0
  obtain ⟨_, failed⟩ := fails.play 0
  have same := indifferent Steering.inside (fun _ => reply) (fun _ => reply') (fun _ => normal)
    (fun _ => normal') [Steering.task account kind data] .null 0 0
    (fun task present given isGiven => by
      obtain rfl := List.mem_singleton.mp present
      cases isGiven
      exact isWorked)
    fun played present looked isLooked => by
      obtain rfl := List.mem_singleton.mp present
      rw [completed] at isLooked
      cases isLooked
  simp only [Deployment.playAll, completed, failed, List.map_cons, Played.result] at same
  have states : Json.text Status.failed.text = .text Status.completed.text :=
    congrArg Prod.snd (List.cons.inj same).1
  exact absurd states (by decide)

/-- Deliveries do not steer the tasks that work with such accounts exactly where the deployment
reaches every one of these. -/
theorem indifferent_iff_reaches (deployment : Deployment) (works : Account → Prop) :
    deployment.Indifferent works ↔ ∀ account, works account → deployment.Reaches account :=
  ⟨fun indifferent _ isWorked =>
    Steering.reaches_of_not_forks (not_forks_of_indifferent indifferent isWorked),
    indifferent_of_reaches⟩

namespace Example

/-- A flow that the word "hi" starts, and that answers in the words of the assistant. -/
def conversation : Row :=
  [("id", .text "flow"), ("account_id", .text "account"), ("name", .text "Conversation"),
    ("is_active", .bool true),
    ("nodes", .list [
      .record [("id", .text "begin"), ("type", .text "trigger"), ("data", .record
        [("trigger_type", .text "keyword"), ("keywords", .list [.text "hi"])])],
      .record [("id", .text "reply"), ("type", .text "message"), ("data", .record
        [("use_ai", .bool true)])]]),
    ("edges", .list [.record [("source", .text "begin"), ("target", .text "reply")]])]

def world : World := {
  tables := { flows := ⟨[conversation], 0⟩ }
  clock := default
  cacheLifetime := .int 300 }

/-- Every completion has these words, and every post is answered in this way. -/
def answering (text : String) (outcome : PostOutcome) : Outside :=
  fun _ => Steering.answering text outcome

theorem normal_answering {text : String} {outcome : PostOutcome} (normal : outcome ≠ .crashed) :
    (answering text outcome).IsNormal :=
  fun _ => Steering.normal_answering normal

def assisted : Deployment := { deployment with hasAssistant := true }

def greetings (account : Account) : List Task :=
  [.dispatch account "sender" none ⟨"hi", none⟩ Inbox.defaultAttempts]

def shop : Account := { id := "account", accessToken := some "token" }

theorem reaches_shop : assisted.Reaches shop := by
  have absolute : (Delivery.target (shop.messagesUrl assisted.graphUrl)).toOption.map
      (·.isAbsolute) = some true := by
    decide +kernel
  refine ⟨?_, ?_, ?_⟩
  · intro token address given header targets
    rw [targets] at absolute
    exact Option.some.inj absolute
  · intro hasAssistant token given
    obtain rfl : "token" = token := Option.some.inj given
    refine ⟨by unfold IsHeader; decide +kernel, ?_⟩
    cases targets : Delivery.target (shop.messagesUrl assisted.graphUrl) with
    | error error =>
      rw [targets] at absolute
      cases absolute
    | ok address => exact ⟨address, rfl⟩
  · intro hasWebhook
    cases hasWebhook

end Example

open Example in
/-- The assistant answers with a blank or in words, and what is posted arrives or not: the first run
sends one request and the second one two, and all else is the same. -/
theorem indifferent_shop :
    (assisted.playAll World.answer (answering " " .unreachable) (greetings shop) world 0).map
        (·.sent) = [1] ∧
      (assisted.playAll World.answer (answering "Hi" (.status 500)) (greetings shop) world 0).map
        (·.sent) = [2] ∧
      (assisted.playAll World.answer (answering "Hi" (.status 500)) (greetings shop) world 0).map
        Played.result =
      (assisted.playAll World.answer (answering " " .unreachable) (greetings shop) world 0).map
        Played.result := by
  have indifferent : assisted.Indifferent (· = shop) :=
    (indifferent_iff_reaches assisted (· = shop)).mpr fun _ isShop => isShop ▸ reaches_shop
  have given (task : Task) (present : task ∈ greetings shop) (account : Account)
      (isGiven : task.account? = some account) : account = shop := by
    obtain rfl := List.mem_singleton.mp present
    cases isGiven
    rfl
  have noneLooked : (assisted.playAll World.answer (answering " " .unreachable) (greetings shop)
      world 0).all (·.looked.isEmpty) = true := by
    decide +kernel
  refine ⟨by decide +kernel, by decide +kernel, ?_⟩
  refine indifferent World.answer (answering " " .unreachable) (answering "Hi" (.status 500))
    (normal_answering nofun) (normal_answering nofun) (greetings shop) world 0 0 given ?_
  intro played present account isLooked
  have none := List.all_eq_true.mp noneLooked played present
  rw [List.isEmpty_iff.mp none] at isLooked
  cases isLooked

open Example in
/-- With a token that no header can hold a blank completes the execution, and a word fails it. -/
theorem not_always_indifferent : ¬ ∀ (deployment : Deployment) (outside outside' : Outside)
    (tasks : List Task) (s : World), outside.IsNormal → outside'.IsNormal →
    ∀ table ∈ [Table.flows, .executions, .tickets, .leads],
      (deployment.playAll World.answer outside' tasks s 0).map (·.state.tables.rows table) =
        (deployment.playAll World.answer outside tasks s 0).map (·.state.tables.rows table) := by
  intro always
  have same := always assisted (answering " " (.status 200)) (answering "Hi" (.status 200))
    (greetings { shop with accessToken := some "tökn" }) world (normal_answering nofun)
    (normal_answering nofun) .executions (by decide)
  revert same
  decide +kernel

end MessageFlow
