import MessageFlow.Proofs.Delivery.Indifference
import MessageFlow.Proofs.Interleaving.Task
import MessageFlow.Proofs.Posts.Node

/-!
What traversals and tasks post: the nodes that are visited post one after the other, and nothing
else does. Each post is a message of its node, cut to the limits.
-/

namespace MessageFlow

section tour
open Operation

/-- A node to which an execution has moved, after that many requests. -/
structure Visit where
  account : Account
  flow : Flow
  node : Node
  execution : Execution
  asked : Nat

namespace Visit

/-- The messages of the node before they are cut. -/
def contents (visit : Visit) (deployment : Deployment) (told : Outside) : List MessageContent :=
  visit.node.contents deployment visit.account told visit.asked visit.execution

def posts (visit : Visit) (deployment : Deployment) (told : Outside) : List MessagePost :=
  ((Run.executeNode deployment visit.account visit.flow visit.node).tell told visit.execution
    visit.asked).posts

end Visit

namespace Run

variable {deployment : Deployment} {account : Account} {flow : Flow} {told : Outside}
  {e : Execution} {asked : Nat}

/-- The nodes that a walk visits. -/
def tour (deployment : Deployment) (account : Account) (flow : Flow) (told : Outside) :
    (steps : Nat) → List Node → Option Bool → Execution → Nat → List Visit
  | 0, _, _, _, _ => []
  | steps + 1, queue, branch, e, asked =>
    match upcoming flow queue branch e with
    | some (node :: rest) =>
      let visited := (visit deployment account flow node).tell told e asked
      ⟨account, flow, node, e.movedTo node, asked⟩ :: match visited.value with
        | (.ok (some outcome), e') =>
          tour deployment account flow told steps rest outcome.branch? e' visited.asked
        | _ => []
    | _ => []

theorem posts_visit (node : Node) :
    ((visit deployment account flow node).tell told e asked).posts =
      Visit.posts ⟨account, flow, node, e.movedTo node, asked⟩ deployment told := by
  have moves : (modify fun e : Execution => e.movedTo node : Run PUnit).tell told e asked =
      ⟨(.ok ⟨⟩, e.movedTo node), asked, []⟩ := rfl
  have sequence : (visit deployment account flow node).tell told e asked = _ :=
    tell_bind_of_ok moves
  rw [sequence]
  refine (posts_bind_of_silent fun outcome => ?_)
  cases outcome with
  | failed error => exact suits_pure none
  | proceed | branch | suspend => exact suits_save.bind fun _ => suits_pure _

theorem posts_walk (steps : Nat) (queue : List Node) (branch : Option Bool) :
    ((walk deployment account flow steps queue branch).tell told e asked).posts =
      (tour deployment account flow told steps queue branch e asked).flatMap
        (Visit.posts · deployment told) := by
  induction steps generalizing queue branch e asked with
  | zero =>
    unfold walk
    refine posts_of_silent (suits_get.bind fun e => ?_)
    rcases upcoming flow queue branch e with _ | _ | ⟨node, rest⟩
    · exact suits_pure ()
    · exact suits_complete
    · exact suits_fail stepLimitError
  | succ steps ih =>
    rw [walk, tell_bind_of_ok (tell_get told e asked), tour]
    rcases upcoming flow queue branch e with _ | _ | ⟨node, rest⟩
    · rfl
    · exact posts_of_silent suits_complete
    · dsimp only
      rw [List.nil_append, List.flatMap_cons, ← posts_visit]
      cases visited : (visit deployment account flow node).tell told e asked with
      | mk value asked' posts =>
        obtain ⟨failure | _ | outcome, e'⟩ := value
        · rw [tell_bind_of_error visited]
          exact (List.append_nil posts).symm
        · rw [tell_bind_of_ok visited]
          rfl
        · rw [tell_bind_of_ok visited]
          exact congrArg (posts ++ ·) (ih rest outcome.branch?)

end Run

/-- An execution that is about to be continued, after that many requests. -/
structure Traversal where
  account : Account
  flow : Option Flow
  execution : Execution
  asked : Nat

namespace Traversal

/-- The nodes that are visited, if there is a flow. -/
def visits (traversal : Traversal) (deployment : Deployment) (told : Outside) : List Visit :=
  let loaded := (Store.flowOr traversal.flow traversal.execution.flowId).tell told traversal.asked
  match loaded.value with
  | .ok (some flow) => Run.tour deployment traversal.account flow told Run.maxSteps [] none
      traversal.execution loaded.asked
  | _ => []

def posts (traversal : Traversal) (deployment : Deployment) (told : Outside) : List MessagePost :=
  (traversal.visits deployment told).flatMap (Visit.posts · deployment told)

end Traversal

namespace Run

variable {deployment : Deployment} {told : Outside}

theorem posts_traverse (account : Account) (flow : Option Flow) (e : Execution) (asked : Nat) :
    ((traverse deployment account flow).tell told e asked).posts =
      Traversal.posts ⟨account, flow, e, asked⟩ deployment told := by
  have loads := tell_lift told (Store.flowOr flow e.flowId) e asked
  have silent : ((Store.flowOr flow e.flowId).tell told asked).posts = [] :=
    Operation.posts_of_silent (Store.suits_flowOr flow e.flowId)
  rw [silent] at loads
  rw [traverse, tell_bind_of_ok (tell_get told e asked), Traversal.posts, Traversal.visits]
  dsimp only
  cases found : ((Store.flowOr flow e.flowId).tell told asked).value with
  | error failure =>
    rw [found] at loads
    rw [tell_bind_of_error loads]
    rfl
  | ok found? =>
    rw [found] at loads
    rw [tell_bind_of_ok loads]
    cases found? with
    | none => exact posts_of_silent (suits_fail flowNotFound)
    | some flow => exact posts_walk maxSteps [] none

/-- A traversal posts what the nodes that it visits post, in this order. -/
theorem posts_resume (account : Account) (flow : Option Flow) (e : Execution) (asked : Nat) :
    ((resume deployment account flow).tell told e asked).posts =
      Traversal.posts ⟨account, flow, e, asked⟩ deployment told := by
  have untagged : (resume deployment account flow).tell told e asked = _ :=
    Program.tell_traversing told e.id _ asked
  rw [untagged, ← posts_traverse, ← posts_attempt]
  exact posts_bind_of_silent suits_afterwards

end Run

end tour

/-!
Beside the traversals that they begin, tasks post nothing.
-/

open Operation

/-- What traversals post one after the other, all of them for fit accounts. -/
def Speech.ofTraversals (deployment : Deployment) (fit : Account → Prop) : Speech where
  allows told posts := ∃ traversals : List Traversal,
    posts = traversals.flatMap (Traversal.posts · deployment told) ∧
      ∀ traversal ∈ traversals, fit traversal.account
  nil _ := ⟨[], rfl, fun _ none => absurd none List.not_mem_nil⟩
  append := by
    rintro told _ _ ⟨before, rfl, fits⟩ ⟨after, rfl, fits'⟩
    refine ⟨before ++ after, List.flatMap_append.symm, fun traversal present => ?_⟩
    exact (List.mem_append.mp present).elim (fits traversal) (fits' traversal)

variable {deployment : Deployment} {account : Account}

namespace Run

theorem says_resume {fit : Account → Prop} (isFit : fit account) (flow : Option Flow) :
    (resume deployment account flow).Says (.ofTraversals deployment fit) := by
  intro e told asked
  refine ⟨[⟨account, flow, e, asked⟩], ?_, fun traversal present => ?_⟩
  · rw [List.flatMap_singleton]
    exact posts_resume account flow e asked
  · rwa [List.mem_singleton.mp present]

end Run

namespace Task

theorem says_operation (deployment : Deployment) (task : Task) :
    (task.operation deployment).Says (.ofTraversals deployment fun account =>
      ∀ given, task.account? = some given → account = given) := by
  have resumes {account : Account}
      (isGiven : ∀ given, task.account? = some given → account = given) (flow : Option Flow) :
      (Run.resume deployment account flow).Suits (.speaking (.ofTraversals deployment
        fun account => ∀ given, task.account? = some given → account = given)) :=
    Run.says_resume isGiven flow
  have suits := task.suits_operation
    (fun account given => resumes fun _ also => Option.some.inj (given.symm.trans also))
    fun noneGiven attempts => Sweep.suits_resume fun account =>
      resumes fun _ given => by cases noneGiven.symm.trans given
  exact suits

end Task

/-- The post brings the message to the recipient, with titles cut to the limit. -/
structure MessagePost.Brings (post : MessagePost) (recipient : String) (whole : MessageContent) :
    Prop where
  recipient : post.recipient = recipient
  titles : KeepsTitles whole.options post.content.options

/-- A node posts the first of its messages, cut to the limits. -/
theorem Visit.posts_bring (visit : Visit) (deployment : Deployment) (told : Outside) :
    ∃ wholes, wholes <+: visit.contents deployment told ∧
      List.Forall₂ (fun whole post => post.Brings visit.execution.senderId whole ∧
        (whole.KeepsText deployment.maxMessageLength post.content ↔
          3 ≤ deployment.maxMessageLength ∨ ∀ words, whole.text? = some words →
            words.length ≤ deployment.maxMessageLength))
        wholes (visit.posts deployment told) := by
  obtain ⟨count, posts, -⟩ := Run.posts_executeNode deployment visit.account told visit.asked
    visit.flow visit.node visit.execution
  rcases deployment.letters_cases visit.account with
    ⟨token, address, -, -, -, letters⟩ | ⟨-, letters⟩
  · refine ⟨(visit.contents deployment told).take count, List.take_prefix _ _, ?_⟩
    simp only [letters, ← List.map_eq_flatMap] at posts
    rw [Visit.posts, posts, List.forall₂_map_right_iff]
    exact List.forall₂_same.mpr fun whole _ =>
      ⟨⟨rfl, MessageContent.keepsTitles_cut whole⟩, MessageContent.keepsText_cut⟩
  · refine ⟨[], List.nil_prefix, ?_⟩
    rw [Visit.posts, posts, List.flatMap_eq_nil_iff.mpr fun _ _ => letters _ _]
    exact .nil

/-- All that a task posts are messages of the nodes that it visits, in their order, for the account
that the task is given. Their choices keep the limit for titles, and their texts the one for
messages, exactly if that one is three or more or nothing has to be cut. -/
theorem Task.posts_keep_limits (deployment : Deployment) (task : Task) (told : Outside)
    (asked : Nat) :
    ∃ traversals : List Traversal,
      ((task.operation deployment).tell told asked).posts =
        traversals.flatMap (Traversal.posts · deployment told) ∧
      ∀ traversal ∈ traversals,
        (∀ account, task.account? = some account → traversal.account = account) ∧
        ∀ visit ∈ traversal.visits deployment told,
          ∃ wholes, wholes <+: visit.contents deployment told ∧
            List.Forall₂ (fun whole post => post.Brings visit.execution.senderId whole ∧
              (whole.KeepsText deployment.maxMessageLength post.content ↔
                3 ≤ deployment.maxMessageLength ∨ ∀ words, whole.text? = some words →
                  words.length ≤ deployment.maxMessageLength))
              wholes (visit.posts deployment told) := by
  obtain ⟨traversals, posts, fits⟩ := says_operation deployment task told asked
  refine ⟨traversals, posts, fun traversal present => ⟨fits traversal present, ?_⟩⟩
  exact fun visit _ => visit.posts_bring deployment told

namespace Example

/-- A deployment that sends no more than two characters. -/
def terse : Deployment := { Example.deployment with maxMessageLength := 2 }

def longWord : NodeData := { text := some "hello" }

end Example

open Example in
/-- A text of five characters is posted in seven where two are allowed. -/
theorem not_always_within_limit : ¬ ∀ (deployment : Deployment) (task : Task) (told : Outside)
    (asked : Nat), 1 ≤ deployment.maxMessageLength →
    ∀ post ∈ ((task.operation deployment).tell told asked).posts,
      ∀ words, post.content.text? = some words → words.length ≤ deployment.maxMessageLength := by
  intro always
  have posts : ((Task.operation terse (.start shop (Steering.flow (Steering.node .message longWord))
      Steering.event [])).tell (answering "" (.status 200)) 0).posts.map (·.content) =
        [.text "hell..."] := by
    decide +kernel
  obtain ⟨post, present, isPost⟩ := List.mem_map.mp (posts ▸ List.mem_singleton_self _)
  have within := always terse _ _ 0 (by decide) post present "hell..." (by rw [isPost]; rfl)
  revert within
  decide

end MessageFlow
