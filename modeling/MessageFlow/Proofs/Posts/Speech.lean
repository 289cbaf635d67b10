import MessageFlow.Proofs.Manner

/-!
What a program posts when it is told certain answers, and what it may post whatever it is told.
Whoever asks only inside posts nothing, and so keeps to what may be posted, whatever that is.
-/

namespace MessageFlow

section told

/-- The message that a request posts. -/
def Request.posted : Request → List MessagePost
  | .post message => [message]
  | _ => []

/-- How a program has run when it was told what it asked. -/
structure Told (α : Type) where
  value : α
  /-- How many requests were asked so far. -/
  asked : Nat
  posts : List MessagePost

/-- What may be posted: nothing, and one after the other what may be posted. -/
structure Speech where
  allows : Outside → List MessagePost → Prop
  nil : ∀ told, allows told []
  append : ∀ {told before after}, allows told before → allows told after →
    allows told (before ++ after)

/-- Nothing may be posted. -/
def Speech.silence : Speech where
  allows _ posts := posts = []
  nil _ := rfl
  append none none' := List.append_eq_nil_iff.mpr ⟨none, none'⟩

variable {α β : Type} {told : Outside} {speech : Speech}

namespace Program

/-- Runs a program on answers by the number of requests that were asked before. -/
def tell (told : Outside) : Program α → Nat → Told α
  | .done value, asked => ⟨value, asked, []⟩
  | .ask _ request next, asked =>
    let rest := (next (told asked request)).tell told (asked + 1)
    { rest with posts := request.posted ++ rest.posts }

theorem tell_bind (told : Outside) (p : Program α) (f : α → Program β) (asked : Nat) :
    (p.bind f).tell told asked =
      let first := p.tell told asked
      let rest := (f first.value).tell told first.asked
      { rest with posts := first.posts ++ rest.posts } := by
  induction p generalizing asked with
  | done a => rfl
  | ask traversed request next ih => simp only [bind, tell, ih, List.append_assoc]

theorem tell_traversing (told : Outside) (execution : String) (p : Program α) (asked : Nat) :
    (p.traversing execution).tell told asked = p.tell told asked := by
  induction p generalizing asked with
  | done a => rfl
  | ask traversed request next ih => simp only [traversing, tell, ih]

/-- Whatever it is told, it posts what the speech allows. -/
def Says (speech : Speech) (p : Program α) : Prop :=
  ∀ told asked, speech.allows told (p.tell told asked).posts

theorem says_done (a : α) : (done a).Says speech := fun told _ => speech.nil told

theorem says_request {request : Request} (noPost : request.posted = []) :
    (Program.request request).Says speech := by
  intro told asked
  change speech.allows told (request.posted ++ [])
  rw [noPost]
  exact speech.nil told

theorem Says.bind {p : Program α} {f : α → Program β} (first : p.Says speech)
    (rest : ∀ a, (f a).Says speech) : (p.bind f).Says speech := by
  intro told asked
  rw [tell_bind]
  exact speech.append (first told asked) (rest _ told _)

theorem Says.traversing {p : Program α} {execution : String} (keeps : p.Says speech) :
    (p.traversing execution).Says speech := by
  intro told asked
  rw [tell_traversing]
  exact keeps told asked

end Program

theorem Request.posted_of_inside {request : Request} (isInside : request.isOutward = false) :
    request.posted = [] := by
  cases request with
  | post message => cases isInside
  | _ => rfl

/-- Posting only what the speech allows. -/
def Manner.speaking (speech : Speech) : Manner where
  Keeps p := p.Says speech
  done := Program.says_done
  bind := Program.Says.bind
  traversing := Program.Says.traversing
  inside isInside := Program.says_request (Request.posted_of_inside isInside)

namespace Operation

def tell (told : Outside) (operation : Operation α) (asked : Nat) : Told (Except Failure α) :=
  operation.run.tell told asked

def Says (speech : Speech) (operation : Operation α) : Prop := operation.run.Says speech

theorem posts_of_silent {operation : Operation α} {asked : Nat}
    (silent : operation.Suits (.speaking .silence)) : (operation.tell told asked).posts = [] :=
  silent told asked

end Operation

namespace Run

def tell (told : Outside) (run : Run α) (e : Execution) (asked : Nat) :
    Told (Except Failure α × Execution) :=
  (run.outcome e).tell told asked

def Says (speech : Speech) (run : Run α) : Prop := ∀ e, (run.outcome e).Says speech

theorem posts_of_silent {run : Run α} {e : Execution} {asked : Nat}
    (silent : run.Suits (.speaking .silence)) : (run.tell told e asked).posts = [] :=
  silent e told asked

section tell

variable {run : Run α} {f : α → Run β} {e e' : Execution} {asked asked' : Nat}
  {posts : List MessagePost}

/-- A run that succeeds posts what it posts before the rest does. -/
theorem tell_bind_of_ok {a : α} (first : run.tell told e asked = ⟨(.ok a, e'), asked', posts⟩) :
    (run >>= f).tell told e asked =
      { (f a).tell told e' asked' with posts := posts ++ ((f a).tell told e' asked').posts } := by
  have sequence : (run >>= f).tell told e asked = _ :=
    Program.tell_bind told (run.outcome e) _ asked
  rw [sequence, show (run.outcome e).tell told asked = _ from first]
  rfl

theorem tell_bind_of_error {failure : Failure}
    (first : run.tell told e asked = ⟨(.error failure, e'), asked', posts⟩) :
    (run >>= f).tell told e asked = ⟨(.error failure, e'), asked', posts⟩ := by
  have sequence : (run >>= f).tell told e asked = _ :=
    Program.tell_bind told (run.outcome e) _ asked
  rw [sequence, show (run.outcome e).tell told asked = _ from first]
  exact congrArg (Told.mk _ _) (List.append_nil posts)

/-- What comes after a run does not post. -/
theorem posts_bind_of_silent (silent : ∀ a, (f a).Suits (.speaking .silence)) :
    ((run >>= f).tell told e asked).posts = (run.tell told e asked).posts := by
  cases first : run.tell told e asked with
  | mk value asked' posts =>
    obtain ⟨failure | a, e'⟩ := value
    · rw [tell_bind_of_error first]
    · rw [tell_bind_of_ok first]
      exact (congrArg (posts ++ ·) (silent a e' told asked')).trans (List.append_nil posts)

theorem tell_get (told : Outside) (e : Execution) (asked : Nat) :
    (get : Run Execution).tell told e asked = ⟨(.ok e, e), asked, []⟩ := rfl

theorem tell_lift (told : Outside) (operation : Operation α) (e : Execution) (asked : Nat) :
    (lift operation).tell told e asked = ⟨((operation.tell told asked).value, e),
      (operation.tell told asked).asked, (operation.tell told asked).posts⟩ := by
  have sequence : (lift operation).tell told e asked = _ :=
    Program.tell_bind told operation.run _ asked
  rw [sequence]
  exact congrArg (Told.mk _ _) (List.append_nil _)

theorem posts_attempt (told : Outside) (run : Run α) (e : Execution) (asked : Nat) :
    ((attempt run).tell told e asked).posts = (run.tell told e asked).posts := by
  have sequence : (attempt run).tell told e asked = _ :=
    Program.tell_bind told (run.outcome e) _ asked
  rw [sequence]
  exact List.append_nil _

end tell

end Run

end told

/-!
Notifications are posted elsewhere, and post no message.
-/

open Operation

namespace Notification

variable {speech : Speech}

theorem announce_speaking (deployment : Deployment) (notification : Notification) :
    (announce deployment notification).Suits (.speaking speech) := by
  have asks (post : WebhookPost) : (Operation.announce post).Suits (.speaking speech) :=
    Program.Says.bind (Program.says_request rfl) fun _ => Program.says_done _
  exact (suits_of_plain (Delivery.plain_address _)).bind fun address =>
    (suits_of_plain (Delivery.plain_body _)).bind fun body => (asks _).bind fun outcome =>
      suits_of_plain (Delivery.plain_isAccepted address _ outcome)

theorem send_speaking (deployment : Deployment) (execution : Execution) (recipient : Option String)
    (type : NotificationType) :
    (send deployment execution recipient type).Suits (.speaking speech) := by
  have told (notification : Notification) :
      (if deployment.webhookUrl.isEmpty then pure notification
        else do
          let delivered ← announce deployment notification
          pure { notification with delivered } : Operation Notification).Suits
            (.speaking speech) := by
    split
    · exact suits_pure _
    · exact (announce_speaking deployment notification).bind fun _ => suits_pure _
  refine (suits_of_plain (plain_ensureWritable _)).bind fun _ => suits_now.bind fun now => ?_
  by_cases keeps : deployment.keepsNotifications = true
  · simp only [keeps, if_true]
    exact (suits_query _).attempt.bind fun _ => told _
  · simp only [keeps]
    exact told _

end Notification
end MessageFlow
