import MessageFlow.Account.Document
import MessageFlow.Program.Basic

/-!
Two runs that differ in what the outside answers: to posts and to completions. Two programs are
twins when they ask the same inside, so that two such runs leave the same behind; posts and
completions may come in anywhere. And how a run ends, step by step, when the outside answers every
request in the same way.
-/

namespace MessageFlow

/-- Whether a request leaves the program. -/
def Request.isOutward : Request → Bool
  | .post _ | .announce _ | .complete _ => true
  | .now | .freshId | .query _ | .remembered _ | .remember .. | .forget _ => false

/-- Every answer but a crash of the transport. -/
def Request.IsNormal : (request : Request) → request.Answer → Prop
  | .post _, outcome => outcome ≠ .crashed
  | .announce _, outcome => outcome ≠ .crashed
  | _, _ => True

/-- The account that an answer gives. -/
def Request.looked : (request : Request) → request.Answer → List Account
  | .remembered _, account? => account?.toList
  | .query q, .ok (row :: _) =>
    if q.table = .accounts then
      (DocumentType.read (α := Account) (.record row)).toOption.toList
    else []
  | _, _ => []

/-- Answers inside, by a state: those of the store, the clock, the ids and the cached accounts. -/
abbrev Inside (σ : Type) := (request : Request) → σ → request.Answer × σ

/-- Answers outside, by the number of requests that were sent before. -/
abbrev Outside := Nat → (request : Request) → request.Answer

def Outside.IsNormal (outside : Outside) : Prop :=
  ∀ (sent : Nat) (request : Request), request.IsNormal (outside sent request)

/-- How a program has run. -/
structure Played (α σ : Type) where
  value : α
  state : σ
  /-- How many requests have left the program so far. -/
  sent : Nat
  /-- The accounts that were looked up. -/
  looked : List Account

variable {σ α β γ δ : Type}

namespace Program

def play (inside : Inside σ) (outside : Outside) : Program α → σ → Nat → Played α σ
  | .done value, s, sent => ⟨value, s, sent, []⟩
  | .ask _ request next, s, sent =>
    if request.isOutward then (next (outside sent request)).play inside outside s (sent + 1)
    else
      let (answer, s') := inside request s
      let played := (next answer).play inside outside s' sent
      { played with looked := request.looked answer ++ played.looked }

/-- The programs ask the same inside, as long as only such accounts are looked up, and end with
related values. -/
inductive Twins (fit : Account → Prop) (related : α → β → Prop) : Program α → Program β → Prop
  | done {a : α} {b : β} (holds : related a b) : Twins fit related (.done a) (.done b)
  | inside {traversed traversed' : Option String} {request : Request}
    {next : request.Answer → Program α} {next' : request.Answer → Program β}
    (isInside : request.isOutward = false)
    (rest : ∀ answer, (∀ account ∈ request.looked answer, fit account) →
      Twins fit related (next answer) (next' answer)) :
    Twins fit related (.ask traversed request next) (.ask traversed' request next')
  | left {traversed : Option String} {request : Request} {next : request.Answer → Program α}
    {q : Program β} (isOutward : request.isOutward = true)
    (rest : ∀ answer, request.IsNormal answer → Twins fit related (next answer) q) :
    Twins fit related (.ask traversed request next) q
  | right {traversed : Option String} {request : Request} {next : request.Answer → Program β}
    {p : Program α} (isOutward : request.isOutward = true)
    (rest : ∀ answer, request.IsNormal answer → Twins fit related p (next answer)) :
    Twins fit related p (.ask traversed request next)

namespace Twins

variable {fit : Account → Prop} {related : α → β → Prop} {p : Program α} {q : Program β}

theorem bind {goal : γ → δ → Prop} {f : α → Program γ} {g : β → Program δ}
    (twins : p.Twins fit related q) (next : ∀ a b, related a b → (f a).Twins fit goal (g b)) :
    (p.bind f).Twins fit goal (q.bind g) := by
  induction twins with
  | done holds => exact next _ _ holds
  | inside isInside rest ih => exact .inside isInside ih
  | left isOutward rest ih => exact .left isOutward ih
  | right isOutward rest ih => exact .right isOutward ih

theorem mono {weaker : α → β → Prop} (twins : p.Twins fit related q)
    (implies : ∀ a b, related a b → weaker a b) : p.Twins fit weaker q := by
  have next (a : α) (b : β) (holds : related a b) :
      (Program.done a).Twins fit weaker (.done b) := .done (implies a b holds)
  have bound := twins.bind next
  rwa [bind_done, bind_done] at bound

theorem traversing {execution execution' : String} (twins : p.Twins fit related q) :
    (p.traversing execution).Twins fit related (q.traversing execution') := by
  induction twins with
  | done holds => exact .done holds
  | inside isInside rest ih => exact .inside isInside ih
  | left isOutward rest ih => exact .left isOutward ih
  | right isOutward rest ih => exact .right isOutward ih

end Twins

/-- The program asks only outside, and whatever is answered, `post` holds of its value. -/
inductive Mute (post : α → Prop) : Program α → Prop
  | done {a : α} (holds : post a) : Mute post (.done a)
  | ask {traversed : Option String} {request : Request} {next : request.Answer → Program α}
    (isOutward : request.isOutward = true)
    (rest : ∀ answer, request.IsNormal answer → Mute post (next answer)) :
    Mute post (.ask traversed request next)

namespace Mute

variable {post : α → Prop} {p : Program α}

theorem bind {goal : β → Prop} {f : α → Program β} (mute : p.Mute post)
    (next : ∀ a, post a → (f a).Mute goal) : (p.bind f).Mute goal := by
  induction mute with
  | done holds => exact next _ holds
  | ask isOutward rest ih => exact .ask isOutward ih

theorem twins {fit : Account → Prop} {post' : β → Prop} {q : Program β} (mute : p.Mute post)
    (alsoMute : q.Mute post') : p.Twins fit (fun a b => post a ∧ post' b) q := by
  induction mute with
  | done holds =>
    induction alsoMute with
    | done alsoHolds => exact .done ⟨holds, alsoHolds⟩
    | ask isOutward rest ih => exact .right isOutward ih
  | ask isOutward rest ih => exact .left isOutward ih

end Mute

/-- Twins that run on the same inside leave it in the same state, and look up the same accounts. -/
theorem Twins.play {fit : Account → Prop} {related : α → β → Prop} {p : Program α} {q : Program β}
    (twins : p.Twins fit related q) (inside : Inside σ) {outside outside' : Outside}
    (normal : outside.IsNormal) (normal' : outside'.IsNormal) (s : σ) (sent sent' : Nat)
    (fits : ∀ account ∈ (p.play inside outside s sent).looked, fit account) :
    related (p.play inside outside s sent).value (q.play inside outside' s sent').value ∧
      (q.play inside outside' s sent').state = (p.play inside outside s sent).state ∧
      (q.play inside outside' s sent').looked = (p.play inside outside s sent).looked := by
  induction twins generalizing s sent sent' with
  | done holds => exact ⟨holds, rfl, rfl⟩
  | @inside traversed traversed' request next next' isInside rest ih =>
    simp only [Program.play, isInside] at fits ⊢
    obtain ⟨values, states, looks⟩ := ih (inside request s).1
      (fun account isLooked => fits account (List.mem_append_left _ isLooked))
      (inside request s).2 sent sent'
      fun account isLooked => fits account (List.mem_append_right _ isLooked)
    exact ⟨values, states, congrArg _ looks⟩
  | @left traversed request next q isOutward rest ih =>
    simp only [Program.play, isOutward, if_true] at fits ⊢
    exact ih _ (normal sent request) s (sent + 1) sent' fits
  | @right traversed request next p isOutward rest ih =>
    simp only [Program.play, isOutward, if_true]
    exact ih _ (normal' sent' request) s sent (sent' + 1) fits

end Program

namespace Program

variable {σ α β : Type} {inside : Inside σ} {reply : (request : Request) → request.Answer}

/-- The program ends with that value and state, without having looked up an account, if the outside
answers every request in the same way. -/
inductive Ends (inside : Inside σ) (reply : (request : Request) → request.Answer) :
    Program α → σ → α → σ → Prop
  | done (a : α) (s : σ) : Ends inside reply (.done a) s a s
  | inward {traversed : Option String} {request : Request} {next : request.Answer → Program α}
    {s s' : σ} {a : α} (isInside : request.isOutward = false)
    (noneLooked : request.looked (inside request s).1 = [])
    (rest : Ends inside reply (next (inside request s).1) (inside request s).2 a s') :
    Ends inside reply (.ask traversed request next) s a s'
  | outward {traversed : Option String} {request : Request} {next : request.Answer → Program α}
    {s s' : σ} {a : α} (isOutward : request.isOutward = true)
    (rest : Ends inside reply (next (reply request)) s a s') :
    Ends inside reply (.ask traversed request next) s a s'

namespace Ends

variable {p : Program α} {s s' s'' : σ} {a : α}

theorem bind {f : α → Program β} {b : β} (first : p.Ends inside reply s a s')
    (rest : (f a).Ends inside reply s' b s'') : (p.bind f).Ends inside reply s b s'' := by
  induction first with
  | done a s => exact rest
  | inward isInside noneLooked _ ih => exact .inward isInside noneLooked (ih rest)
  | outward isOutward _ ih => exact .outward isOutward (ih rest)

theorem traversing {execution : String} (ends : p.Ends inside reply s a s') :
    (p.traversing execution).Ends inside reply s a s' := by
  induction ends with
  | done a s => exact .done a s
  | inward isInside noneLooked _ ih => exact .inward isInside noneLooked ih
  | outward isOutward _ ih => exact .outward isOutward ih

theorem play (ends : p.Ends inside reply s a s') (sent : Nat) :
    ∃ sent', p.play inside (fun _ => reply) s sent = ⟨a, s', sent', []⟩ := by
  induction ends generalizing sent with
  | done a s => exact ⟨sent, rfl⟩
  | inward isInside noneLooked _ ih =>
    obtain ⟨sent', plays⟩ := ih sent
    refine ⟨sent', ?_⟩
    simp only [Program.play, isInside, Bool.false_eq_true, if_false, plays, noneLooked,
      List.nil_append]
  | outward isOutward _ ih =>
    obtain ⟨sent', plays⟩ := ih (sent + 1)
    exact ⟨sent', by simp only [Program.play, isOutward, if_true, plays]⟩

end Ends
end Program

/-- The same of a run. -/
def Run.Ends {σ α : Type} (inside : Inside σ) (reply : (request : Request) → request.Answer)
    (run : Run α) (e : Execution) (s : σ) (outcome : Except Failure α) (e' : Execution) (s' : σ) :
    Prop :=
  (run.outcome e).Ends inside reply s (outcome, e') s'

namespace Run.Ends

variable {σ α β : Type} {inside : Inside σ} {reply : (request : Request) → request.Answer}
  {run : Run α} {e e' e'' : Execution} {s s' s'' : σ}

theorem bind {f : α → Run β} {a : α} {outcome : Except Failure β}
    (first : run.Ends inside reply e s (.ok a) e' s')
    (rest : (f a).Ends inside reply e' s' outcome e'' s'') :
    (run >>= f).Ends inside reply e s outcome e'' s'' :=
  Program.Ends.bind first rest

theorem bind_error {f : α → Run β} {failure : Failure}
    (fails : run.Ends inside reply e s (.error failure) e' s') :
    (run >>= f).Ends inside reply e s (.error failure) e' s' :=
  Program.Ends.bind fails (.done _ _)

theorem forget {b : β} {outcome : Except Failure α}
    (ends : run.Ends inside reply e s outcome e' s') :
    (do let _ ← run; Pure.pure b).Ends inside reply e s (outcome.map fun _ => b) e' s' := by
  cases outcome with
  | ok a => exact bind ends (.done _ _)
  | error failure => exact bind_error ends

theorem lift {operation : Operation α} {outcome : Except Failure α}
    (ends : operation.run.Ends inside reply s outcome s') :
    (Run.lift operation).Ends inside reply e s outcome e s' :=
  Program.Ends.bind ends (.done _ _)

theorem attempt {outcome : Except Failure α} (ends : run.Ends inside reply e s outcome e' s') :
    (Run.attempt run).Ends inside reply e s (.ok outcome) e' s' :=
  Program.Ends.bind ends (.done _ _)

theorem pure (a : α) : (pure a : Run α).Ends inside reply e s (.ok a) e s := .done _ _

theorem get : (get : Run Execution).Ends inside reply e s (.ok e) e s := .done _ _

theorem modify (change : Execution → Execution) :
    (modify change : Run PUnit).Ends inside reply e s (.ok ⟨⟩) (change e) s := .done _ _

end Run.Ends

end MessageFlow
