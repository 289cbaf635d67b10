import MessageFlow.Account.Basic
import MessageFlow.Account.Prompt
import MessageFlow.Document.Scalar
import MessageFlow.Execution.Basic
import MessageFlow.Message.Post
import MessageFlow.Program.Failure
import MessageFlow.Store.Query

/-!
Operations as trees of requests. An operation does nothing by itself: it asks for one thing at a
time and goes on with the answer, so operations can be run alone or interleaved request by request.
A request that is part of the traversal of an execution names that execution.
-/

namespace MessageFlow

/-- A request for a completion of a conversation. -/
structure Completion where
  model : String
  messages : List Turn
  temperature : Binary64
  maxTokens : Int
  timeout : Binary64
  deriving DecidableEq

inductive CompletionOutcome where
  | text (text : Option String)
  | noChoices
  | failed
  deriving DecidableEq, Repr

inductive Request where
  | now
  | freshId
  | query (query : Query)
  | post (post : MessagePost)
  | announce (post : WebhookPost)
  | complete (completion : Completion)
  | remembered (key : String)
  | remember (key : String) (account : Account)
  | forget (key : String)
  deriving DecidableEq

/-- What a request is answered with. -/
abbrev Request.Answer : Request → Type
  | .now => Timestamp
  | .freshId => String
  | .query _ => Except Failure (List Row)
  | .post _ | .announce _ => PostOutcome
  | .complete _ => CompletionOutcome
  | .remembered _ => Option Account
  | .remember .. | .forget _ => Unit

inductive Program (α : Type) where
  | done (value : α)
  /-- Asks a request, for the traversal of the named execution if there is one. -/
  | ask (traversed : Option String) (request : Request) (next : request.Answer → Program α)

namespace Program

def bind (program : Program α) (next : α → Program β) : Program β :=
  match program with
  | .done value => next value
  | .ask traversed request rest => .ask traversed request fun answer => (rest answer).bind next

instance : Monad Program where
  pure := .done
  bind := bind

theorem bind_done (p : Program α) : p.bind .done = p := by
  induction p with
  | done a => rfl
  | ask traversed request rest ih => exact congrArg (Program.ask traversed request) (funext ih)

theorem bind_bind (p : Program α) (f : α → Program β) (g : β → Program γ) :
    (p.bind f).bind g = p.bind fun a => (f a).bind g := by
  induction p with
  | done a => rfl
  | ask traversed request rest ih => exact congrArg (Program.ask traversed request) (funext ih)

instance : LawfulMonad Program :=
  LawfulMonad.mk' Program bind_done (fun _ _ => rfl) bind_bind

def request (request : Request) : Program request.Answer := .ask none request .done

/-- The program as the traversal of an execution. -/
def traversing (execution : String) : Program α → Program α
  | .done value => .done value
  | .ask _ request next =>
    .ask (some execution) request fun answer => (next answer).traversing execution

end Program

/-- A program that may fail. -/
abbrev Operation := ExceptT Failure Program

/-- A program on one execution object. What was done to the object before a failure stays done. -/
abbrev Run := ExceptT Failure (StateT Execution Program)

namespace Operation

def now : Operation Timestamp := ExceptT.lift (Program.request .now)

/-- A given time, or else the present one. -/
def timeOr (at? : Option Timestamp) : Operation Timestamp :=
  match at? with
  | some time => pure time
  | none => now

def freshId : Operation String := ExceptT.lift (Program.request .freshId)

/-- Asks one query; the store may refuse it. -/
def query (query : Query) : Operation (List Row) := ExceptT.mk (Program.request (.query query))

def post (post : MessagePost) : Operation PostOutcome :=
  ExceptT.lift (Program.request (.post post))

def announce (post : WebhookPost) : Operation PostOutcome :=
  ExceptT.lift (Program.request (.announce post))

def complete (completion : Completion) : Operation CompletionOutcome :=
  ExceptT.lift (Program.request (.complete completion))

def remembered (key : String) : Operation (Option Account) :=
  ExceptT.lift (Program.request (.remembered key))

def remember (key : String) (account : Account) : Operation Unit :=
  ExceptT.lift (Program.request (.remember key account))

def forget (key : String) : Operation Unit := ExceptT.lift (Program.request (.forget key))

/-- Turns a failure into a value. -/
def attempt (operation : Operation α) : Operation (Except Failure α) :=
  ExceptT.lift operation.run

/-- Goes on with a document of the type of that title, if it could be read. -/
def ofValidated (title : String) (result : Validated α) : Operation α :=
  match result with
  | .valid value => pure value
  | .invalid issues => throw (.invalidDocument title issues)

/-- Reads a stored row. -/
def parse [DocumentType α] (row : Row) : Operation α :=
  ofValidated (DocumentType.title α) (DocumentType.read (.record row))

/-- Goes on only with a document that can be written. -/
def ensureWritable [DocumentType α] (document : α) : Operation Unit :=
  if DocumentType.isWritable document then pure () else throw .nestedTooDeep

end Operation

namespace Run

/-- Runs an operation that does not touch the execution object. -/
def lift (operation : Operation α) : Run α :=
  ExceptT.mk (StateT.lift operation.run)

/-- Turns a failure into a value. -/
def attempt (run : Run α) : Run (Except Failure α) := ExceptT.lift (ExceptT.run run)

/-- The run as the traversal of its execution. -/
def traversing (run : Run α) : Run α :=
  ExceptT.mk fun execution => ((ExceptT.run run).run execution).traversing execution.id

/-- Runs on another execution object and forgets that object. -/
def on (execution : Execution) (run : Run α) : Operation α :=
  ExceptT.mk ((fun outcome => outcome.1) <$> (ExceptT.run run).run execution)

/-- The outcome together with the execution object as it was left. -/
def outcome (execution : Execution) (run : Run α) : Program (Except Failure α × Execution) :=
  (ExceptT.run run).run execution

end Run
end MessageFlow
