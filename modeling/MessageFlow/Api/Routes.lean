import MessageFlow.Api.Body
import MessageFlow.Inbox
import MessageFlow.Run.Deletion
import MessageFlow.Sweep
import MessageFlow.Web.Address

/-!
The interface over HTTP. In the path of a request escapes are decoded before it is compared, and one
newline at its end does not count.
-/

namespace MessageFlow.Path

/-- The address of the interface. -/
def base : Address := { scheme := "http".toList, host := "localhost".toList }

/-- The decoded path at which a request arrives that is sent to `target`. -/
def ofTarget (target : String) : Except AddressError String := do
  let address ← base.resolve (← Address.read target)
  .ok (String.ofList (if address.path.isEmpty then ['/'] else Percent.unescape address.path))

/-- The parts of a path between its slashes. -/
def segments (path : String) : List String := path.splitOn "/"

/-- The path without one newline at its end. -/
def dropNewline (path : String) : String :=
  match path.toList.reverse with
  | '\n' :: rest => String.ofList rest.reverse
  | _ => path

end MessageFlow.Path

namespace MessageFlow.Api

inductive Content where
  | json (value : Json)
  | text (value : String)
  deriving DecidableEq

structure Response where
  status : Nat
  content : Content
  deriving DecidableEq

def ok (fields : Row) : Response := ⟨200, .json (.record fields)⟩

def detail (status : Nat) (message : String) : Response :=
  ⟨status, .json (.record [("detail", .text message)])⟩

def notFound : Response := detail 404 "Not Found"
def methodNotAllowed : Response := detail 405 "Method Not Allowed"
def internalError : Response := ⟨500, .text "Internal Server Error"⟩

/-- A redirection to the same path without the slashes at its end. -/
def redirected : Response := ⟨307, .text ""⟩

def refused (issues : List Issue) : Response :=
  ⟨422, .json (.record [("detail", .list (issues.map Issue.json))])⟩

inductive Endpoint where
  | root
  | health
  | validate
  | trigger
  | messages
  | deleteFlow (id : String)
  | processScheduled
  deriving DecidableEq, Repr

def Endpoint.method : Endpoint → String
  | .root | .health => "GET"
  | .validate | .trigger | .messages | .processScheduled => "POST"
  | .deleteFlow _ => "DELETE"

/-- The endpoints with a fixed path. -/
def fixedEndpoints (path : String) : List Endpoint :=
  match Path.segments (Path.dropNewline path) with
  | ["", ""] => [.root]
  | ["", "health"] => [.health]
  | ["", "api", "flows", "validate"] => [.validate]
  | ["", "api", "flows", "trigger"] => [.trigger]
  | ["", "api", "flows", "messages"] => [.messages]
  | ["", "api", "flows", "scheduled", "process"] => [.processScheduled]
  | _ => []

/-- The endpoint of a flow, whose id is any part of a path that is not empty. -/
def flowEndpoints (path : String) : List Endpoint :=
  match Path.segments path with
  | ["", "api", "flows", id] => if id.isEmpty then [] else [.deleteFlow id]
  | _ => []

/-- The endpoints of a path, one for each method it admits. -/
def endpoints (path : String) : List Endpoint := fixedEndpoints path ++ flowEndpoints path

def validationJson (problems : List FlowProblem) : Json :=
  .record [("valid", .bool problems.isEmpty),
    ("errors", .ofTexts (problems.map FlowProblem.message))]

def executionsJson (executions : List Execution) : Operation Json := do
  executions.forM Operation.ensureWritable
  pure (.list (executions.map (Execution.write .columns)))

def validate (flow : FlowDraft) : Response :=
  let problems := flow.problems
  ⟨if problems.isEmpty then 200 else 422, .json (validationJson problems)⟩

/-- Goes on with the account of a request, if it exists. -/
def withAccount (id : String) (next : Account → Operation Response) : Operation Response := do
  match ← AccountLookup.get id with
  | some account => next account
  | none => pure (detail 404 "Account not found")

def trigger (deployment : Deployment) (body : EventBody) : Operation Response :=
  withAccount body.accountId fun account => do
    let started ← Run.trigger deployment account body.event
    pure (ok [("started", ← executionsJson started)])

def messages (deployment : Deployment) (body : MessageBody) : Operation Response :=
  withAccount body.accountId fun account => do
    let result ← Inbox.dispatch deployment account body.senderId body.senderUsername
      ⟨body.text, body.quickReplyPayload⟩ Inbox.defaultAttempts
    pure (ok [("handled", ← executionsJson result.handled),
      ("started", ← executionsJson result.started)])

/-- Goes on with the body of a request, if it can be read. -/
def withBody (read : ValueReader α) (body : Option Json) (next : α → Operation Response) :
    Operation Response :=
  match readBody read body with
  | .valid value => next value
  | .invalid issues => pure (refused issues)

def call (deployment : Deployment) (endpoint : Endpoint) (body : Option Json) :
    Operation Response :=
  match endpoint with
  | .root => pure (ok [("name", .text deployment.appName), ("version", .text "1.0.0"),
      ("status", .text "running")])
  | .health => pure (ok [("status", .text "ok")])
  | .validate => withBody FlowDraft.read body fun flow => pure (validate flow)
  | .trigger => withBody EventBody.read body (trigger deployment)
  | .messages => withBody MessageBody.read body (messages deployment)
  | .deleteFlow id => do
    let failed ← Run.deleteFlow id
    pure (ok [("deleted", .bool true), ("failed_executions", .int failed)])
  | .processScheduled => do
    let processed ← Sweep.process deployment Sweep.defaultAttempts none
    pure (ok [("processed", .int processed)])

/-- The response with which an operation ends. A failure of it and a number without a text are
internal errors. -/
def Response.ofOutcome : Except Failure Response → Response
  | .ok response => match response.content with
    | .json value => if value.isFinite then response else internalError
    | .text _ => response
  | .error _ => internalError

/-- Answers a request for a path. -/
def respond (deployment : Deployment) (method path : String) (body : Option Json) :
    Program Response := do
  match endpoints path with
  | [] =>
    let shorter := Settings.dropTrailingSlashes path
    pure (if shorter != path && !(endpoints shorter).isEmpty then redirected else notFound)
  | found => match found.find? (·.method == method) with
    | none => pure methodNotAllowed
    | some endpoint => Response.ofOutcome <$> (call deployment endpoint body).run

/-- The response as it arrives; that to a `HEAD` request comes without its content. -/
def Response.to (method : String) (response : Response) : Response :=
  if method = "HEAD" then { response with content := .text "" } else response

/-- Sends a request and takes its answer. A target that is no address and a body that cannot be
written are failures. -/
def request (deployment : Deployment) (method target : String) (body : Option Json) :
    Operation Response :=
  match Path.ofTarget target with
  | .error error => throw (.address error)
  | .ok path => do
    let body ← body.mapM Delivery.body
    let method := method.toUpper
    Response.to method <$> ExceptT.lift (respond deployment method path body)

end MessageFlow.Api
