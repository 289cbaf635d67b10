import MessageFlow.Proofs.Interleaving.System

/-!
Runs by a schedule: every move is the turn of one client, and no query is refused. At the end stand
the clients that the examples of the other modules schedule.
-/

namespace MessageFlow

/-- The turn of one client, with the time and the id that it is given. -/
structure Move where
  client : Nat
  time : Timestamp := default
  id : String := ""

/-- The answer to a request that is no query. -/
def Move.reply (move : Move) : (request : Request) → request.Answer
  | .now => move.time
  | .freshId => move.id
  | .query _ => .ok []
  | .post _ | .announce _ => .status 200
  | .complete _ => .failed
  | .remembered _ => none
  | .remember .. | .forget _ => ()

namespace System

instance (sys : System) (id : String) : Decidable (sys.IsFresh id) :=
  inferInstanceAs (Decidable (_ ∧ _))

/-- The clients begin their tasks. -/
def started (tables : Tables) (deployment : Deployment) (tasks : List Task) : System where
  tables := tables
  clients := tasks.map (.begin deployment)

/-- The query of a move, and the system after it. A client that is done, or would be given an id
that is in use, lets its turn pass. -/
def play (sys : System) (move : Move) : Option Event × System :=
  match sys.clients[move.client]? with
  | none => (none, sys)
  | some ⟨_, .done _⟩ => (none, sys)
  | some ⟨task, .ask traversed (.query query) next⟩ =>
    let (rows, after) := query.run sys.tables
    (some ⟨move.client, task, traversed, query, sys.tables, after, .ok rows⟩,
      { sys with tables := after, clients := sys.clients.set move.client ⟨task, next (.ok rows)⟩ })
  | some ⟨task, .ask _ .freshId next⟩ =>
    if sys.IsFresh move.id then
      (none, { sys with
        issued := move.id :: sys.issued
        clients := sys.clients.set move.client ⟨task, next move.id⟩ })
    else (none, sys)
  | some ⟨task, .ask _ request next⟩ =>
    (none, { sys with clients := sys.clients.set move.client ⟨task, next (move.reply request)⟩ })

def playAll (sys : System) : List Move → List Event × System
  | [] => ([], sys)
  | move :: moves =>
    let (event, mid) := sys.play move
    let (events, last) := mid.playAll moves
    (event.toList ++ events, last)

theorem runs_begin (sys : System) (deployment : Deployment) {tasks : List Task}
    (free : ∀ task ∈ tasks, task.given = none) :
    Runs sys [] { sys with clients := sys.clients ++ tasks.map (.begin deployment) } := by
  induction tasks generalizing sys with
  | nil =>
    rw [List.map_nil, List.append_nil]
    exact .nil sys
  | cons task tasks ih =>
    have ready : task.Ready sys.tables := by
      intro v given
      rw [free task (.head tasks)] at given
      cases given
    have others := ih { sys with clients := sys.clients ++ [.begin deployment task] }
      fun other present => free other (.tail task present)
    rw [List.append_assoc] at others
    exact .step (.begin sys deployment task ready) others

theorem runs_started (tables : Tables) (deployment : Deployment) {tasks : List Task}
    (free : ∀ task ∈ tasks, task.given = none) :
    Runs (.start tables) [] (.started tables deployment tasks) :=
  runs_begin (.start tables) deployment free

theorem play_cases (sys : System) (move : Move) :
    sys.play move = (none, sys) ∨
      (Step sys (sys.play move).1 (sys.play move).2 ∧
        ∀ event ∈ (sys.play move).1, event.IsServed) := by
  cases found : sys.clients[move.client]? with
  | none =>
    left
    simp only [play, found]
  | some client =>
    obtain ⟨task, program⟩ := client
    cases program with
    | done value =>
      left
      simp only [play, found]
    | ask traversed request next =>
      cases request with
      | query query =>
        right
        simp only [play, found]
        refine ⟨.query sys move.client task traversed query next _ _ found .served, ?_⟩
        intro _ same
        cases same
        exact ⟨rfl, rfl⟩
      | freshId =>
        by_cases fresh : sys.IsFresh move.id
        · right
          simp only [play, found, if_pos fresh]
          exact ⟨.freshId sys move.client task traversed next move.id found fresh,
            fun event none => absurd none (Option.not_mem_none event)⟩
        · left
          simp only [play, found, if_neg fresh]
      | now | post | announce | complete | remembered | remember | forget =>
        right
        simp only [play, found]
        exact ⟨.outside sys move.client task traversed _ next _ found nofun nofun,
          fun event none => absurd none (Option.not_mem_none event)⟩

/-- A turn whose query fails before the store has seen it. -/
def refuse (sys : System) (client : Nat) : Option Event × System :=
  match sys.clients[client]? with
  | some ⟨task, .ask traversed (.query query) next⟩ =>
    let answer : Except Failure (List Row) := .error (.store "database unavailable")
    (some ⟨client, task, traversed, query, sys.tables, sys.tables, answer⟩,
      { sys with clients := sys.clients.set client ⟨task, next answer⟩ })
  | _ => (none, sys)

theorem refuse_cases (sys : System) (client : Nat) : sys.refuse client = (none, sys) ∨
    Step sys (sys.refuse client).1 (sys.refuse client).2 := by
  unfold refuse
  split
  · next task traversed query next found =>
    exact .inr (.query sys client task traversed query next sys.tables _ found
      (.refused _ (.inr ⟨_, rfl, rfl⟩)))
  · exact .inl rfl

/-- A refused turn between two schedules. -/
theorem runs_refuse (sys : System) (client : Nat) :
    Runs sys (sys.refuse client).1.toList (sys.refuse client).2 := by
  rcases sys.refuse_cases client with stays | step
  · rw [stays]
    exact .nil sys
  · rw [← List.append_nil (sys.refuse client).1.toList]
    exact .step step (.nil _)

/-- Every schedule is a run whose queries are served. -/
theorem runs_playAll (sys : System) (moves : List Move) :
    Runs sys (sys.playAll moves).1 (sys.playAll moves).2 ∧
      ∀ event ∈ (sys.playAll moves).1, event.IsServed := by
  induction moves generalizing sys with
  | nil => exact ⟨.nil sys, fun event none => absurd none List.not_mem_nil⟩
  | cons move moves ih =>
    rw [playAll]
    obtain ⟨runs, served⟩ := ih (sys.play move).2
    rcases sys.play_cases move with stays | ⟨step, now⟩
    · rw [stays] at runs served ⊢
      exact ⟨runs, served⟩
    · refine ⟨.step step runs, ?_⟩
      intro event present
      rcases List.mem_append.mp present with first | later
      · exact now event (Option.mem_toList.mp first)
      · exact served event later

end System

namespace Example

def deployment : Deployment where
  graphUrl := "https://graph.example"
  maxMessageLength := 1000
  hasAssistant := false
  assistantModel := ""
  assistantTimeout := .ofInt 15
  webhookUrl := ""
  keepsNotifications := false
  batchSize := 100
  sweepEnabled := false
  appName := "flows"

/-- A flow that the word "hi" starts, and that tags whoever wrote it. -/
def greeting : Row :=
  [("id", .text "flow"), ("account_id", .text "account"), ("name", .text "Greeting"),
    ("is_active", .bool true),
    ("nodes", .list [
      .record [("id", .text "begin"), ("type", .text "trigger"), ("data", .record
        [("trigger_type", .text "keyword"), ("keywords", .list [.text "hi"])])],
      .record [("id", .text "tag"), ("type", .text "action"), ("data", .record
        [("action_type", .text "add_tag"), ("tag", .text "greeted")])]]),
    ("edges", .list [.record [("source", .text "begin"), ("target", .text "tag")]])]

def tables : Tables := { flows := ⟨[greeting], 0⟩ }

/-- Two messages of one sender: one that starts the flow, and a quick reply. -/
def messages : List Task :=
  [.dispatch { id := "account" } "sender" none ⟨"hi", none⟩ Inbox.defaultAttempts,
    .dispatch { id := "account" } "sender" none ⟨"more", some "more"⟩ Inbox.defaultAttempts]

def system : System := .started tables deployment messages

/-- The turns of those clients. -/
def turns (clients : List Nat) : List Move :=
  clients.map fun client => { client, id := "execution" }

/-- The quick reply is written over the execution after the traversal has tagged the sender, and
before it ends. -/
def crossing : List Move := turns [0, 0, 0, 0, 0, 0, 0, 0, 1, 0, 1, 1, 1, 1, 1, 0, 0, 0]

theorem uniqueIds : tables.UniqueIds := List.nodup_nil

theorem runs (moves : List Move) :
    System.Runs (.start tables) (system.playAll moves).1 (system.playAll moves).2 :=
  have free : ∀ task ∈ messages, task.given = none := by
    intro task present
    rcases present with _ | ⟨_, _ | ⟨_, ⟨⟩⟩⟩
    · rfl
    · rfl
  (System.runs_started tables deployment free).trans (system.runs_playAll moves).1

/-- A flow that the word "hi" starts, and that waits for a minute. -/
def reminder : Row :=
  [("id", .text "flow"), ("account_id", .text "account"), ("name", .text "Reminder"),
    ("is_active", .bool true),
    ("nodes", .list [
      .record [("id", .text "begin"), ("type", .text "trigger"), ("data", .record
        [("trigger_type", .text "keyword"), ("keywords", .list [.text "hi"])])],
      .record [("id", .text "wait"), ("type", .text "delay"), ("data", .record
        [("delay_type", .text "minutes"), ("value", .int 1)])]]),
    ("edges", .list [.record [("source", .text "begin"), ("target", .text "wait")]])]

def account : Row :=
  [("id", .text "account"), ("username", .text "shop"), ("instagram_account_id", .text "page"),
    ("access_token", .text "token")]

def reminders : List Task :=
  [.dispatch { id := "account" } "sender" none ⟨"hi", none⟩ Inbox.defaultAttempts,
    .sweep Sweep.defaultAttempts none]

/-- A message that starts the flow, and a sweep. -/
def reminding (accounts : List Row) : System :=
  .started { flows := ⟨[reminder], 0⟩, accounts := ⟨accounts, 0⟩ } deployment reminders

theorem runs_reminding (accounts : List Row) (moves : List Move) :
    System.Runs (.start { flows := ⟨[reminder], 0⟩, accounts := ⟨accounts, 0⟩ })
      ((reminding accounts).playAll moves).1 ((reminding accounts).playAll moves).2 :=
  have free : ∀ task ∈ reminders, task.given = none := by decide
  (System.runs_started _ deployment free).trans ((reminding accounts).runs_playAll moves).1

/-- An hour after the epoch. -/
def anHour : Timestamp := ⟨⟨1970, 1, 1, 1, 0, 0, 0, some 0⟩, by decide⟩

/-- The message is served first, and an hour later the sweep. -/
def hourLater : List Move :=
  List.replicate 8 { client := 0, id := "execution" } ++
    List.replicate 6 { client := 0, id := "ticket" } ++
    List.replicate 12 { client := 1, time := anHour }

end Example
end MessageFlow
