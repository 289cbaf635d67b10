import MessageFlow.Account.Lookup
import MessageFlow.Proofs.Among.Version
import MessageFlow.Proofs.Tickets.Rows
import MessageFlow.Proofs.Traversal.Visit

/-!
What a program that runs among others asks of stored executions, and what it is told. In a traversal
whose queries are all served only a conflict ends it early, and that is no failure.
-/

namespace MessageFlow

/-- What a query finds first reads as that document. -/
def Tables.Shows {α : Type} [DocumentType α] (tables : Tables) (q : Query) (a : α) : Prop :=
  ∃ row rows, (q.run tables).1 = row :: rows ∧ DocumentType.read (.record row) = .valid a

namespace Store
open Operation

/-- The query for the execution with that id. -/
def executionQuery (id : String) : Query := .select .executions [byId id] none (some 1)

variable {tables : Tables} {id : String} {version : Option Execution}

theorem head_executionQuery (tables : Tables) (id : String) :
    ((executionQuery id).run tables).1.head? = tables.executionRow? id :=
  head_byId .executions id tables

/-- A row is read, or the reader fails. -/
theorem parse_among {α : Type} [DocumentType α] {row : Row}
    {post : Except Failure α → Tables → List Happening → Prop}
    (reads : ∀ a, DocumentType.read (.record row) = .valid a → post (.ok a) tables [])
    (fails : ∀ failure, (∀ a : α, DocumentType.read (.record row) ≠ .valid a) →
      post (.error failure) tables []) :
    (parse row : Operation α).Among tables post := by
  unfold parse ofValidated
  cases isRead : (DocumentType.read (.record row) : Validated α) with
  | valid a => exact Operation.among_pure (reads a isRead)
  | invalid issues =>
    refine Operation.among_throw (fails _ fun a same => ?_)
    cases isRead.symm.trans same

/-- What a query finds first, if it finds anything. -/
def first (α : Type) [DocumentType α] (q : Query) : Operation (Option α) := do
  let rows ← query q
  match rows with
  | [] => pure none
  | row :: _ => some <$> parse row

theorem first_among {α : Type} [DocumentType α] {q : Query}
    {post : Except Failure (Option α) → Tables → List Happening → Prop}
    (told : ∀ others mid outcome, Meanwhile tables others mid →
      ((q.run mid).1 = [] → outcome = .ok none) → (∀ a, mid.Shows q a → outcome = .ok (some a)) →
      post outcome (q.run mid).2 (others ++ [.own none q mid])) :
    (first α q).Among tables post := by
  unfold first
  refine Operation.among_bind (Operation.among_query fun others mid meanwhile => ?_)
  have tell := told others mid
  have shown {row : Row} {rows : List Row} (found : (q.run mid).1 = row :: rows) (a : α)
      (shows : mid.Shows q a) : DocumentType.read (.record row) = .valid a := by
    obtain ⟨row', rows', also, reads⟩ := shows
    cases found.symm.trans also
    exact reads
  cases found : (q.run mid).1 with
  | nil =>
    refine Operation.among_pure ?_
    rw [List.append_nil]
    refine tell _ meanwhile (fun _ => rfl) fun a shows => ?_
    obtain ⟨row, rows, some, _⟩ := shows
    cases found.symm.trans some
  | cons row rows =>
    have some {outcome : Except Failure (Option α)} : (q.run mid).1 = [] → outcome = .ok none := by
      intro none
      cases found.symm.trans none
    simp only
    rw [← bind_pure_comp]
    refine Operation.among_bind (parse_among (fun a reads => ?_) fun failure unread => ?_)
    · refine Operation.among_pure ?_
      rw [List.append_nil, List.append_nil]
      refine tell _ meanwhile some fun a' shows => ?_
      rw [Validated.valid.inj (reads.symm.trans (shown found a' shows))]
    · change post _ _ _
      rw [List.append_nil]
      exact tell _ meanwhile some fun a shows =>
        absurd (shown found a shows) (unread a)

/-- The reader of an execution is told its version. -/
theorem getExecution_among
    {post : Except Failure (Option Execution) → Tables → List Happening → Prop}
    (told : ∀ others mid outcome, Meanwhile tables others mid →
      (∀ version, mid.Has id version → outcome = .ok version) →
      post outcome mid (others ++ [.own none (executionQuery id) mid])) :
    (getExecution id).Among tables post := by
  refine first_among fun others mid outcome meanwhile missing found => ?_
  refine told others mid outcome meanwhile fun version has => ?_
  have head := (head_executionQuery mid id).trans has.stored
  cases version with
  | none => exact missing (List.head?_eq_none_iff.mp head)
  | some w =>
    obtain ⟨rows, same⟩ := List.head?_eq_some_iff.mp head
    exact found w ⟨_, rows, same, Execution.read_row has.isRegular⟩

/-- The query for the account with that id. -/
def accountQuery (id : String) : Query := .select .accounts [byId id] none (some 1)

theorem rememberAccount_among {account : Account}
    {post : Except Failure PUnit → Tables → List Happening → Prop}
    (holds : post (.ok ⟨⟩) tables []) :
    (AccountLookup.rememberAccount account).Among tables post := by
  unfold AccountLookup.rememberAccount
  induction AccountLookup.keys account with
  | nil => exact Operation.among_pure holds
  | cons key keys ih =>
    have remembers : (remember key account).Among tables fun outcome mid first =>
        outcome = .ok () ∧ mid = tables ∧ first = [] :=
      Program.among_bind (Program.among_request nofun fun answer =>
        Program.among_done ⟨rfl, rfl, rfl⟩)
    refine Operation.among_bind (Operation.among_mono remembers ?_)
    rintro _ _ _ ⟨rfl, rfl, rfl⟩
    exact ih

theorem getAccount_eq (id : String) : AccountLookup.get id = (do
    let known ← remembered (AccountLookup.idKey id)
    match known with
    | some account => pure (some account)
    | none =>
      let found ← first Account (accountQuery id)
      match found with
      | none => pure none
      | some account => do
        AccountLookup.rememberAccount account
        pure (some account)) := by
  unfold AccountLookup.get AccountLookup.find
  congr 1
  funext known
  cases known with
  | some account => rfl
  | none =>
    simp only [first, bind_assoc]
    congr 1
    funext rows
    cases rows with
    | nil => rfl
    | cons row rows => simp

/-- An account comes from the cache, or from the store. -/
theorem getAccount_among {post : Except Failure (Option Account) → Tables → List Happening → Prop}
    (cached : ∀ account, post (.ok (some account)) tables [])
    (told : ∀ others mid outcome, Meanwhile tables others mid →
      (∀ a : Account, mid.Shows (accountQuery id) a → outcome = .ok (some a)) →
      post outcome mid (others ++ [.own none (accountQuery id) mid])) :
    (AccountLookup.get id).Among tables post := by
  rw [getAccount_eq]
  refine Operation.among_bind (Program.among_bind (Program.among_request ?_ fun known => ?_))
  · exact nofun
  refine Program.among_done ?_
  cases known with
  | some account => exact Operation.among_pure (cached account)
  | none =>
    refine Operation.among_bind (first_among fun others mid outcome meanwhile _ found => ?_)
    rcases outcome with failure | _ | account
    · exact told others mid _ meanwhile found
    · refine Operation.among_pure ?_
      simp only [List.append_nil, List.nil_append]
      exact told others mid _ meanwhile found
    · refine Operation.among_bind (rememberAccount_among (Operation.among_pure ?_))
      simp only [List.append_nil, List.nil_append]
      exact told others mid _ meanwhile found

/-- A write is meant for a row, or meets none and is a conflict. -/
theorem saveExecution_among {e : Execution}
    {post : Except Failure Unit → Execution → Tables → List Happening → Prop}
    (written : ∀ others mid, Meanwhile tables others mid → ((saveQuery e).run mid).1 ≠ [] →
      post (.ok ()) e.saved ((saveQuery e).run mid).2 (others ++ [.own none (saveQuery e) mid]))
    (missed : ∀ others mid, Meanwhile tables others mid → ((saveQuery e).run mid).1 = [] →
      post (.error (.conflict e.id e.revision)) e ((saveQuery e).run mid).2
        (others ++ [.own none (saveQuery e) mid]))
    (unwritable : DocumentType.isWritable e = false → post (.error .nestedTooDeep) e tables []) :
    saveExecution.Among e tables post := by
  unfold saveExecution
  refine Run.among_bind (Run.among_get (Run.among_bind (Run.among_lift ?_)))
  unfold Operation.ensureWritable
  cases writable : DocumentType.isWritable e with
  | false => exact Operation.among_throw (unwritable writable)
  | true =>
    refine Operation.among_pure (Run.among_bind (Run.among_lift ?_))
    refine Operation.among_query fun others mid meanwhile => ?_
    cases rows : ((saveQuery e).run mid).1 with
    | nil =>
      refine Run.among_throw ?_
      rw [List.append_nil]
      exact missed others mid meanwhile rows
    | cons row rest =>
      refine Run.among_set ?_
      rw [List.append_nil]
      exact written others mid meanwhile (by rw [rows]; exact List.cons_ne_nil row rest)

end Store

/-- A continued execution is asked for as its traversal. -/
theorem Run.resume_among (deployment : Deployment) (account : Account) (flow : Option Flow)
    (e : Execution) (tables : Tables) :
    (Run.resume deployment account flow).Among e tables
      fun _ _ _ history => ∀ h ∈ history, h.Within e.id :=
  fun _ _ _ amid => Program.amid_traversing amid

end MessageFlow

/-!
Traversals among others whose queries are all served: only a conflict ends one early, and that is
no failure.
-/

namespace MessageFlow.Run
open Operation Store

variable {α β : Type}

/-- Nothing but a conflict fails the run, and what can be written before it can be written
afterwards. -/
def OnlyConflicts (run : Run α) : Prop :=
  ∀ e tables, DocumentType.isWritable e = true → run.Among e tables fun outcome e' _ _ =>
    DocumentType.isWritable e' = true ∧ ∀ failure, outcome = .error failure →
      failure.isConflict = true

theorem onlyConflicts_pure (a : α) : (pure a : Run α).OnlyConflicts :=
  fun _ _ writable => among_pure ⟨writable, nofun⟩

theorem onlyConflicts_get : (get : Run Execution).OnlyConflicts :=
  fun _ _ writable => among_get ⟨writable, nofun⟩

theorem onlyConflicts_now : (lift now).OnlyConflicts :=
  fun _ _ writable => among_lift (among_now fun _ => ⟨writable, nofun⟩)

theorem onlyConflicts_throw {failure : Failure} (conflict : failure.isConflict = true) :
    (throw failure : Run α).OnlyConflicts := by
  refine fun _ _ writable => among_throw ⟨writable, fun _ same => ?_⟩
  cases same
  exact conflict

theorem OnlyConflicts.bind {run : Run α} {f : α → Run β} (first : run.OnlyConflicts)
    (rest : ∀ a, (f a).OnlyConflicts) : (run >>= f).OnlyConflicts := by
  intro e tables writable
  refine among_bind (among_mono (first e tables writable) ?_)
  rintro (failure | a) e' mid _ ⟨still, conflict⟩
  · exact ⟨still, fun _ same => by cases same; exact conflict _ rfl⟩
  · exact among_mono (rest a e' mid still) fun _ _ _ _ holds => holds

theorem OnlyConflicts.after_modify {change : Execution → Execution} {run : Run α}
    (rest : run.OnlyConflicts) (keeps : ∀ e : Execution, e.Keeps (change e)) :
    (do modify change; run : Run α).OnlyConflicts := by
  have modifies : (modify change : Run PUnit).OnlyConflicts :=
    fun e _ writable => among_modify ⟨(keeps e).isWritable.trans writable, nofun⟩
  exact modifies.bind fun _ => rest

theorem saveExecution_onlyConflicts : saveExecution.OnlyConflicts := by
  intro e tables writable
  refine saveExecution_among (fun _ _ _ _ => ⟨writable, nofun⟩) (fun _ _ _ _ => ⟨writable, ?_⟩) ?_
  · intro failure same
    cases same
    rfl
  · intro unwritable
    cases writable.symm.trans unwritable

theorem save_onlyConflicts : save.OnlyConflicts :=
  onlyConflicts_now.bind fun _ =>
    saveExecution_onlyConflicts.after_modify fun _ => .of_same_context rfl rfl rfl rfl

theorem complete_onlyConflicts : complete.OnlyConflicts :=
  onlyConflicts_now.bind fun _ =>
    save_onlyConflicts.after_modify fun _ => .of_same_context rfl rfl rfl rfl

theorem fail_onlyConflicts (reason : String) : (fail reason).OnlyConflicts :=
  save_onlyConflicts.after_modify fun _ => .of_same_context rfl rfl rfl rfl

variable (deployment : Deployment) (account : Account) (flow : Flow)

/-- A node may fail in any way, but leaves an object that can be written. -/
theorem handleNode_among (node : Node) {e : Execution} (tables : Tables)
    (writable : DocumentType.isWritable e = true) :
    (handleNode deployment account flow node).Among e tables fun _ e' _ _ =>
      DocumentType.isWritable e' = true := by
  intro history outcome after amid
  -- What a node keeps is known of its discipline, whatever the store answers.
  have spares : Discipline.sparing.Spares () := fun _ spares => ⟨rfl, spares⟩
  obtain ⟨_, accompanies, _⟩ := amid.obeys (handleNode_spares deployment account flow node spares)
  exact accompanies.isWritable.trans writable

/-- The failure of a node is written down. -/
theorem executeNode_onlyConflicts (node : Node) :
    (executeNode deployment account flow node).OnlyConflicts := by
  intro e tables writable
  unfold executeNode
  refine among_bind (among_attempt (among_mono
    (handleNode_among deployment account flow node tables writable) ?_))
  intro outcome e' mid _ still
  rcases outcome with failure | outcome
  · by_cases conflict : failure.isConflict = true
    · simp only [if_pos conflict]
      exact onlyConflicts_throw conflict e' mid still
    · simp only [if_neg conflict]
      exact (fail_onlyConflicts failure.record).bind (fun _ => onlyConflicts_pure _) e' mid still
  · exact onlyConflicts_pure outcome e' mid still

theorem visit_onlyConflicts (node : Node) : (visit deployment account flow node).OnlyConflicts := by
  unfold visit
  refine OnlyConflicts.after_modify ?_ fun _ => .of_same_context rfl rfl rfl rfl
  refine (executeNode_onlyConflicts deployment account flow node).bind fun outcome => ?_
  cases outcome with
  | failed error => exact onlyConflicts_pure none
  | proceed | branch | suspend => exact save_onlyConflicts.bind fun _ => onlyConflicts_pure _

theorem walk_onlyConflicts (steps : Nat) (queue : List Node) (branch : Option Bool) :
    (walk deployment account flow steps queue branch).OnlyConflicts :=
  walk_of (onlyConflicts_pure ()) complete_onlyConflicts (fail_onlyConflicts stepLimitError)
    (fun _ rest => onlyConflicts_get.bind rest)
    (fun node _ rest => (visit_onlyConflicts deployment account flow node).bind rest)
    steps queue branch

/-- With its flow at hand, a traversal that can be written does not fail. -/
theorem resume_succeeds {e : Execution} (tables : Tables)
    (writable : DocumentType.isWritable e = true) :
    (resume deployment account (some flow)).Among e tables fun outcome _ _ _ =>
      outcome = .ok () := by
  have traverses : (traverse deployment account (some flow)).OnlyConflicts :=
    onlyConflicts_get.bind fun _ => walk_onlyConflicts deployment account flow maxSteps [] none
  unfold resume
  refine among_traversing (fun outcome _ _ => outcome = .ok ()) ?_
  refine among_bind (among_attempt (among_mono (traverses e tables writable) ?_))
  rintro (failure | ⟨⟩) e' mid _ ⟨_, conflict⟩
  · simp only [if_pos (conflict failure rfl)]
    exact among_pure rfl
  · exact among_pure rfl

end MessageFlow.Run
