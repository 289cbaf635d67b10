import MessageFlow.Proofs.Interleaving.Traversal
import MessageFlow.Proofs.Traversal.Journey
import MessageFlow.Proofs.Traversal.Visit

/-!
The pace of a journey. It enters a node only when all nodes that it entered before are written down,
it writes nothing but its execution with all entered nodes in the trail, and the first write that
does not succeed is the last thing that it asks.
-/

namespace MessageFlow

/-- How a journey stands to what is stored. -/
inductive Pace where
  /-- All entered nodes are written down. -/
  | level
  /-- The last one need not be. -/
  | ahead
  /-- A write did not succeed. -/
  | over
  deriving DecidableEq

namespace Execution

/-- What a journey of `v` makes of the execution object once it has entered the nodes with those
ids. -/
structure Carries (v : Execution) (entered : List String) (e : Execution) : Prop where
  id : e.id = v.id
  extras : e.extras = v.extras
  contextExtras : e.context.extras = v.context.extras
  trail : ∀ nodeId ∈ entered, nodeId ∈ e.trail

variable {v e e' : Execution} {entered : List String}

theorem carries_nil (v : Execution) : v.Carries [] v := ⟨rfl, rfl, rfl, nofun⟩

/-- Changes that do not concern what is carried. -/
theorem Carries.of_same (carries : v.Carries entered e) (id : e'.id = e.id)
    (extras : e'.extras = e.extras) (context : e'.context = e.context)
    (trail : e'.trail = e.trail) :
    v.Carries entered e' where
  id := id.trans carries.id
  extras := extras.trans carries.extras
  contextExtras := by
    rw [context]
    exact carries.contextExtras
  trail := by
    rw [trail]
    exact carries.trail

theorem Carries.accompanied (carries : v.Carries entered e) (accompanies : e.Accompanies e') :
    v.Carries entered e' where
  id := accompanies.id.trans carries.id
  extras := accompanies.extras.trans carries.extras
  contextExtras := accompanies.contextExtras.trans carries.contextExtras
  trail := by
    rw [accompanies.trail]
    exact carries.trail

theorem Carries.movedTo (carries : v.Carries entered e) (node : Node) :
    v.Carries (entered ++ [node.id]) (e.movedTo node) where
  id := carries.id
  extras := carries.extras
  contextExtras := carries.contextExtras
  trail nodeId isEntered := by
    rcases List.mem_append.mp isEntered with earlier | now
    · exact List.mem_append_left _ (carries.trail nodeId earlier)
    · rw [List.mem_singleton.mp now]
      exact List.mem_append_right _ (List.mem_singleton_self node.id)

theorem Carries.isWritable (carries : v.Carries entered e) :
    DocumentType.isWritable e = DocumentType.isWritable v := by
  have same : DocumentType.loose e = DocumentType.loose v := by
    change (e.context.extras ++ e.extras).map (·.2) = (v.context.extras ++ v.extras).map (·.2)
    rw [carries.extras, carries.contextExtras]
  rw [DocumentType.isWritable, DocumentType.isWritable, same]

end Execution

namespace Pace

/-- After a write. -/
def afterSave : Except Failure (List Row) → Pace
  | .ok (_ :: _) => .level
  | _ => .over

/-- What may be asked at that pace. -/
inductive Permits (v : Execution) (entered : List String) (pace : Pace) :
    (request : Request) → (request.Answer → Pace) → Prop
  | aside (request : Request) (goesOn : pace ≠ .over) (spares : request.SparesExecutions) :
    Permits v entered pace request fun _ => pace
  | save (e : Execution) (goesOn : pace ≠ .over) (carries : v.Carries entered e)
    (writable : DocumentType.isWritable v = true) :
    Permits v entered pace (.query (Store.saveQuery e)) afterSave

def discipline (v : Execution) (entered : List String) : Discipline Pace :=
  fun pace _ request after => Permits v entered pace request after

theorem spares {v : Execution} {entered : List String} {pace : Pace} (goesOn : pace ≠ .over) :
    (discipline v entered).Spares pace := fun request spares => .aside request goesOn spares

end Pace

namespace Run

variable {v e : Execution} {entered : List String} {pace : Pace}

/-- At the same pace, or level when a write has succeeded; a failure may have any pace. -/
def Paced {α : Type} (v : Execution) (entered : List String) :
    Except Failure α → Execution → Pace → Prop
  | .ok _, e', pace => pace = .level ∧ v.Carries entered e'
  | .error _, _, _ => True

theorem saveExecution_paced (goesOn : pace ≠ .over) (carries : v.Carries entered e) :
    Store.saveExecution.Obeys (Pace.discipline v entered) e pace (Paced v entered) := by
  by_cases writable : DocumentType.isWritable v = true
  · have permitted : Pace.discipline v entered pace none (.query (Store.saveQuery e)) _ :=
      .save e goesOn carries writable
    apply obeys_mono (saveExecution_obeys permitted)
    rintro (failure | ⟨⟩) e' s' after
    · trivial
    · obtain ⟨rfl, _, row, rows, rfl⟩ := after
      exact ⟨rfl, carries.of_same rfl rfl rfl rfl⟩
  · refine obeys_bind (obeys_get (obeys_bind (obeys_lift ?_)))
    rw [Operation.ensureWritable, carries.isWritable, if_neg writable]
    exact Operation.obeys_throw trivial

theorem save_paced (goesOn : pace ≠ .over) (carries : v.Carries entered e) :
    save.Obeys (Pace.discipline v entered) e pace (Paced v entered) := by
  refine obeys_bind (obeys_lift (Operation.obeys_request _ (Pace.spares goesOn .now trivial) ?_))
  intro now _
  exact obeys_bind (obeys_modify (saveExecution_paced goesOn (carries.of_same rfl rfl rfl rfl)))

theorem fail_paced (reason : String) (goesOn : pace ≠ .over) (carries : v.Carries entered e) :
    (fail reason).Obeys (Pace.discipline v entered) e pace (Paced v entered) :=
  obeys_bind (obeys_modify (save_paced goesOn (carries.of_same rfl rfl rfl rfl)))

theorem complete_paced (goesOn : pace ≠ .over) (carries : v.Carries entered e) :
    complete.Obeys (Pace.discipline v entered) e pace (Paced v entered) := by
  refine obeys_bind (obeys_lift (Operation.obeys_request _ (Pace.spares goesOn .now trivial) ?_))
  intro now _
  exact obeys_bind (obeys_modify (save_paced goesOn (carries.of_same rfl rfl rfl rfl)))

variable (deployment : Deployment) (account : Account) (flow : Flow) (node : Node)

theorem executeNode_paced (goesOn : pace ≠ .over) (carries : v.Carries entered e) :
    (executeNode deployment account flow node).Obeys (Pace.discipline v entered) e pace fun
      | .ok _, e', pace' => pace' ≠ .over ∧ v.Carries entered e'
      | .error _, _, _ => True := by
  refine obeys_bind (obeys_attempt (obeys_mono
    (handleNode_spares deployment account flow node (Pace.spares goesOn)) ?_))
  rintro (failure | outcome) e' pace' ⟨accompanies, rfl⟩
  · by_cases conflict : failure.isConflict = true
    · simp only [conflict, if_true]
      exact obeys_throw trivial
    · simp only [conflict]
      apply obeys_then (fail_paced failure.record goesOn (carries.accompanied accompanies))
      · rintro ⟨⟩ e'' pace'' ⟨rfl, carries⟩
        exact obeys_pure ⟨nofun, carries⟩
      · exact fun _ _ _ _ => trivial
  · exact obeys_pure ⟨goesOn, carries.accompanied accompanies⟩

/-- A node is entered, executed and written down. -/
theorem visit_paced (carries : v.Carries entered e) :
    (visit deployment account flow node).Obeys (Pace.discipline v (entered ++ [node.id])) e .ahead
      fun
      | .ok (some _), e', pace => pace = .level ∧ v.Carries (entered ++ [node.id]) e'
      | .ok none, _, _ | .error _, _, _ => True := by
  have goesOn : Pace.ahead ≠ .over := nofun
  unfold visit
  refine obeys_bind (obeys_modify ?_)
  apply obeys_then (executeNode_paced deployment account flow node goesOn (carries.movedTo node))
  · rintro outcome e' pace ⟨goesOn, carries⟩
    have saves : (save >>= fun _ => pure (if outcome.continues then some outcome else none) :
        Run (Option NodeOutcome)).Obeys (Pace.discipline v (entered ++ [node.id])) e' pace fun
          | .ok (some _), e', pace => pace = .level ∧ v.Carries (entered ++ [node.id]) e'
          | .ok none, _, _ | .error _, _, _ => True := by
      apply obeys_then (save_paced goesOn carries)
      · rintro ⟨⟩ e'' pace' paced
        by_cases continues : outcome.continues = true
        · rw [if_pos continues]
          exact obeys_pure paced
        · rw [if_neg continues]
          exact obeys_pure trivial
      · exact fun _ _ _ _ => trivial
    cases outcome with
    | failed error => exact obeys_pure trivial
    | proceed => exact saves
    | branch condition => exact saves
    | suspend => exact saves
  · exact fun _ _ _ _ => trivial

end Run

namespace Journey

variable {α β : Type} {v e : Execution} {entered : List String} {pace : Pace}

/-- The journey keeps that pace from here on. -/
def Keeps (v : Execution) : Journey α → List String → Pace → Prop
  | .done _, _, _ => True
  | .enter node rest, entered, pace =>
    pace = .level ∧ rest.Keeps v (entered ++ [node.id]) .ahead
  | .ask request next, entered, pace => ∃ after, Pace.Permits v entered pace request after ∧
      ∀ answer, request.MayAnswer answer → (next answer).Keeps v entered (after answer)

theorem keeps_bind {p : Program α} {f : α → Journey β}
    (obeys : p.Obeys (Pace.discipline v entered) pace fun a pace' => (f a).Keeps v entered pace') :
    ((ofProgram p).bind f).Keeps v entered pace := by
  induction p generalizing pace with
  | done value => exact obeys
  | ask traversed request next ih =>
    obtain ⟨after, permitted, rest⟩ := obeys
    exact ⟨after, permitted, fun answer may => ih answer (rest answer may)⟩

/-- A program that ends the journey. -/
theorem keeps_ofProgram {p : Program α}
    (obeys : p.Obeys (Pace.discipline v entered) pace fun _ _ => True) :
    (ofProgram p).Keeps v entered pace := by
  induction p generalizing pace with
  | done value => trivial
  | ask traversed request next ih =>
    obtain ⟨after, permitted, rest⟩ := obeys
    exact ⟨after, permitted, fun answer may => ih answer (rest answer may)⟩

/-- After the last write nothing is asked and no node is entered. -/
theorem done_of_over {journey : Journey α} (keeps : journey.Keeps v entered .over) :
    ∃ value, journey = .done value := by
  cases journey with
  | done value => exact ⟨value, rfl⟩
  | enter node rest => cases keeps.1
  | ask request next =>
    obtain ⟨after, permits, _⟩ := keeps
    cases permits with
    | aside _ goesOn => exact absurd rfl goesOn
    | save e goesOn => exact absurd rfl goesOn

variable (deployment : Deployment) (account : Account)

theorem walk_keeps (flow : Flow) (steps : Nat) (queue : List Node) (branch : Option Bool)
    (carries : v.Carries entered e) :
    (walk deployment account flow steps queue branch e).Keeps v entered .level := by
  have completes {e : Execution} {entered : List String} (carries : v.Carries entered e) :
      (ofProgram (Run.outcome e Run.complete)).Keeps v entered .level :=
    keeps_ofProgram (Program.obeys_mono (Run.complete_paced nofun carries) fun _ _ _ => trivial)
  induction steps using Nat.strongRecOn generalizing queue branch e entered with
  | ind steps ih =>
    unfold walk
    rcases Run.upcoming flow queue branch e with _ | _ | ⟨node, rest⟩
    · trivial
    · exact completes carries
    · cases steps with
      | zero =>
        exact keeps_ofProgram (Program.obeys_mono
          (Run.fail_paced Run.stepLimitError nofun carries) fun _ _ _ => trivial)
      | succ steps =>
        refine ⟨rfl, keeps_bind (Program.obeys_mono
          (Run.visit_paced deployment account flow node carries) ?_)⟩
        rintro ⟨failure | _ | outcome, e'⟩ pace after
        · trivial
        · trivial
        · obtain ⟨rfl, carries⟩ := after
          exact ih steps (Nat.lt_succ_self steps) rest outcome.branch? carries

theorem traverse_keeps (flow : Option Flow) (v : Execution) :
    (traverse deployment account flow v).Keeps v [] .level := by
  have spares : (Pace.discipline v []).Spares .level := Pace.spares nofun
  have loads := Run.lift_spares (e := v) (Store.sparing_flowOr flow v.flowId) spares
  refine keeps_bind (Program.obeys_mono loads ?_)
  rintro ⟨failure | _ | flow, e⟩ pace ⟨rfl, rfl⟩
  · trivial
  · exact keeps_ofProgram (Program.obeys_mono
      (Run.fail_paced Run.flowNotFound nofun e.carries_nil) fun _ _ _ => trivial)
  · exact walk_keeps deployment account flow Run.maxSteps [] none e.carries_nil

/-- Turning the outcome of a journey into another one asks nothing more. -/
theorem keeps_map {journey : Journey α} {f : α → β} (keeps : journey.Keeps v entered pace) :
    (journey.bind fun a => .done (f a)).Keeps v entered pace := by
  induction journey generalizing entered pace with
  | done value => trivial
  | enter node rest ih => exact ⟨keeps.1, ih keeps.2⟩
  | ask request next ih =>
    obtain ⟨after, permitted, rest⟩ := keeps
    exact ⟨after, permitted, fun answer may => ih answer (rest answer may)⟩

theorem resume_keeps (flow : Option Flow) (v : Execution) :
    (resume deployment account flow v).Keeps v [] .level :=
  keeps_map (traverse_keeps deployment account flow v)

/-- Seen from outside, a journey spares all executions but its own. -/
theorem Keeps.obeys {σ : Type} {discipline : Discipline σ} {s : σ} {journey : Journey α}
    (keeps : journey.Keeps v entered pace)
    (spares : ∀ request : Request, request.SparesExecutions →
      discipline s (some v.id) request fun _ => s)
    (writes : ∀ e : Execution, e.id = v.id →
      discipline s (some v.id) (.query (Store.saveQuery e)) fun _ => s) :
    (journey.program v.id).Obeys discipline s fun _ s' => s' = s := by
  induction journey generalizing entered pace with
  | done value => rfl
  | enter node rest ih => exact ih keeps.2
  | ask request next ih =>
    obtain ⟨after, permits, rest⟩ := keeps
    refine ⟨fun _ => s, ?_, fun answer may => ih answer (rest answer may)⟩
    cases permits with
    | aside _ goesOn sparing => exact spares request sparing
    | save e goesOn carries => exact writes e carries.id

end Journey

/-- A run that resumes an execution writes no other one. -/
theorem Run.resume_writes {σ : Type} {discipline : Discipline σ} {s : σ} (deployment : Deployment)
    (account : Account) (flow : Option Flow) (v : Execution)
    (spares : ∀ request : Request, request.SparesExecutions →
      discipline s (some v.id) request fun _ => s)
    (writes : ∀ e : Execution, e.id = v.id →
      discipline s (some v.id) (.query (Store.saveQuery e)) fun _ => s) :
    (resume deployment account flow).Obeys discipline v s fun _ _ s' => s' = s := by
  have journey := (Journey.resume_keeps deployment account flow v).obeys spares writes
  rw [Journey.program_resume] at journey
  exact journey

end MessageFlow
