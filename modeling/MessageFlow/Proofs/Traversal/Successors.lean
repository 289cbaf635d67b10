import Mathlib.Data.List.Basic
import Mathlib.Data.List.Induction
import MessageFlow.Flow.Successor
import MessageFlow.Flow.Validation

/-!
What follows a node: the existing targets of its eligible edges, each one once, in the order in
which an eligible edge first names them. From this it is derived what a branch leaves of the nodes
that follow when none is taken, and that validation leaves no eligible edge without its target.
-/

namespace MessageFlow

namespace Edge

/-- An empty handle is none. -/
def IsUnlabelled (edge : Edge) : Prop := edge.sourceHandle = none ∨ edge.sourceHandle = some ""

/-- The edge may be followed on the branch: none is taken, or the edge has no handle, or its handle
names the branch. -/
def IsEligible (edge : Edge) (branch : Option Bool) : Prop :=
  branch = none ∨ edge.IsUnlabelled ∨
    ∃ taken, branch = some taken ∧ edge.sourceHandle = some (branchHandle taken)

/-- The handle names neither branch. -/
def IsForeign (edge : Edge) : Prop :=
  ∃ handle, edge.sourceHandle = some handle ∧ handle ≠ "" ∧ handle ≠ "true" ∧ handle ≠ "false"

variable {edge : Edge} {branch : Option Bool}

theorem follows_iff : edge.follows branch = true ↔ edge.IsEligible branch := by
  unfold follows IsEligible IsUnlabelled
  cases branch with
  | none => simp
  | some taken =>
    cases edge.sourceHandle with
    | none => simp
    | some handle => simp [String.isEmpty_iff]

instance (edge : Edge) (branch : Option Bool) : Decidable (edge.IsEligible branch) :=
  decidable_of_iff _ follows_iff

/-- An edge that is eligible on neither branch has a foreign handle. -/
theorem isForeign_of_not_isEligible (barred : ∀ taken, ¬ edge.IsEligible (some taken)) :
    edge.IsForeign := by
  unfold IsEligible IsUnlabelled at barred
  unfold IsForeign
  cases handle : edge.sourceHandle with
  | none => exact absurd (.inr (.inl (.inl handle))) (barred true)
  | some name =>
    refine ⟨name, rfl, ?_, ?_, ?_⟩
    · rintro rfl
      exact barred true (.inr (.inl (.inr handle)))
    · rintro rfl
      exact barred true (.inr (.inr ⟨true, rfl, handle⟩))
    · rintro rfl
      exact barred false (.inr (.inr ⟨false, rfl, handle⟩))

end Edge

theorem nodup_eraseDups {α : Type} [BEq α] [LawfulBEq α] (items : List α) :
    items.eraseDups.Nodup := by
  induction items using List.reverseRecOn with
  | nil => exact List.nodup_nil
  | append_singleton items item ih =>
    rw [List.eraseDups_append]
    by_cases old : item ∈ items
    · simpa [List.removeAll, old] using ih
    · have last : ([item].removeAll items).eraseDups = [item] := by
        simp [List.removeAll, old, List.eraseDups_cons]
      rw [last]
      refine List.nodup_append.mpr ⟨ih, List.pairwise_singleton _ item, ?_⟩
      rintro other present _ isLast rfl
      rw [List.mem_singleton.mp isLast, List.mem_eraseDups] at present
      exact old present

namespace Flow

variable (flow : Flow) (nodeId : String) (branch : Option Bool)

/-- The existing targets of the eligible edges that leave the node, as often as they are named. -/
def targetsAmong (edges : List Edge) : List String :=
  ((edges.filter fun edge => edge.source = nodeId ∧ edge.IsEligible branch).map (·.target)).filter
    fun target => (flow.node? target).isSome

variable {flow nodeId branch} in
theorem targetsAmong_cons (edge : Edge) (edges : List Edge) :
    flow.targetsAmong nodeId branch (edge :: edges) =
      if edge.source = nodeId ∧ edge.IsEligible branch ∧ (flow.node? edge.target).isSome then
        edge.target :: flow.targetsAmong nodeId branch edges
      else flow.targetsAmong nodeId branch edges := by
  unfold targetsAmong
  by_cases passes : edge.source = nodeId ∧ edge.IsEligible branch
  · by_cases found : (flow.node? edge.target).isSome
    · simp [passes, found]
    · simp [passes, found]
  · simp [passes, ← and_assoc]

/-- The collected nodes are those whose ids are not taken yet, by the first edge to each. -/
theorem collectTargets_eq (seen : List String) (edges : List Edge) :
    collectTargets flow nodeId branch seen edges =
      ((flow.targetsAmong nodeId branch edges).filter (· ∉ seen)).eraseDups.filterMap
        flow.node? := by
  induction edges generalizing seen with
  | nil => rfl
  | cons edge edges ih =>
    rw [collectTargets, targetsAmong_cons]
    by_cases passes : edge.source = nodeId ∧ edge.IsEligible branch
    · obtain ⟨leaves, eligible⟩ := passes
      simp only [leaves, Edge.follows_iff.mpr eligible, eligible, BEq.rfl, Bool.true_and, true_and]
      by_cases taken : edge.target ∈ seen
      · have drops (targets : List String) :
            (edge.target :: targets).filter (· ∉ seen) = targets.filter (· ∉ seen) := by
          simp [taken]
        rw [if_neg (by simp [taken]), ih]
        split
        · rw [drops]
        · rfl
      · rw [if_pos (by simp [taken])]
        cases found : flow.node? edge.target with
        | none => exact ih seen
        | some node =>
          simp only [Option.isSome_some, if_true, List.filter_cons, taken, not_false_eq_true,
            decide_true, List.eraseDups_cons, List.filterMap_cons, found, List.filter_filter, ih]
          simp [Bool.beq_eq_decide_eq]
    · have barred :
          ¬ (edge.source == nodeId && edge.follows branch && !seen.contains edge.target) := by
        intro passed
        simp only [Bool.and_eq_true, beq_iff_eq, Edge.follows_iff] at passed
        exact passes passed.1
      rw [if_neg barred, if_neg fun ⟨leaves, eligible, _⟩ => passes ⟨leaves, eligible⟩]
      exact ih seen

theorem successors_eq : flow.successors nodeId branch =
    (flow.targetsAmong nodeId branch flow.edges).eraseDups.filterMap flow.node? := by
  rw [successors, collectTargets_eq, List.filter_eq_self.mpr fun _ _ => by simp]

variable {flow nodeId branch} {node : Node} {target : String}

theorem id_of_node? (found : flow.node? target = some node) : node.id = target := by
  simpa using List.find?_some found

theorem mem_targetsAmong {edges : List Edge} : target ∈ flow.targetsAmong nodeId branch edges ↔
    (∃ edge ∈ edges, edge.source = nodeId ∧ edge.IsEligible branch ∧ edge.target = target) ∧
      (flow.node? target).isSome := by
  simp [targetsAmong, and_assoc]

/-- A node follows if an eligible edge leads to it. -/
theorem mem_successors : node ∈ flow.successors nodeId branch ↔
    ∃ edge ∈ flow.edges, edge.source = nodeId ∧ edge.IsEligible branch ∧
      flow.node? edge.target = some node := by
  rw [successors_eq, List.mem_filterMap]
  constructor
  · rintro ⟨target, listed, found⟩
    rw [List.mem_eraseDups, mem_targetsAmong] at listed
    obtain ⟨⟨edge, present, leaves, eligible, rfl⟩, -⟩ := listed
    exact ⟨edge, present, leaves, eligible, found⟩
  · rintro ⟨edge, present, leaves, eligible, found⟩
    refine ⟨edge.target, ?_, found⟩
    rw [List.mem_eraseDups, mem_targetsAmong, found]
    exact ⟨⟨edge, present, leaves, eligible, rfl⟩, rfl⟩

/-- The ids of what follows are the targets themselves. -/
theorem ids_successors : (flow.successors nodeId branch).map (·.id) =
    (flow.targetsAmong nodeId branch flow.edges).eraseDups := by
  rw [successors_eq, List.map_filterMap]
  have same : ∀ target ∈ (flow.targetsAmong nodeId branch flow.edges).eraseDups,
      (flow.node? target).map (·.id) = some target := by
    intro target listed
    obtain ⟨node, found⟩ := Option.isSome_iff_exists.mp
      (mem_targetsAmong.mp (List.mem_eraseDups.mp listed)).2
    rw [found, Option.map_some, id_of_node? found]
  rw [List.filterMap_congr same, List.filterMap_some]

/-- An accepted flow has the targets of its edges. -/
theorem exists_target_of_accepted {edge : Edge}
    (accepted : flowProblems flow.nodes flow.edges = []) (present : edge ∈ flow.edges) :
    ∃ node, flow.node? edge.target = some node := by
  simp only [flowProblems, List.append_eq_nil_iff, List.flatMap_eq_nil_iff] at accepted
  obtain ⟨⟨⟨-, edges⟩, -⟩, -⟩ := accepted
  have reaches := (List.append_eq_nil_iff.mp (edges edge present)).2
  have listed : edge.target ∈ flow.nodes.map (·.id) := by
    by_contra missing
    simp [missing] at reaches
  obtain ⟨node, isNode, named⟩ := List.mem_map.mp listed
  refine Option.isSome_iff_exists.mp (List.find?_isSome.mpr ⟨node, isNode, ?_⟩)
  exact beq_iff_eq.mpr named

end Flow

/-- What follows a node are the existing targets of the eligible edges that leave it, each one once
and in the order of its first eligible edge. So a branch adds nothing to what follows without one,
and takes nothing away that an edge without a handle leads to; what follows on neither branch is
reached along foreign handles only; and in an accepted flow each eligible edge leads somewhere. -/
theorem successors_resolve_edges (flow : Flow) (nodeId : String) :
    (∀ branch, flow.successors nodeId branch =
        (flow.targetsAmong nodeId branch flow.edges).eraseDups.filterMap flow.node? ∧
      ((flow.successors nodeId branch).map (·.id)).Nodup) ∧
    (∀ taken, flow.successors nodeId (some taken) ⊆ flow.successors nodeId none) ∧
    (∀ edge ∈ flow.edges, edge.source = nodeId → edge.IsUnlabelled →
      ∀ node, flow.node? edge.target = some node → ∀ branch,
        node ∈ flow.successors nodeId branch) ∧
    (∀ node, (∀ taken, node ∉ flow.successors nodeId (some taken)) →
      ∀ edge ∈ flow.edges, edge.source = nodeId → flow.node? edge.target = some node →
        edge.IsForeign) ∧
    (flowProblems flow.nodes flow.edges = [] → ∀ edge ∈ flow.edges, edge.source = nodeId →
      ∀ branch, edge.IsEligible branch →
        ∃ node ∈ flow.successors nodeId branch, flow.node? edge.target = some node) := by
  refine ⟨fun branch => ⟨flow.successors_eq nodeId branch, ?_⟩, ?_, ?_, ?_, ?_⟩
  · rw [Flow.ids_successors]
    exact nodup_eraseDups _
  · intro taken node follows
    obtain ⟨edge, present, leaves, _, found⟩ := Flow.mem_successors.mp follows
    exact Flow.mem_successors.mpr ⟨edge, present, leaves, .inl rfl, found⟩
  · intro edge present leaves unlabelled node found branch
    exact Flow.mem_successors.mpr ⟨edge, present, leaves, .inr (.inl unlabelled), found⟩
  · intro node passedOver edge present leaves found
    refine Edge.isForeign_of_not_isEligible fun taken eligible => passedOver taken ?_
    exact Flow.mem_successors.mpr ⟨edge, present, leaves, eligible, found⟩
  · intro accepted edge present leaves branch eligible
    obtain ⟨node, found⟩ := Flow.exists_target_of_accepted accepted present
    exact ⟨node, Flow.mem_successors.mpr ⟨edge, present, leaves, eligible, found⟩, found⟩

namespace Example

def tagging (tag : String) : Node :=
  { id := tag, type := "action", data := { actionType := some "add_tag", tag := some tag },
    position := none, extras := [] }

def maybe : Edge := ⟨none, "asked", "later", some "maybe", []⟩

def anyway : Edge := ⟨none, "asked", "both", none, []⟩

/-- Behind the question, one node is reached with and without the handle of a branch, and one only
with a handle that is none. -/
def poll : Flow where
  id := "poll"
  userId := none
  accountId := "shop"
  name := "Poll"
  description := none
  nodes := [
    { id := "begin", type := "trigger", data := { triggerType := some "new_follower" },
      position := none, extras := [] },
    { id := "asked", type := "condition", data := { conditionType := some "user_replied" },
      position := none, extras := [] },
    tagging "yes", tagging "no", tagging "both", tagging "later"]
  edges := [⟨none, "begin", "asked", none, []⟩, maybe, ⟨none, "asked", "both", some "true", []⟩,
    ⟨none, "asked", "yes", some "true", []⟩, anyway, ⟨none, "asked", "no", some "false", []⟩]
  isActive := true
  triggerCount := 0
  lastTriggeredAt := none
  createdAt := none
  updatedAt := none
  extras := []

end Example

open Example in
theorem successors_resolve_edges_poll :
    flowProblems poll.nodes poll.edges = [] ∧
      (poll.successors "asked" none).map (·.id) = ["later", "both", "yes", "no"] ∧
      (poll.successors "asked" (some true)).map (·.id) = ["both", "yes"] ∧
      poll.successors "asked" (some true) ⊆ poll.successors "asked" none ∧
      tagging "both" ∈ poll.successors "asked" (some false) ∧ maybe.IsForeign ∧
      ∃ node ∈ poll.successors "asked" none, poll.node? maybe.target = some node := by
  obtain ⟨resolved, narrows, unlabelled, passedOver, accepted⟩ :=
    successors_resolve_edges poll "asked"
  refine ⟨by decide, ?_, ?_, narrows true, ?_, ?_, ?_⟩
  · rw [(resolved none).1]
    decide
  · rw [(resolved (some true)).1]
    decide
  · exact unlabelled anyway (by decide) rfl (.inl rfl) _ (by decide) _
  · exact passedOver (tagging "later") (by decide) maybe (by decide) rfl (by decide)
  · exact accepted (by decide) maybe (by decide) rfl none (.inl rfl)

end MessageFlow
