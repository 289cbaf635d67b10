import MessageFlow.Flow.Validation
import MessageFlow.Proofs.Text.Classes

/-!
Which triggers of an accepted flow can fire at all. Validation counts keywords and does not look
into them, and it does not look at posts: a trigger whose keywords are all blank, or whose posts all
have an empty id, is accepted and waits for an event that never comes.
-/

namespace MessageFlow

namespace Text

/-- The first character is lowered alike whatever follows it. -/
theorem lowerFrom_singleton_starts (c : Char) (rest : List Char) :
    lowerFrom [] [c] <+: lowerFrom [] (c :: rest) := by
  -- A sigma becomes a final one only behind a letter.
  have behindNothing : meetsCased [] = false := rfl
  simp only [lowerFrom, behindNothing, Bool.false_and, List.append_nil]
  exact List.prefix_append _ _

theorem lowerFrom_cons_ne_nil (before : List Char) (c : Char) (rest : List Char) :
    lowerFrom before (c :: rest) ≠ [] := by
  simp only [lowerFrom, ne_eq, List.append_eq_nil_iff, not_and]
  intro none
  split_ifs at none

theorem words_singleton {c : Char} (notBlank : isBlank c = false) :
    words (String.ofList [c]) = [String.ofList [c]] := by
  simp [words, splitWords, notBlank]

theorem occursIn_of_prefix {part text : List Char} (starts : part <+: text) :
    occursIn part text = true := by
  cases text with
  | nil =>
    rw [List.prefix_nil.mp starts]
    rfl
  | cons c rest => simp [occursIn, List.isPrefixOf_iff_prefix.mpr starts]

end Text

open Text

/-- A keyword that is not blank is met by its first letter. -/
theorem exists_keywordMatches {keyword : String} (hasWord : HasWord keyword) :
    ∃ c, isBlank c = false ∧ keywordMatches (String.ofList [c]) keyword = true := by
  obtain ⟨c, rest, notBlank, trimmed⟩ := toList_trim_eq_cons hasWord
  have event : normalizeKeyword (String.ofList [c]) = lowerFrom [] [c] := by
    rw [normalizeKeyword, lower, String.toList_ofList, toList_trim, String.toList_ofList]
    simp [notBlank, List.rdropWhile]
  have trigger : normalizeKeyword keyword = lowerFrom [] (c :: rest) := by
    rw [normalizeKeyword, lower, String.toList_ofList, trimmed]
  refine ⟨c, notBlank, ?_⟩
  rw [keywordMatches, event, trigger]
  simp [lowerFrom_cons_ne_nil, occursIn_of_prefix (lowerFrom_singleton_starts c rest)]

theorem hasWord_of_keywordMatches {event keyword : String}
    (fits : keywordMatches event keyword = true) : HasWord keyword := by
  apply hasWord_of_trim
  intro none
  have normal : normalizeKeyword keyword = [] := by
    rw [normalizeKeyword, lower, String.toList_ofList, none]
    rfl
  simp [keywordMatches, normal] at fits

namespace NodeData

variable {data : NodeData}

/-- A trigger for some posts names one that a comment can be left on. -/
def NamesPost (data : NodeData) : Prop :=
  data.triggerType = some TriggerKind.comment.text → data.postIds.getD [] ≠ [] →
    ∃ post ∈ data.postIds.getD [], post ≠ ""

/-- A trigger that is selected by keywords has one with a word in it. -/
def HasKeyword (data : NodeData) : Prop :=
  needsKeywords data.triggerType = true → ∃ keyword ∈ data.keywords.getD [], HasWord keyword

theorem namesPost_iff : data.NamesPost ↔
    ∃ post : String, post ≠ "" ∧ data.admitsPost data.triggerType (some post) = true := by
  unfold NamesPost admitsPost
  constructor
  · intro names
    by_cases confined : data.triggerType = some TriggerKind.comment.text ∧ data.postIds.getD [] ≠ []
    · obtain ⟨post, listed, filled⟩ := names confined.1 confined.2
      exact ⟨post, filled, by simp [listed, filled]⟩
    · refine ⟨"post", by decide, ?_⟩
      rw [not_and_or, not_not] at confined
      rcases confined with otherType | anyPost
      · simp [otherType]
      · simp [anyPost]
  · rintro ⟨post, filled, admitted⟩ isComment confined
    have listed : post ∈ data.postIds.getD [] := by
      simpa [isComment, confined, filled] using admitted
    exact ⟨post, listed, filled⟩

theorem hasKeyword_iff
    (counted : needsKeywords data.triggerType = true → data.keywords.getD [] ≠ []) :
    data.HasKeyword ↔ ∃ text : String,
      data.admitsKeywords data.triggerType (keywordsOf (some text)) = true := by
  unfold HasKeyword admitsKeywords
  cases selected : needsKeywords data.triggerType with
  | false => simp
  | true =>
    have some : (data.keywords.getD []).isEmpty = false := by
      simpa using counted selected
    simp only [some, Bool.not_true, Bool.false_or, forall_const]
    constructor
    · rintro ⟨keyword, listed, hasWord⟩
      obtain ⟨c, notBlank, fits⟩ := exists_keywordMatches hasWord
      refine ⟨String.ofList [c], ?_⟩
      have event : keywordsOf (Option.some (String.ofList [c])) = [String.ofList [c]] :=
        words_singleton notBlank
      rw [event]
      exact List.any_eq_true.mpr ⟨_, List.mem_singleton_self _,
        List.any_eq_true.mpr ⟨keyword, listed, fits⟩⟩
    · rintro ⟨text, fits⟩
      obtain ⟨event, -, fits⟩ := List.any_eq_true.mp fits
      obtain ⟨keyword, listed, fits⟩ := List.any_eq_true.mp fits
      exact ⟨keyword, listed, hasWord_of_keywordMatches fits⟩

end NodeData

/-- An accepted trigger that is selected by keywords has some. -/
theorem keywords_ne_nil_of_accepted {nodes : List Node} {edges : List Edge} {node : Node}
    (accepted : flowProblems nodes edges = []) (present : node ∈ nodes)
    (isTrigger : node.kind? = some .trigger)
    (selected : needsKeywords node.data.triggerType = true) :
    node.data.keywords.getD [] ≠ [] := by
  simp only [flowProblems, List.append_eq_nil_iff, List.flatMap_eq_nil_iff] at accepted
  obtain ⟨⟨-, triggers⟩, -⟩ := accepted
  have isListed : node ∈ nodes.filter (·.kind? == some .trigger) :=
    List.mem_filter.mpr ⟨present, by simp [isTrigger]⟩
  have counted := (List.append_eq_nil_iff.mp (triggers node isListed)).2
  intro none
  simp [selected, none] at counted

/-- A trigger of an accepted flow can fire if it has a keyword with a word in it and a post to
listen to, so far as it asks for them, and not otherwise. -/
theorem Flow.can_fire_iff (flow : Flow) (node : Node)
    (accepted : flowProblems flow.nodes flow.edges = []) (present : node ∈ flow.nodes)
    (isTrigger : node.kind? = some .trigger) :
    (∃ text post : String, post ≠ "" ∧ node ∈ flow.matchingTriggers node.data.triggerType
        (keywordsOf (some text)) (some post)) ↔
      node.data.HasKeyword ∧ node.data.NamesPost := by
  rw [NodeData.hasKeyword_iff (keywords_ne_nil_of_accepted accepted present isTrigger),
    NodeData.namesPost_iff]
  simp only [matchingTriggers, List.mem_filter, present, true_and, Node.firesOn, isTrigger,
    BEq.rfl, Bool.true_and, Bool.and_eq_true]
  constructor
  · rintro ⟨text, post, filled, admitsPost, admitsKeywords⟩
    exact ⟨⟨text, admitsKeywords⟩, post, filled, admitsPost⟩
  · rintro ⟨⟨text, admitsKeywords⟩, post, filled, admitsPost⟩
    exact ⟨text, post, filled, admitsPost, admitsKeywords⟩

namespace Example

def opening (data : NodeData) : Node :=
  { id := "begin", type := "trigger", data, position := none, extras := [] }

def hello : Node :=
  { id := "hello", type := "message", data := { text := some "Hello" }, position := none,
    extras := [] }

/-- A welcome for those who set off the trigger. -/
def welcome (data : NodeData) : Flow where
  id := "welcome"
  userId := none
  accountId := "shop"
  name := "Welcome"
  description := none
  nodes := [opening data, hello]
  edges := [⟨none, "begin", "hello", none, []⟩]
  isActive := true
  triggerCount := 0
  lastTriggeredAt := none
  createdAt := none
  updatedAt := none
  extras := []

def saleComment : NodeData where
  triggerType := some "comment"
  keywords := some [" ", "Sale"]
  postIds := some ["", "post"]

def blankKeyword : NodeData where
  triggerType := some "keyword"
  keywords := some [" "]

end Example

open Example in
/-- Beside a blank keyword and an empty post id there are others, and they can be met. -/
theorem sale_comment_can_fire :
    flowProblems (welcome saleComment).nodes (welcome saleComment).edges = [] ∧
      ∃ text post : String, post ≠ "" ∧ opening saleComment ∈
        (welcome saleComment).matchingTriggers (some "comment") (keywordsOf (some text))
          (some post) := by
  have accepted : flowProblems (welcome saleComment).nodes (welcome saleComment).edges = [] := by
    decide
  refine ⟨accepted, ?_⟩
  refine (Flow.can_fire_iff (welcome saleComment) (opening saleComment) accepted
    List.mem_cons_self (by decide)).mpr ⟨fun _ => ?_, fun _ _ => ?_⟩
  · exact ⟨"Sale", List.mem_cons_of_mem _ List.mem_cons_self, 'S', by decide, by decide⟩
  · exact ⟨"post", List.mem_cons_of_mem _ List.mem_cons_self, by decide⟩

open Example in
/-- A flow is accepted though no event has the keyword that its only trigger asks for. -/
theorem not_every_trigger_can_fire : ¬ ∀ (flow : Flow) (node : Node),
    flowProblems flow.nodes flow.edges = [] → node ∈ flow.nodes →
    node.kind? = some .trigger → ∃ text post : String, post ≠ "" ∧
      node ∈ flow.matchingTriggers node.data.triggerType (keywordsOf (some text)) (some post) := by
  intro every
  obtain ⟨text, post, -, fires⟩ := every (welcome blankKeyword) (opening blankKeyword) (by decide)
    List.mem_cons_self (by decide)
  have admits := (List.mem_filter.mp fires).2
  simp only [Node.firesOn, Bool.and_eq_true] at admits
  have matched : keywordsMatch (keywordsOf (some text)) [" "] = true := admits.2
  obtain ⟨event, -, fits⟩ := List.any_eq_true.mp matched
  obtain ⟨keyword, listed, fits⟩ := List.any_eq_true.mp fits
  obtain ⟨c, isChar, notBlank⟩ := hasWord_of_keywordMatches fits
  rw [List.mem_singleton.mp listed] at isChar
  obtain rfl : c = ' ' := by simpa using isChar
  cases notBlank

end MessageFlow
