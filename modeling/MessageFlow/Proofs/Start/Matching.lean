import MessageFlow.Proofs.Start.Firing

/-!
Matching is a property of sets. What keywords match depends on the set of their normal forms, and
more keywords never match less; so the order in which an event mentions its keywords does not
matter, and an event that says more starts at least the same triggers. The words of a text can be
joined by any blanks and split again.
-/

namespace MessageFlow

namespace Text

/-- A text that is not empty and has no blank in it. -/
def IsWord (s : String) : Prop := s ≠ "" ∧ ∀ c ∈ s.toList, isBlank c = false

section splitWords

variable {word run blanks : List Char}

/-- Characters that are no blanks go on with the word under way. -/
theorem splitWords_append (plain : ∀ c ∈ run, isBlank c = false) (word rest : List Char) :
    splitWords word (run ++ rest) = splitWords (run.reverse ++ word) rest := by
  induction run generalizing word with
  | nil => rfl
  | cons c run ih =>
    obtain ⟨notBlank, plain⟩ := List.forall_mem_cons.mp plain
    rw [List.cons_append, splitWords, notBlank, if_neg Bool.false_ne_true, ih plain,
      List.reverse_cons, List.append_assoc, List.singleton_append]

theorem splitWords_blanks (blank : ∀ c ∈ blanks, isBlank c = true) (rest : List Char) :
    splitWords [] (blanks ++ rest) = splitWords [] rest := by
  induction blanks with
  | nil => rfl
  | cons c blanks ih =>
    obtain ⟨isBlank, blank⟩ := List.forall_mem_cons.mp blank
    rw [List.cons_append, splitWords, if_pos isBlank, List.isEmpty_nil, if_pos rfl, ih blank]

/-- Blanks end the word under way. -/
theorem splitWords_word_blanks (underWay : word ≠ []) (some : blanks ≠ [])
    (blank : ∀ c ∈ blanks, isBlank c = true) (rest : List Char) :
    splitWords word (blanks ++ rest) = String.ofList word.reverse :: splitWords [] rest := by
  obtain ⟨c, others, rfl⟩ := List.exists_cons_of_ne_nil some
  obtain ⟨isBlank, blank⟩ := List.forall_mem_cons.mp blank
  rw [List.cons_append, splitWords, if_pos isBlank, if_neg (by simpa using underWay),
    splitWords_blanks blank]

/-- What the split gives are words, if the word under way has no blank. -/
theorem isWord_of_mem_splitWords {token : String} (plain : ∀ c ∈ word, isBlank c = false)
    (rest : List Char) (split : token ∈ splitWords word rest) : IsWord token := by
  have isWord : word ≠ [] → IsWord (String.ofList word.reverse) := fun underWay =>
    ⟨by simpa using underWay, by simpa using plain⟩
  induction rest generalizing word with
  | nil =>
    rw [splitWords] at split
    split_ifs at split with isDone
    · cases split
    · rw [List.mem_singleton.mp split]
      exact isWord (by simpa using isDone)
  | cons c rest ih =>
    rw [splitWords] at split
    split_ifs at split with isBlank isDone
    · exact ih (by simp) split (by simp)
    · rcases List.mem_cons.mp split with rfl | later
      · exact isWord (by simpa using isDone)
      · exact ih (by simp) later (by simp)
    · have plain : ∀ d ∈ c :: word, Text.isBlank d = false :=
        List.forall_mem_cons.mpr ⟨by simpa using isBlank, plain⟩
      exact ih plain split fun _ => ⟨by simp, by simpa [or_imp, forall_and, and_comm] using plain⟩

end splitWords

theorem isWord_of_mem_words {s token : String} (split : token ∈ words s) : IsWord token :=
  isWord_of_mem_splitWords (by simp) s.toList split

/-- Words that are joined by blanks are the words of the whole. -/
theorem words_intercalate {separator : String} {tokens : List String} (some : separator ≠ "")
    (blank : ∀ c ∈ separator.toList, isBlank c = true) (areWords : ∀ token ∈ tokens, IsWord token) :
    words (separator.intercalate tokens) = tokens := by
  rw [words, String.toList_intercalate]
  induction tokens with
  | nil => rfl
  | cons token tokens ih =>
    obtain ⟨⟨filled, plain⟩, areWords⟩ := List.forall_mem_cons.mp areWords
    have underWay : token.toList.reverse ≠ [] := by simpa using filled
    cases tokens with
    | nil =>
      rw [List.map_singleton, List.intercalate_singleton, ← List.append_nil token.toList,
        splitWords_append plain, List.append_nil, splitWords, if_neg (by simpa using underWay)]
      simp
    | cons next tokens =>
      rw [List.map_cons, List.map_cons, List.intercalate_cons_cons, List.append_assoc,
        splitWords_append plain, List.append_nil,
        splitWords_word_blanks underWay (by simpa using some) blank, List.reverse_reverse,
        String.ofList_toList, ← List.map_cons, ih areWords]

end Text

open Text

theorem normalizeKeyword_eq_nil_iff {keyword : String} :
    normalizeKeyword keyword = [] ↔ ¬ HasWord keyword := by
  rw [normalizeKeyword, lower, String.toList_ofList]
  constructor
  · rintro none hasWord
    obtain ⟨c, rest, -, trimmed⟩ := toList_trim_eq_cons hasWord
    rw [trimmed] at none
    exact lowerFrom_cons_ne_nil _ _ _ none
  · intro blank
    rw [trim_eq_empty_iff.mpr blank]
    rfl

theorem isWord_of_mem_keywordsOf (text : Option String) :
    ∀ token ∈ keywordsOf text, IsWord token := by
  intro token split
  cases text with
  | none => cases split
  | some text => exact isWord_of_mem_words split

/-- What the keywords that are not blank come to, without surrounding blanks and in lower case. -/
def keywordForms (keywords : List String) : Set (List Char) :=
  {form | ∃ keyword ∈ keywords, HasWord keyword ∧ normalizeKeyword keyword = form}

theorem mem_keywordForms_iff {keywords : List String} {form : List Char} :
    form ∈ keywordForms keywords ↔
      form ≠ [] ∧ ∃ keyword ∈ keywords, normalizeKeyword keyword = form := by
  constructor
  · rintro ⟨keyword, present, hasWord, rfl⟩
    exact ⟨fun none => normalizeKeyword_eq_nil_iff.mp none hasWord, keyword, present, rfl⟩
  · rintro ⟨filled, keyword, present, rfl⟩
    refine ⟨keyword, present, ?_, rfl⟩
    by_contra blank
    exact filled (normalizeKeyword_eq_nil_iff.mpr blank)

theorem keywordForms_mono {keywords wider : List String} (within : keywords ⊆ wider) :
    keywordForms keywords ⊆ keywordForms wider := by
  rintro form ⟨keyword, present, hasWord, normal⟩
  exact ⟨keyword, within present, hasWord, normal⟩

theorem keywordMatches_iff {event trigger : String} : keywordMatches event trigger = true ↔
    HasWord event ∧ HasWord trigger ∧
      (occursIn (normalizeKeyword trigger) (normalizeKeyword event) = true ∨
        occursIn (normalizeKeyword event) (normalizeKeyword trigger) = true) := by
  have filled (keyword : String) :
      (!(normalizeKeyword keyword).isEmpty) = true ↔ HasWord keyword := by
    rw [Bool.not_eq_true', List.isEmpty_eq_false_iff, ne_eq, normalizeKeyword_eq_nil_iff, not_not]
  simp only [keywordMatches, Bool.and_eq_true, Bool.or_eq_true, filled, and_assoc]

/-- Keywords match as soon as a form of the ones meets a form of the others. -/
theorem keywordsMatch_iff {events triggers : List String} : keywordsMatch events triggers = true ↔
    ∃ event ∈ keywordForms events, ∃ trigger ∈ keywordForms triggers,
      occursIn trigger event = true ∨ occursIn event trigger = true := by
  simp only [keywordsMatch, List.any_eq_true, keywordMatches_iff]
  constructor
  · rintro ⟨event, mentioned, trigger, wanted, eventHasWord, triggerHasWord, meets⟩
    exact ⟨_, ⟨event, mentioned, eventHasWord, rfl⟩, _, ⟨trigger, wanted, triggerHasWord, rfl⟩,
      meets⟩
  · rintro ⟨_, ⟨event, mentioned, eventHasWord, rfl⟩, _, ⟨trigger, wanted, triggerHasWord, rfl⟩,
      meets⟩
    exact ⟨event, mentioned, trigger, wanted, eventHasWord, triggerHasWord, meets⟩

theorem keywordsMatch_mono {events triggers moreEvents moreTriggers : List String}
    (within : keywordForms events ⊆ keywordForms moreEvents)
    (within' : keywordForms triggers ⊆ keywordForms moreTriggers)
    (fits : keywordsMatch events triggers = true) :
    keywordsMatch moreEvents moreTriggers = true := by
  obtain ⟨event, mentioned, trigger, wanted, meets⟩ := keywordsMatch_iff.mp fits
  exact keywordsMatch_iff.mpr ⟨event, within mentioned, trigger, within' wanted, meets⟩

theorem keywordsMatch_comm (left right : List String) :
    keywordsMatch left right = keywordsMatch right left := by
  rw [Bool.eq_iff_iff, keywordsMatch_iff, keywordsMatch_iff]
  constructor <;>
  · rintro ⟨one, mentioned, other, wanted, meets⟩
    exact ⟨other, wanted, one, mentioned, meets.symm⟩

/-- Keywords with the same forms match the same. -/
theorem keywordsMatch_congr {events triggers events' triggers' : List String}
    (same : keywordForms events = keywordForms events')
    (same' : keywordForms triggers = keywordForms triggers') :
    keywordsMatch events triggers = keywordsMatch events' triggers' := by
  rw [Bool.eq_iff_iff, keywordsMatch_iff, keywordsMatch_iff, same, same']

/-- A node that fires on an event fires on one that has more keywords, and on one that has a post
where the event had none. -/
theorem Node.firesOn_mono {triggerType : Option String} {keywords wider : List String}
    {postId morePost : Option String} {node : Node} (within : keywords ⊆ wider)
    (postless : postId = morePost ∨ postId = none ∨ postId = some "")
    (fires : node.firesOn triggerType keywords postId = true) :
    node.firesOn triggerType wider morePost = true := by
  simp only [firesOn, Bool.and_eq_true] at fires ⊢
  obtain ⟨⟨isTrigger, admitsPost⟩, admitsKeywords⟩ := fires
  refine ⟨⟨isTrigger, ?_⟩, ?_⟩
  · rcases postless with rfl | rfl | rfl
    · exact admitsPost
    -- An event without a post fires only where every post is let in.
    all_goals
      simp only [NodeData.admitsPost, Bool.or_eq_true] at admitsPost ⊢
      exact .inl (admitsPost.resolve_right (by simp))
  · simp only [NodeData.admitsKeywords, Bool.or_eq_true] at admitsKeywords ⊢
    exact admitsKeywords.imp_right (keywordsMatch_mono (keywordForms_mono within) fun _ => (·))

theorem Flow.matchingTriggers_mono (flow : Flow) (triggerType : Option String)
    {keywords wider : List String} {postId morePost : Option String} (within : keywords ⊆ wider)
    (postless : postId = morePost ∨ postId = none ∨ postId = some "") :
    (flow.matchingTriggers triggerType keywords postId).Sublist
      (flow.matchingTriggers triggerType wider morePost) :=
  List.monotone_filter_right _ fun _ => Node.firesOn_mono within postless

theorem Flow.matchingTriggers_congr (flow : Flow) (triggerType postId : Option String)
    {keywords others : List String} (same : ∀ keyword, keyword ∈ keywords ↔ keyword ∈ others) :
    flow.matchingTriggers triggerType keywords postId =
      flow.matchingTriggers triggerType others postId :=
  (flow.matchingTriggers_mono triggerType (fun keyword => (same keyword).mp) (.inl rfl)).antisymm
    (flow.matchingTriggers_mono triggerType (fun keyword => (same keyword).mpr) (.inl rfl))

/-- Matching is monotone, and a property of sets. Matching keywords is symmetric, depends on the
forms of the keywords only, and goes on when there are more of them. The triggers that an event
starts are found in node order; they do not depend on how its keywords are ordered and repeated, and
none is lost when there are more keywords, or a post where there was none. The keywords of a text
are words, which can be joined by any blanks and split again. -/
theorem matching_is_monotone :
    (∀ left right, keywordsMatch left right = keywordsMatch right left) ∧
    (∀ events triggers others otherTriggers, keywordForms events = keywordForms others →
      keywordForms triggers = keywordForms otherTriggers →
      keywordsMatch events triggers = keywordsMatch others otherTriggers) ∧
    (∀ events triggers moreEvents moreTriggers, events ⊆ moreEvents → triggers ⊆ moreTriggers →
      keywordsMatch events triggers = true → keywordsMatch moreEvents moreTriggers = true) ∧
    (∀ (flow : Flow) triggerType keywords postId,
      (flow.matchingTriggers triggerType keywords postId).Sublist flow.nodes ∧
      (∀ others, (∀ keyword, keyword ∈ keywords ↔ keyword ∈ others) →
        flow.matchingTriggers triggerType keywords postId =
          flow.matchingTriggers triggerType others postId) ∧
      ∀ wider morePost, keywords ⊆ wider →
        (postId = morePost ∨ postId = none ∨ postId = some "") →
        (flow.matchingTriggers triggerType keywords postId).Sublist
          (flow.matchingTriggers triggerType wider morePost)) ∧
    ∀ text, (∀ token ∈ keywordsOf text, IsWord token) ∧
      ∀ separator, separator ≠ "" → (∀ c ∈ separator.toList, isBlank c = true) →
        keywordsOf (some (separator.intercalate (keywordsOf text))) = keywordsOf text := by
  refine ⟨keywordsMatch_comm, fun _ _ _ _ => keywordsMatch_congr, ?_, ?_, fun text => ?_⟩
  · intro events triggers moreEvents moreTriggers within within'
    exact keywordsMatch_mono (keywordForms_mono within) (keywordForms_mono within')
  · intro flow triggerType keywords postId
    exact ⟨List.filter_sublist, fun _ => flow.matchingTriggers_congr triggerType postId,
      fun _ _ => flow.matchingTriggers_mono triggerType⟩
  · have areWords := isWord_of_mem_keywordsOf text
    exact ⟨areWords, fun separator some blank => words_intercalate some blank areWords⟩

open Example in
/-- Keywords match in another spelling and among others. An event with the keyword of a sale starts
its trigger as soon as the post is known too, and its words are found again behind a tab. -/
theorem matching_is_monotone_sale :
    keywordForms ["SALE "] = keywordForms [" ", "Sale"] ∧
      keywordsMatch ["SALE "] ["sales"] = keywordsMatch [" ", "Sale"] ["sales"] ∧
      keywordsMatch ["free", "Sale"] ["info", "sales"] = true ∧
      (welcome saleComment).matchingTriggers (some "comment") ["Sale", "Sale"] (some "post") =
        (welcome saleComment).matchingTriggers (some "comment") ["Sale"] (some "post") ∧
      ((welcome saleComment).matchingTriggers (some "comment") ["Sale"] none).Sublist
        ((welcome saleComment).matchingTriggers (some "comment") ["free", "Sale"] (some "post")) ∧
      keywordsOf (some ("\t ".intercalate (keywordsOf (some "free sale")))) =
        keywordsOf (some "free sale") := by
  have capitals : normalizeKeyword "SALE " = "sale".toList := by decide
  have mixed : normalizeKeyword "Sale" = "sale".toList := by decide
  have blank : normalizeKeyword " " = [] := by decide
  have forms : keywordForms ["SALE "] = keywordForms [" ", "Sale"] := by
    ext form
    simp only [mem_keywordForms_iff, List.mem_cons, List.not_mem_nil, or_false, exists_eq_left,
      exists_eq_or_imp, capitals, mixed, blank]
    exact and_congr_right fun filled => (or_iff_right (Ne.symm filled)).symm
  obtain ⟨-, congr, mono, triggers, keywords⟩ := matching_is_monotone
  obtain ⟨-, -, more⟩ := triggers (welcome saleComment) (some "comment") ["Sale"] none
  obtain ⟨-, sameOnPost, -⟩ :=
    triggers (welcome saleComment) (some "comment") ["Sale", "Sale"] (some "post")
  refine ⟨forms, congr _ _ _ _ forms rfl, ?_, sameOnPost _ (by simp), ?_, ?_⟩
  · exact mono ["Sale"] ["sales"] _ _ (by simp) (by simp) (by decide)
  · exact more _ _ (by simp) (.inr (.inl rfl))
  · exact (keywords _).2 "\t " (by decide) (List.all_eq_true.mp (by decide))

end MessageFlow
