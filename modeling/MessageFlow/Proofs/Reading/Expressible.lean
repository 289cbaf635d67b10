import MessageFlow.Proofs.Reading.Execution

/-!
Documents that JSON text can express, and what a document read from one keeps of it: its extras stay
apart from the keys of its fields, and hold no number without a word.
-/

namespace MessageFlow

namespace Json

mutual

/-- Whether every number is finite, and no object has two members of one name. -/
def isExpressible : Json → Bool
  | .real value => value.isFinite
  | .list items => areExpressible items
  | .record fields => decide (fields.map Prod.fst).Nodup && haveExpressible fields
  | _ => true
termination_by structural value => value

def areExpressible : List Json → Bool
  | [] => true
  | item :: items => isExpressible item && areExpressible items
termination_by structural items => items

def haveExpressible : Row → Bool
  | [] => true
  | (_, value) :: fields => isExpressible value && haveExpressible fields
termination_by structural fields => fields

end

mutual

theorem finite_eq_self : (value : Json) → value.isFinite = true → value.finite = value
  | .real value, small => by
    rw [isFinite] at small
    rw [finite, if_pos small]
  | .list items, small => by
    rw [isFinite] at small
    rw [finite, finiteItems_eq_self items small]
  | .record fields, small => by
    rw [isFinite] at small
    rw [finite, finiteFields_eq_self fields small]
  | .null, _ | .bool _, _ | .int _, _ | .text _, _ => rfl

theorem finiteItems_eq_self : (items : List Json) → areFinite items = true →
    finiteItems items = items
  | [], _ => rfl
  | item :: items, small => by
    rw [areFinite, Bool.and_eq_true] at small
    rw [finiteItems, finite_eq_self item small.1, finiteItems_eq_self items small.2]

theorem finiteFields_eq_self : (fields : Row) → haveFinite fields = true →
    finiteFields fields = fields
  | [], _ => rfl
  | (key, value) :: fields, small => by
    rw [haveFinite, Bool.and_eq_true] at small
    rw [finiteFields, finite_eq_self value small.1, finiteFields_eq_self fields small.2]

end

mutual

theorem isFinite_of_isExpressible : (value : Json) → value.isExpressible = true →
    value.isFinite = true
  | .real value, expressible => by
    rw [isExpressible] at expressible
    rw [isFinite, expressible]
  | .list items, expressible => by
    rw [isExpressible] at expressible
    rw [isFinite, areFinite_of_areExpressible items expressible]
  | .record fields, expressible => by
    rw [isExpressible, Bool.and_eq_true] at expressible
    rw [isFinite, haveFinite_of_haveExpressible fields expressible.2]
  | .null, _ | .bool _, _ | .int _, _ | .text _, _ => rfl

theorem areFinite_of_areExpressible : (items : List Json) → areExpressible items = true →
    areFinite items = true
  | [], _ => rfl
  | item :: items, expressible => by
    rw [areExpressible, Bool.and_eq_true] at expressible
    rw [areFinite, isFinite_of_isExpressible item expressible.1,
      areFinite_of_areExpressible items expressible.2]
    rfl

theorem haveFinite_of_haveExpressible : (fields : Row) → haveExpressible fields = true →
    haveFinite fields = true
  | [], _ => rfl
  | (key, value) :: fields, expressible => by
    rw [haveExpressible, Bool.and_eq_true] at expressible
    rw [haveFinite, isFinite_of_isExpressible value expressible.1,
      haveFinite_of_haveExpressible fields expressible.2]
    rfl

end

theorem haveFinite_iff {fields : Row} :
    haveFinite fields = true ↔ ∀ entry ∈ fields, entry.2.isFinite = true := by
  induction fields with
  | nil => simp [haveFinite]
  | cons entry fields ih =>
    obtain ⟨key, value⟩ := entry
    simp [haveFinite, ih]

theorem areExpressible_iff {items : List Json} :
    areExpressible items = true ↔ ∀ item ∈ items, item.isExpressible = true := by
  induction items with
  | nil => simp [areExpressible]
  | cons item items ih => simp [areExpressible, ih]

theorem haveExpressible_iff {fields : Row} :
    haveExpressible fields = true ↔ ∀ entry ∈ fields, entry.2.isExpressible = true := by
  induction fields with
  | nil => simp [haveExpressible]
  | cons entry fields ih =>
    obtain ⟨key, value⟩ := entry
    simp [haveExpressible, ih]

theorem isExpressible_record {fields : Row} : (Json.record fields).isExpressible = true ↔
    (fields.map Prod.fst).Nodup ∧ ∀ entry ∈ fields, entry.2.isExpressible = true := by
  rw [isExpressible, Bool.and_eq_true, decide_eq_true_iff, haveExpressible_iff]

end Json

theorem Entries.mem_of_get? {α : Type} {entries : Entries α} {name : String} {value : α}
    (found : get? entries name = some value) : (name, value) ∈ entries := by
  induction entries with
  | nil => cases found
  | cons entry rest ih =>
    obtain ⟨other, first⟩ := entry
    by_cases same : name = other
    · subst same
      rw [get?_cons_self] at found
      cases found
      exact .head _
    · rw [get?_cons_of_ne same] at found
      exact .tail _ (ih found)

namespace Document

variable {doc : Row} {names : List FieldName} {name : FieldName} {α : Type} {read : ValueReader α}
  {a : α} {value : Json}

/-- The extras of a document that was read are those that it keeps when it is written by keys. -/
theorem kept_extras (expressible : (Json.record doc).isExpressible = true)
    (names : List FieldName) : Kept .keys names (Document.extras names doc) := by
  obtain ⟨unique, values⟩ := Json.isExpressible_record.mp expressible
  have among : (Document.extras names doc).Sublist doc := List.filter_sublist
  refine ⟨unique.sublist (among.map _), ?_, nofun, ?_⟩
  · intro name isField present
    obtain ⟨entry, kept, same⟩ := List.mem_map.mp present
    have free := (List.mem_filter.mp kept).2
    simp only [Bool.not_eq_true', List.any_eq_false] at free
    exact free name isField (by simp [FieldName.takes, same])
  · apply Json.finiteFields_eq_self
    rw [Json.haveFinite_iff]
    intro entry present
    exact Json.isFinite_of_isExpressible entry.2 (values entry (among.mem present))

theorem kept_nil (naming : Naming) (names : List FieldName) : Kept naming names [] :=
  ⟨List.nodup_nil, fun _ _ => List.not_mem_nil, fun _ _ _ => List.not_mem_nil, rfl⟩

/-- A record of unknown members is kept whole. -/
theorem kept_record {position : Row} (expressible : value.isExpressible = true)
    (reads : asRecord value = .valid position) : Kept .keys [] position := by
  cases value with
  | record fields =>
    cases reads
    have kept := kept_extras expressible []
    have all : Document.extras [] position = position :=
      List.filter_eq_self.mpr fun _ _ => rfl
    rwa [all] at kept
  | null | bool | int | real | text | list => cases reads

/-- The member that a field takes is one of the document. -/
theorem find?_cases {given : String} (found : name.find? doc = some (given, value)) :
    (given, value) ∈ doc ∧ (given = name.column ∨ given = name.key) := by
  unfold FieldName.find? at found
  split at found
  · next other isKey =>
    cases found
    exact ⟨Entries.mem_of_get? isKey, .inr rfl⟩
  · obtain ⟨other, isColumn, same⟩ := Option.map_eq_some_iff.mp found
    cases same
    exact ⟨Entries.mem_of_get? isColumn, .inl rfl⟩

/-- A field with a default was read from a member, unless it has that default. -/
theorem withDefault_cases {absent : α} (reads : withDefault name absent read doc = .valid a) :
    a = absent ∨ ∃ given value, (given, value) ∈ doc ∧ read value = .valid a := by
  unfold withDefault at reads
  split at reads
  · next given value found =>
    exact .inr ⟨given, value, (find?_cases found).1, Validated.under_eq_valid.mp reads⟩
  · cases reads
    exact .inl rfl

theorem withDefault_valid {absent : α} (expressible : (Json.record doc).isExpressible = true)
    (reads : withDefault name absent read doc = .valid a) :
    a = absent ∨ ∃ value, value.isExpressible = true ∧ read value = .valid a := by
  rcases withDefault_cases reads with none | ⟨given, value, present, readsValue⟩
  · exact .inl none
  · have values := (Json.isExpressible_record.mp expressible).2
    exact .inr ⟨value, values _ present, readsValue⟩

theorem nullable_valid {a : Option α} (reads : nullable read value = .valid a) :
    a = none ∨ ∃ b, a = some b ∧ read value = .valid b := by
  unfold nullable at reads
  split at reads
  · cases reads
    exact .inl rfl
  · obtain ⟨b, readsB, rfl⟩ := Validated.map_eq_valid.mp reads
    exact .inr ⟨b, rfl, readsB⟩

theorem items_valid {items : List Json} {start : Nat} {as : List α}
    (reads : Validated.items read start items = .valid as) :
    ∀ a ∈ as, ∃ item ∈ items, read item = .valid a := by
  induction items generalizing start as with
  | nil =>
    cases reads
    exact fun a none => absurd none List.not_mem_nil
  | cons item items ih =>
    simp only [Validated.items, Validated.fmap_eq_valid, Validated.seq_eq_valid,
      Validated.under_eq_valid, ↓existsAndEq, and_true] at reads
    obtain ⟨others, first, readsFirst, readsOthers, rfl⟩ := reads
    intro a present
    rcases List.mem_cons.mp present with rfl | later
    · exact ⟨item, .head _, readsFirst⟩
    · obtain ⟨other, among, readsOther⟩ := ih readsOthers a later
      exact ⟨other, .tail _ among, readsOther⟩

/-- Every item of a list was read from an expressible value. -/
theorem listOf_valid {as : List α} (expressible : value.isExpressible = true)
    (reads : listOf read value = .valid as) :
    ∀ a ∈ as, ∃ item, item.isExpressible = true ∧ read item = .valid a := by
  cases value with
  | list items =>
    intro a present
    obtain ⟨item, among, readsItem⟩ := items_valid reads a present
    exact ⟨item, Json.areExpressible_iff.mp expressible item among, readsItem⟩
  | null | bool | int | real | text | record => cases reads

theorem withDefault_listOf_valid {as : List α}
    (expressible : (Json.record doc).isExpressible = true)
    (reads : withDefault name [] (listOf read) doc = .valid as) :
    ∀ a ∈ as, ∃ item, item.isExpressible = true ∧ read item = .valid a := by
  rcases withDefault_valid expressible reads with rfl | ⟨value, ofValue, readsList⟩
  · exact fun a none => absurd none List.not_mem_nil
  · exact listOf_valid ofValue readsList

theorem maybe_valid {a : Option α} (expressible : (Json.record doc).isExpressible = true)
    (reads : maybe name read doc = .valid a) :
    a = none ∨ ∃ b value, a = some b ∧ value.isExpressible = true ∧ read value = .valid b := by
  rcases withDefault_valid expressible reads with none | ⟨value, ofValue, readsMaybe⟩
  · exact .inl none
  · rcases nullable_valid readsMaybe with none | ⟨b, isB, readsB⟩
    · exact .inl none
    · exact .inr ⟨b, value, isB, ofValue, readsB⟩

/-- Items are read back from the list that is written of them. -/
theorem listOf_map {write : α → Json} {as : List α} (reads : ∀ a ∈ as, read (write a) = .valid a) :
    listOf read (.list (as.map write)) = .valid as := by
  have items (start : Nat) : Validated.items read start (as.map write) = .valid as := by
    induction as generalizing start with
    | nil => rfl
    | cons a as ih =>
      rw [List.map_cons, Validated.items, reads a (.head _),
        ih fun other present => reads other (.tail _ present)]
      rfl
  exact items 0

theorem nullable_ofOption {write : α → Json} {a : Option α}
    (reads : ∀ b, a = some b → write b ≠ .null ∧ read (write b) = .valid b) :
    nullable read (.ofOption write a) = .valid a := by
  cases a with
  | none => rfl
  | some b =>
    obtain ⟨given, readsB⟩ := reads b rfl
    rw [Json.ofOption, nullable]
    · rw [readsB]
      rfl
    · exact given

theorem nullable_texts (texts : Option (List String)) :
    nullable (listOf asText) (.ofOption .ofTexts texts) = .valid texts :=
  nullable_ofOption fun given _ => ⟨nofun, listOf_ofTexts given⟩

theorem asBool_bool (flag : Bool) : asBool (.bool flag) = .valid flag := rfl

theorem nullable_bool (flag : Option Bool) :
    nullable asBool (.ofOption .bool flag) = .valid flag :=
  nullable_ofOption fun given _ => ⟨nofun, asBool_bool given⟩

theorem asJson_finite (finite : value.isFinite = true) : asJson value.finite = .valid value := by
  rw [Json.finite_eq_self value finite]
  rfl

/-- The fields of a type of objects, and the extras of one of them. -/
abbrev Component := List FieldName × Row

/-- The extras and the values kept as given are those that a document written under that naming is
read back with. -/
structure Faithful (naming : Naming) (components : List Component) (loose : List Json) : Prop where
  kept : ∀ component ∈ components, Kept naming component.1 component.2
  finite : ∀ value ∈ loose, value.isFinite = true

variable {naming : Naming} {extras : Row} {components others : List Component}
  {loose otherLoose : List Json}

theorem faithful_append : Faithful naming (components ++ others) (loose ++ otherLoose) ↔
    Faithful naming components loose ∧ Faithful naming others otherLoose := by
  constructor
  · rintro ⟨kept, finite⟩
    simp only [List.mem_append, or_imp, forall_and] at kept finite
    exact ⟨⟨kept.1, finite.1⟩, kept.2, finite.2⟩
  · rintro ⟨first, second⟩
    constructor
    · intro component present
      rcases List.mem_append.mp present with inFirst | inSecond
      · exact first.kept component inFirst
      · exact second.kept component inSecond
    · intro value present
      rcases List.mem_append.mp present with inFirst | inSecond
      · exact first.finite value inFirst
      · exact second.finite value inSecond

theorem faithful_flatMap {as : List α} {componentsOf : α → List Component}
    {looseOf : α → List Json} : Faithful naming (as.flatMap componentsOf) (as.flatMap looseOf) ↔
      ∀ a ∈ as, Faithful naming (componentsOf a) (looseOf a) := by
  induction as with
  | nil => simpa using (⟨nofun, nofun⟩ : Faithful naming [] [])
  | cons a as ih => simp [List.flatMap_cons, faithful_append, ih]

theorem faithful_cons_loose : Faithful naming components (value :: loose) ↔
    value.isFinite = true ∧ Faithful naming components loose := by
  constructor
  · intro faithful
    obtain ⟨first, others⟩ := List.forall_mem_cons.mp faithful.finite
    exact ⟨first, faithful.kept, others⟩
  · rintro ⟨first, faithful⟩
    exact ⟨faithful.kept, List.forall_mem_cons.mpr ⟨first, faithful.finite⟩⟩

theorem finiteFields_eq_self_iff : Json.finiteFields extras = extras ↔
    ∀ value ∈ extras.map (·.2), value.isFinite = true := by
  constructor
  · intro same
    have finite := Json.haveFinite_finiteFields extras
    rw [same, Json.haveFinite_iff] at finite
    simpa using fun value name present => finite (name, value) present
  · intro finite
    apply Json.finiteFields_eq_self
    rw [Json.haveFinite_iff]
    exact fun entry present => finite entry.2 (List.mem_map_of_mem present)

theorem faithful_extras : Faithful naming [(names, extras)] (extras.map (·.2)) ↔
    Kept naming names extras := by
  constructor
  · intro faithful
    exact faithful.kept (names, extras) (.head _)
  · intro kept
    refine ⟨?_, finiteFields_eq_self_iff.mp kept.finite⟩
    simpa using kept

theorem faithful_of_extras (expressible : (Json.record doc).isExpressible = true)
    (same : extras = Document.extras names doc) :
    Faithful .keys [(names, extras)] (extras.map (·.2)) := by
  rw [same, faithful_extras]
  exact kept_extras expressible names

/-- What is read back from keys is read back from columns, unless an extra has the column of a field
as its name. -/
theorem Faithful.columns (faithful : Faithful .keys components loose)
    (free : ∀ component ∈ components, ∀ name ∈ component.1,
      name.column ∉ component.2.map Prod.fst) : Faithful .columns components loose where
  kept component present :=
    have kept := faithful.kept component present
    ⟨kept.unique, kept.key, fun _ => free component present, kept.finite⟩
  finite := faithful.finite

end Document
end MessageFlow
