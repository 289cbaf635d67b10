import Mathlib.Data.List.Nodup
import MessageFlow.Document.Field

/-!
Documents are read back from the columns under which they were written.
-/

namespace MessageFlow

namespace Entries

variable {α : Type} {entries changes : Entries α}

theorem get?_append (entries others : Entries α) (name : String) :
    get? (entries ++ others) name = (get? entries name).or (get? others name) :=
  List.lookup_append

theorem get?_eq_none {name : String} (absent : name ∉ entries.map Prod.fst) :
    get? entries name = none := by
  induction entries with
  | nil => rfl
  | cons entry rest ih =>
    obtain ⟨n, v⟩ := entry
    simp only [List.map_cons, List.mem_cons, not_or] at absent
    rw [get?_cons_of_ne absent.1]
    exact ih absent.2

theorem get?_of_mem {name : String} {value : α} (unique : (entries.map Prod.fst).Nodup)
    (present : (name, value) ∈ entries) : get? entries name = some value := by
  induction entries with
  | nil => cases present
  | cons entry rest ih =>
    obtain ⟨n, v⟩ := entry
    simp only [List.map_cons, List.nodup_cons] at unique
    rcases List.mem_cons.mp present with first | later
    · cases first
      exact get?_cons_self name value rest
    · have different : name ≠ n := by
        intro same
        subst same
        exact unique.1 (List.mem_map_of_mem later)
      rw [get?_cons_of_ne different]
      exact ih unique.2 later

theorem set_append_of_absent {name : String} (value : α) (others : Entries α)
    (absent : name ∉ entries.map Prod.fst) :
    set (entries ++ others) name value = entries ++ set others name value := by
  induction entries with
  | nil => rfl
  | cons entry rest ih =>
    obtain ⟨n, v⟩ := entry
    simp only [List.map_cons, List.mem_cons, not_or] at absent
    rw [List.cons_append, set, if_neg (Ne.symm absent.1), ih absent.2]
    rfl

theorem set_append_of_mem {name : String} (value : α) (others : Entries α)
    (present : name ∈ entries.map Prod.fst) :
    set (entries ++ others) name value = set entries name value ++ others := by
  induction entries with
  | nil => cases present
  | cons entry rest ih =>
    obtain ⟨n, v⟩ := entry
    by_cases same : n = name
    · simp [set, same]
    · have later : name ∈ rest.map Prod.fst := by
        simpa [Ne.symm same] using present
      rw [List.cons_append, set, set, if_neg same, if_neg same, ih later]
      rfl

theorem set_of_absent {name : String} (value : α) (absent : name ∉ entries.map Prod.fst) :
    set entries name value = entries ++ [(name, value)] := by
  simpa [set] using set_append_of_absent value [] absent

theorem names_set_of_mem {name : String} (value : α) (present : name ∈ entries.map Prod.fst) :
    (set entries name value).map Prod.fst = entries.map Prod.fst := by
  induction entries with
  | nil => cases present
  | cons entry rest ih =>
    obtain ⟨n, v⟩ := entry
    by_cases same : n = name
    · simp [set, same]
    · have later : name ∈ rest.map Prod.fst := by
        simpa [Ne.symm same] using present
      rw [set, if_neg same, List.map_cons, ih later, List.map_cons]

@[simp] theorem update_nil (entries : Entries α) : update entries [] = entries := rfl

@[simp] theorem update_cons (entries : Entries α) (name : String) (value : α)
    (changes : Entries α) :
    update entries ((name, value) :: changes) = update (set entries name value) changes := rfl

theorem absent_concat {name : String} {names : List String} (value : α) (other : name ∉ names)
    (absent : ∀ later ∈ names, later ∉ entries.map Prod.fst) :
    ∀ later ∈ names, later ∉ (entries ++ [(name, value)]).map Prod.fst := by
  intro later isLater
  have different : later ≠ name := fun same => other (same ▸ isLater)
  simp only [List.map_append, List.mem_append, not_or]
  exact ⟨absent later isLater, by simpa using different⟩

/-- New names are added at the end. -/
theorem update_of_absent (unique : (changes.map Prod.fst).Nodup)
    (absent : ∀ name ∈ changes.map Prod.fst, name ∉ entries.map Prod.fst) :
    update entries changes = entries ++ changes := by
  induction changes generalizing entries with
  | nil => simp
  | cons change changes ih =>
    obtain ⟨name, value⟩ := change
    simp only [List.map_cons, List.nodup_cons, List.mem_cons, forall_eq_or_imp] at unique absent
    rw [update_cons, set_of_absent value absent.1,
      ih unique.2 (absent_concat value unique.1 absent.2), List.append_assoc]
    rfl

theorem nodup_set {name : String} (value : α) (unique : (entries.map Prod.fst).Nodup) :
    ((set entries name value).map Prod.fst).Nodup := by
  by_cases present : name ∈ entries.map Prod.fst
  · rw [names_set_of_mem value present]
    exact unique
  · rw [set_of_absent value present, List.map_append, List.nodup_append]
    refine ⟨unique, by simp, ?_⟩
    intro other isName added isAdded
    have same : added = name := by simpa using isAdded
    intro same
    subst same
    exact present (same ▸ isName)

theorem nodup_update (changes : Entries α) (unique : (entries.map Prod.fst).Nodup) :
    ((update entries changes).map Prod.fst).Nodup := by
  induction changes generalizing entries with
  | nil => exact unique
  | cons change changes ih =>
    obtain ⟨name, value⟩ := change
    exact ih (nodup_set value unique)

theorem get?_update_of_absent {name : String} (absent : name ∉ changes.map Prod.fst) :
    get? (update entries changes) name = get? entries name := by
  induction changes generalizing entries with
  | nil => rfl
  | cons change changes ih =>
    obtain ⟨other, value⟩ := change
    simp only [List.map_cons, List.mem_cons, not_or] at absent
    rw [update_cons, ih absent.2, get?_set_of_ne entries absent.1]

/-- A changed name has its new value. -/
theorem get?_update_of_get? {name : String} {value : α} (unique : (changes.map Prod.fst).Nodup)
    (changed : get? changes name = some value) :
    get? (update entries changes) name = some value := by
  induction changes generalizing entries with
  | nil => cases changed
  | cons change changes ih =>
    obtain ⟨other, first⟩ := change
    simp only [List.map_cons, List.nodup_cons] at unique
    rw [update_cons]
    by_cases same : name = other
    · rw [same, get?_cons_self] at changed
      rw [same, get?_update_of_absent unique.1, get?_set_self, changed]
    · rw [get?_cons_of_ne same] at changed
      exact ih unique.2 changed

/-- All values are replaced. -/
theorem update_of_same_names (same : changes.map Prod.fst = entries.map Prod.fst)
    (unique : (entries.map Prod.fst).Nodup) : update entries changes = changes := by
  have behind : ∀ done : Entries α, (∀ name ∈ entries.map Prod.fst, name ∉ done.map Prod.fst) →
      update (done ++ entries) changes = done ++ changes := by
    induction entries generalizing changes with
    | nil =>
      intro done _
      have none : changes = [] := by simpa using same
      rw [none]
      rfl
    | cons entry rest ih =>
      intro done absent
      obtain ⟨n, v⟩ := entry
      cases changes with
      | nil => cases same
      | cons change changes =>
        obtain ⟨name, value⟩ := change
        simp only [List.map_cons, List.cons.injEq, List.nodup_cons, List.mem_cons,
          forall_eq_or_imp] at same unique absent
        obtain ⟨rfl, sameRest⟩ := same
        have replaced : set (done ++ (name, v) :: rest) name value =
            (done ++ [(name, value)]) ++ rest := by
          rw [set_append_of_absent value _ absent.1]
          simp [set]
        rw [update_cons, replaced,
          ih sameRest unique.2 _ (absent_concat value unique.1 absent.2), List.append_assoc]
        rfl
  simpa using behind [] (by simp)

end Entries

namespace Document

/-- No two of the names share a column or a key, and a key is no other field's column. -/
def Distinct (names : List FieldName) : Prop :=
  (names.map FieldName.column).Nodup ∧ (names.map FieldName.key).Nodup ∧
    ∀ a ∈ names, ∀ b ∈ names, b.column = a.key → b = a

instance (names : List FieldName) : Decidable (Distinct names) := by
  unfold Distinct
  infer_instance

/-- Extras that name no field and that JSON text can express. -/
structure Clean (names : List FieldName) (extras : Row) : Prop where
  unique : (extras.map Prod.fst).Nodup
  column : ∀ name ∈ names, name.column ∉ extras.map Prod.fst
  key : ∀ name ∈ names, name.key ∉ extras.map Prod.fst
  finite : Json.finiteFields extras = extras

theorem clean_nil (names : List FieldName) : Clean names [] where
  unique := List.nodup_nil
  column _ _ := List.not_mem_nil
  key _ _ := List.not_mem_nil
  finite := rfl

/-- Extras that a document written under that naming keeps apart from its fields. An extra may be
named as the column of a field that is written under its key. -/
structure Kept (naming : Naming) (names : List FieldName) (extras : Row) : Prop where
  unique : (extras.map Prod.fst).Nodup
  key : ∀ name ∈ names, name.key ∉ extras.map Prod.fst
  column : naming = .columns → ∀ name ∈ names, name.column ∉ extras.map Prod.fst
  finite : Json.finiteFields extras = extras

theorem Clean.kept {names : List FieldName} {extras : Row} (clean : Clean names extras) :
    Kept .columns names extras :=
  ⟨clean.unique, clean.key, fun _ => clean.column, clean.finite⟩

variable {naming : Naming} {names : List FieldName} {fields : List (FieldName × Json)}
  {extras : Row} {name : FieldName} {value : Json} {α : Type} {read : ValueReader α} {a : α}

/-- The members of the fields. -/
def labelled (naming : Naming) (fields : List (FieldName × Json)) : Row :=
  fields.map fun (name, value) => (name.under naming, value)

/-- The fields and extras of a document of these names. -/
structure Fits (naming : Naming) (names : List FieldName) (fields : List (FieldName × Json))
    (extras : Row) : Prop where
  named : fields.map Prod.fst = names
  distinct : Distinct names
  kept : Kept naming names extras

theorem names_labelled (naming : Naming) (fields : List (FieldName × Json)) :
    (labelled naming fields).map Prod.fst = (fields.map Prod.fst).map (·.under naming) := by
  simp [labelled]

theorem names_finiteFields (extras : Row) :
    (Json.finiteFields extras).map Prod.fst = extras.map Prod.fst := by
  induction extras with
  | nil => rfl
  | cons extra extras ih =>
    obtain ⟨name, value⟩ := extra
    simp only [Json.finiteFields, List.map_cons, ih]

/-- Where no extra has its name, a field keeps its value. -/
theorem get?_members (unique : ((labelled naming fields).map Prod.fst).Nodup)
    (written : (name, value) ∈ fields) (free : name.under naming ∉ extras.map Prod.fst) :
    Entries.get? (members naming fields extras) (name.under naming) = some value := by
  have present : (name.under naming, value) ∈ labelled naming fields :=
    List.mem_map_of_mem written
  rw [members, Entries.get?_update_of_absent]
  · exact Entries.get?_of_mem unique present
  · rw [names_finiteFields]
    exact free

theorem Distinct.unique (distinct : Distinct names) (naming : Naming) :
    (names.map (·.under naming)).Nodup := by
  cases naming with
  | columns => exact distinct.1
  | keys => exact distinct.2.1

/-- No extra has the name of a field. -/
theorem Kept.under (kept : Kept naming names extras) (present : name ∈ names) :
    name.under naming ∉ extras.map Prod.fst := by
  cases naming with
  | columns => exact kept.column rfl name present
  | keys => exact kept.key name present

namespace Fits

theorem field (fits : Fits naming names fields extras) (written : (name, value) ∈ fields) :
    name ∈ names := by
  rw [← fits.named]
  exact List.mem_map_of_mem written

theorem labels_unique (fits : Fits naming names fields extras) :
    ((labelled naming fields).map Prod.fst).Nodup := by
  rw [names_labelled, fits.named]
  exact fits.distinct.unique naming

theorem members_eq (fits : Fits naming names fields extras) :
    members naming fields extras = labelled naming fields ++ extras := by
  rw [members, fits.kept.finite]
  apply Entries.update_of_absent fits.kept.unique
  intro other present label
  change other ∈ (labelled naming fields).map Prod.fst at label
  rw [names_labelled, fits.named] at label
  obtain ⟨field, isField, rfl⟩ := List.mem_map.mp label
  exact fits.kept.under isField present

theorem get?_label (fits : Fits naming names fields extras) (written : (name, value) ∈ fields) :
    Entries.get? (labelled naming fields ++ extras) (name.under naming) = some value := by
  have present : (name.under naming, value) ∈ labelled naming fields :=
    List.mem_map_of_mem written
  rw [Entries.get?_append, Entries.get?_of_mem fits.labels_unique present]
  rfl

/-- A key is absent from the columns unless it is the column as well. -/
theorem get?_key (fits : Fits .columns names fields extras) (present : name ∈ names)
    (different : name.key ≠ name.column) :
    Entries.get? (labelled .columns fields ++ extras) name.key = none := by
  apply Entries.get?_eq_none
  rw [List.map_append, List.mem_append, not_or, names_labelled, fits.named]
  refine ⟨?_, fits.kept.key name present⟩
  intro column
  obtain ⟨field, isField, same⟩ := List.mem_map.mp column
  have equal : field = name := fits.distinct.2.2 name present field isField same
  exact different (by rw [← same, equal]; rfl)

theorem find?_eq (fits : Fits naming names fields extras) (written : (name, value) ∈ fields) :
    ∃ given, name.find? (labelled naming fields ++ extras) = some (given, value) := by
  have found := fits.get?_label written
  cases naming with
  | keys =>
    refine ⟨name.key, ?_⟩
    rw [FieldName.under] at found
    rw [FieldName.find?, found]
  | columns =>
    rw [FieldName.under] at found
    by_cases same : name.key = name.column
    · refine ⟨name.key, ?_⟩
      rw [FieldName.find?, same, found]
    · refine ⟨name.column, ?_⟩
      rw [FieldName.find?, fits.get?_key (fits.field written) same, found]
      rfl

theorem required_eq (fits : Fits naming names fields extras) (written : (name, value) ∈ fields)
    (reads : read value = .valid a) :
    required name read (labelled naming fields ++ extras) = .valid a := by
  obtain ⟨given, found⟩ := fits.find?_eq written
  rw [required, found]
  simp only [reads]
  rfl

theorem withDefault_eq {absent : α} (fits : Fits naming names fields extras)
    (written : (name, value) ∈ fields) (reads : read value = .valid a) :
    withDefault name absent read (labelled naming fields ++ extras) = .valid a := by
  obtain ⟨given, found⟩ := fits.find?_eq written
  rw [withDefault, found]
  simp only [reads]
  rfl

theorem maybe_eq {a : Option α} (fits : Fits naming names fields extras)
    (written : (name, value) ∈ fields) (reads : nullable read value = .valid a) :
    maybe name read (labelled naming fields ++ extras) = .valid a :=
  fits.withDefault_eq written reads

/-- A field takes the member that was written for it. -/
theorem takes_label (fits : Fits naming names fields extras) (present : name ∈ names) :
    name.takes (labelled naming fields ++ extras) (name.under naming) = true := by
  cases naming with
  | keys => simp [FieldName.takes, FieldName.under]
  | columns =>
    by_cases plain : name.key = name.column
    · simp [FieldName.takes, FieldName.under, plain]
    · simp [FieldName.takes, FieldName.under, fits.get?_key present plain]

/-- No field takes an extra: one that has the column of a field stands beside its key. -/
theorem not_takes_extra (fits : Fits naming names fields extras) (present : name ∈ names)
    {key : String} (isExtra : key ∈ extras.map Prod.fst) :
    name.takes (labelled naming fields ++ extras) key = false := by
  have notKey : key ≠ name.key := by
    rintro rfl
    exact fits.kept.key name present isExtra
  cases naming with
  | columns =>
    have notColumn : key ≠ name.column := by
      rintro rfl
      exact fits.kept.column rfl name present isExtra
    simp [FieldName.takes, notKey, notColumn]
  | keys =>
    have isNamed : name ∈ fields.map Prod.fst := fits.named ▸ present
    obtain ⟨⟨_, value⟩, written, rfl⟩ := List.mem_map.mp isNamed
    have found := fits.get?_label written
    rw [FieldName.under] at found
    simp [FieldName.takes, notKey, found]

theorem extras_eq (fits : Fits naming names fields extras) :
    Document.extras names (labelled naming fields ++ extras) = extras := by
  have taken : (labelled naming fields).filter (fun entry => !names.any fun name =>
      name.takes (labelled naming fields ++ extras) entry.1) = [] := by
    rw [List.filter_eq_nil_iff]
    intro result present
    obtain ⟨⟨name, value⟩, written, rfl⟩ := List.mem_map.mp present
    have takes := fits.takes_label (fits.field written)
    simpa using ⟨name, fits.field written, takes⟩
  have kept : extras.filter (fun entry => !names.any fun name =>
      name.takes (labelled naming fields ++ extras) entry.1) = extras := by
    rw [List.filter_eq_self]
    intro result present
    have isName : result.1 ∈ extras.map Prod.fst := List.mem_map_of_mem present
    simp only [Bool.not_eq_true', List.any_eq_false]
    intro name isField takes
    rw [fits.not_takes_extra isField isName] at takes
    cases takes
  calc Document.extras names (labelled naming fields ++ extras)
    _ = (labelled naming fields).filter _ ++ extras.filter _ := List.filter_append _ _
    _ = extras := by
      rw [taken, kept]
      rfl

end Fits

/-- An object is read back from what is written of it, if its fields are. -/
theorem object_write {title : String} {build : Row → Validated (Row → α)}
    (named : fields.map Prod.fst = names) (distinct : Distinct names)
    (kept : Kept naming names extras)
    (builds : Fits naming names fields extras →
      (build (labelled naming fields ++ extras)).map (fun complete => complete extras) =
        .valid a) :
    object title names build (write naming fields extras) = .valid a := by
  have fits : Fits naming names fields extras := ⟨named, distinct, kept⟩
  rw [write, fits.members_eq, object, fits.extras_eq]
  exact builds fits

theorem find?_plain (plain : String) (doc : Row) :
    (FieldName.plain plain).find? doc = (Entries.get? doc plain).map (plain, ·) := by
  unfold FieldName.find? FieldName.plain
  cases Entries.get? doc plain with
  | none => rfl
  | some value => rfl

/-- A field with one name is never among the extras. -/
theorem plain_notMem_extras {doc : Row} {plain : String} (isField : .plain plain ∈ names) :
    plain ∉ (Document.extras names doc).map Prod.fst := by
  intro present
  obtain ⟨⟨key, value⟩, kept, rfl⟩ := List.mem_map.mp present
  have free := (List.mem_filter.mp kept).2
  simp only [Bool.not_eq_true', List.any_eq_false] at free
  exact free _ isField (by simp [FieldName.takes, FieldName.plain])

end Document
end MessageFlow
