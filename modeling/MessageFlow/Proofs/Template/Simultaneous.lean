import MessageFlow.Proofs.Template.Substitution

/-!
Filling in the variables of a message one after the other, told apart from substituting them all at
once: a value that was inserted can have the name of a later variable, or make one up with the text
around it. Main statement: the two agree on every text if and only if no value is, contains or
touches a later name that is changed, and they agree on texts without nested braces if no value has
a brace.
-/

namespace MessageFlow.Template

/-- The names replaced one after the other. -/
def fillIn : Bindings → List Char → List Char
  | [], text => text
  | binding :: later, text => fillIn later (substitute [binding] text)

/-- The ways to cut a text into two that are not empty. -/
def cuts (text : List Char) : List (List Char × List Char) :=
  (List.range' 1 (text.length - 1)).map text.splitAt

/-- Whether an occurrence of the name can begin before the value and end in or after it, or begin in
the value and end after it. -/
def touches (value name : List Char) : Bool :=
  (cuts name).any fun (start, rest) =>
    start.isSuffixOf value || rest.isPrefixOf value || value.isPrefixOf rest

/-- Whether no value is changed by what is replaced after it, by itself or with the text around. -/
def inert : Bindings → Bool
  | [] => true
  | (_, value) :: later =>
    substitute later value == value && later.all (fun (name, _) => !touches value name) && inert later

/-- The bindings that change their names. -/
def changing (bindings : Bindings) : Bindings := bindings.filter fun (name, value) => value != name

/-- Whether no brace opens before the last one is closed. -/
def unnested : Bool → List Char → Bool
  | _, [] => true
  | isOpen, c :: rest =>
    if c = '{' then !isOpen && unnested true rest else unnested (isOpen && c != '}') rest

def isBrace (c : Char) : Bool := c == '{' || c == '}'

section Touching

variable {value name start rest : List Char}

theorem mem_cuts_iff {text : List Char} :
    (start, rest) ∈ cuts text ↔ text = start ++ rest ∧ start ≠ [] ∧ rest ≠ [] := by
  rw [cuts, List.mem_map]
  constructor
  · rintro ⟨n, within, same⟩
    rw [List.mem_range'_1] at within
    rw [List.splitAt_eq] at same
    obtain ⟨rfl, rfl⟩ := Prod.mk.inj same
    refine ⟨(List.take_append_drop n text).symm, ?_, ?_⟩
    · rintro empty
      rcases List.take_eq_nil_iff.1 empty with rfl | rfl
      · omega
      · rw [List.length_nil] at within
        omega
    · rw [Ne, List.drop_eq_nil_iff]
      omega
  · rintro ⟨rfl, nonempty, more⟩
    refine ⟨start.length, ?_, by rw [List.splitAt_eq]; simp⟩
    have := List.length_pos_iff.2 nonempty
    have := List.length_pos_iff.2 more
    rw [List.mem_range'_1, List.length_append]
    omega

theorem touches_iff : touches value name = true ↔ ∃ start rest, name = start ++ rest ∧ start ≠ [] ∧
    rest ≠ [] ∧ (start <:+ value ∨ rest <+: value ∨ value <+: rest) := by
  rw [touches, List.any_eq_true]
  constructor
  · rintro ⟨⟨start, rest⟩, cut, touched⟩
    obtain ⟨same, nonempty, more⟩ := mem_cuts_iff.1 cut
    simp only [Bool.or_eq_true, List.isSuffixOf_iff_suffix, List.isPrefixOf_iff_prefix,
      or_assoc] at touched
    exact ⟨start, rest, same, nonempty, more, touched⟩
  · rintro ⟨start, rest, same, nonempty, more, touched⟩
    refine ⟨(start, rest), mem_cuts_iff.2 ⟨same, nonempty, more⟩, ?_⟩
    simpa only [Bool.or_eq_true, List.isSuffixOf_iff_suffix, List.isPrefixOf_iff_prefix,
      or_assoc] using touched

end Touching

section Steps

variable {bindings earlier later : Bindings} {name value text rest before : List Char} {c : Char}

namespace WellNamed

theorem tail {binding : List Char × List Char} (well : WellNamed (binding :: later)) :
    WellNamed later where
  names := fun binding present => well.names binding (List.mem_cons_of_mem _ present)
  distinct := (List.nodup_cons.1 well.distinct).2

theorem of_append_right (well : WellNamed (earlier ++ later)) : WellNamed later where
  names := fun binding present => well.names binding (List.mem_append_right _ present)
  distinct := (List.nodup_append.1 (List.map_append ▸ well.distinct)).2.1

theorem ne_of_append (well : WellNamed (earlier ++ later)) {binding other : List Char × List Char}
    (present : binding ∈ earlier) (listed : other ∈ later) : binding.1 ≠ other.1 :=
  (List.nodup_append.1 (List.map_append ▸ well.distinct)).2.2 _ (List.mem_map_of_mem present) _
    (List.mem_map_of_mem listed)

theorem sublist (well : WellNamed bindings) (part : later.Sublist bindings) : WellNamed later where
  names := fun binding present => well.names binding (part.subset present)
  distinct := (part.map Prod.fst).nodup well.distinct

theorem head {binding : List Char × List Char} (well : WellNamed (binding :: later)) :
    WellNamed [binding] where
  names := by
    intro other present
    rw [List.mem_singleton.1 present]
    exact well.names binding List.mem_cons_self
  distinct := List.nodup_singleton _

theorem ne_head {binding : List Char × List Char} (well : WellNamed ((name, value) :: later))
    (present : binding ∈ later) : name ≠ binding.1 := fun same =>
  (List.nodup_cons.1 well.distinct).1 (List.mem_map.2 ⟨binding, present, same.symm⟩)

/-- A text without the first name has only the later ones to replace. -/
theorem substitute_later (well : WellNamed ((name, value) :: later)) (absent : ¬name <:+: text) :
    substitute ((name, value) :: later) text = substitute later text := by
  induction text using well.pass with
  | nil => rfl
  | named name' value' rest present ih =>
    obtain ⟨rfl, rfl⟩ | present' := List.mem_cons.1 present
    · exact absurd (List.prefix_append _ _).isInfix absent
    · rw [well.substitute_name present, well.tail.substitute_name present', ih]
      exact fun occurs => absent (occurs.trans (List.suffix_append _ _).isInfix)
  | kept c rest unnamed ih =>
    rw [substitute_cons unnamed, substitute_cons fun binding present =>
      unnamed binding (List.mem_cons_of_mem _ present), ih]
    exact fun occurs => absent (occurs.trans (List.suffix_cons c rest).isInfix)

/-- The first name may be replaced before the others if its value is left as it is, and if the
others begin in the result only where they began in the text. -/
theorem substitute_first (well : WellNamed ((name, value) :: later))
    (settled : ∀ rest, substitute later (value ++ rest) = value ++ substitute later rest)
    (old : ∀ c rest, c :: rest <:+ text → ∀ binding ∈ later,
      binding.1 <+: c :: substitute [(name, value)] rest → binding.1 <+: c :: rest) :
    substitute later (substitute [(name, value)] text) =
      substitute ((name, value) :: later) text := by
  induction text using well.pass with
  | nil => rfl
  | named name' value' rest present ih =>
    have ih := ih fun c tail ends => old c tail (ends.trans (List.suffix_append _ _))
    obtain ⟨rfl, rfl⟩ | present' := List.mem_cons.1 present
    · rw [well.head.substitute_name List.mem_cons_self, settled, ih, well.substitute_name present]
    · have isName := well.names _ present
      have apart (binding) (listed : binding ∈ [(name, value)]) :
          ¬Crosses binding.1 name' rest := by
        exact (well.head.names binding listed).not_crosses_end isName
      have alone : substitute [(name, value)] name' = name' := by
        refine substitute_of_absent fun binding listed occurs => ?_
        rw [List.mem_singleton.1 listed] at occurs
        exact well.ne_head present' ((well.names _ List.mem_cons_self).eq_of_occurs isName occurs)
      rw [well.head.substitute_append apart, alone, well.tail.substitute_name present', ih,
        well.substitute_name present]
  | kept c rest unnamed ih =>
    have ih := ih fun d tail ends => old d tail (ends.trans (List.suffix_cons _ _))
    have unnamed' (binding) (present : binding ∈ later) : ¬binding.1 <+: c :: rest :=
      unnamed binding (List.mem_cons_of_mem _ present)
    rw [substitute_cons fun binding listed => List.mem_singleton.1 listed ▸
        unnamed _ List.mem_cons_self, substitute_cons unnamed, substitute_cons, ih]
    exact fun binding present begins =>
      unnamed' binding present (old c rest List.suffix_rfl binding present begins)

end WellNamed

/-- What begins after the replacement began before it, or ends in or goes beyond the value. -/
theorem begins_of_substitute (well : WellNamed [(name, value)]) {part : List Char}
    (begins : part <+: substitute [(name, value)] text) :
    part <+: text ∨ ∃ start rest, part = start ++ rest ∧ rest ≠ [] ∧
      (rest <+: value ∨ value <+: rest) := by
  induction text using well.pass generalizing part with
  | nil => exact .inl begins
  | named name' value' rest present ih =>
    obtain ⟨rfl, rfl⟩ := Prod.mk.inj (List.mem_singleton.1 present)
    rw [well.substitute_name present] at begins
    rcases eq_or_ne part [] with rfl | nonempty
    · exact .inl List.nil_prefix
    · exact .inr ⟨[], part, rfl, nonempty,
        List.prefix_or_prefix_of_prefix begins (List.prefix_append _ _)⟩
  | kept c rest absent ih =>
    rw [substitute_cons absent] at begins
    cases part with
    | nil => exact .inl List.nil_prefix
    | cons d part =>
      obtain ⟨rfl, tails⟩ := List.cons_prefix_cons.1 begins
      obtain short | ⟨start, tail, rfl, nonempty, meets⟩ := ih tails
      · exact .inl (List.cons_prefix_cons.2 ⟨rfl, short⟩)
      · exact .inr ⟨d :: start, tail, rfl, nonempty, meets⟩

/-- A value that no later name touches and that is left as it is settles the text around it. -/
theorem WellNamed.substitute_first_of_inert (well : WellNamed ((name, value) :: later))
    (fixed : substitute later value = value)
    (untouched : ∀ binding ∈ later, touches value binding.1 = false) :
    substitute later (substitute [(name, value)] text) =
      substitute ((name, value) :: later) text := by
  have apart {start rest : List Char} {binding} (present : binding ∈ later)
      (cut : binding.1 = start ++ rest) (nonempty : start ≠ []) (more : rest ≠ [])
      (meets : start <:+ value ∨ rest <+: value ∨ value <+: rest) : False := by
    have untouched := untouched binding present
    rw [touches_iff.2 ⟨start, rest, cut, nonempty, more, meets⟩] at untouched
    cases untouched
  refine well.substitute_first (fun rest => ?_) fun c rest _ binding present begins => ?_
  · rw [well.tail.substitute_append, fixed]
    rintro binding present ⟨start, tail, cut, nonempty, more, ends, -⟩
    exact apart present cut nonempty more (.inl ends)
  · obtain ⟨word, cut, -⟩ := well.names binding (List.mem_cons_of_mem _ present)
    rw [cut] at begins ⊢
    obtain ⟨rfl, tails⟩ := List.cons_prefix_cons.1 begins
    obtain short | ⟨start, tail, parts, more, meets⟩ := begins_of_substitute well.head tails
    · exact List.cons_prefix_cons.2 ⟨rfl, short⟩
    · rw [parts] at cut
      rw [← List.cons_append] at cut
      exact (apart present cut (List.cons_ne_nil _ _) more (.inr meets)).elim

end Steps

section Agreement

variable {bindings later earlier : Bindings} {name value text start rest : List Char}

theorem inert_cons_iff : inert ((name, value) :: later) = true ↔
    substitute later value = value ∧ (∀ binding ∈ later, touches value binding.1 = false) ∧
      inert later = true := by
  rw [inert]
  simp only [Bool.and_eq_true, beq_iff_eq, List.all_eq_true, Bool.not_eq_true', and_assoc]

/-- With inert values the names may be replaced one after the other. -/
theorem fillIn_of_inert (well : WellNamed bindings) (still : inert bindings = true) :
    fillIn bindings text = substitute bindings text := by
  induction bindings generalizing text with
  | nil => exact (substitute_of_absent (List.forall_mem_nil _)).symm
  | cons binding later ih =>
    obtain ⟨name, value⟩ := binding
    obtain ⟨fixed, untouched, still⟩ := inert_cons_iff.1 still
    rw [fillIn, ih well.tail still]
    exact well.substitute_first_of_inert fixed untouched

/-- A value is left as it is between any beginning and end of a name. -/
def Fixed (bindings : Bindings) (value : List Char) : Prop :=
  ∀ before after, '}' ∉ before → '{' ∉ after →
    substitute bindings (before ++ value ++ after) = before ++ value ++ after

theorem Fixed.substitute_eq (fixed : Fixed bindings value) : substitute bindings value = value := by
  have whole := fixed [] [] List.not_mem_nil List.not_mem_nil
  rwa [List.nil_append, List.append_nil] at whole

section Touched

variable {front back replaced : List Char} (well : WellNamed bindings)
  (present : (start ++ rest, replaced) ∈ bindings)
include well present

/-- A name that begins in such a value stands for itself: what is before it in the value is left as
it is. -/
theorem Fixed.eq_of_begins (fixed : Fixed bindings (front ++ start)) (nonempty : start ≠ [])
    (more : rest ≠ []) : replaced = start ++ rest := by
  have isName := well.names _ present
  have kept : substitute bindings front = front := by
    have apart (binding) (listed : binding ∈ bindings) : ¬Crosses binding.1 front start := by
      obtain ⟨c, start, rfl⟩ := List.exists_cons_of_ne_nil nonempty
      obtain ⟨word, same, -⟩ := isName
      obtain ⟨rfl, -⟩ := List.cons.inj same
      exact (well.names binding listed).not_crosses_open
    have whole := fixed.substitute_eq
    rw [well.substitute_append apart,
      well.substitute_of_unclosed (isName.not_mem_start more)] at whole
    exact List.append_cancel_right whole
  have apart (binding) (listed : binding ∈ bindings) :
      ¬Crosses binding.1 front ((start ++ rest) ++ []) :=
    (well.names binding listed).not_crosses_name isName
  have named := well.substitute_append apart
  rw [well.substitute_name present, kept] at named
  have same := fixed [] rest List.not_mem_nil (isName.not_mem_rest nonempty)
  simp only [List.nil_append, List.append_nil, List.append_assoc] at same named
  rw [named] at same
  simpa [substitute, substituteFrom] using same

/-- So does one that ends in it: what is after it in the value is left as it is. -/
theorem Fixed.eq_of_ends (fixed : Fixed bindings (rest ++ back)) (nonempty : start ≠ [])
    (more : rest ≠ []) : replaced = start ++ rest := by
  have isName := well.names _ present
  have unopened := isName.not_mem_rest nonempty
  have kept : substitute bindings back = back := by
    have whole := fixed.substitute_eq
    rw [well.substitute_append fun binding listed =>
      (well.names binding listed).not_crosses_of_unopened unopened,
      well.substitute_of_unopened unopened] at whole
    exact List.append_cancel_left whole
  have same := fixed start [] (isName.not_mem_start more) List.not_mem_nil
  rw [List.append_nil, ← List.append_assoc, well.substitute_name present, kept] at same
  exact List.append_cancel_right same

end Touched

/-- And so does one that it lies within. -/
theorem Fixed.eq_of_within {back replaced : List Char} (fixed : Fixed bindings value)
    (well : WellNamed bindings) (present : (start ++ (value ++ back), replaced) ∈ bindings)
    (nonempty : start ≠ []) (more : value ++ back ≠ []) :
    replaced = start ++ (value ++ back) := by
  have isName := well.names _ present
  have same := fixed start back (isName.not_mem_start more) fun among =>
    isName.not_mem_rest nonempty (List.mem_append_right value among)
  rw [List.append_assoc, ← List.append_nil (start ++ (value ++ back)),
    well.substitute_name present] at same
  simpa [substitute, substituteFrom] using same

/-- If every name becomes something else, none touches such a value. -/
theorem Fixed.untouched (fixed : Fixed bindings value) (well : WellNamed bindings)
    (changes : ∀ binding ∈ bindings, binding.2 ≠ binding.1) :
    ∀ binding ∈ bindings, touches value binding.1 = false := by
  rintro ⟨name, replaced⟩ present
  by_contra touched
  obtain ⟨start, rest, rfl, nonempty, more, meets⟩ :=
    touches_iff.1 (Bool.not_eq_false _ ▸ touched)
  refine changes _ present ?_
  obtain ⟨front, rfl⟩ | ⟨back, rfl⟩ | ⟨back, rfl⟩ := meets
  · exact fixed.eq_of_begins well present nonempty more
  · exact fixed.eq_of_ends well present nonempty more
  · exact fixed.eq_of_within well present nonempty more

/-- Replacing the names one after the other agrees with one pass on the texts without the earlier
names only if the values are inert: the last value that is not has a text to show it. -/
theorem inert_of_fillIn (well : WellNamed (earlier ++ bindings))
    (changes : ∀ binding ∈ bindings, binding.2 ≠ binding.1)
    (agrees : ∀ text, (∀ binding ∈ earlier, ¬binding.1 <:+: text) →
      fillIn bindings text = substitute bindings text) : inert bindings = true := by
  induction bindings generalizing earlier with
  | nil => rfl
  | cons binding later ih =>
    obtain ⟨name, value⟩ := binding
    have wellLater : WellNamed ((name, value) :: later) := well.of_append_right
    have changesLater (binding) (present : binding ∈ later) : binding.2 ≠ binding.1 :=
      changes binding (List.mem_cons_of_mem _ present)
    have still : inert later = true := by
      have well' : WellNamed ((earlier ++ [(name, value)]) ++ later) := by simpa using well
      refine ih well' changesLater fun text absent => ?_
      have unnamed : ¬name <:+: text := absent (name, value) (by simp)
      have agreed := agrees text fun binding present => absent binding (by simp [present])
      rwa [fillIn, substitute_of_absent fun _ listed => List.mem_singleton.1 listed ▸ unnamed,
        wellLater.substitute_later unnamed] at agreed
    have fixed : Fixed later value := by
      intro before after unclosed unopened
      have agreed := agrees (before ++ name ++ after) fun binding present occurs => by
        have same := (well.names binding (List.mem_append_left _ present)).eq_of_occurs_between
          (wellLater.names _ List.mem_cons_self) unclosed unopened occurs
        exact well.ne_of_append present List.mem_cons_self same
      rwa [fillIn, wellLater.head.substitute_between List.mem_cons_self unclosed unopened,
        fillIn_of_inert wellLater.tail still,
        wellLater.substitute_between List.mem_cons_self unclosed unopened] at agreed
    exact inert_cons_iff.2 ⟨fixed.substitute_eq, fixed.untouched wellLater.tail changesLater, still⟩

end Agreement

section Unchanged

variable {bindings : Bindings} {text : List Char}

theorem WellNamed.changing (well : WellNamed bindings) : WellNamed (changing bindings) :=
  well.sublist List.filter_sublist

theorem ne_of_mem_changing {binding : List Char × List Char}
    (present : binding ∈ changing bindings) : binding.2 ≠ binding.1 := by
  simpa using (List.mem_filter.1 present).2

/-- A name that is its own value may be left out of a pass. -/
theorem substitute_changing (well : WellNamed bindings) :
    substitute (changing bindings) text = substitute bindings text := by
  induction text using well.pass with
  | nil => rfl
  | named name value rest present ih =>
    rw [well.substitute_name present]
    by_cases same : value = name
    · subst same
      have isName := well.names _ present
      have apart (binding) (listed : binding ∈ changing bindings) :
          ¬Crosses binding.1 value rest := by
        exact (well.changing.names binding listed).not_crosses_end isName
      have alone : substitute (changing bindings) value = value := by
        refine substitute_of_absent fun binding listed occurs => ne_of_mem_changing listed ?_
        have same := (well.changing.names binding listed).eq_of_occurs isName occurs
        rw [List.inj_on_of_nodup_map well.distinct (List.mem_of_mem_filter listed) present same]
      rw [well.changing.substitute_append apart, alone, ih]
    · have listed : (name, value) ∈ changing bindings :=
        List.mem_filter.2 ⟨present, by simpa using same⟩
      rw [well.changing.substitute_name listed, ih]
  | kept c rest absent ih =>
    rw [substitute_cons absent, substitute_cons, ih]
    exact fun binding present => absent binding (List.mem_of_mem_filter present)

theorem fillIn_changing (well : WellNamed bindings) :
    fillIn (changing bindings) text = fillIn bindings text := by
  induction bindings generalizing text with
  | nil => rfl
  | cons binding later ih =>
    have ih (text : List Char) : fillIn (changing later) text = fillIn later text := ih well.tail
    by_cases same : binding.2 = binding.1
    · have unchanged : substitute [binding] text = text := by
        rw [← substitute_changing well.head, changing, List.filter_cons_of_neg (by simp [same])]
        exact substitute_of_absent (by simp)
      rw [changing, List.filter_cons_of_neg (by simp [same]), fillIn, unchanged]
      exact ih text
    · rw [changing, List.filter_cons_of_pos (by simpa using same), fillIn, fillIn]
      exact ih _

/-- Replacing the names one after the other is the same as replacing them at once on every text if
and only if the values that change their names are inert. -/
theorem fillIn_eq_substitute_iff (well : WellNamed bindings) :
    (∀ text, fillIn bindings text = substitute bindings text) ↔
      inert (changing bindings) = true := by
  simp only [← fillIn_changing well, ← substitute_changing well]
  refine ⟨fun agrees => ?_, fun still text => fillIn_of_inert well.changing still⟩
  have well' : WellNamed ([] ++ changing bindings) := well.changing
  exact inert_of_fillIn well' (fun _ present => ne_of_mem_changing present) fun text _ =>
    agrees text

end Unchanged

section Plain

variable {bindings later : Bindings} {name value word text rest : List Char} {isOpen : Bool}

theorem unnested_append (plain : ∀ c ∈ word, isBrace c = false) :
    unnested isOpen (word ++ rest) = unnested isOpen rest := by
  induction word with
  | nil => rfl
  | cons c word ih =>
    have outside := plain c List.mem_cons_self
    simp only [isBrace, Bool.or_eq_false_iff, beq_eq_false_iff_ne] at outside
    rw [List.cons_append, unnested, if_neg outside.1, bne_iff_ne.2 outside.2, Bool.and_true]
    exact ih fun d present => plain d (List.mem_cons_of_mem _ present)

/-- A name opens only where no brace is open, and it is closed after it. -/
theorem unnested_name (isName : IsName name) :
    unnested isOpen (name ++ rest) = (!isOpen && unnested false rest) := by
  obtain ⟨word, rfl, unopened, unclosed⟩ := isName
  have plain (c : Char) (present : c ∈ word) : isBrace c = false := by
    simp [isBrace, ne_of_mem_of_not_mem present unopened, ne_of_mem_of_not_mem present unclosed]
  rw [List.cons_append, List.append_assoc, unnested, if_pos rfl, unnested_append plain]
  rfl

/-- After a brace that opens, the text is that of an open brace. -/
theorem unnested_of_suffix (within : unnested isOpen text = true) (ends : '{' :: rest <:+ text) :
    unnested true rest = true := by
  obtain ⟨front, rfl⟩ := ends
  induction front generalizing isOpen with
  | nil => exact (Bool.and_eq_true_iff.1 within).2
  | cons c front ih =>
    rw [List.cons_append, unnested] at within
    split at within
    · exact ih (Bool.and_eq_true_iff.1 within).2
    · exact ih within

/-- A value without braces leaves a text as nested as it was. -/
theorem unnested_substitute (well : WellNamed [(name, value)])
    (plain : ∀ c ∈ value, isBrace c = false) (within : unnested isOpen text = true) :
    unnested isOpen (substitute [(name, value)] text) = true := by
  induction text using well.pass generalizing isOpen with
  | nil => rfl
  | named name' value' rest present ih =>
    obtain ⟨rfl, rfl⟩ := Prod.mk.inj (List.mem_singleton.1 present)
    rw [unnested_name (well.names _ present), Bool.and_eq_true] at within
    obtain rfl : isOpen = false := by simpa using within.1
    rw [well.substitute_name present, unnested_append plain]
    exact ih within.2
  | kept c rest absent ih =>
    rw [substitute_cons absent, unnested]
    rw [unnested] at within
    split at within
    case isTrue opens =>
      obtain ⟨closed, within⟩ := Bool.and_eq_true_iff.1 within
      rw [if_pos opens, closed, ih within]
      rfl
    case isFalse plain =>
      rw [if_neg plain]
      exact ih within

/-- After an open brace the rest of a name is not made up by a replacement. -/
theorem begins_of_substitute_open (well : WellNamed [(name, value)])
    (unopened : '{' ∉ word) (unclosed : '}' ∉ word) (within : unnested true text = true)
    (begins : word ++ ['}'] <+: substitute [(name, value)] text) : word ++ ['}'] <+: text := by
  induction text using well.pass generalizing word with
  | nil => exact begins
  | named name' value' rest present ih =>
    rw [unnested_name (well.names _ present)] at within
    cases within
  | kept c rest absent ih =>
    rw [substitute_cons absent] at begins
    cases word with
    | nil =>
      obtain ⟨rfl, -⟩ := List.cons_prefix_cons.1 begins
      exact List.cons_prefix_cons.2 ⟨rfl, List.nil_prefix⟩
    | cons d word =>
      obtain ⟨rfl, tails⟩ := List.cons_prefix_cons.1 begins
      rw [List.mem_cons, not_or] at unopened unclosed
      rw [unnested, if_neg (Ne.symm unopened.1), bne_iff_ne.2 (Ne.symm unclosed.1)] at within
      exact List.cons_prefix_cons.2 ⟨rfl, ih unopened.2 unclosed.2 within tails⟩

/-- Without braces in the values and without nested ones in the text the names may be replaced one
after the other. -/
theorem fillIn_of_plain (well : WellNamed bindings)
    (plain : ∀ binding ∈ bindings, ∀ c ∈ binding.2, isBrace c = false)
    (within : unnested false text = true) : fillIn bindings text = substitute bindings text := by
  induction bindings generalizing text with
  | nil => exact (substitute_of_absent (List.forall_mem_nil _)).symm
  | cons binding later ih =>
    obtain ⟨name, value⟩ := binding
    have blank := plain _ List.mem_cons_self
    have unopened : '{' ∉ value := fun present => by
      have := blank '{' present
      cases this
    rw [fillIn, ih well.tail (fun binding present => plain binding (List.mem_cons_of_mem _ present))
      (unnested_substitute well.head blank within)]
    refine well.substitute_first (fun rest => ?_) fun c rest ends binding present begins => ?_
    · rw [well.tail.substitute_append fun binding present =>
        (well.tail.names binding present).not_crosses_of_unopened unopened,
        well.tail.substitute_of_unopened unopened]
    · obtain ⟨word, same, unopened, unclosed⟩ := well.tail.names binding present
      rw [same] at begins ⊢
      obtain ⟨rfl, tails⟩ := List.cons_prefix_cons.1 begins
      exact List.cons_prefix_cons.2 ⟨rfl, begins_of_substitute_open well.head unopened unclosed
        (unnested_of_suffix within ends) tails⟩

end Plain

end MessageFlow.Template

namespace MessageFlow
namespace Execution

open Template

variable {execution : Execution} {text : String}

def bindings (execution : Execution) : Bindings :=
  execution.variables.map fun (name, value) => (name.toList, value.toList)

/-- The text with the variables that it has replaced by their values, which are not looked at
again. -/
def fillAtOnce (execution : Execution) (text : String) : String :=
  String.ofList (substitute execution.bindings text.toList)

theorem wellNamed (execution : Execution) : WellNamed execution.bindings where
  names := by
    have word (s : List Char) (plain : '{' ∉ s ∧ '}' ∉ s) : IsName ('{' :: (s ++ ['}'])) :=
      ⟨s, rfl, plain⟩
    intro binding present
    simp only [bindings, Execution.variables, List.map_cons, List.map_nil, List.mem_cons,
      List.not_mem_nil, or_false] at present
    obtain rfl | rfl | rfl | rfl := present
    · exact word "username".toList (by decide)
    · exact word "name".toList (by decide)
    · exact word "email".toList (by decide)
    · exact word "phone".toList (by decide)
  distinct := by
    simp only [bindings, Execution.variables, List.map_cons, List.map_nil]
    decide

/-- The variables are filled in one after the other. -/
theorem fill_eq_fillIn :
    execution.fill text = String.ofList (fillIn execution.bindings text.toList) := by
  have all (bindings : List (String × String)) (text : String) :
      bindings.foldl (fun text (name, value) => Text.replace name value text) text =
        String.ofList (fillIn (bindings.map fun (name, value) => (name.toList, value.toList))
          text.toList) := by
    induction bindings generalizing text with
    | nil => exact (String.ofList_toList ..).symm
    | cons binding later ih =>
      obtain ⟨name, value⟩ := binding
      rw [List.foldl_cons, ih]
      simp only [Text.replace, replaceFrom_eq, String.toList_ofList]
      rfl
  exact all execution.variables text

theorem fill_eq_fillAtOnce_iff : execution.fill text = execution.fillAtOnce text ↔
    fillIn execution.bindings text.toList = substitute execution.bindings text.toList := by
  rw [fill_eq_fillIn, fillAtOnce, String.ofList_inj]

/-- A message is filled in as at once, on every text, if and only if the values of the variables
are inert: no value that takes another's place is changed by the variables after it, and none can
make up one of them with the text around it. On a text without nested braces it is, if no value has
a brace. -/
theorem fills_at_once_iff (execution : Execution) :
    ((∀ text, execution.fill text = execution.fillAtOnce text) ↔
      inert (changing execution.bindings) = true) ∧
    ∀ text : String, unnested false text.toList = true →
      (∀ binding ∈ execution.bindings, ∀ c ∈ binding.2, isBrace c = false) →
      execution.fill text = execution.fillAtOnce text := by
  refine ⟨?_, fun text within plain => fill_eq_fillAtOnce_iff.2
    (fillIn_of_plain execution.wellNamed plain within)⟩
  rw [← fillIn_eq_substitute_iff execution.wellNamed]
  refine ⟨fun agrees text => ?_, fun agrees text => fill_eq_fillAtOnce_iff.2 (agrees _)⟩
  have agreed := fill_eq_fillAtOnce_iff.1 (agrees (String.ofList text))
  rwa [String.toList_ofList] at agreed

end Execution

namespace Example

/-- A sender whose name is that of a variable. -/
def masked : Execution where
  id := "e1"
  flowId := "f1"
  userId := none
  accountId := "a1"
  senderId := "u1"
  senderUsername := some "\x7bemail\x7d"
  currentNodeId := "n1"

end Example

/-- On a text with the variable, that name is taken for the variable of the email. -/
theorem not_always_filled_at_once :
    ¬∀ (execution : Execution) (text : String), execution.fill text = execution.fillAtOnce text := by
  intro always
  have filled : Example.masked.fill "Hi {username}" = "Hi " := by decide +kernel
  have meant : Example.masked.fillAtOnce "Hi {username}" = "Hi {email}" := by
    decide +kernel
  have same := always Example.masked "Hi {username}"
  rw [filled, meant] at same
  exact absurd same (by decide)

/-- Messages to a sender with a plain name: any text once the email and the phone are collected, and
before that a text without nested braces. -/
theorem fills_at_once_iff_plain :
    let ann := { Example.masked with senderUsername := some "ann" }
    let known := { ann with
      context := { email := some "ann@example.org", phone := some "+15551234567" } }
    (∀ text, known.fill text = known.fillAtOnce text) ∧
      ann.fill "Hi {username} <{email}>" =
        ann.fillAtOnce "Hi {username} <{email}>" := by
  refine ⟨(Execution.fills_at_once_iff _).1.2 (by decide +kernel),
    (Execution.fills_at_once_iff _).2 _ ?_ ?_⟩
  · simp [Template.unnested]
  · simp [Execution.bindings, Execution.variables, firstText, Example.masked,
      Template.isBrace]

end MessageFlow
