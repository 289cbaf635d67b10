import MessageFlow.Contact.Email
import MessageFlow.Execution.Condition
import MessageFlow.Proofs.Text.Classes

/-!
The first email address in a text, told by the grammar of addresses. Main statement: what is found is
the longest of the addresses that start leftmost, in lower case, and nothing is found only when no
part of the text is an address.
-/

namespace MessageFlow.Email

/-- The host of an address, or a later part of one when it has `started`: domain characters, a point
and a final label of at least two letters. -/
def IsHost (started : Bool) (s : List Char) : Prop :=
  ∃ domain label, s = domain ++ '.' :: label ∧ (started = false → domain ≠ []) ∧
    (∀ c ∈ domain, isDomainChar c = true) ∧ 2 ≤ label.length ∧ ∀ c ∈ label, isLetter c = true

/-- The grammar of addresses. -/
def IsAddress (s : List Char) : Prop :=
  ∃ user host, s = user ++ '@' :: host ∧ user ≠ [] ∧ (∀ c ∈ user, isLocalChar c = true) ∧
    IsHost false host

/-- The longest of the addresses in a text that start leftmost. -/
structure IsFirstAddress (text before found after : List Char) : Prop where
  text_eq : text = before ++ found ++ after
  address : IsAddress found
  leftmost : ∀ before' found' after', text = before' ++ found' ++ after' → IsAddress found' →
    before.length ≤ before'.length
  longest : ∀ found' after', text = before ++ found' ++ after' → IsAddress found' →
    found'.length ≤ found.length

section Classes

variable {c : Char}

theorem isDomainChar_of_isLetter (letter : isLetter c = true) : isDomainChar c = true := by
  simp [isDomainChar, letter]

theorem isLocalChar_of_isDomainChar (within : isDomainChar c = true) : isLocalChar c = true := by
  simp [isLocalChar, within]

/-- The characters of an address are of ASCII. -/
theorem toNat_lt_of_isLocalChar (within : isLocalChar c = true) : c.toNat < 128 := by
  simp only [isLocalChar, isDomainChar, isLetter, Bool.or_eq_true, Bool.and_eq_true,
    decide_eq_true_eq, beq_iff_eq, Char.le_def, UInt32.le_iff_toNat_le] at within
  obtain ((((((⟨-, high⟩ | ⟨-, high⟩) | ⟨-, high⟩) | rfl) | rfl) | rfl) | rfl) | rfl := within
  any_goals exact Nat.lt_of_le_of_lt high (by decide)
  all_goals decide

/-- Lowering keeps each class. -/
theorem classes_toLower (ascii : c.toNat < 128) :
    (isLetter c = true → isLetter c.toLower = true) ∧
      (isDomainChar c = true → isDomainChar c.toLower = true) ∧
      (isLocalChar c = true → isLocalChar c.toLower = true) := by
  have all : ∀ n < 128,
      (isLetter (Char.ofNat n) = true → isLetter (Char.ofNat n).toLower = true) ∧
      (isDomainChar (Char.ofNat n) = true → isDomainChar (Char.ofNat n).toLower = true) ∧
      (isLocalChar (Char.ofNat n) = true → isLocalChar (Char.ofNat n).toLower = true) := by
    decide +kernel
  simpa using all c.toNat ascii

theorem lowerFrom_ascii {before s : List Char} (ascii : ∀ c ∈ s, c.toNat < 128) :
    Text.lowerFrom before s = s.map Char.toLower := by
  induction s generalizing before with
  | nil => rfl
  | cons c rest ih =>
    obtain ⟨first, others⟩ := List.forall_mem_cons.1 ascii
    have dotless : c ≠ 'İ' := by rintro rfl; exact absurd first (by decide)
    have latin : c ≠ 'Σ' := by rintro rfl; exact absurd first (by decide)
    rw [Text.lowerFrom, if_neg dotless, if_neg latin, ih others, Text.lowerChar, if_pos first]
    rfl

end Classes

section Hosts

variable {started : Bool} {c : Char} {s host : List Char}

/-- Read from its start, a host goes on with a character of its domain or is at its last point. -/
theorem isHost_cons_iff : IsHost started (c :: s) ↔
    (isDomainChar c = true ∧ IsHost true s) ∨
      (started = true ∧ c = '.' ∧ 2 ≤ s.length ∧ ∀ c ∈ s, isLetter c = true) := by
  constructor
  · rintro ⟨domain, label, same, nonempty, within, two, letters⟩
    cases domain with
    | nil =>
      obtain ⟨rfl, rfl⟩ := List.cons.inj same
      exact .inr ⟨by simpa using nonempty, rfl, two, letters⟩
    | cons d domain =>
      obtain ⟨rfl, rfl⟩ := List.cons.inj same
      obtain ⟨first, others⟩ := List.forall_mem_cons.1 within
      exact .inl ⟨first, domain, label, rfl, by simp, others, two, letters⟩
  · rintro (⟨first, domain, label, rfl, -, others, two, letters⟩ | ⟨rfl, rfl, two, letters⟩)
    · exact ⟨c :: domain, label, rfl, by simp, List.forall_mem_cons.2 ⟨first, others⟩, two, letters⟩
    · exact ⟨[], s, rfl, by simp, by simp, two, letters⟩

theorem not_isHost_nil : ¬IsHost started [] := by
  rintro ⟨domain, label, same, -⟩
  simp at same

theorem IsHost.mem_point (host : IsHost started s) : '.' ∈ s := by
  obtain ⟨domain, label, rfl, -⟩ := host
  simp

/-- The characters of a host are domain characters. -/
theorem IsHost.inside (host : IsHost started s) : ∀ c ∈ s, isDomainChar c = true := by
  obtain ⟨domain, label, rfl, -, within, -, letters⟩ := host
  intro c present
  rw [List.mem_append, List.mem_cons] at present
  obtain present | rfl | present := present
  · exact within c present
  · decide
  · exact isDomainChar_of_isLetter (letters c present)

/-- Of the beginnings of a text that have a property, whether this one is the longest, or whether
there is none. -/
def Longest (P : List Char → Prop) (text : List Char) : Option (List Char) → Prop
  | none => ∀ other, other <+: text → ¬P other
  | some found => found <+: text ∧ P found ∧
    ∀ other, other <+: text → P other → other.length ≤ found.length

theorem length_le_takeWhile {within : Char → Bool} {start text : List Char} (begins : start <+: text)
    (inside : ∀ c ∈ start, within c = true) : start.length ≤ (text.takeWhile within).length := by
  obtain ⟨rest, rfl⟩ := begins
  rw [List.takeWhile_append_of_pos inside, List.length_append]
  exact Nat.le_add_right _ _

theorem IsHost.exists_cons {rest : List Char} (host : IsHost started s) (begins : s <+: c :: rest) :
    ∃ later, s = c :: later ∧ later <+: rest := by
  cases s with
  | nil => exact absurd host not_isHost_nil
  | cons d later =>
    obtain ⟨rfl, within⟩ := List.cons_prefix_cons.1 begins
    exact ⟨later, rfl, within⟩

/-- Letters alone do not reach the point of a host with the same start. -/
theorem IsHost.length_le_of_letters {label text : List Char} (host : IsHost started s)
    (begins : s <+: text) (begins' : label <+: text) (letters : ∀ c ∈ label, isLetter c = true) :
    label.length ≤ s.length := by
  by_contra longer
  have within := List.prefix_of_prefix_length_le begins begins' (Nat.le_of_not_le longer)
  exact absurd (letters '.' (within.subset host.mem_point)) (by decide)

/-- Where no host begins after it, a point can only be that of its final label. -/
theorem IsHost.only_label {rest : List Char} (host : IsHost started s) (begins : s <+: c :: rest)
    (noneLater : ∀ later, later <+: rest → ¬IsHost true later) :
    started = true ∧ c = '.' ∧ 2 ≤ (rest.takeWhile isLetter).length ∧
      s.length ≤ (rest.takeWhile isLetter).length + 1 := by
  obtain ⟨tail, rfl, within⟩ := host.exists_cons begins
  obtain ⟨-, host⟩ | ⟨begun, point, two, letters⟩ := isHost_cons_iff.1 host
  · exact absurd host (noneLater tail within)
  · have bound := length_le_takeWhile within letters
    exact ⟨begun, point, two.trans bound, Nat.succ_le_succ bound⟩

/-- The host that is found is the longest that the text starts with. -/
theorem domain?_longest (inside : ∀ c ∈ s, isDomainChar c = true) :
    Longest (IsHost started) s (domain? started s) := by
  induction s generalizing started with
  | nil =>
    intro other begins host
    rw [List.prefix_nil.1 begins] at host
    exact not_isHost_nil host
  | cons c rest ih =>
    obtain ⟨first, inside⟩ := List.forall_mem_cons.1 inside
    have ih : Longest (IsHost true) rest (domain? true rest) := ih inside
    rw [domain?]
    cases later : domain? true rest with
    | some found =>
      rw [later] at ih
      obtain ⟨begins, host, longest⟩ := ih
      refine ⟨List.cons_prefix_cons.2 ⟨rfl, begins⟩, isHost_cons_iff.2 (.inl ⟨first, host⟩), ?_⟩
      intro other begins' host'
      obtain ⟨tail, rfl, within⟩ := host'.exists_cons begins'
      refine Nat.succ_le_succ ?_
      obtain ⟨-, host'⟩ | ⟨-, -, -, letters⟩ := isHost_cons_iff.1 host'
      · exact longest tail within host'
      · exact host.length_le_of_letters begins within letters
    | none =>
      rw [later] at ih
      simp only [finalLabel?]
      split
      case isFalse elsewhere =>
        intro other begins host
        obtain ⟨begun, point, -⟩ := host.only_label begins ih
        exact elsewhere (by rw [begun, point]; rfl)
      case isTrue here =>
        split
        case isFalse short =>
          exact fun other begins host => short (host.only_label begins ih).2.2.1
        case isTrue two =>
          simp only [Bool.and_eq_true, beq_iff_eq] at here
          obtain ⟨rfl, rfl⟩ := here
          refine ⟨List.cons_prefix_cons.2 ⟨rfl, List.takeWhile_prefix _⟩, ?_,
            fun other begins host => (host.only_label begins ih).2.2.2⟩
          exact isHost_cons_iff.2
            (.inr ⟨rfl, rfl, two, fun _ present => List.mem_takeWhile_imp present⟩)

/-- So it is where the domain characters of a text are searched, which no host leaves. -/
theorem domain?_takeWhile_longest (text : List Char) :
    Longest (IsHost false) text (domain? false (text.takeWhile isDomainChar)) := by
  have longest : Longest (IsHost false) (text.takeWhile isDomainChar) _ :=
    domain?_longest fun _ present => List.mem_takeWhile_imp present
  have within {host : List Char} (begins : host <+: text) (hosts : IsHost false host) :
      host <+: text.takeWhile isDomainChar := by
    obtain ⟨rest, rfl⟩ := begins
    rw [List.takeWhile_append_of_pos hosts.inside]
    exact List.prefix_append _ _
  cases found : domain? false (text.takeWhile isDomainChar) with
  | none =>
    rw [found] at longest
    exact fun host begins hosts => longest host (within begins hosts) hosts
  | some host =>
    rw [found] at longest
    obtain ⟨begins, hosts, longest⟩ := longest
    exact ⟨begins.trans (List.takeWhile_prefix _), hosts, fun other begins hosts =>
      longest other (within begins hosts) hosts⟩

end Hosts

section FirstAddresses

variable {text lead rest before found after before' found' after' : List Char}

/-- No address begins in the first part of a text. -/
def Barren (lead rest : List Char) : Prop :=
  ∀ before found after, lead ++ rest = before ++ found ++ after → IsAddress found →
    ∃ before', before = lead ++ before' ∧ rest = before' ++ found ++ after

theorem exists_later (same : lead ++ rest = before ++ found ++ after)
    (late : lead.length ≤ before.length) :
    ∃ before', before = lead ++ before' ∧ rest = before' ++ found ++ after := by
  rw [List.append_assoc] at same
  obtain ⟨later, rfl⟩ :=
    List.prefix_of_prefix_length_le ⟨rest, rfl⟩ ⟨found ++ after, same.symm⟩ late
  exact ⟨later, rfl, by simpa using same⟩

theorem IsFirstAddress.unique (first : IsFirstAddress text before found after)
    (first' : IsFirstAddress text before' found' after') : before = before' ∧ found = found' := by
  have same := first.text_eq.symm.trans first'.text_eq
  rw [List.append_assoc, List.append_assoc] at same
  obtain ⟨rfl, tails⟩ := List.append_inj same
    (Nat.le_antisymm (first.leftmost _ _ _ first'.text_eq first'.address)
      (first'.leftmost _ _ _ first.text_eq first.address))
  obtain ⟨rfl, -⟩ := List.append_inj tails
    (Nat.le_antisymm (first'.longest _ _ first.text_eq first.address)
      (first.longest _ _ first'.text_eq first'.address))
  exact ⟨rfl, rfl⟩

theorem IsFirstAddress.append (barren : Barren lead rest)
    (first : IsFirstAddress rest before found after) :
    IsFirstAddress (lead ++ rest) (lead ++ before) found after where
  text_eq := by simp [first.text_eq]
  address := first.address
  leftmost := by
    intro before' found' after' same address
    obtain ⟨later, rfl, within⟩ := barren _ _ _ same address
    rw [List.length_append, List.length_append]
    exact Nat.add_le_add_left (first.leftmost _ _ _ within address) _
  longest := by
    intro found' after' same address
    rw [List.append_assoc, List.append_assoc] at same
    refine first.longest found' after' ?_ address
    rw [List.append_cancel_left same, List.append_assoc]

/-- What is right to answer on a text. -/
def Answers (text : List Char) : Option (List Char) → Prop
  | none => ∀ before found after, text = before ++ found ++ after → ¬IsAddress found
  | some found => ∃ before after, IsFirstAddress text before found after

theorem Answers.append {result : Option (List Char)} (barren : Barren lead rest)
    (answers : Answers rest result) : Answers (lead ++ rest) result := by
  cases result with
  | none =>
    intro before found after same address
    obtain ⟨later, -, within⟩ := barren _ _ _ same address
    exact answers _ _ _ within address
  | some found =>
    obtain ⟨before, after, first⟩ := answers
    exact ⟨lead ++ before, after, first.append barren⟩

end FirstAddresses

section Search

variable {c : Char} {budget : Nat} {name rest before user tail host after : List Char}

theorem stops_sign : Stops isLocalChar ('@' :: tail) := by
  rintro _ ⟨⟩
  decide

/-- An address that begins in a stretch of local characters has the end of the stretch for its
user, and the at sign follows the stretch. -/
theorem user_of_occurrence (inside : ∀ c ∈ name, isLocalChar c = true)
    (stops : Stops isLocalChar after) (within : ∀ c ∈ user, isLocalChar c = true)
    (same : name ++ after = before ++ (user ++ '@' :: tail)) (early : before.length ≤ name.length) :
    name = before ++ user ∧ after = '@' :: tail := by
  have begins : before <+: name :=
    List.prefix_of_prefix_length_le ⟨_, same.symm⟩ (List.prefix_append _ _) early
  refine stops.unique stops_sign inside ?_ (by rw [same, List.append_assoc])
  intro c present
  rcases List.mem_append.1 present with present | present
  · exact inside c (begins.subset present)
  · exact within c present

/-- No address begins in a stretch of local characters that no at sign with a host follows. -/
theorem barren_name (inside : ∀ c ∈ name, isLocalChar c = true) (stops : Stops isLocalChar after)
    (alone : ∀ tail host, after = '@' :: tail → host <+: tail → ¬IsHost false host) :
    Barren name after := by
  rintro before _ after' same ⟨user, host, rfl, -, within, hosts⟩
  rcases Nat.le_total name.length before.length with late | early
  · exact exists_later same late
  · obtain ⟨-, sign⟩ := user_of_occurrence inside stops within (by simpa using same) early
    exact absurd hosts (alone _ host sign (List.prefix_append host after'))

/-- No address begins with a character that is not local. -/
theorem barren_outside (outside : isLocalChar c = false) : Barren [c] rest := by
  rintro before _ after same ⟨user, host, rfl, nonempty, within, -⟩
  refine exists_later same (Nat.pos_of_ne_zero fun empty => ?_)
  obtain rfl := List.length_eq_zero_iff.1 empty
  obtain ⟨d, user, rfl⟩ := List.exists_cons_of_ne_nil nonempty
  obtain ⟨rfl, -⟩ := List.cons.inj same
  rw [within c List.mem_cons_self] at outside
  cases outside

theorem search_outside (outside : isLocalChar c = false) :
    search (budget + 1) (c :: rest) = search budget rest := by
  simp [search, outside]

/-- An at sign with a host after a stretch of local characters ends the search. -/
theorem search_found (nonempty : name ≠ []) (inside : ∀ c ∈ name, isLocalChar c = true)
    (hosted : domain? false (tail.takeWhile isDomainChar) = some host) :
    search (budget + 1) (name ++ '@' :: tail) = some (name ++ '@' :: host) := by
  obtain ⟨c, name, rfl⟩ := List.exists_cons_of_ne_nil nonempty
  have taken : (c :: (name ++ '@' :: tail)).takeWhile isLocalChar = c :: name :=
    stops_sign.takeWhile_append inside
  rw [List.cons_append, search]
  simp [taken, hosted]

/-- Any other stretch of local characters is passed. -/
theorem search_passed (nonempty : name ≠ []) (inside : ∀ c ∈ name, isLocalChar c = true)
    (stops : Stops isLocalChar after)
    (unhosted : ∀ tail, after = '@' :: tail → domain? false (tail.takeWhile isDomainChar) = none) :
    search (budget + 1) (name ++ after) = search budget after := by
  obtain ⟨c, name, rfl⟩ := List.exists_cons_of_ne_nil nonempty
  have taken : (c :: (name ++ after)).takeWhile isLocalChar = c :: name :=
    stops.takeWhile_append inside
  have dropped : (c :: (name ++ after)).drop (c :: name).length = after := List.drop_left
  rw [List.cons_append, search]
  simp only [taken, dropped, List.isEmpty_cons, Bool.false_eq_true, if_false]
  split
  case h_1 tail => rw [unhosted tail rfl]
  case h_2 => rfl

theorem answers_found (nonempty : name ≠ []) (inside : ∀ c ∈ name, isLocalChar c = true)
    (hosted : domain? false (tail.takeWhile isDomainChar) = some host) :
    Answers (name ++ '@' :: tail) (some (name ++ '@' :: host)) := by
  have longest := domain?_takeWhile_longest tail
  rw [hosted] at longest
  obtain ⟨⟨rest, rfl⟩, hosts, longest⟩ := longest
  refine ⟨[], rest, by simp, ⟨name, host, rfl, nonempty, inside, hosts⟩, by simp, ?_⟩
  rintro _ after' same ⟨user, host', rfl, -, within, hosts'⟩
  -- the user is the whole stretch, so that the hosts begin at one place
  have same : name ++ '@' :: (host ++ rest) = [] ++ (user ++ '@' :: (host' ++ after')) := by
    simpa using same
  obtain ⟨rfl, sign⟩ := user_of_occurrence inside stops_sign within same (Nat.zero_le _)
  have bound := longest host' ⟨after', (List.cons.inj sign).2.symm⟩ hosts'
  simpa using bound

/-- The search is right on every text: it passes one stretch of local characters, or one other
character, after the other. -/
theorem search_answers (text : List Char) (enough : text.length < budget) :
    Answers text (search budget text) := by
  induction length : text.length using Nat.strong_induction_on generalizing text budget with
  | _ n ih =>
  subst length
  obtain ⟨budget, rfl⟩ := Nat.exists_eq_add_one_of_ne_zero (Nat.ne_zero_of_lt enough)
  obtain ⟨name, after, rfl, inside, stops⟩ := exists_stretch isLocalChar text
  rcases eq_or_ne name [] with rfl | nonempty
  · cases after with
    | nil =>
      rintro before _ after' same ⟨user, host, rfl, -⟩
      simp at same
    | cons c rest =>
      have outside := stops c rfl
      rw [List.nil_append, search_outside outside]
      exact (ih _ (Nat.lt_succ_self _) rest (Nat.lt_of_succ_lt_succ enough) rfl).append
        (barren_outside outside)
  · have shorter : after.length < (name ++ after).length := by
      rw [List.length_append]
      exact Nat.lt_add_of_pos_left (List.length_pos_iff.2 nonempty)
    by_cases hosted : ∃ tail host, after = '@' :: tail ∧
        domain? false (tail.takeWhile isDomainChar) = some host
    · obtain ⟨tail, host, rfl, hosted⟩ := hosted
      rw [search_found nonempty inside hosted]
      exact answers_found nonempty inside hosted
    · have unhosted (tail : List Char) (sign : after = '@' :: tail) :
          domain? false (tail.takeWhile isDomainChar) = none := by
        by_contra found
        obtain ⟨host, found⟩ := Option.ne_none_iff_exists'.1 found
        exact hosted ⟨tail, host, sign, found⟩
      rw [search_passed nonempty inside stops unhosted]
      refine (ih _ shorter after (Nat.lt_of_lt_of_le shorter (Nat.le_of_lt_succ enough))
        rfl).append (barren_name inside stops fun tail host sign begins hosts => ?_)
      have longest := domain?_takeWhile_longest tail
      rw [unhosted tail sign] at longest
      exact longest host begins hosts

end Search

section Main

variable {text email : String} {s : List Char}

/-- The characters of an address are of ASCII. -/
theorem IsAddress.ascii (address : IsAddress s) : ∀ c ∈ s, c.toNat < 128 := by
  obtain ⟨user, host, rfl, -, within, hosts⟩ := address
  intro c present
  rw [List.mem_append, List.mem_cons] at present
  obtain present | rfl | present := present
  · exact toNat_lt_of_isLocalChar (within c present)
  · decide
  · exact toNat_lt_of_isLocalChar (isLocalChar_of_isDomainChar (hosts.inside c present))

/-- An address in lower case is an address. -/
theorem IsAddress.lower (address : IsAddress s) :
    IsAddress (Text.lower (String.ofList s)).toList := by
  rw [Text.lower, String.toList_ofList, String.toList_ofList, lowerFrom_ascii address.ascii]
  obtain ⟨user, _, rfl, nonempty, within, domain, label, rfl, begun, inside, two, letters⟩ :=
    address
  have lowered {P : Char → Bool} (part : List Char) (all : ∀ c ∈ part, P c = true)
      (kept : ∀ c, P c = true → P c.toLower = true) : ∀ c ∈ part.map Char.toLower, P c = true :=
    List.forall_mem_map.2 fun c present => kept c (all c present)
  refine ⟨user.map Char.toLower, domain.map Char.toLower ++ '.' :: label.map Char.toLower, ?_,
    by simpa using nonempty, lowered user within ?_, domain.map Char.toLower,
    label.map Char.toLower, rfl, by simpa using begun, lowered domain inside ?_,
    by rwa [List.length_map], lowered label letters ?_⟩
  · rw [List.map_append, List.map_cons, List.map_append, List.map_cons]
    rfl
  · exact fun c within => (classes_toLower (toNat_lt_of_isLocalChar within)).2.2 within
  · exact fun c within => (classes_toLower
      (toNat_lt_of_isLocalChar (isLocalChar_of_isDomainChar within))).2.1 within
  · exact fun c letter => (classes_toLower (toNat_lt_of_isLocalChar
      (isLocalChar_of_isDomainChar (isDomainChar_of_isLetter letter)))).1 letter

/-- Nothing is extracted where no part of the text is an address, and else the first address. -/
theorem extract_cases (text : String) :
    (extract text = none ∧
      ∀ before found after, text.toList = before ++ found ++ after → ¬IsAddress found) ∨
    ∃ before found after, IsFirstAddress text.toList before found after ∧
      extract text = some (Text.lower (String.ofList found)) := by
  have answers := search_answers text.toList (Nat.lt_succ_self _)
  rw [String.length_toList] at answers
  rw [extract]
  cases searched : search (text.length + 1) text.toList with
  | none =>
    rw [searched] at answers
    exact .inl ⟨rfl, answers⟩
  | some found =>
    rw [searched] at answers
    obtain ⟨before, after, first⟩ := answers
    exact .inr ⟨before, found, after, first, rfl⟩

theorem extract_eq_some_iff : extract text = some email ↔
    ∃ before found after, IsFirstAddress text.toList before found after ∧
      email = Text.lower (String.ofList found) := by
  rcases extract_cases text with ⟨none, barren⟩ | ⟨before, found, after, first, isFound⟩
  · rw [none]
    refine iff_of_false nofun ?_
    rintro ⟨before, found, after, first, -⟩
    exact barren _ _ _ first.text_eq first.address
  · rw [isFound]
    constructor
    · rintro ⟨⟩
      exact ⟨before, found, after, first, rfl⟩
    · rintro ⟨before', found', after', first', rfl⟩
      obtain ⟨-, rfl⟩ := first.unique first'
      rfl

theorem extract_eq_none_iff : extract text = none ↔
    ∀ before found after, text.toList = before ++ found ++ after → ¬IsAddress found := by
  rcases extract_cases text with ⟨none, barren⟩ | ⟨before, found, after, first, isFound⟩
  · exact iff_of_true none barren
  · rw [isFound]
    exact iff_of_false nofun fun barren => barren _ _ _ first.text_eq first.address

/-- What is extracted from a text is the longest of the addresses that start leftmost, in lower
case; nothing is extracted only when no part of the text is an address. So every extracted email is
an address itself, and a run that has collected it knows an email. -/
theorem extract_eq_first_address (text : String) :
    (extract text = none ↔
      ∀ before found after, text.toList = before ++ found ++ after → ¬IsAddress found) ∧
    (∀ email, extract text = some email ↔
      ∃ before found after, IsFirstAddress text.toList before found after ∧
        email = Text.lower (String.ofList found)) ∧
    ∀ email, extract text = some email → IsAddress email.toList ∧
      ∀ context : Context, context.email = some email → context.hasEmail = true := by
  refine ⟨extract_eq_none_iff, fun _ => extract_eq_some_iff, fun email extracted => ?_⟩
  obtain ⟨before, found, after, first, rfl⟩ := extract_eq_some_iff.1 extracted
  have address := first.address.lower
  refine ⟨address, fun context known => ?_⟩
  obtain ⟨user, host, same, -⟩ := address
  rw [Context.hasEmail, known, Option.getD_some, same]
  simp

/-- The domain ends at its last point with a label, and a failed candidate stands before it. -/
theorem extract_eq_first_address_second :
    extract "a@b, Ann.Lee@Mail.example.org9!" = some "ann.lee@mail.example.org" ∧
      ∀ context : Context, context.email = some "ann.lee@mail.example.org" →
        context.hasEmail = true := by
  have extracted : extract "a@b, Ann.Lee@Mail.example.org9!" = some "ann.lee@mail.example.org" := by
    decide +kernel
  exact ⟨extracted, ((extract_eq_first_address _).2.2 _ extracted).2⟩

end Main

end MessageFlow.Email
