import MessageFlow.Proofs.Among.Traversal
import MessageFlow.Proofs.Traversal.Visit

/-!
What a client knows of an execution among others: the version that it has read or written last, as
the answers of the store have told it, and what it could not write over that since. No two versions
that are stored one after the other have one revision, so that what is known tells what was stored.
-/

namespace MessageFlow
open Store

namespace Query

def readsExecutions : Query → Bool
  | .select .executions .. => true
  | _ => false

def writesExecutions : Query → Bool
  | .update .executions .. => true
  | _ => false

end Query

/-- What a client knows of an execution: the version that it has read or written last, and the
writes that it has asked for since then, which met no row. -/
structure Known where
  version : Option Execution
  vain : List Query := []

/-- What the client knows after something happened: where a read or a write meets a row, the answer
shows it. -/
def Happening.learn (known : Known) : Happening → Known
  | .other .. => known
  | .own _ query before =>
    if query.readsExecutions || query.writesExecutions then
      match (query.run before).1 with
      | row :: _ => ⟨(DocumentType.read (.record row) : Validated Execution).toOption, []⟩
      | [] => if query.writesExecutions then { known with vain := known.vain ++ [query] } else known
    else known

/-- What a client knows that held that version at first. -/
def Known.since (v : Execution) (history : List Happening) : Known :=
  history.foldl Happening.learn ⟨some v, []⟩

/-- The version at first, or one that was stored afterwards. -/
def OnRecord (id : String) (v : Execution) (history : List Happening) (e : Execution) : Prop :=
  e = v ∨ ∃ h ∈ history, h.after.Has id (some e)

/-- A copy of a version that was stored once. -/
def Tables.Knows (tables : Tables) (id : String) (v : Execution) : Prop :=
  ∃ version, tables.Has id version ∧ v.IsCopy id version

variable {α β : Type} {id : String} {known : Known} {tables mid after : Tables} {h : Happening}
  {history later others : List Happening} {u v w e : Execution} {version : Option Execution}
  {vain : List Query}

section Records

theorem Grows.eq_of_revision (grows : Grows (some v) (some w)) (same : w.revision = v.revision) :
    w = v := by
  cases grows with
  | same => rfl
  | later _ _ raised => omega

theorem Leads.grows_each (leads : Leads tables history after)
    (rewrites : ∀ h ∈ history, h.before.Rewrites id h.after) (has : tables.Has id version) :
    ∀ h ∈ history, ∃ next, h.after.Has id next ∧ Grows version next := by
  induction leads generalizing version with
  | nil => exact nofun
  | @cons h history after rest ih =>
    obtain ⟨first, later⟩ := List.forall_mem_cons.mp rewrites
    obtain ⟨next, hasNext, grows⟩ := first version has
    refine List.forall_mem_cons.mpr ⟨⟨next, hasNext, grows⟩, fun h present => ?_⟩
    obtain ⟨last, hasLast, growsLater⟩ := ih later hasNext h present
    exact ⟨last, hasLast, grows.trans growsLater⟩

theorem Leads.eq_of_later (leads : Leads tables history after)
    (rewrites : ∀ h ∈ history, h.before.Rewrites id h.after) (has : tables.Has id version)
    (grows : Grows (some v) version) (present : h ∈ history) (hasLater : h.after.Has id (some w))
    (same : w.revision = v.revision) : w = v := by
  obtain ⟨next, hasNext, growsLater⟩ := leads.grows_each rewrites has h present
  have isNext : next = some w := hasNext.eq hasLater
  exact (grows.trans (isNext ▸ growsLater)).eq_of_revision same

/-- No two versions that are stored one after the other have one revision. -/
theorem Leads.eq_of_revision (leads : Leads tables history after)
    (rewrites : ∀ h ∈ history, h.before.Rewrites id h.after)
    (stored : ∃ h ∈ history, h.after.Has id (some v))
    (stored' : ∃ h ∈ history, h.after.Has id (some w)) (same : w.revision = v.revision) :
    w = v := by
  induction leads with
  | nil =>
    obtain ⟨_, present, _⟩ := stored
    cases present
  | @cons h history after rest ih =>
    obtain ⟨-, later⟩ := List.forall_mem_cons.mp rewrites
    obtain ⟨first, present, has⟩ := stored
    obtain ⟨second, present', has'⟩ := stored'
    rcases List.mem_cons.mp present with rfl | within
    · rcases List.mem_cons.mp present' with rfl | within'
      · exact (Option.some.inj (has.eq has')).symm
      · exact rest.eq_of_later later has (.same _) within' has' same
    · rcases List.mem_cons.mp present' with rfl | within'
      · exact (rest.eq_of_later later has' (.same _) within has same.symm).symm
      · exact ih later ⟨first, within, has⟩ ⟨second, within', has'⟩

theorem OnRecord.eq_of_revision (knows : tables.Knows id u) (leads : Leads tables history after)
    (rewrites : ∀ h ∈ history, h.before.Rewrites id h.after) (recorded : OnRecord id u history v)
    (recorded' : OnRecord id u history w) (same : w.revision = v.revision) : w = v := by
  obtain ⟨version, has, copy⟩ := knows
  rcases recorded with rfl | stored
  · rcases recorded' with rfl | ⟨h, present, has'⟩
    · rfl
    · exact leads.eq_of_later rewrites has copy.grows present has' same
  · rcases recorded' with rfl | stored'
    · obtain ⟨h, present, has'⟩ := stored
      exact (leads.eq_of_later rewrites has copy.grows present has' same.symm).symm
    · exact leads.eq_of_revision rewrites stored stored' same

end Records

namespace Happening

/-- The program asked it for no traversal, and not for executions. -/
def IsElsewhere : Happening → Prop
  | .other .. => True
  | .own traversed query _ => traversed = none ∧ query.table ≠ .executions

theorem isElsewhere_of_isOther (other : h.isOther = true) : h.IsElsewhere := by
  cases h with
  | other => trivial
  | own => cases other

theorem IsElsewhere.isAside (elsewhere : h.IsElsewhere) : h.IsAside := by
  cases h with
  | other => trivial
  | own => exact ⟨elsewhere.1, Query.rows_run_of_ne elsewhere.2⟩

theorem IsElsewhere.learn (elsewhere : h.IsElsewhere) : h.learn known = known := by
  cases h with
  | other => rfl
  | own traversed query before =>
    have reads : query.readsExecutions = false := by
      unfold Query.readsExecutions
      split
      · exact absurd rfl elsewhere.2
      · rfl
    have writes : query.writesExecutions = false := by
      unfold Query.writesExecutions
      split
      · exact absurd rfl elsewhere.2
      · rfl
    simp [Happening.learn, reads, writes]

/-- Where others write, they raise the revision of the execution or remove it. -/
def IsFair (id : String) (h : Happening) : Prop :=
  h.isOther = true → h.before.Rewrites id h.after

/-- The program leaves the executions alone there, and others are fair. -/
theorem rewrites_of_isAside (aside : h.IsAside) (fair : h.IsFair id) :
    h.before.Rewrites id h.after := by
  cases other : h.isOther with
  | true => exact fair other
  | false => exact fun version has => ⟨version, has.of_same (aside.same other), .same version⟩

section Marked

variable (execution : String)

theorem before_mark : (h.mark execution).before = h.before := by cases h <;> rfl

theorem after_mark : (h.mark execution).after = h.after := by cases h <;> rfl

theorem isOther_mark : (h.mark execution).isOther = h.isOther := by cases h <;> rfl

theorem learn_mark : (h.mark execution).learn known = h.learn known := by cases h <;> rfl

theorem isFair_mark : (h.mark execution).IsFair id ↔ h.IsFair id := by
  rw [IsFair, IsFair, before_mark, after_mark, isOther_mark]

end Marked

end Happening

theorem Meanwhile.isElsewhere (meanwhile : Meanwhile tables others mid) :
    ∀ h ∈ others, h.IsElsewhere :=
  fun h present => Happening.isElsewhere_of_isOther (meanwhile.isOther h present)

/-- What is asked under the discipline of what spares the executions is asked elsewhere. -/
theorem Program.Amid.isElsewhere {p : Program α} {a : α} {post : α → Unit → Prop}
    (amid : p.Amid tables history a after) (obeys : p.Obeys .sparing () post) :
    (∀ h ∈ history, h.IsElsewhere) ∧ post a () := by
  induction amid with
  | done value => exact ⟨List.forall_mem_nil _, obeys⟩
  | query meanwhile rest ih =>
    obtain ⟨standing, ⟨rfl, elsewhere⟩, goes⟩ := obeys
    obtain ⟨later, holds⟩ := ih (goes _ (.inl ⟨_, rfl⟩))
    exact ⟨List.forall_mem_append.mpr ⟨meanwhile.isElsewhere,
      List.forall_mem_cons.mpr ⟨⟨rfl, elsewhere⟩, later⟩⟩, holds⟩
  | @outside traversed request next _ _ _ _ answer noQuery rest ih =>
    obtain ⟨standing, _, goes⟩ := obeys
    exact ih (goes answer (Request.mayAnswer_of_noQuery noQuery answer))

/-- From knowing `v` a client has come to know `w`, with those writes in vain. -/
structure Follows (id : String) (v : Execution) (history : List Happening) (after : Tables)
    (w : Execution) (vain : List Query) : Prop where
  learned : Known.since v history = ⟨some w, vain⟩
  recorded : OnRecord id v history w
  rewrites : ∀ h ∈ history, h.before.Rewrites id h.after
  knows : after.Knows id w

namespace Follows

theorem refl (knows : tables.Knows id v) : Follows id v [] tables v [] :=
  ⟨rfl, .inl rfl, List.forall_mem_nil _, knows⟩

theorem trans (first : Follows id u history mid v []) (next : Follows id v later after w vain) :
    Follows id u (history ++ later) after w vain where
  learned := by
    rw [Known.since, List.foldl_append, ← Known.since, first.learned]
    exact next.learned
  recorded := by
    rcases next.recorded with rfl | ⟨h, present, has⟩
    · rcases first.recorded with same | ⟨h, present, has⟩
      · exact .inl same
      · exact .inr ⟨h, List.mem_append_left _ present, has⟩
    · exact .inr ⟨h, List.mem_append_right _ present, has⟩
  rewrites := List.forall_mem_append.mpr ⟨first.rewrites, next.rewrites⟩
  knows := next.knows

/-- Nothing is learned elsewhere. -/
theorem aside (first : Follows id v history mid w vain) (leads : Leads mid later after)
    (elsewhere : ∀ h ∈ later, h.IsElsewhere) (fair : ∀ h ∈ later, h.IsFair id) :
    Follows id v (history ++ later) after w vain where
  learned := by
    rw [Known.since, List.foldl_append, ← Known.since, first.learned]
    clear first leads fair
    induction later with
    | nil => rfl
    | cons h later ih =>
      obtain ⟨here, rest⟩ := List.forall_mem_cons.mp elsewhere
      rw [List.foldl_cons, here.learn]
      exact ih rest
  recorded := first.recorded.imp_right fun ⟨h, present, has⟩ =>
    ⟨h, List.mem_append_left _ present, has⟩
  rewrites := List.forall_mem_append.mpr ⟨first.rewrites, fun h present =>
    Happening.rewrites_of_isAside (elsewhere h present).isAside (fair h present)⟩
  knows := by
    obtain ⟨version, has, copy⟩ := first.knows
    obtain ⟨version', has', grows, -⟩ :=
      leads.grows fair (fun h present => (elsewhere h present).isAside) has
    exact ⟨version', has', { copy with grows := copy.grows.trans grows }⟩

/-- As a traversal the same happens. -/
theorem mark (follows : Follows id v history after w vain) (execution : String) :
    Follows id v (history.map (.mark execution)) after w vain where
  learned := by
    rw [← follows.learned, Known.since, List.foldl_map]
    simp only [Happening.learn_mark]
    rfl
  recorded := follows.recorded.imp_right fun ⟨h, present, has⟩ =>
    ⟨h.mark execution, List.mem_map_of_mem present, by rwa [Happening.after_mark]⟩
  rewrites := List.forall_mem_map.mpr fun h present => by
    rw [Happening.before_mark, Happening.after_mark]
    exact follows.rewrites h present
  knows := follows.knows

end Follows

section Writes

/-- The answer to a write over the stored copy shows what it has become. -/
theorem Tables.Has.shows_save (has : tables.Has id (some v)) (keeps : v.Keeps e) :
    ∃ rows, ((saveQuery e).run tables).1 = e.saved.row :: rows := by
  obtain ⟨met, -⟩ := has.save_hit keeps
  obtain ⟨row, rows, found⟩ := List.exists_cons_of_ne_nil met
  refine ⟨rows, ?_⟩
  rw [found]
  rw [Execution.run_save] at found
  obtain ⟨old, selected, rfl⟩ := List.mem_map.mp (found ▸ List.mem_cons_self)
  obtain ⟨present, meant⟩ := List.mem_filter.mp selected
  have isId : old.get "id" = .text id := by
    rw [(Execution.isWrittenOver_iff.mp meant).1, keeps.id, has.named]
  have isRow := (tables.executionRow?_eq_some has.unique present isId).symm.trans has.stored
  rw [Option.some.inj isRow]
  exact congrArg (· :: rows) (Execution.update_row has.isRegular keeps)

theorem follows_hit (knows : tables.Knows id v) (keeps : v.Keeps e)
    (met : ((saveQuery e).run tables).1 ≠ []) :
    Follows id v [.own none (saveQuery e) tables] ((saveQuery e).run tables).2 e.saved [] := by
  obtain ⟨version, has, copy⟩ := knows
  obtain rfl : version = some v := by
    by_contra gone
    exact met (has.save_miss copy keeps gone).1
  have saved := (has.save_hit keeps).2
  refine ⟨?_, .inr ⟨_, List.mem_cons_self, saved⟩, List.forall_mem_singleton.mpr ?_,
    _, saved, saved.isCopy⟩
  · obtain ⟨rows, shows⟩ := has.shows_save keeps
    have reads : (DocumentType.read (.record e.saved.row) : Validated Execution) = .valid e.saved :=
      Execution.read_row saved.isRegular
    change Happening.learn _ (.own none (saveQuery e) tables) = _
    rw [Happening.learn, shows]
    simp only [reads]
    rfl
  · intro version' has'
    rw [has'.eq has]
    refine ⟨some e.saved, saved, .later _ _ ?_⟩
    have raised : e.saved.revision = v.revision + 1 := congrArg (· + 1) keeps.revision
    omega

theorem follows_miss (knows : tables.Knows id v) (keeps : v.Keeps e)
    (unmet : ((saveQuery e).run tables).1 = []) :
    Follows id v [.own none (saveQuery e) tables] ((saveQuery e).run tables).2 v [saveQuery e] := by
  obtain ⟨version, has, copy⟩ := knows
  have gone : version ≠ some v := by
    rintro rfl
    exact (has.save_hit keeps).1 unmet
  have same := (has.save_miss copy keeps gone).2
  refine ⟨?_, .inl rfl, List.forall_mem_singleton.mpr ?_, version, has.of_same same, copy⟩
  · change Happening.learn _ (.own none (saveQuery e) tables) = _
    rw [Happening.learn, unmet]
    rfl
  · exact fun version' has' => ⟨version', has'.of_same same, .same version'⟩

end Writes

namespace Follows

/-- Who finds the execution again knows it. -/
theorem reload (first : Follows id v history tables w vain) (has : tables.Has id (some u)) :
    Follows id v (history ++ [.own none (executionQuery id) tables]) tables u [] where
  learned := by
    obtain ⟨rows, shows⟩ :=
      List.head?_eq_some_iff.mp ((head_executionQuery tables id).trans has.stored)
    have reads : (DocumentType.read (.record u.row) : Validated Execution) = .valid u :=
      Execution.read_row has.isRegular
    rw [Known.since, List.foldl_append, ← Known.since, first.learned]
    change Happening.learn _ (.own none (executionQuery id) tables) = _
    rw [Happening.learn, shows]
    simp only [reads]
    rfl
  recorded := .inr ⟨_, List.mem_append_right _ List.mem_cons_self, has⟩
  rewrites := List.forall_mem_append.mpr ⟨first.rewrites, List.forall_mem_singleton.mpr
    fun version has => ⟨version, has, .same version⟩⟩
  knows := ⟨_, has, has.isCopy⟩

/-- Who does not find it again knows what was known before. -/
theorem gone (first : Follows id v history tables w vain) (has : tables.Has id none) :
    Follows id v (history ++ [.own none (executionQuery id) tables]) tables w vain where
  learned := by
    have shows : ((executionQuery id).run tables).1 = [] :=
      List.head?_eq_none_iff.mp ((head_executionQuery tables id).trans has.stored)
    rw [Known.since, List.foldl_append, ← Known.since, first.learned]
    change Happening.learn _ (.own none (executionQuery id) tables) = _
    rw [Happening.learn, shows]
    rfl
  recorded := first.recorded.imp_right fun ⟨h, present, has⟩ =>
    ⟨h, List.mem_append_left _ present, has⟩
  rewrites := List.forall_mem_append.mpr ⟨first.rewrites, List.forall_mem_singleton.mpr
    fun version has => ⟨version, has, .same version⟩⟩
  knows := first.knows

end Follows

/-- What is left in the hands of the client: the version that it knows, or what it could not write
over that version. -/
inductive Remains (id : String) (v : Execution) (history : List Happening) (after : Tables) :
    Execution → Prop
  | known {e : Execution} (follows : Follows id v history after e []) :
    Remains id v history after e
  | unwritten {w e : Execution} (keeps : w.Keeps e)
    (follows : Follows id v history after w [saveQuery e]) : Remains id v history after e

theorem Remains.trans (first : Follows id u history mid v [])
    (remains : Remains id v later after e) : Remains id u (history ++ later) after e := by
  cases remains with
  | known follows => exact .known (first.trans follows)
  | unwritten keeps follows => exact .unwritten keeps (first.trans follows)

theorem Remains.mark (remains : Remains id v history after e) (execution : String) :
    Remains id v (history.map (.mark execution)) after e := by
  cases remains with
  | known follows => exact .known (follows.mark execution)
  | unwritten keeps follows => exact .unwritten keeps (follows.mark execution)

end MessageFlow
