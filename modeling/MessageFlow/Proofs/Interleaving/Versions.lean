import Mathlib.Data.List.Infix
import MessageFlow.Proofs.Interleaving.Consistent
import MessageFlow.Proofs.Interleaving.Schedule

/-!
The stored versions of an execution form one chain: each write is a change of the version before it,
and no write is lost.
-/

namespace MessageFlow

/-- The version of the execution with that id that is stored. -/
structure Tables.Holds (tables : Tables) (id : String) (version : Option Execution) : Prop where
  stored : tables.executionRow? id = version.map (·.row)
  regular : ∀ v ∈ version, v.Regular

namespace Event

/-- The store has answered with rows. -/
def Succeeds (event : Event) : Prop := ∃ row rows, event.answer = .ok (row :: rows)

/-- A write of the execution that went through. -/
structure Saves (event : Event) (id : String) (e : Execution) : Prop where
  asks : event.query = Store.saveQuery e
  named : e.id = id
  succeeds : event.Succeeds

end Event

/-- How the stored execution with an id goes from version to version along queries; there is none
before its creation. -/
inductive Versions (id : String) : Option Execution → List Event → Option Execution → Prop
  | nil (version : Option Execution) : Versions id version [] version
  | other {event : Event} {events : List Event} {version last : Option Execution}
    (before : event.before.executionRow? id = version.map (·.row))
    (after : event.after.executionRow? id = version.map (·.row))
    (unsaved : ∀ e, ¬ event.Saves id e) (rest : Versions id version events last) :
    Versions id version (event :: events) last
  | creation {event : Event} {events : List Event} {last : Option Execution} (e : Execution)
    (before : event.before.executionRow? id = none)
    (after : event.after.executionRow? id = some e.row) (named : e.id = id) (isNew : e.IsNew)
    (asks : event.query = .insert .executions e.row) (rest : Versions id (some e) events last) :
    Versions id none (event :: events) last
  | write {event : Event} {events : List Event} {last : Option Execution} (v e : Execution)
    (before : event.before.executionRow? id = some v.row)
    (after : event.after.executionRow? id = some e.saved.row) (named : v.id = id)
    (regular : v.Regular) (change : event.task.Changes event.traversed v e)
    (asks : event.query = Store.saveQuery e) (rest : Versions id (some e.saved) events last) :
    Versions id (some v) (event :: events) last

namespace Execution

theorem saveQuery_id {e f : Execution} (same : Store.saveQuery e = Store.saveQuery f) :
    e.id = f.id := by
  injection same with _ filters
  injection filters with named
  injection named with _ id
  exact Json.text.inj id

theorem saveQuery_revision {e f : Execution} (same : Store.saveQuery e = Store.saveQuery f) :
    e.revision = f.revision := by
  injection same with _ filters
  injection filters with _ rest
  injection rest with revised
  injection revised with _ revision
  exact Json.int.inj revision

end Execution

theorem Execution.Regular.saved {e : Execution} (regular : e.Regular) : e.saved.Regular :=
  ⟨regular.extras, regular.contextExtras⟩

theorem Execution.row_injective {v w : Execution} (regular : v.Regular) (other : w.Regular)
    (same : v.row = w.row) : v = w := by
  have reads := Execution.read_row regular
  rw [same, Execution.read_row other] at reads
  cases reads
  rfl

theorem Execution.isWrittenOver_of_saveQuery {e f : Execution} {row : Row}
    (same : Store.saveQuery e = Store.saveQuery f) (meant : e.isWrittenOver row = true) :
    f.isWrittenOver row = true := by
  obtain ⟨isId, isRevision⟩ := Execution.isWrittenOver_iff.mp meant
  rw [Execution.saveQuery_id same] at isId
  rw [Execution.saveQuery_revision same] at isRevision
  exact Execution.isWrittenOver_iff.mpr ⟨isId, isRevision⟩

namespace Event

variable {event : Event} {id : String} {e : Execution}

theorem Saves.written (saves : event.Saves id e)
    (handles : event.query.Handles event.before event.after event.answer) :
    ∃ row ∈ event.before.executionRows, e.isWrittenOver row = true ∧
      event.after.executionRows = event.before.executionRows.map e.overwrite := by
  obtain ⟨asks, _, row, rows, answered⟩ := saves
  obtain ⟨written, stored⟩ := handles.served_of_rows answered
  rw [asks, Execution.run_save] at written
  have isWritten : row ∈ (event.before.executionRows.filter e.isWrittenOver).map e.writeOver := by
    rw [written]
    exact .head rows
  obtain ⟨earlier, isMeant, _⟩ := List.mem_map.mp isWritten
  obtain ⟨present, meant⟩ := List.mem_filter.mp isMeant
  refine ⟨earlier, present, meant, ?_⟩
  rw [stored, asks, Execution.executionRows_run_save]

variable {version : Option Execution}

/-- A query that changes nothing about the execution is no write of it. -/
theorem not_saves_of_same (same : event.after.executionRows = event.before.executionRows)
    (handles : event.query.Handles event.before event.after event.answer) :
    ¬ event.Saves id e := by
  intro saves
  obtain ⟨row, present, meant, stores⟩ := saves.written handles
  have unchanged : event.before.executionRows.map e.overwrite =
      event.before.executionRows.map fun row => row := by
    rw [← stores, same, List.map_id']
  exact Execution.overwrite_ne meant (List.map_inj_left.mp unchanged row present)

/-- A query is no write of the execution unless the stored row has the revision it asks for. -/
theorem not_saves_of_free {f : Execution} (unique : event.before.UniqueIds)
    (handles : event.query.Handles event.before event.after event.answer)
    (asks : event.query = Store.saveQuery e)
    (free : ∀ row, event.before.executionRow? id = some row → e.isWrittenOver row = false) :
    ¬ event.Saves id f := by
  intro saves
  obtain ⟨row, present, meant, _⟩ := saves.written handles
  have isId := (Execution.isWrittenOver_iff.mp meant).1
  rw [saves.named] at isId
  have found := Tables.executionRow?_eq_some unique present isId
  have same : Store.saveQuery f = Store.saveQuery e := saves.asks.symm.trans asks
  have alsoMeant := Execution.isWrittenOver_of_saveQuery same meant
  rw [free row found] at alsoMeant
  cases alsoMeant

/-- The chain of versions goes on over the query. -/
def Continues (event : Event) (id : String) (version : Option Execution) : Prop :=
  ∃ version', event.after.Holds id version' ∧ ∀ events last, Versions id version' events last →
    Versions id version (event :: events) last

/-- A query that is no write of the execution leaves its version. -/
theorem continues_of_not_saves (holds : event.before.Holds id version)
    (after : event.after.executionRow? id = version.map (·.row))
    (unsaved : ∀ e, ¬ event.Saves id e) : event.Continues id version := by
  refine ⟨version, ⟨after, holds.regular⟩, ?_⟩
  intro events last rest
  exact .other holds.stored after unsaved rest

theorem continues_of_creation (holds : event.before.Holds id version) (isNew : e.IsNew)
    (asks : event.query = .insert .executions e.row)
    (unknown : ∀ row ∈ event.before.executionRows, row.get "id" ≠ .text e.id)
    (stores : event.after.executionRows = event.before.executionRows ++ [e.row]) :
    event.Continues id version := by
  have isRegular := Execution.regular_of_isNew isNew
  have named : Row.get e.row "id" = .text e.id := (Execution.heads_row isRegular.plain).id
  have after := Tables.executionRow?_append stores (named ▸ unknown) id
  rw [named] at after
  by_cases mine : e.id = id
  · have none : event.before.executionRow? id = none :=
      Tables.executionRow?_eq_none.mpr (mine ▸ unknown)
    rw [if_pos (congrArg Json.text mine)] at after
    have absent : version = Option.none := by
      rw [holds.stored] at none
      exact Option.map_eq_none_iff.mp none
    subst absent
    refine ⟨some e, ⟨after, ?_⟩, ?_⟩
    · intro _ same
      cases same
      exact isRegular
    · intro events last rest
      exact .creation e none after mine isNew asks rest
  · rw [if_neg fun same => mine (Json.text.inj same), holds.stored] at after
    apply continues_of_not_saves holds after
    intro f saves
    have asked := saves.asks
    rw [asks] at asked
    cases asked

/-- A write over the stored version goes on from it. -/
theorem continues_of_written {v w : Execution} (holds : event.before.Holds id (some w))
    (asks : event.query = Store.saveQuery e) (change : event.task.Changes event.traversed v e)
    (meant : e.isWrittenOver w.row = true) (shows : View.exact.shows w.row v)
    (after : event.after.executionRow? id = some (e.overwrite w.row)) :
    event.Continues id (some w) := by
  obtain ⟨isRegular, same⟩ := shows
  have whole : e.overwrite w.row = e.saved.row := by
    rw [Execution.overwrite, if_pos meant, same]
    exact Execution.update_row isRegular change.keeps
  obtain rfl := Execution.row_injective (holds.regular w rfl) isRegular same
  rw [whole] at after
  have named : w.id = id := by
    have isId := (Tables.mem_of_executionRow? holds.stored).2
    rw [(Execution.heads_row isRegular.plain).id] at isId
    exact Json.text.inj isId
  refine ⟨some e.saved, ⟨after, ?_⟩, ?_⟩
  · intro _ same
    cases same
    exact (isRegular.keeps change.keeps).saved
  · intro events last rest
    exact .write w e holds.stored after named isRegular change asks rest

theorem continues_of_save {v : Execution} (unique : event.before.UniqueIds)
    (handles : event.query.Handles event.before event.after event.answer)
    (holds : event.before.Holds id version) (asks : event.query = Store.saveQuery e)
    (change : event.task.Changes event.traversed v e)
    (shows : ∀ row ∈ event.before.executionRows, e.isWrittenOver row = true →
      View.exact.shows row v)
    (stores : event.after.executionRows = event.before.executionRows.map e.overwrite) :
    event.Continues id version := by
  have ids := Execution.get_id_overwrite_of_shows change.keeps shows fun shown => shown.1.plain
  have after := Tables.executionRow?_map stores ids id
  rw [holds.stored] at after
  cases version with
  | none =>
    apply continues_of_not_saves holds after
    intro f
    apply not_saves_of_free unique handles asks
    intro row found
    rw [holds.stored] at found
    cases found
  | some w =>
    cases meant : e.isWrittenOver w.row with
    | true =>
      have present := (Tables.mem_of_executionRow? holds.stored).1
      exact continues_of_written holds asks change meant (shows w.row present meant) after
    | false =>
      have kept : e.overwrite w.row = w.row := by
        rw [Execution.overwrite, meant]
        rfl
      rw [Option.map_some, Option.map_some, kept] at after
      apply continues_of_not_saves holds after
      intro f
      apply not_saves_of_free unique handles asks
      intro row found
      rw [holds.stored] at found
      cases found
      exact meant

/-- A lawful query goes on with the chain of versions. -/
theorem Lawful.versions (lawful : event.Lawful .exact) (unique : event.before.UniqueIds)
    (handles : event.query.Handles event.before event.after event.answer)
    (holds : event.before.Holds id version) : event.Continues id version := by
  cases lawful with
  | aside same =>
    have after : event.after.executionRow? id = version.map (·.row) := by
      rw [Tables.executionRow?, same]
      exact holds.stored
    exact continues_of_not_saves holds after fun e => not_saves_of_same same handles
  | creation e isNew asks unknown stores =>
    exact continues_of_creation holds isNew asks unknown stores
  | save v e asks change shows stores =>
    exact continues_of_save unique handles holds asks change shows stores

end Event

/-- The revision from which the next write goes on. -/
def nextRevision (version : Option Execution) : Int := version.elim 0 (·.revision)

namespace Event

variable {event : Event} {id : String}

theorem overwritten?_of_write {v e : Execution} (regular : v.Regular) (keeps : v.Keeps e)
    (before : event.before.executionRow? id = some v.row)
    (after : event.after.executionRow? id = some e.saved.row) :
    event.overwritten? id = some v.revision := by
  have earlier := (Execution.heads_row regular.plain).revision
  have later := (Execution.heads_row (regular.keeps keeps).saved.plain).revision
  have moved : v.row ≠ e.saved.row := by
    intro same
    rw [← same, earlier] at later
    have stays : v.revision = e.revision + 1 := Option.some.inj later
    rw [keeps.revision] at stays
    omega
  rw [overwritten?, before, after]
  exact (if_neg moved).trans earlier

end Event

namespace Versions

variable {id : String} {first last : Option Execution} {events : List Event}

/-- Every write raises the revision by one. -/
theorem overwritten (versions : Versions id first events last) :
    ∃ n : Nat, events.filterMap (·.overwritten? id) =
      (List.range n).map (fun k : Nat => nextRevision first + k) ∧
      nextRevision last = nextRevision first + n := by
  induction versions with
  | nil version => exact ⟨0, rfl, (Int.add_zero _).symm⟩
  | other before after unsaved rest ih =>
    rw [List.filterMap_cons, Event.overwritten?_of_same (after.trans before.symm)]
    exact ih
  | creation e before after named isNew asks rest ih =>
    obtain ⟨n, written, revision⟩ := ih
    have begins : nextRevision (some e) = 0 := isNew.revision
    rw [begins] at written revision
    refine ⟨n, ?_, revision⟩
    rw [List.filterMap_cons, Event.overwritten?, before]
    exact written
  | write v e before after named regular change asks rest ih =>
    obtain ⟨n, written, revision⟩ := ih
    have next : nextRevision (some e.saved) = v.revision + 1 := by
      change e.revision + 1 = _
      rw [change.keeps.revision]
    rw [next] at written revision
    refine ⟨n + 1, ?_, ?_⟩
    · rw [List.filterMap_cons, Event.overwritten?_of_write regular change.keeps before after,
        written, List.range_succ_eq_map, List.map_cons, List.map_map]
      refine congrArg₂ List.cons (Int.add_zero _).symm (List.map_congr_left fun k _ => ?_)
      change v.revision + 1 + k = v.revision + (k + 1 : Nat)
      omega
    · rw [revision]
      change v.revision + 1 + n = v.revision + (n + 1 : Nat)
      omega

/-- A write is over the version that is stored by then. -/
theorem revision_le (versions : Versions id first events last) {event : Event}
    (present : event ∈ events) {e : Execution} (saves : event.Saves id e) :
    nextRevision first ≤ e.revision := by
  induction versions with
  | nil version => cases present
  | other before after unsaved rest ih =>
    cases present with
    | head => exact absurd saves (unsaved e)
    | tail _ later => exact ih later
  | creation f before after named isNew asks rest ih =>
    cases present with
    | head =>
      have asked := saves.asks
      rw [asks] at asked
      cases asked
    | tail _ later =>
      have begins : nextRevision (some f) = 0 := isNew.revision
      rw [begins] at ih
      exact ih later
  | write v f before after named regular change asks rest ih =>
    have kept : f.revision = v.revision := change.keeps.revision
    cases present with
    | head =>
      have same : f.revision = e.revision :=
        Execution.saveQuery_revision (asks.symm.trans saves.asks)
      change v.revision ≤ e.revision
      omega
    | tail _ later =>
      have next : f.revision + 1 ≤ e.revision := ih later
      change v.revision ≤ e.revision
      omega

/-- No two writes go over the same revision. -/
theorem saves_once (versions : Versions id first events last) :
    events.Pairwise fun earlier later => ∀ e f, earlier.Saves id e → later.Saves id f →
      e.revision < f.revision := by
  induction versions with
  | nil version => exact .nil
  | other before after unsaved rest ih =>
    exact .cons (fun later _ e f saves => absurd saves (unsaved e)) ih
  | creation f before after named isNew asks rest ih =>
    refine .cons (fun later _ e f saves => ?_) ih
    have asked := saves.asks
    rw [asks] at asked
    cases asked
  | write v f before after named regular change asks rest ih =>
    refine .cons (fun later present e g saves alsoSaves => ?_) ih
    have same : f.revision = e.revision :=
      Execution.saveQuery_revision (asks.symm.trans saves.asks)
    have next : f.revision + 1 ≤ g.revision := rest.revision_le present alsoSaves
    omega

/-- No selected option is lost. -/
theorem selectedOptions (versions : Versions id first events last) {v : Execution}
    (stored : first = some v) :
    ∃ w, last = some w ∧ v.context.selectedOptions <+: w.context.selectedOptions := by
  induction versions generalizing v with
  | nil version => exact ⟨v, stored, List.prefix_refl _⟩
  | other before after unsaved rest ih => exact ih stored
  | creation e before after named isNew asks rest ih => cases stored
  | write v e before after named regular change asks rest ih =>
    cases stored
    obtain ⟨w, isLast, goesOn⟩ := ih rfl
    exact ⟨w, isLast, change.keeps.selectedOptions.trans goesOn⟩

end Versions

/-- The execution rows are in the form in which the program writes them. -/
def Tables.InForm (tables : Tables) : Prop :=
  ∀ row ∈ tables.executionRows, ∃ v : Execution, v.Regular ∧ row = v.row

namespace Consistent

variable {sys last : System} {standing : Nat → Standing} {events : List Event}

theorem holds (consistent : Consistent .exact sys standing) (id : String) :
    ∃ version, sys.tables.Holds id version := by
  cases found : sys.tables.executionRow? id with
  | none => exact ⟨none, found, fun v none => absurd none (Option.not_mem_none v)⟩
  | some row =>
    obtain ⟨v, regular, rfl⟩ :=
      consistent.sound.formed row (Tables.mem_of_executionRow? found).1
    refine ⟨some v, found, ?_⟩
    intro _ same
    cases same
    exact regular

/-- Along a run the versions of an execution form one chain. -/
theorem versions (consistent : Consistent .exact sys standing)
    (runs : System.Runs sys events last) {id : String} {version : Option Execution}
    (holds : sys.tables.Holds id version) :
    ∃ version', last.tables.Holds id version' ∧ Versions id version events version' := by
  induction runs generalizing standing version with
  | nil => exact ⟨version, holds, .nil version⟩
  | step first rest ih =>
    obtain ⟨lawful, standing', consistent'⟩ := consistent.step first
    cases first with
    | begin => exact ih consistent' holds
    | freshId => exact ih consistent' holds
    | outside => exact ih consistent' holds
    | query i task traversed query next after answer asks handles =>
      obtain ⟨mid, holds', goesOn⟩ :=
        (lawful _ rfl).versions consistent.sound.unique handles holds
      obtain ⟨version', isLast, versions⟩ := ih consistent' holds'
      exact ⟨version', isLast, goesOn _ _ versions⟩

end Consistent

/-- However the requests of all clients are interleaved, and whichever queries fail, the versions of
an execution form one chain: each is the change that one task makes of the version before it. The
revisions that are written over follow each other one by one, no two writes go over the same one,
and no selected option is lost. -/
theorem no_lost_update {tables : Tables} {past later : List Event} {mid now : System}
    (unique : tables.UniqueIds) (inForm : tables.InForm)
    (begins : System.Runs (.start tables) past mid) (goes : System.Runs mid later now)
    (id : String) :
    ∃ first last : Option Execution,
      mid.tables.Holds id first ∧ now.tables.Holds id last ∧ Versions id first later last ∧
      (∃ n : Nat, later.filterMap (·.overwritten? id) =
          (List.range n).map (fun k : Nat => nextRevision first + k) ∧
        nextRevision last = nextRevision first + n) ∧
      (later.Pairwise fun a b => ∀ e f, a.Saves id e → b.Saves id f → e.revision < f.revision) ∧
      ∀ v, first = some v → ∃ w, last = some w ∧
        v.context.selectedOptions <+: w.context.selectedOptions := by
  have started : Consistent .exact (.start tables) _ := .start unique inForm
  obtain ⟨_, standing, consistent⟩ := started.runs begins
  obtain ⟨first, holds⟩ := consistent.holds id
  obtain ⟨last, holds', versions⟩ := consistent.versions goes holds
  exact ⟨first, last, holds, holds', versions, versions.overwritten, versions.saves_once,
    fun v => versions.selectedOptions⟩

theorem no_lost_update_crossing : ∃ first last : Option Execution,
    Versions "execution" first (Example.system.playAll Example.crossing).1 last ∧
      nextRevision last = nextRevision first + 2 := by
  have inForm : Example.tables.InForm := fun row none => absurd none List.not_mem_nil
  obtain ⟨first, last, _, _, versions, ⟨n, written, revision⟩, _⟩ :=
    no_lost_update Example.uniqueIds inForm (.nil _) (Example.runs Example.crossing) "execution"
  have twice : ((Example.system.playAll Example.crossing).1.filterMap
      (·.overwritten? "execution")).length = 2 := by decide +kernel
  rw [written, List.length_map, List.length_range] at twice
  rw [twice] at revision
  exact ⟨first, last, versions, revision⟩

end MessageFlow
