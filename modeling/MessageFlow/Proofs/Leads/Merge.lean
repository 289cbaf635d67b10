import Mathlib.Data.List.Induction
import MessageFlow.Flow.Validation
import MessageFlow.Proofs.Leads.Upsert

/-!
Any sequence of reports leaves one lead for each account and sender, in the order in which they were
first reported. It has the last of the texts and tags that were reported and not empty, and keeps
the rest of the first report.
-/

namespace MessageFlow

section lastGiven

variable {α : Type} {isGiven : α → Bool} {first value : α} {later : List α}

/-- The last of the values that is given, or else the first value. -/
def lastGiven (isGiven : α → Bool) (first : α) (later : List α) : α :=
  ((first :: later).filter isGiven).getLast?.getD first

theorem lastGiven_nil : lastGiven isGiven first [] = first := by
  cases given : isGiven first <;> simp [lastGiven, given]

theorem lastGiven_append : lastGiven isGiven first (later ++ [value]) =
    if isGiven value then value else lastGiven isGiven first later := by
  unfold lastGiven
  rw [← List.cons_append, List.filter_append, List.getLast?_append]
  split
  · next given => simp [given]
  · next missing => simp [missing]

end lastGiven

/-- The order of first occurrence, with one item more. -/
theorem eraseDups_concat {α : Type} [BEq α] [LawfulBEq α] (items : List α) (item : α) :
    (items ++ [item]).eraseDups =
      if item ∈ items then items.eraseDups else items.eraseDups ++ [item] := by
  rw [List.eraseDups_append, List.removeAll]
  split
  · next old => simp [old]
  · next new => simp [new, List.eraseDups_cons]

/-- The columns of a lead that take new texts. -/
def LeadReport.texts : List (String × (LeadReport → Option String)) :=
  [("email", email), ("phone", phone), ("name", name), ("username", username), ("flow_id", flowId)]

/-- The row is what the reports of one sender add up to. -/
structure Row.Merges (row : Row) (first : LeadCall) (later : List LeadCall) : Prop where
  key : row.leadKey = first.key
  text : ∀ column ∈ LeadReport.texts, row.get column.1 = .ofText?
    (lastGiven hasText (column.2 first.report) (later.map fun call => column.2 call.report))
  tags : row.get "tags" = .ofTexts (lastGiven (!·.isEmpty) (first.report.tags.getD [])
    (later.map fun call => call.report.tags.getD []))
  userId : row.get "user_id" = .ofText? first.report.userId
  source : row.get "source" = .text first.report.source
  createdAt : row.get "created_at" = .text first.time.columnText

variable {call first : LeadCall} {later : List LeadCall} {row : Row}

theorem Json.isTruthy_ofText? (text : Option String) : (ofText? text).isTruthy = hasText text := by
  cases text <;> rfl

theorem LeadReport.offered_of_texts (report : LeadReport)
    {column : String × (LeadReport → Option String)} (listed : column ∈ texts) :
    (column.1, Json.ofText? (column.2 report)) ∈ report.offered := by
  simp only [texts, List.mem_cons, List.not_mem_nil, or_false] at listed
  rcases listed with rfl | rfl | rfl | rfl | rfl <;> simp [offered]

theorem LeadCall.merges_created (call : LeadCall) (number : Nat) :
    (call.created number).Merges call [] where
  key := leadKey_created
  text := by
    intro column listed
    have given : Row.get call.report.columns column.1 = .ofText? (column.2 call.report) := by
      simp only [LeadReport.texts, List.mem_cons, List.not_mem_nil, or_false] at listed
      rcases listed with rfl | rfl | rfl | rfl | rfl <;> rfl
    have plain : column.1 ∉ ["id", "tags", "created_at", "updated_at"] := by
      simp only [LeadReport.texts, List.mem_cons, List.not_mem_nil, or_false] at listed
      rcases listed with rfl | rfl | rfl | rfl | rfl <;> decide
    rw [List.mem_cons, not_or] at plain
    rw [get_created plain.1, get_creation plain.2, given, List.map_nil, lastGiven_nil]
  tags := by
    rw [get_created (by decide), get_tags_creation, List.map_nil, lastGiven_nil]
  userId := by
    rw [get_created (by decide), get_creation (by decide)]
    rfl
  source := by
    rw [get_created (by decide), get_creation (by decide)]
    rfl
  createdAt := by
    rw [get_created (by decide), get_created_at_creation]

theorem Row.Merges.update (merges : row.Merges first later) (call : LeadCall) :
    Row.Merges (Entries.update row call.changes) first (later ++ [call]) where
  key := LeadCall.leadKey_update.trans merges.key
  text := by
    intro column listed
    rw [LeadCall.get_update_of_offered (call.report.offered_of_texts listed), Json.isTruthy_ofText?,
      merges.text column listed, List.map_append, List.map_singleton, lastGiven_append]
    split <;> rfl
  tags := by
    have offered : ("tags", Json.ofOption .ofTexts call.report.tags) ∈ call.report.offered := by
      simp [LeadReport.offered]
    rw [LeadCall.get_update_of_offered offered, merges.tags, List.map_append, List.map_singleton,
      lastGiven_append]
    cases call.report.tags with
    | none => rfl
    | some tags => cases tags <;> rfl
  userId := by
    rw [LeadCall.get_update_of_fixed (by simp [LeadReport.offered]), merges.userId]
  source := by
    rw [LeadCall.get_update_of_fixed (by simp [LeadReport.offered]), merges.source]
  createdAt := by
    rw [LeadCall.get_update_of_fixed (by simp [LeadReport.offered]), merges.createdAt]

namespace TableRows

/-- The leads are what the reports add up to. -/
structure Collects (content : TableRows) (calls : List LeadCall) : Prop where
  areLeads : content.AreLeads
  order : content.rows.map Row.leadKey = (calls.map LeadCall.key).eraseDups
  merged : ∀ row ∈ content.rows, ∃ first later,
    (calls.filter fun call => call.key = row.leadKey) = first :: later ∧ row.Merges first later

variable {before after content : TableRows} {calls : List LeadCall}

theorem collects_nil (empty : content.rows = []) : content.Collects [] where
  areLeads := by
    constructor <;> simp [empty]
  order := by simp [empty]
  merged := by simp [empty]

theorem Collects.mem_keys (collects : content.Collects calls) {key : Json × Json} :
    key ∈ calls.map LeadCall.key ↔ ∃ row ∈ content.rows, row.leadKey = key := by
  rw [← List.mem_eraseDups, ← collects.order, List.mem_map]

theorem Collects.takes (collects : before.Collects calls) (takes : before.Takes after call) :
    after.Collects (calls ++ [call]) := by
  have areLeads := collects.areLeads.takes takes
  cases takes with
  | new unknown adds =>
    subst adds
    have isNew : call.key ∉ calls.map LeadCall.key := fun reported => by
      obtain ⟨row, present, isKey⟩ := collects.mem_keys.mp reported
      exact unknown row present isKey
    refine ⟨areLeads, ?_, ?_⟩
    · rw [List.map_append, List.map_append, collects.order, List.map_singleton, List.map_singleton,
        eraseDups_concat, if_neg isNew, LeadCall.leadKey_created]
    · intro row present
      rw [List.filter_append]
      rcases List.mem_append.mp present with old | added
      · obtain ⟨first, later, earlier, merges⟩ := collects.merged row old
        refine ⟨first, later, ?_, merges⟩
        simp [earlier, (unknown row old).symm]
      · rw [List.mem_singleton.mp added]
        refine ⟨call, [], ?_, call.merges_created _⟩
        have noEarlier : (calls.filter fun earlier => earlier.key = call.key) = [] := by
          rw [List.filter_eq_nil_iff]
          intro earlier reported same
          exact isNew (of_decide_eq_true same ▸ List.mem_map_of_mem reported)
        simp [LeadCall.leadKey_created, noEarlier]
  | known known isKnown isKey changes =>
    subst changes
    have reported : call.key ∈ calls.map LeadCall.key :=
      collects.mem_keys.mpr ⟨known, isKnown, isKey⟩
    refine ⟨areLeads, ?_, ?_⟩
    · have same : (before.rows.map call.revise).map Row.leadKey = before.rows.map Row.leadKey := by
        rw [List.map_map]
        exact List.map_congr_left fun row _ => LeadCall.leadKey_revise
      rw [same, List.map_append, List.map_singleton, eraseDups_concat, if_pos reported,
        collects.order]
    · intro row present
      obtain ⟨earlier, old, rfl⟩ := List.mem_map.mp present
      obtain ⟨first, later, calls, merges⟩ := collects.merged earlier old
      rw [LeadCall.leadKey_revise, List.filter_append, calls]
      unfold LeadCall.revise
      split
      · next mine => exact ⟨first, later ++ [call], by simp [mine], merges.update call⟩
      · next other => exact ⟨first, later, by simp [Ne.symm other], merges⟩

/-- A report leaves the leads of all other senders as they are. -/
theorem Takes.others (takes : before.Takes after call) :
    (after.rows.filter fun row => row.leadKey ≠ call.key) =
      before.rows.filter fun row => row.leadKey ≠ call.key := by
  cases takes with
  | new unknown adds =>
    rw [adds, List.filter_append]
    simp [LeadCall.leadKey_created]
  | known row present isKey changes =>
    rw [changes, List.filter_map]
    have same : ((fun row : Row => decide (row.leadKey ≠ call.key)) ∘ call.revise) =
        fun row => decide (row.leadKey ≠ call.key) := by
      funext row
      simp [LeadCall.leadKey_revise]
    rw [same]
    refine (List.map_congr_left fun row present => ?_).trans (List.map_id _)
    have other : row.leadKey ≠ call.key := of_decide_eq_true (List.mem_filter.mp present).2
    rw [LeadCall.revise, if_neg other, id]

end TableRows

namespace World

variable {world : World} {calls : List LeadCall}

/-- The world after the reports. -/
def reports (world : World) (calls : List LeadCall) : World :=
  calls.foldl (fun world call => (world.report call).2) world

/-- Reports without a fault find and leave the leads that the earlier ones add up to. -/
theorem reports_collect (serves : world.Serves) (empty : world.tables.rows .leads = [])
    (calls : List LeadCall) : (world.reports calls).Serves ∧
      ((world.reports calls).tables.get .leads).Collects calls := by
  induction calls using List.reverseRecOn with
  | nil => exact ⟨serves, TableRows.collects_nil empty⟩
  | append_singleton calls call ih =>
    obtain ⟨serves, collects⟩ := ih
    obtain ⟨takes, serves, -⟩ := report_takes serves collects.areLeads call
    rw [reports, List.foldl_append]
    exact ⟨serves, collects.takes takes⟩

/-- However the reports of several senders are mixed, each sender has one lead that merges them, and
a further report changes that of its own sender only. -/
theorem leads_of_reports (world : World) (calls : List LeadCall)
    (connected : world.connected = true) (faultless : world.faults = [])
    (empty : world.tables.rows .leads = []) :
    ((world.reports calls).tables.rows .leads).map Row.leadKey =
        (calls.map LeadCall.key).eraseDups ∧
      (∀ row ∈ (world.reports calls).tables.rows .leads, ∃ first later,
        (calls.filter fun call => call.key = row.leadKey) = first :: later ∧
          row.Merges first later) ∧
      ∀ call : LeadCall,
        (((world.reports calls).report call).2.tables.rows .leads).filter
            (fun row => row.leadKey ≠ call.key) =
          ((world.reports calls).tables.rows .leads).filter (fun row => row.leadKey ≠ call.key) ∧
        ∃ row ∈ ((world.reports calls).report call).2.tables.rows .leads, row.leadKey = call.key ∧
          ∃ lead, Lead.read (.record row) = .valid lead ∧
            ((world.reports calls).report call).1 = .ok lead := by
  obtain ⟨serves, collects⟩ := reports_collect ⟨connected, faultless⟩ empty calls
  refine ⟨collects.order, collects.merged, fun call => ?_⟩
  obtain ⟨takes, -, returns⟩ := report_takes serves collects.areLeads call
  exact ⟨takes.others, returns⟩

end World

namespace Example

/-- A visitor of the shop tells an address, or keeps it back. -/
def visit (sender : String) (email : Option String) (tags : List String) : LeadCall where
  time := default
  report := {
    userId := none, accountId := "shop", instagramUserId := sender, username := none, email,
    phone := none, name := none, source := "flow", flowId := none, tags := some tags }

def visits : List LeadCall :=
  [visit "ann" (some "") [], visit "bob" none [], visit "ann" (some "ann@example.com") ["new"],
   visit "ann" (some "") []]

def noLeads : World := { clock := default, cacheLifetime := .int 300 }

end Example

open Example in
/-- Two visitors in turn: an empty address and an empty list take nothing back. -/
theorem leads_of_visits :
    ((noLeads.reports visits).tables.rows .leads).map Row.leadKey =
        [(.text "shop", .text "ann"), (.text "shop", .text "bob")] ∧
      ∃ row ∈ (noLeads.reports visits).tables.rows .leads,
        row.get "email" = .text "ann@example.com" ∧ row.get "tags" = .ofTexts ["new"] := by
  obtain ⟨order, merged, -⟩ := World.leads_of_reports noLeads visits rfl rfl rfl
  have keys : (visits.map LeadCall.key).eraseDups =
      [(.text "shop", .text "ann"), (.text "shop", .text "bob")] := by
    decide
  rw [keys] at order
  refine ⟨order, ?_⟩
  obtain ⟨row, present, isKey⟩ : ∃ row ∈ (noLeads.reports visits).tables.rows .leads,
      row.leadKey = (.text "shop", .text "ann") :=
    List.mem_map.mp (order ▸ List.mem_cons_self)
  obtain ⟨first, later, calls, merges⟩ := merged row present
  have ofAnn : (visits.filter fun call => call.key = row.leadKey) =
      visit "ann" (some "") [] ::
        [visit "ann" (some "ann@example.com") ["new"], visit "ann" (some "") []] := by
    rw [isKey]
    decide
  obtain ⟨rfl, rfl⟩ := List.cons.inj (ofAnn.symm.trans calls)
  exact ⟨row, present, merges.text ("email", LeadReport.email) (by simp [LeadReport.texts]),
    merges.tags⟩

end MessageFlow
