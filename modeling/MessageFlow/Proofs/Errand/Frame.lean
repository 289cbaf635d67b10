import MessageFlow.Proofs.Errand.Operations
import MessageFlow.Proofs.Traversal.Limit

/-!
What a traversal that has the store to itself leaves: its execution is stored as it is in hand, no
flow and no account is touched, and of the tickets there are only more.
-/

namespace MessageFlow

/-- Every new id is one of those. -/
def Setting.Draws (setting : Setting) (ids : Set String) : Prop :=
  ∀ asked, setting.told asked .freshId ∈ ids

variable {setting : Setting} {tables mid after : Tables} {ids : Set String} {α : Type}

theorem Setting.draws_serve (asked : Nat) (tables : Tables) (request : Request)
    (drawn : setting.told asked .freshId ∈ ids) :
    request.Draws ids (setting.serve asked tables request).1 := by
  cases request with
  | freshId => exact drawn
  | query q =>
    rcases setting.serve_query asked tables q with ⟨failure, _, same⟩ | same
    · rw [same]
      trivial
    · rw [same]
      exact ⟨tables, rfl⟩
  | now | post | announce | complete | remembered | remember | forget => trivial

/-- What no request of a program undoes holds on while it runs. -/
theorem Program.Asks.keeps {allows : Request → Prop} {Keeps : Tables → Prop} {p : Program α}
    {post : α → Prop} {asked : Nat} (asks : p.Asks allows ids post)
    (draws : ∀ n, asked ≤ n → n < (p.alone setting tables asked).asked →
      setting.told n .freshId ∈ ids)
    (keeps : ∀ q mid, allows (.query q) ∨ q.IsBeside → Keeps mid → Keeps (q.run mid).2)
    (holds : Keeps tables) :
    Keeps (p.alone setting tables asked).tables ∧ post (p.alone setting tables asked).value := by
  induction p generalizing tables asked with
  | done value => exact ⟨holds, asks⟩
  | ask traversed request next ih =>
    obtain ⟨allowed, rest⟩ := asks
    have further := (next (setting.serve asked tables request).1).le_asked setting
      (setting.serve asked tables request).2 (asked + 1)
    refine ih (setting.serve asked tables request).1 (rest _ (setting.draws_serve asked tables
      request (draws asked le_rfl further))) (fun n later => draws n (Nat.le_of_succ_le later)) ?_
    cases request with
    | query q =>
      rcases setting.serve_query asked tables q with ⟨failure, refuses, same⟩ | same
      · rw [same]
        exact holds
      · rw [same]
        refine keeps q tables (allowed.imp_right ?_) holds
        rintro ⟨q', beside, isSame⟩
        cases isSame
        exact beside
    | now | freshId | post | announce | complete | remembered | remember | forget => exact holds

theorem Program.Asks.leaves {allows : Request → Prop} {Keeps : Tables → Prop} {p : Program α}
    {post : α → Prop} (asks : p.Asks allows ids post) (draws : setting.Draws ids)
    (keeps : ∀ q mid, allows (.query q) ∨ q.IsBeside → Keeps mid → Keeps (q.run mid).2)
    (holds : Keeps tables) : p.Leaves setting tables fun a after _ => Keeps after ∧ post a :=
  fun _ => asks.keeps (fun n _ _ => draws n) keeps holds

/-- Flows and accounts stay, and the tickets that are added have ids of those. -/
structure Tables.Files (ids : Set String) (before after : Tables) : Prop where
  flows : after.rows .flows = before.rows .flows
  accounts : after.rows .accounts = before.rows .accounts
  tickets : ∃ added, after.ticketRows = before.ticketRows ++ added ∧
    ∀ row ∈ added, ∃ id ∈ ids, row.get "id" = .text id

namespace Tables.Files

theorem refl (ids : Set String) (tables : Tables) : Files ids tables tables :=
  ⟨rfl, rfl, [], (List.append_nil _).symm, nofun⟩

theorem trans (first : Files ids tables mid) (second : Files ids mid after) :
    Files ids tables after := by
  obtain ⟨added, isMid, drawn⟩ := first.tickets
  obtain ⟨later, isAfter, alsoDrawn⟩ := second.tickets
  refine ⟨second.flows.trans first.flows, second.accounts.trans first.accounts, added ++ later, ?_,
    fun row present => ?_⟩
  · rw [isAfter, isMid, List.append_assoc]
  · exact (List.mem_append.mp present).elim (drawn row) (alsoDrawn row)

/-- A query of another table than those. -/
theorem of_ne {q : Query} (tables : Tables)
    (elsewhere : ∀ table ∈ [Table.flows, .accounts, .tickets], q.table ≠ table) :
    Files ids tables (q.run tables).2 :=
  ⟨q.rows_run_of_ne (elsewhere _ (by decide)), q.rows_run_of_ne (elsewhere _ (by decide)), [],
    (q.rows_run_of_ne (elsewhere _ (by decide))).trans (List.append_nil _).symm, nofun⟩

theorem of_allowed {errand : Errand} {q : Query} (tables : Tables)
    (allowed : errand.Allows (.query q) ∨ q.IsBeside) :
    Files errand.ids tables (q.run tables).2 := by
  rcases allowed with allowed | beside
  · cases allowed with
    | other _ noQuery => exact absurd rfl (noQuery q)
    | write e carried => exact of_ne tables (by simp [Query.table, Store.saveQuery])
    | file ticket isNew drawn flowId =>
      refine ⟨Query.rows_run_of_ne nofun, Query.rows_run_of_ne nofun, [ticket.row],
        (Query.run_insert isNew.get_id).2, fun row present => ⟨ticket.id, drawn, ?_⟩⟩
      rw [List.mem_singleton.mp present]
      exact isNew.get_id
  · cases beside with
    | look | revise | report | note => exact of_ne tables (by simp [Query.table])

end Tables.Files

namespace Run

variable (deployment : Deployment) (account : Account) {flow : Flow} {v : Execution}
  {custody : Custody}

/-- What a run in step leaves, whatever is refused. -/
theorem InStep.files {errand : Errand} {run : Run α} {e : Execution} (inStep : run.InStep errand)
    (draws : setting.Draws errand.ids) (carried : errand.Carries e) :
    run.Leaves setting e tables fun _ e' after _ =>
      Tables.Files errand.ids tables after ∧ errand.Carries e' := by
  refine Program.leaves_mono ((inStep e carried).asks.leaves draws
    (fun q mid allowed first => first.trans (.of_allowed mid allowed))
    (Tables.Files.refl errand.ids tables)) ?_
  rintro _ _ _ ⟨files, _, carries⟩
  exact ⟨files, carries⟩

/-- What a traversal of `v` leaves, when nothing is refused. -/
structure Traverses (ids : Set String) (custody : Custody) (v : Execution) (before : Tables)
    (outcome : Except Failure Unit) (e : Execution) (after : Tables) : Prop where
  succeeds : outcome = .ok ()
  stored : custody.Holds e after
  settled : e.IsSettled
  trail : v.trail <+: e.trail
  id : e.id = v.id
  flowId : e.flowId = v.flowId
  files : Tables.Files ids before after

theorem resume_traverses (faultless : setting.IsFaultless) (draws : setting.Draws ids)
    (holds : custody.Holds v tables) (isOpen : v.isTerminal = false) (isFlow : flow.id = v.flowId) :
    (resume deployment account (some flow)).Leaves setting v tables fun outcome e after _ =>
      Traverses ids custody v tables outcome e after := by
  intro asked
  let errand : Errand := ⟨v.flowId, {v.id}, v.extras, ids⟩
  have inStep : (resume deployment account (some flow)).InStep errand :=
    inStep_resume deployment account isFlow
  obtain ⟨framed, carried⟩ := inStep.files draws ⟨rfl, rfl, rfl⟩ asked
  have settles := Journey.walk_settles deployment account flow faultless holds isOpen maxSteps []
    none asked
  obtain ⟨value, store⟩ := Journey.alone_program setting v.id
    (Journey.resume deployment account (some flow) v) tables asked
  rw [Journey.program_resume,
    Journey.resume_eq_tour deployment account flow faultless holds isOpen] at value store
  change Journey.Settles custody v maxSteps
    (Journey.tour deployment account flow setting v tables asked maxSteps) at settles
  generalize Journey.tour deployment account flow setting v tables asked maxSteps = ride
    at settles value store
  refine ⟨?_, ?_, ?_, ?_, ?_, carried.flowId, framed⟩
  · rw [value]
    exact settles.succeeds
  · rw [value, store]
    exact settles.stored
  · rw [value]
    exact settles.settled
  · rw [value, settles.trail]
    exact List.prefix_append _ _
  · exact carried.known

end Run
end MessageFlow
