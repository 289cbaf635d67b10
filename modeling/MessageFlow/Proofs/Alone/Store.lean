import MessageFlow.Proofs.Alone.Success
import MessageFlow.Proofs.Among.Traversal
import MessageFlow.Proofs.Validation.Start

/-!
What a program that has the store to itself reads from it, when no query is refused, and what it
makes of the rows when it works on one item after the other.
-/

namespace MessageFlow
open Operation

/-- What the first row that a query finds reads as; none when there is no row, or none that can be
read. -/
def Tables.first? {α : Type} [DocumentType α] (tables : Tables) (q : Query) : Option α :=
  match (q.run tables).1 with
  | [] => none
  | row :: _ => (DocumentType.read (.record row)).toOption

/-- The account that a look-up after that many requests loads, from the cache or from the store. -/
def Setting.account? (setting : Setting) (asked : Nat) (tables : Tables) (id : String) :
    Option Account :=
  match setting.told asked (.remembered (AccountLookup.idKey id)) with
  | some account => some account
  | none => tables.first? (Store.accountQuery id)

variable {setting : Setting} {tables : Tables} {asked : Nat} {α β : Type}

theorem Validated.exists_valid {result : Validated α} (some : result.toOption.isSome = true) :
    ∃ a, result = .valid a := by
  cases result with
  | valid a => exact ⟨a, rfl⟩
  | invalid issues => cases some

theorem Tables.first?_eq_some [DocumentType α] {q : Query} {a : α} :
    tables.first? q = some a ↔ tables.Shows q a := by
  unfold first? Shows
  cases found : (q.run tables).1 with
  | nil => simp
  | cons row rows =>
    cases reads : (DocumentType.read (.record row) : Validated α) <;> simp [reads, Validated.toOption]

theorem Tables.first?_of_nil [DocumentType α] {q : Query} (rows : (q.run tables).1 = []) :
    tables.first? (α := α) q = none := by
  rw [first?, rows]

theorem Tables.first?_of_cons [DocumentType α] {q : Query} {row : Row} {rest : List Row}
    (rows : (q.run tables).1 = row :: rest) :
    tables.first? (α := α) q = (DocumentType.read (.record row)).toOption := by
  rw [first?, rows]

/-- What is found depends on the rows of its table. -/
theorem Tables.first?_congr [DocumentType α] {other : Tables} {table : Table}
    {filters : List Filter} {order : Option SortOrder} {limit : Option Int}
    (same : other.rows table = tables.rows table) :
    other.first? (α := α) (.select table filters order limit) =
      tables.first? (.select table filters order limit) := by
  unfold first?
  simp only [Query.run, same]

theorem Setting.account?_congr {other : Tables} {id : String}
    (same : other.rows .accounts = tables.rows .accounts) :
    setting.account? asked other id = setting.account? asked tables id := by
  unfold Setting.account?
  rw [Store.accountQuery, Tables.first?_congr same]

theorem Tables.first?_byId [DocumentType α] {table : Table} {row : Row} {id : String} {a : α}
    (unique : ((tables.rows table).map fun row => row.get "id").Nodup)
    (present : row ∈ tables.rows table) (isId : row.get "id" = .text id)
    (reads : DocumentType.read (.record row) = .valid a) :
    tables.first? (.select table [Store.byId id] none (some 1)) = some a := by
  have head := (Store.head_byId table id tables).trans (rowOf?_eq_some unique present isId)
  obtain ⟨rows, found⟩ := List.head?_eq_some_iff.mp head
  exact first?_eq_some.mpr ⟨row, rows, found, reads⟩

theorem Tables.id_of_first?_flow {id : String} {flow : Flow}
    (found : tables.first? (Store.flowQuery id) = some flow) : flow.id = id := by
  obtain ⟨row, rows, isFirst, reads⟩ := first?_eq_some.mp found
  have present : row ∈ ((Store.flowQuery id).run tables).1 := isFirst ▸ List.mem_cons_self
  have isId := Store.selects_byId.mp (Query.selected_of_mem_select present).2
  rw [Row.get_id_of_readFlow reads] at isId
  exact Json.text.inj isId

namespace Operation

/-- `post` holds of the outcome and of the tables that are left, after that many requests. -/
def LeavesAt (setting : Setting) (operation : Operation α) (tables : Tables) (asked : Nat)
    (post : Except Failure α → Tables → Prop) : Prop :=
  post (operation.run.alone setting tables asked).value
    (operation.run.alone setting tables asked).tables

variable {post : Except Failure β → Tables → Prop}

/-- A request that the store does not answer. -/
theorem outside_then {request : Request} {f : request.Answer → Operation β}
    (outside : ∀ q, request ≠ .query q)
    (rest : (f (setting.told asked request)).LeavesAt setting tables (asked + 1) post) :
    LeavesAt setting (ExceptT.lift (Program.request request) >>= f) tables asked post := by
  cases request with
  | query q => exact absurd rfl (outside q)
  | now | freshId | post | announce | complete | remembered | remember | forget => exact rest

theorem query_then (faultless : setting.IsFaultless) {q : Query} {f : List Row → Operation β}
    (rest : (f (q.run tables).1).LeavesAt setting (q.run tables).2 (asked + 1) post) :
    (query q >>= f).LeavesAt setting tables asked post := by
  have served : setting.serve asked tables (.query q) =
      (.ok (q.run tables).1, (q.run tables).2) := by
    simp only [Setting.serve, faultless asked]
  let next (answer : Except Failure (List Row)) : Program (Except Failure β) :=
    ExceptT.bindCont f answer
  change post ((next (setting.serve asked tables (.query q)).1).alone setting
      (setting.serve asked tables (.query q)).2 (asked + 1)).value
    ((next (setting.serve asked tables (.query q)).1).alone setting
      (setting.serve asked tables (.query q)).2 (asked + 1)).tables
  rw [served]
  exact rest

theorem leavesAt_of_leaves {operation : Operation β}
    (leaves : operation.Leaves setting tables fun outcome after _ => post outcome after) :
    operation.LeavesAt setting tables asked post := leaves asked

theorem leaves_of_leavesAt {operation : Operation β}
    (leaves : ∀ asked, operation.LeavesAt setting tables asked post) :
    operation.Leaves setting tables fun outcome after _ => post outcome after := leaves

/-- An operation that succeeds, and the rest. -/
theorem bind_then {operation : Operation α} {f : α → Operation β} {a : α}
    (succeeds : (operation.run.alone setting tables asked).value = .ok a)
    (rest : (f a).LeavesAt setting (operation.run.alone setting tables asked).tables
      (operation.run.alone setting tables asked).asked post) :
    (operation >>= f).LeavesAt setting tables asked post := by
  have same : (operation >>= f).run = operation.run.bind (ExceptT.bindCont f) := rfl
  unfold LeavesAt
  rw [same, Program.alone_bind]
  simp only [succeeds]
  exact rest

/-- Whatever an attempt ends with, the rest goes on from there. -/
theorem attempt_then {operation : Operation α} {f : Except Failure α → Operation β}
    (rest : (f (operation.run.alone setting tables asked).value).LeavesAt setting
      (operation.run.alone setting tables asked).tables
      (operation.run.alone setting tables asked).asked post) :
    (attempt operation >>= f).LeavesAt setting tables asked post := by
  have same : (attempt operation >>= f).run = operation.run.bind fun outcome => (f outcome).run :=
    Program.bind_bind operation.run _ _
  unfold LeavesAt
  rw [same, Program.alone_bind]
  exact rest

/-- The first document that a query finds, if there is one. -/
theorem first_then [DocumentType α] (faultless : setting.IsFaultless) {q : Query}
    {f : Option α → Operation β} (still : (q.run tables).2 = tables)
    (found : ∀ a, tables.first? q = some a →
      (f (some a)).LeavesAt setting tables (asked + 1) post)
    (missing : tables.first? (α := α) q = none →
      (f none).LeavesAt setting tables (asked + 1) post)
    (unreadable : tables.first? (α := α) q = none → ∀ failure, post (.error failure) tables) :
    (Store.first α q >>= f).LeavesAt setting tables asked post := by
  unfold Store.first
  rw [bind_assoc]
  refine query_then faultless ?_
  rw [still]
  cases rows : (q.run tables).1 with
  | nil => exact missing (Tables.first?_of_nil rows)
  | cons row rest =>
    have first := Tables.first?_of_cons (α := α) rows
    simp only [parse, ← bind_pure_comp]
    cases reads : (DocumentType.read (.record row) : Validated α) with
    | valid a =>
      rw [reads] at first
      exact found a first
    | invalid issues =>
      rw [reads] at first
      exact unreadable first _

theorem getFlow_eq_first (id : String) : Store.getFlow id = Store.first Flow (Store.flowQuery id) :=
  rfl

theorem getExecution_eq_first (id : String) :
    Store.getExecution id = Store.first Execution (Store.executionQuery id) := rfl

theorem mapM_parse_eq [DocumentType α] {rows : List Row} {items : List α}
    (reads : List.Forall₂ (fun row a => DocumentType.read (.record row) = .valid a) rows items) :
    (rows.mapM parse : Operation (List α)) = pure items := by
  induction reads with
  | nil => rfl
  | cons first _ ih =>
    rw [List.mapM_cons, ih, parse_of_valid first]
    rfl

/-- Rows that can all be read. -/
theorem exists_mapM_parse [DocumentType α] {rows : List Row}
    (readable : ∀ row ∈ rows, ∃ a : α, DocumentType.read (.record row) = .valid a) :
    ∃ items : List α, (rows.mapM parse : Operation (List α)) = pure items ∧
      List.Forall₂ (fun row a => DocumentType.read (.record row) = .valid a) rows items := by
  have reads : ∃ items : List α,
      List.Forall₂ (fun row a => DocumentType.read (.record row) = .valid a) rows items := by
    induction rows with
    | nil => exact ⟨[], .nil⟩
    | cons row rows ih =>
      obtain ⟨⟨a, reads⟩, others⟩ := List.forall_mem_cons.mp readable
      obtain ⟨items, same⟩ := ih others
      exact ⟨a :: items, .cons reads same⟩
  obtain ⟨items, reads⟩ := reads
  exact ⟨items, mapM_parse_eq reads, reads⟩

theorem rememberAccount_alone (faultless : setting.IsFaultless) (account : Account) :
    (AccountLookup.rememberAccount account).Leaves setting tables fun outcome after _ =>
      outcome = .ok ⟨⟩ ∧ after = tables := by
  have among : (AccountLookup.rememberAccount account).Among tables fun outcome after _ =>
      outcome = .ok ⟨⟩ ∧ after = tables := Store.rememberAccount_among ⟨rfl, rfl⟩
  refine leaves_mono (Program.leaves_of_among faultless among) ?_
  rintro outcome after _ ⟨_, holds⟩
  exact holds

/-- An account, from the cache or from the store. -/
theorem getAccount_then (faultless : setting.IsFaultless) {id : String}
    {f : Option Account → Operation β}
    (found : ∀ account, setting.account? asked tables id = some account →
      (f (some account)).Leaves setting tables fun outcome after _ => post outcome after)
    (missing : setting.account? asked tables id = none →
      (f none).Leaves setting tables fun outcome after _ => post outcome after)
    (unreadable : setting.account? asked tables id = none →
      ∀ failure, post (.error failure) tables) :
    (AccountLookup.get id >>= f).LeavesAt setting tables asked post := by
  rw [Store.getAccount_eq, bind_assoc]
  refine outside_then (by nofun) ?_
  cases cached : setting.told asked (.remembered (AccountLookup.idKey id)) with
  | some account =>
    have known : setting.account? asked tables id = some account := by
      rw [Setting.account?, cached]
    exact found account known _
  | none =>
    have known : setting.account? asked tables id = tables.first? (Store.accountQuery id) := by
      rw [Setting.account?, cached]
    rw [known] at found missing unreadable
    simp only [bind_assoc]
    refine first_then faultless rfl (fun account isFirst => ?_) (fun none => missing none _)
      unreadable
    have goesOn : (AccountLookup.rememberAccount account >>= fun _ => f (some account)).Leaves
        setting tables fun outcome after _ => post outcome after := by
      refine leaves_bind (leaves_mono (rememberAccount_alone faultless account) ?_)
      rintro _ _ _ ⟨rfl, rfl⟩
      exact found account isFirst
    simp only [bind_assoc, pure_bind]
    exact goesOn _

end Operation

/-- What is made of rows for those items: of a row with the id of an item what `makes` tells, and
any other row stays as it is. -/
structure Alters {ι : Type} (idOf : ι → String) (makes : ι → Row → Row → Prop) (items : List ι)
    (change : Row → Row) : Prop where
  sameId : ∀ row, (change row).get "id" = row.get "id"
  made : ∀ item ∈ items, ∀ row : Row, row.get "id" = .text (idOf item) →
    makes item row (change row)
  spared : ∀ row : Row, (∀ item ∈ items, row.get "id" ≠ .text (idOf item)) → change row = row

namespace Alters

variable {ι : Type} {idOf : ι → String} {makes : ι → Row → Row → Prop} {items others : List ι}
  {change later : Row → Row} {rows : List Row}

theorem nil : Alters idOf makes [] id where
  sameId _ := rfl
  made _ present := absurd present List.not_mem_nil
  spared _ _ := rfl

/-- Items with other ids follow. -/
theorem append (first : Alters idOf makes items change) (second : Alters idOf makes others later)
    (apart : ∀ item ∈ items, ∀ other ∈ others, idOf item ≠ idOf other) :
    Alters idOf makes (items ++ others) (later ∘ change) where
  sameId row := (second.sameId (change row)).trans (first.sameId row)
  made item present row isId := by
    rcases List.mem_append.mp present with early | late
    · have spared : later (change row) = change row := second.spared _ fun other also isOther =>
        apart item early other also
          (Json.text.inj (isId.symm.trans ((first.sameId row).symm.trans isOther)))
      rw [Function.comp_apply, spared]
      exact first.made item early row isId
    · have spared : change row = row := first.spared row fun other also isOther =>
        apart other also item late (Json.text.inj (isOther.symm.trans isId))
      rw [Function.comp_apply, spared]
      exact second.made item late row isId
  spared row apart := by
    have early : change row = row :=
      first.spared row fun item present => apart item (List.mem_append_left _ present)
    rw [Function.comp_apply, early]
    exact second.spared row fun item present => apart item (List.mem_append_right _ present)

/-- Rows with other ids. -/
theorem map_eq (alters : Alters idOf makes items change)
    (apart : ∀ row ∈ rows, ∀ item ∈ items, row.get "id" ≠ .text (idOf item)) :
    rows.map change = rows := by
  conv_rhs => rw [← List.map_id rows]
  exact List.map_congr_left fun row present => alters.spared row (apart row present)

end Alters

section Listed

variable {ι : Type} {idOf : ι → String} {rows : List Row} {items : List ι} {item : ι}

/-- An item of a list was read from a row. -/
theorem exists_row_of_listed {reads : Row → ι → Prop} (listed : List.Forall₂ reads rows items)
    (present : item ∈ items) : ∃ row ∈ rows, reads row item := by
  induction listed with
  | nil => cases present
  | @cons row _ _ _ first rest ih =>
    rcases List.mem_cons.mp present with rfl | later
    · exact ⟨row, .head _, first⟩
    · obtain ⟨other, among, also⟩ := ih later
      exact ⟨other, .tail _ among, also⟩

theorem nodup_ids_of_listed
    (listed : List.Forall₂ (fun row item => row.get "id" = .text (idOf item)) rows items)
    (unique : (rows.map fun row => row.get "id").Nodup) : (items.map idOf).Nodup := by
  have same : (rows.map fun row => row.get "id") = (items.map idOf).map Json.text := by
    rw [List.map_map]
    refine Eq.mp (congrFun₂ List.forall₂_eq_eq_eq _ _) ?_
    rwa [List.forall₂_map_left_iff, List.forall₂_map_right_iff]
  rw [same] at unique
  exact unique.of_map

end Listed

end MessageFlow
