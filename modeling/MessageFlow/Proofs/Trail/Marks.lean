import Mathlib.Data.List.Induction
import MessageFlow.Proofs.Interleaving.Change

/-!
What action nodes note of the sender of a run, its tags and its subscription, and how the notes of a
trail are replayed: what was noted last counts, and the tags stand in the order in which they came
to stay.
-/

namespace MessageFlow

/-- What an action node notes of the sender. -/
inductive Note where
  | add (tag : String)
  | remove (tag : String)
  | subscribe (value : Bool)
  deriving DecidableEq, Repr

/-- What the node notes of the sender, if it is such an action. No empty tag is added. -/
def Node.note? (node : Node) : Option Note :=
  match node.kind?, node.data.actionKind? with
  | some .action, some .addTag => (node.data.tag.filter (· ≠ "")).map .add
  | some .action, some .removeTag => node.data.tag.map .remove
  | some .action, some .subscribe => some (.subscribe true)
  | some .action, some .unsubscribe => some (.subscribe false)
  | _, _ => none

/-- What is noted along a trail, after the node at which it starts. -/
def Flow.notes (flow : Flow) (trail : List String) : List Note :=
  trail.tail.filterMap fun nodeId => (flow.node? nodeId).bind Node.note?

/-- What was noted of the tag last. -/
def lastNoteOf (tag : String) (notes : List Note) : Option Note :=
  (notes.filter fun note => note = .add tag ∨ note = .remove tag).getLast?

def Note.subscription? : Note → Option Bool
  | .subscribe value => some value
  | .add _ | .remove _ => none

/-- What was noted of the subscription last. -/
def lastSubscription (notes : List Note) : Option Bool :=
  (notes.filterMap Note.subscription?).getLast?

/-- With the note at this place a tag came that was not there before, and it is not removed
later. -/
structure Begins (notes : List Note) (tag : String) (place : Nat) : Prop where
  adds : notes[place]? = some (.add tag)
  isNew : lastNoteOf tag (notes.take place) ≠ some (.add tag)
  stays : .remove tag ∉ notes.drop (place + 1)

/-- The tags are those that were added last, each of them once, in the order in which they came. -/
structure AreTags (notes : List Note) (tags : List String) : Prop where
  distinct : tags.Nodup
  mem_iff : ∀ tag, tag ∈ tags ↔ lastNoteOf tag notes = some (.add tag)
  begun : ∀ tag ∈ tags, ∃ place, Begins notes tag place
  ordered : tags.Pairwise fun one other =>
    ∀ place later, Begins notes one place → Begins notes other later → place < later

/-- The tags and the subscription. -/
structure Marks where
  tags : List String := []
  subscribed : Option FieldValue := none
  deriving DecidableEq

namespace Marks

def apply (marks : Marks) : Note → Marks
  | .add tag => if tag ∈ marks.tags then marks else { marks with tags := marks.tags ++ [tag] }
  | .remove tag => { marks with tags := marks.tags.filter (· != tag) }
  | .subscribe value => { marks with subscribed := some (.flag value) }

def replay (notes : List Note) : Marks := notes.foldl apply {}

theorem tags_apply_add (marks : Marks) (tag : String) : (marks.apply (.add tag)).tags =
    if tag ∈ marks.tags then marks.tags else marks.tags ++ [tag] := by
  simp only [apply]
  split
  · rfl
  · rfl

theorem subscribed_apply_add (marks : Marks) (tag : String) :
    (marks.apply (.add tag)).subscribed = marks.subscribed := by
  simp only [apply]
  split
  · rfl
  · rfl

theorem replay_concat (notes : List Note) (note : Note) :
    replay (notes ++ [note]) = (replay notes).apply note := by
  rw [replay, List.foldl_append]
  rfl

end Marks

section replay

variable {notes : List Note} {note : Note} {tag : String} {place : Nat}

theorem lastNoteOf_concat : lastNoteOf tag (notes ++ [note]) = some (.add tag) ↔
    note = .add tag ∨ (note ≠ .remove tag ∧ lastNoteOf tag notes = some (.add tag)) := by
  rw [lastNoteOf, List.filter_append]
  by_cases concerns : note = .add tag ∨ note = .remove tag
  · rcases concerns with rfl | rfl <;> simp
  · rw [not_or] at concerns
    simp [concerns, lastNoteOf]

theorem lastSubscription_concat : lastSubscription (notes ++ [note]) =
    note.subscription?.or (lastSubscription notes) := by
  rw [lastSubscription, List.filterMap_append]
  cases note with
  | add | remove => simp [Note.subscription?, lastSubscription]
  | subscribe value => simp [Note.subscription?]

theorem Begins.lt_length (begins : Begins notes tag place) : place < notes.length :=
  (List.getElem?_eq_some_iff.mp begins.adds).1

/-- The last note leaves an earlier place where a tag began, unless it removes the tag. -/
theorem begins_concat_of_lt (earlier : place < notes.length) :
    Begins (notes ++ [note]) tag place ↔ note ≠ .remove tag ∧ Begins notes tag place := by
  have adds : (notes ++ [note])[place]? = notes[place]? := List.getElem?_append_left earlier
  have before : (notes ++ [note]).take place = notes.take place :=
    List.take_append_of_le_length (Nat.le_of_lt earlier)
  have after : .remove tag ∉ (notes ++ [note]).drop (place + 1) ↔
      .remove tag ∉ notes.drop (place + 1) ∧ note ≠ .remove tag := by
    rw [List.drop_append_of_le_length earlier, List.mem_append, not_or, List.mem_singleton,
      ne_comm]
  constructor
  · rintro ⟨isAdd, isNew, stays⟩
    obtain ⟨stays, lets⟩ := after.mp stays
    exact ⟨lets, adds ▸ isAdd, before ▸ isNew, stays⟩
  · rintro ⟨lets, isAdd, isNew, stays⟩
    exact ⟨adds.trans isAdd, before.symm ▸ isNew, after.mpr ⟨stays, lets⟩⟩

/-- The last note lets a tag begin that is not there. -/
theorem begins_concat_length : Begins (notes ++ [note]) tag notes.length ↔
    note = .add tag ∧ lastNoteOf tag notes ≠ some (.add tag) := by
  constructor
  · rintro ⟨adds, isNew, -⟩
    rw [List.getElem?_concat_length] at adds
    rw [List.take_left] at isNew
    exact ⟨Option.some.inj adds, isNew⟩
  · rintro ⟨rfl, isNew⟩
    refine ⟨List.getElem?_concat_length, ?_, ?_⟩
    · rwa [List.take_left]
    · simp

/-- The last note lets the tag begin, or it leaves the place where it began. -/
theorem begins_concat : Begins (notes ++ [note]) tag place ↔
    (place = notes.length ∧ note = .add tag ∧ lastNoteOf tag notes ≠ some (.add tag)) ∨
      (note ≠ .remove tag ∧ Begins notes tag place) := by
  constructor
  · intro begins
    have within := begins.lt_length
    rw [List.length_append, List.length_singleton] at within
    rcases Nat.lt_succ_iff_lt_or_eq.mp within with earlier | rfl
    · exact .inr ((begins_concat_of_lt earlier).mp begins)
    · exact .inl ⟨rfl, begins_concat_length.mp begins⟩
  · rintro (⟨rfl, adds⟩ | ⟨lets, begins⟩)
    · exact begins_concat_length.mpr adds
    · exact (begins_concat_of_lt begins.lt_length).mpr ⟨lets, begins⟩

/-- A tag that has begun was added last. -/
theorem Begins.lastNoteOf (begins : Begins notes tag place) :
    lastNoteOf tag notes = some (.add tag) := by
  induction notes using List.reverseRecOn with
  | nil => cases begins.adds
  | append_singleton notes note ih =>
    rw [lastNoteOf_concat]
    rcases begins_concat.mp begins with ⟨-, isAdd, -⟩ | ⟨lets, before⟩
    · exact .inl isAdd
    · exact .inr ⟨lets, ih before⟩

namespace AreTags

variable {tags : List String}

/-- A tag that is there has begun before the note. -/
theorem begins_of_concat (are : AreTags notes tags) (present : tag ∈ tags)
    (begins : Begins (notes ++ [note]) tag place) : Begins notes tag place := by
  rcases begins_concat.mp begins with ⟨-, -, isNew⟩ | ⟨-, before⟩
  · exact absurd ((are.mem_iff tag).mp present) isNew
  · exact before

/-- Tags that a note leaves there stay in their order. -/
theorem ordered_of_sublist (are : AreTags notes tags) {left : List String}
    (within : left.Sublist tags) (note : Note) :
    left.Pairwise fun one other => ∀ place later, Begins (notes ++ [note]) one place →
      Begins (notes ++ [note]) other later → place < later := by
  refine (are.ordered.sublist within).imp_of_mem ?_
  intro one other isLeft stillLeft before place later begins follows
  exact before place later (are.begins_of_concat (within.subset isLeft) begins)
    (are.begins_of_concat (within.subset stillLeft) follows)

/-- A note that concerns none of the tags. -/
theorem keep (are : AreTags notes tags)
    (apart : ∀ tag, (note = .add tag → tag ∈ tags) ∧ note ≠ .remove tag) :
    AreTags (notes ++ [note]) tags where
  distinct := are.distinct
  mem_iff tag := by
    rw [lastNoteOf_concat, ← are.mem_iff]
    exact ⟨fun present => .inr ⟨(apart tag).2, present⟩,
      fun after => after.elim (apart tag).1 And.right⟩
  begun tag present := by
    obtain ⟨place, begins⟩ := are.begun tag present
    exact ⟨place, begins_concat.mpr (.inr ⟨(apart tag).2, begins⟩)⟩
  ordered := are.ordered_of_sublist (List.Sublist.refl tags) note

theorem add (are : AreTags notes tags) (absent : tag ∉ tags) :
    AreTags (notes ++ [.add tag]) (tags ++ [tag]) where
  distinct := List.nodup_append.mpr ⟨are.distinct, List.nodup_singleton tag, by
    rintro other present _ isLast rfl
    exact absent (List.mem_singleton.mp isLast ▸ present)⟩
  mem_iff other := by
    rw [lastNoteOf_concat, ← are.mem_iff, List.mem_append, List.mem_singleton]
    simp [or_comm, eq_comm]
  begun other present := by
    rcases List.mem_append.mp present with old | isLast
    · obtain ⟨place, begins⟩ := are.begun other old
      exact ⟨place, begins_concat.mpr (.inr ⟨nofun, begins⟩)⟩
    · rw [List.mem_singleton.mp isLast]
      exact ⟨notes.length,
        begins_concat.mpr (.inl ⟨rfl, rfl, fun last => absent ((are.mem_iff tag).mpr last)⟩)⟩
  ordered := by
    refine List.pairwise_append.mpr
      ⟨are.ordered_of_sublist (List.Sublist.refl tags) _, List.pairwise_singleton _ _, ?_⟩
    intro one present _ isLast place later begins follows
    rw [List.mem_singleton.mp isLast] at follows
    rcases begins_concat.mp follows with ⟨rfl, -⟩ | ⟨-, before⟩
    · exact (are.begins_of_concat present begins).lt_length
    · exact absurd ((are.mem_iff tag).mpr before.lastNoteOf) absent

theorem remove (are : AreTags notes tags) (tag : String) :
    AreTags (notes ++ [.remove tag]) (tags.filter (· != tag)) where
  distinct := are.distinct.filter _
  mem_iff other := by
    have others : (Note.remove tag ≠ .remove other) ↔ (other != tag) = true := by
      rw [ne_eq, Note.remove.injEq, bne_iff_ne, ne_comm]
    rw [lastNoteOf_concat, ← are.mem_iff, List.mem_filter, others]
    exact ⟨fun left => .inr left.symm, fun after => (after.resolve_left nofun).symm⟩
  begun other present := by
    obtain ⟨old, different⟩ := List.mem_filter.mp present
    obtain ⟨place, begins⟩ := are.begun other old
    refine ⟨place, begins_concat.mpr (.inr ⟨?_, begins⟩)⟩
    rintro ⟨⟩
    simp at different
  ordered := are.ordered_of_sublist List.filter_sublist _

end AreTags

/-- The tags of a replay. -/
theorem areTags_replay (notes : List Note) : AreTags notes (Marks.replay notes).tags := by
  induction notes using List.reverseRecOn with
  | nil => exact ⟨List.nodup_nil, by simp [Marks.replay, lastNoteOf], nofun, .nil⟩
  | append_singleton notes note ih =>
    rw [Marks.replay_concat]
    cases note with
    | add tag =>
      rw [Marks.tags_apply_add]
      split
      · next present =>
        refine ih.keep fun other => ⟨?_, nofun⟩
        rintro ⟨⟩
        exact present
      · next absent => exact ih.add absent
    | remove tag => exact ih.remove tag
    | subscribe value => exact ih.keep fun other => ⟨nofun, nofun⟩

/-- The subscription of a replay. -/
theorem subscribed_replay (notes : List Note) :
    (Marks.replay notes).subscribed = (lastSubscription notes).map .flag := by
  induction notes using List.reverseRecOn with
  | nil => rfl
  | append_singleton notes note ih =>
    rw [Marks.replay_concat, lastSubscription_concat]
    cases note with
    | add tag =>
      rw [Marks.subscribed_apply_add]
      exact ih
    | remove tag => exact ih
    | subscribe value => rfl

end replay

/-- The tags and the subscription that a context holds. -/
def Context.marks (context : Context) : Marks where
  tags := context.tags
  subscribed := context.field? Run.subscribed

/-- What the node makes of tags and subscription. -/
def Node.mark (node : Node) (marks : Marks) : Marks := node.note?.elim marks marks.apply

namespace Context

theorem marks_receive (context : Context) (message : InboundMessage) :
    (context.receive message).marks = context.marks := by
  have hears := context.hears_receive message
  have tags : (context.receive message).tags = context.tags := by rw [hears.rest]
  have subscribed : (context.receive message).field? Run.subscribed =
      context.field? Run.subscribed := by
    rw [hears.fields, if_neg]
    rintro (⟨same, -⟩ | ⟨same, -⟩)
    · exact absurd same (by decide)
    · exact absurd same (by decide)
  rw [marks, marks, tags, subscribed]

theorem marks_setFlag_of_ne (context : Context) {key : String} (other : Run.subscribed ≠ key)
    (value : Bool) : (context.setFlag key value).marks = context.marks := by
  rw [marks, marks, field?_setFlag_of_ne context other]
  rfl

theorem marks_addTag (context : Context) (tag : Option String) : (context.addTag tag).marks =
    ((tag.filter (· ≠ "")).map Note.add).elim context.marks context.marks.apply := by
  cases tag with
  | none => rfl
  | some tag =>
    by_cases empty : tag = ""
    · simp [addTag, empty, Option.filter]
    · by_cases present : tag ∈ context.tags
      · simp [addTag, empty, present, Marks.apply, marks, Option.filter]
      · simp [addTag, empty, present, Marks.apply, marks, field?, Option.filter]

end Context

/-- The context after an action node has the marks that its note makes. -/
theorem Node.marks_contextAfter {node : Node} (isAction : node.kind? = some .action)
    (context : Context) : (node.data.contextAfter context).marks = node.mark context.marks := by
  unfold NodeData.contextAfter mark note?
  rw [isAction]
  cases node.data.actionKind? with
  | none => rfl
  | some kind =>
    cases kind with
    | collectEmail | collectPhone => exact context.marks_setFlag_of_ne (by decide) true
    | addTag => exact context.marks_addTag node.data.tag
    | removeTag => cases node.data.tag <;> rfl
    | subscribe | unsubscribe =>
      rw [Context.marks, Context.field?_setFlag_self]
      rfl
    | createLead | notify => rfl

namespace Execution

/-- A node that does not fail has left its note. -/
theorem marks_afterNode (e : Execution) (node : Node) (wake : Timestamp) :
    (e.afterNode node wake).context.marks = node.mark e.context.marks := by
  have plain (other : node.kind? ≠ some .action) : e.context.marks = node.mark e.context.marks := by
    simp [Node.mark, Node.note?, other]
  unfold afterNode
  split
  · next isDelay => exact plain (by simp [isDelay])
  · next isAction =>
    rw [← node.marks_contextAfter isAction]
    simp only
    split
    · rfl
    · rfl
  · next other => exact plain other

end Execution
end MessageFlow
