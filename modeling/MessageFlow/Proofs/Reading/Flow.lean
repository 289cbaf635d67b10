import MessageFlow.Flow.Document
import MessageFlow.Proofs.Reading.Expressible

/-!
Flow documents are read back from what is written of them.
-/

namespace MessageFlow
open Document

variable {naming : Naming} {value : Json}

namespace Button

def components (button : Button) : List Component := [(names, button.extras)]

theorem names_distinct : Distinct names := by decide

theorem read_extras {doc : Row} {button : Button} (reads : read (.record doc) = .valid button) :
    button.extras = Document.extras names doc := by
  simp only [read, object, Validated.map_eq_valid, Validated.fmap_eq_valid,
    Validated.seq_eq_valid, ↓existsAndEq, and_true] at reads
  grind

theorem faithful_of_read {button : Button} (expressible : value.isExpressible = true)
    (reads : read value = .valid button) :
    Faithful .keys button.components (DocumentType.loose button) := by
  obtain ⟨doc, rfl⟩ := exists_record reads
  exact faithful_of_extras expressible (read_extras reads)

theorem read_write {button : Button}
    (faithful : Faithful naming button.components (DocumentType.loose button)) :
    read (button.write naming) = .valid button := by
  rw [read, write]
  refine object_write rfl names_distinct (faithful_extras.mp faithful) fun fits => ?_
  rw [fits.required_eq (by simp) (asText_text button.label),
    fits.maybe_eq (by simp) (nullable_ofText? button.payload)]
  rfl

end Button

namespace NodeData

def components (data : NodeData) : List Component :=
  (data.buttons.getD []).flatMap Button.components ++ [(names, data.extras)]

theorem names_distinct : Distinct names := by decide

theorem faithful_iff {data : NodeData} :
    Faithful naming data.components (DocumentType.loose data) ↔
      (∀ button ∈ data.buttons.getD [],
        Faithful naming button.components (DocumentType.loose button)) ∧
      data.value.isFinite = true ∧ Kept naming names data.extras := by
  change Faithful naming ((data.buttons.getD []).flatMap Button.components ++
    [(names, data.extras)]) ((data.buttons.getD []).flatMap DocumentType.loose ++ data.value ::
      data.extras.map (·.2)) ↔ _
  rw [faithful_append, faithful_flatMap, faithful_cons_loose, faithful_extras]

theorem read_valid {doc : Row} {data : NodeData} (reads : read (.record doc) = .valid data) :
    maybe Field.buttons (listOf Button.read) doc = .valid data.buttons ∧
      withDefault Field.value .null asJson doc = .valid data.value ∧
      data.extras = Document.extras names doc := by
  simp only [read, object, Validated.map_eq_valid, Validated.fmap_eq_valid,
    Validated.seq_eq_valid, ↓existsAndEq, and_true] at reads
  grind

theorem faithful_of_read {data : NodeData} (expressible : value.isExpressible = true)
    (reads : read value = .valid data) :
    Faithful .keys data.components (DocumentType.loose data) := by
  obtain ⟨doc, rfl⟩ := exists_record reads
  obtain ⟨buttons, ofValue, extras⟩ := read_valid reads
  rw [faithful_iff, extras]
  refine ⟨?_, ?_, kept_extras expressible names⟩
  · rcases maybe_valid expressible buttons with none | ⟨given, list, isGiven, ofList, readsList⟩
    · simp [none]
    · rw [isGiven]
      intro button present
      obtain ⟨item, ofItem, readsItem⟩ := listOf_valid ofList readsList button present
      exact Button.faithful_of_read ofItem readsItem
  · rcases withDefault_valid expressible ofValue with null | ⟨given, ofGiven, same⟩
    · rw [null]
      rfl
    · cases same
      exact Json.isFinite_of_isExpressible _ ofGiven

theorem read_write {data : NodeData}
    (faithful : Faithful naming data.components (DocumentType.loose data)) :
    read (data.write naming) = .valid data := by
  obtain ⟨ofButtons, finite, kept⟩ := faithful_iff.mp faithful
  have buttons : nullable (listOf Button.read)
      (.ofOption (fun buttons => .list (buttons.map (Button.write naming))) data.buttons) =
        .valid data.buttons := by
    apply nullable_ofOption
    intro given isGiven
    refine ⟨nofun, listOf_map fun button present => Button.read_write (ofButtons button ?_)⟩
    rw [isGiven]
    exact present
  rw [read, write]
  refine object_write rfl names_distinct kept fun fits => ?_
  rw [fits.maybe_eq (by simp) (nullable_ofText? data.triggerType),
    fits.maybe_eq (by simp) (nullable_texts data.keywords),
    fits.maybe_eq (by simp) (nullable_texts data.postIds),
    fits.maybe_eq (by simp) (nullable_bool data.replyToStory),
    fits.withDefault_eq (by simp) (nullable_ofText? data.messageType),
    fits.maybe_eq (by simp) (nullable_ofText? data.text),
    fits.maybe_eq (by simp) (nullable_texts data.quickReplies),
    fits.maybe_eq (by simp) buttons,
    fits.maybe_eq (by simp) (nullable_ofText? data.imageUrl),
    fits.withDefault_eq (by simp) (nullable_bool data.useAI),
    fits.maybe_eq (by simp) (nullable_ofText? data.aiPrompt),
    fits.maybe_eq (by simp) (nullable_ofText? data.conditionType),
    fits.withDefault_eq (by simp) (nullable_ofText? data.delayType),
    fits.withDefault_eq (by simp) (asJson_finite finite),
    fits.maybe_eq (by simp) (nullable_ofText? data.actionType),
    fits.maybe_eq (by simp) (nullable_ofText? data.tag),
    fits.maybe_eq (by simp) (nullable_ofText? data.customMessage),
    fits.maybe_eq (by simp) (nullable_ofText? data.notifyEmail),
    fits.withDefault_eq (by simp) (nullable_bool data.waitForReply)]
  rfl

end NodeData

namespace Node

def components (node : Node) : List Component :=
  node.data.components ++ ([([], node.position.getD [])] ++ [(names, node.extras)])

theorem names_distinct : Distinct names := by decide

theorem faithful_iff {node : Node} : Faithful naming node.components (DocumentType.loose node) ↔
    Faithful naming node.data.components (DocumentType.loose node.data) ∧
      Kept naming [] (node.position.getD []) ∧ Kept naming names node.extras := by
  have loose : DocumentType.loose node = DocumentType.loose node.data ++
      ((node.position.getD []).map (·.2) ++ node.extras.map (·.2)) :=
    congrArg (DocumentType.loose node.data ++ ·) (List.map_append)
  rw [loose, components, faithful_append, faithful_append, faithful_extras, faithful_extras]

theorem read_valid {doc : Row} {node : Node} (reads : read (.record doc) = .valid node) :
    withDefault Field.data {} NodeData.read doc = .valid node.data ∧
      maybe Field.position asRecord doc = .valid node.position ∧
      node.extras = Document.extras names doc := by
  simp only [read, object, Validated.map_eq_valid, Validated.fmap_eq_valid,
    Validated.seq_eq_valid, ↓existsAndEq, and_true] at reads
  grind

theorem faithful_of_read {node : Node} (expressible : value.isExpressible = true)
    (reads : read value = .valid node) :
    Faithful .keys node.components (DocumentType.loose node) := by
  obtain ⟨doc, rfl⟩ := exists_record reads
  obtain ⟨data, position, extras⟩ := read_valid reads
  rw [faithful_iff, extras]
  refine ⟨?_, ?_, kept_extras expressible names⟩
  · rcases withDefault_valid expressible data with absent | ⟨given, ofGiven, readsData⟩
    · rw [absent, NodeData.faithful_iff]
      exact ⟨by simp, rfl, kept_nil .keys NodeData.names⟩
    · exact NodeData.faithful_of_read ofGiven readsData
  · rcases maybe_valid expressible position with none | ⟨given, whole, isGiven, ofWhole, readsGiven⟩
    · rw [none]
      exact kept_nil .keys []
    · rw [isGiven]
      exact kept_record ofWhole readsGiven

theorem read_write {node : Node}
    (faithful : Faithful naming node.components (DocumentType.loose node)) :
    read (node.write naming) = .valid node := by
  obtain ⟨ofData, ofPosition, kept⟩ := faithful_iff.mp faithful
  have position : nullable asRecord
      (.ofOption (fun position => .record (Json.finiteFields position)) node.position) =
        .valid node.position := by
    apply nullable_ofOption
    intro given isGiven
    rw [isGiven] at ofPosition
    exact ⟨nofun, congrArg Validated.valid ofPosition.finite⟩
  rw [read, write]
  refine object_write rfl names_distinct kept fun fits => ?_
  rw [fits.required_eq (by simp) (asText_text node.id),
    fits.required_eq (by simp) (asText_text node.type),
    fits.withDefault_eq (by simp) (NodeData.read_write ofData),
    fits.maybe_eq (by simp) position]
  rfl

end Node

namespace Edge

def components (edge : Edge) : List Component := [(names, edge.extras)]

theorem names_distinct : Distinct names := by decide

theorem read_extras {doc : Row} {edge : Edge} (reads : read (.record doc) = .valid edge) :
    edge.extras = Document.extras names doc := by
  simp only [read, object, Validated.map_eq_valid, Validated.fmap_eq_valid,
    Validated.seq_eq_valid, ↓existsAndEq, and_true] at reads
  grind

theorem faithful_of_read {edge : Edge} (expressible : value.isExpressible = true)
    (reads : read value = .valid edge) :
    Faithful .keys edge.components (DocumentType.loose edge) := by
  obtain ⟨doc, rfl⟩ := exists_record reads
  exact faithful_of_extras expressible (read_extras reads)

theorem read_write {edge : Edge}
    (faithful : Faithful naming edge.components (DocumentType.loose edge)) :
    read (edge.write naming) = .valid edge := by
  rw [read, write]
  refine object_write rfl names_distinct (faithful_extras.mp faithful) fun fits => ?_
  rw [fits.maybe_eq (by simp) (nullable_ofText? edge.id),
    fits.required_eq (by simp) (asText_text edge.source),
    fits.required_eq (by simp) (asText_text edge.target),
    fits.maybe_eq (by simp) (nullable_ofText? edge.sourceHandle)]
  rfl

end Edge

namespace Flow

def components (flow : Flow) : List Component :=
  flow.nodes.flatMap Node.components ++ flow.edges.flatMap Edge.components ++
    [(names, flow.extras)]

theorem names_distinct : Distinct names := by decide

theorem faithful_iff {flow : Flow} : Faithful naming flow.components (DocumentType.loose flow) ↔
    ((∀ node ∈ flow.nodes, Faithful naming node.components (DocumentType.loose node)) ∧
      ∀ edge ∈ flow.edges, Faithful naming edge.components (DocumentType.loose edge)) ∧
      Kept naming names flow.extras := by
  change Faithful naming (flow.nodes.flatMap Node.components ++
    flow.edges.flatMap Edge.components ++ [(names, flow.extras)])
      (flow.nodes.flatMap DocumentType.loose ++ flow.edges.flatMap DocumentType.loose ++
        flow.extras.map (·.2)) ↔ _
  rw [faithful_append, faithful_append, faithful_flatMap, faithful_flatMap, faithful_extras]

theorem read_valid {doc : Row} {flow : Flow} (reads : read (.record doc) = .valid flow) :
    withDefault Field.nodes [] (listOf Node.read) doc = .valid flow.nodes ∧
      withDefault Field.edges [] (listOf Edge.read) doc = .valid flow.edges ∧
      flow.extras = Document.extras names doc := by
  simp only [read, object, Validated.map_eq_valid, Validated.fmap_eq_valid,
    Validated.seq_eq_valid, ↓existsAndEq, and_true] at reads
  grind

theorem faithful_of_read {flow : Flow} (expressible : value.isExpressible = true)
    (reads : read value = .valid flow) :
    Faithful .keys flow.components (DocumentType.loose flow) := by
  obtain ⟨doc, rfl⟩ := exists_record reads
  obtain ⟨nodes, edges, extras⟩ := read_valid reads
  rw [faithful_iff, extras]
  refine ⟨⟨?_, ?_⟩, kept_extras expressible names⟩
  · intro node present
    obtain ⟨item, ofItem, readsItem⟩ := withDefault_listOf_valid expressible nodes node present
    exact Node.faithful_of_read ofItem readsItem
  · intro edge present
    obtain ⟨item, ofItem, readsItem⟩ := withDefault_listOf_valid expressible edges edge present
    exact Edge.faithful_of_read ofItem readsItem

/-- A flow is read back from what is written of it. -/
theorem read_write {flow : Flow}
    (faithful : Faithful naming flow.components (DocumentType.loose flow)) :
    read (flow.write naming) = .valid flow := by
  obtain ⟨⟨ofNodes, ofEdges⟩, kept⟩ := faithful_iff.mp faithful
  have nodes : listOf Node.read (.list (flow.nodes.map (Node.write naming))) = .valid flow.nodes :=
    listOf_map fun node present => Node.read_write (ofNodes node present)
  have edges : listOf Edge.read (.list (flow.edges.map (Edge.write naming))) = .valid flow.edges :=
    listOf_map fun edge present => Edge.read_write (ofEdges edge present)
  rw [read, write]
  refine object_write rfl names_distinct kept fun fits => ?_
  rw [fits.required_eq (by simp) (asText_text flow.id),
    fits.maybe_eq (by simp) (nullable_ofText? flow.userId),
    fits.required_eq (by simp) (asText_text flow.accountId),
    fits.withDefault_eq (by simp) (asText_text flow.name),
    fits.maybe_eq (by simp) (nullable_ofText? flow.description),
    fits.withDefault_eq (by simp) nodes,
    fits.withDefault_eq (by simp) edges,
    fits.withDefault_eq (by simp) (asBool_bool flow.isActive),
    fits.withDefault_eq (by simp) (asInt_int flow.triggerCount),
    fits.maybe_eq (by simp) (nullable_ofTime? flow.lastTriggeredAt),
    fits.maybe_eq (by simp) (nullable_ofTime? flow.createdAt),
    fits.maybe_eq (by simp) (nullable_ofTime? flow.updatedAt)]
  rfl

end Flow
end MessageFlow
