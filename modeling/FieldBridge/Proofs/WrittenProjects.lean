import FieldBridge.Project.Document
import FieldBridge.Proofs.WrittenRecords

/-!
# Reading written projects

The document of a project is read as the project again, with three differences: the
diagnostics of its structs are not written, its coordinates are rounded once more, and what
follows from texts is worked out again.
-/

namespace FieldBridge

open Json

namespace FieldDescriptor

/-- The fields of the written form, in its order. -/
def written (field : FieldDescriptor) : List (String × Option Json) :=
  [("name", some (.string field.name)), ("type", some (.string field.type)),
    ("isPointer", some (.bool field.isPointer)), ("isSlice", some (.bool field.isSlice)),
    ("isMap", some (.bool field.isMap)), ("tagValue", field.tagValue.map .string),
    ("tag", field.tag.map .string)]

theorem toJson_eq (field : FieldDescriptor) : field.toJson = object (ofFields field.written) := by
  obtain ⟨name, type, isPointer, isSlice, isMap, tagValue, tag⟩ := field
  cases tagValue <;> cases tag <;> rfl

theorem decode_reread (field : FieldDescriptor) : decode field.toJson.reread = .ok field := by
  rw [toJson_eq]
  refine Record.decode_reread _ field.written
    ["name", "type", "isPointer", "isSlice", "isMap", "tagValue", "tag"] rfl (by decide)
    (by decide) ?_
  exact Record.takes_done FieldDescriptor.mk (found field.written)
    |>.required "name" Decoder.text rfl rfl
    |>.required "type" Decoder.text rfl rfl
    |>.withDefault "isPointer" Decoder.flag false rfl rfl
    |>.withDefault "isSlice" Decoder.flag false rfl rfl
    |>.withDefault "isMap" Decoder.flag false rfl rfl
    |>.maybe_text "tagValue" rfl ["jsonTag"]
    |>.maybe_text "tag" rfl

theorem fits_toJson (field : FieldDescriptor) (depth : Nat) : Fits (depth + 1) field.toJson := by
  rw [toJson_eq]
  apply fits_ofFields
  simp [written, Fits]

end FieldDescriptor

namespace StructDescriptor

/-- The descriptor without the findings it was made from. -/
def withoutDiagnostics (descriptor : StructDescriptor) : StructDescriptor :=
  { descriptor with diagnostics := [] }

def written (descriptor : StructDescriptor) : List (String × Option Json) :=
  [("id", some (.string descriptor.id)), ("name", some (.string descriptor.name)),
    ("fields", some (.array (descriptor.fields.map FieldDescriptor.toJson))),
    ("sourceText", some (.string descriptor.sourceText)),
    ("isValid", some (.bool descriptor.isValid)), ("errors", some (texts descriptor.errors)),
    ("warnings", some (texts descriptor.warnings))]

theorem toJson_eq (descriptor : StructDescriptor) :
    descriptor.toJson = object (ofFields descriptor.written) :=
  rfl

theorem decode_reread (descriptor : StructDescriptor) :
    decode descriptor.toJson.reread = .ok descriptor.withoutDiagnostics := by
  have hfields := Decoder.list_reread FieldDescriptor.decode_reread descriptor.fields
  rw [List.map_id'] at hfields
  rw [toJson_eq]
  refine Record.decode_reread _ descriptor.written
    ["id", "name", "fields", "sourceText", "isValid", "errors", "warnings"] rfl (by decide)
    (by decide) ?_
  exact Record.takes_done _ (found descriptor.written)
    |>.required "id" Decoder.text rfl rfl
    |>.withDefault "name" Decoder.text "" rfl rfl
    |>.withDefault "fields" (Decoder.list FieldDescriptor.decode) [] rfl hfields
    |>.withDefault "sourceText" Decoder.text "" rfl rfl ["rawCode"]
    |>.withDefault "isValid" Decoder.flag false rfl rfl
    |>.withDefault "errors" (Decoder.list Decoder.text) [] rfl (Decoder.texts_reread _)
    |>.withDefault "warnings" (Decoder.list Decoder.text) [] rfl (Decoder.texts_reread _)

theorem fits_toJson (descriptor : StructDescriptor) (depth : Nat) :
    Fits (depth + 3) descriptor.toJson := by
  rw [toJson_eq]
  apply fits_ofFields
  have hfields := itemsFit_map (fun field : FieldDescriptor => field.fits_toJson depth)
  simp [written, Fits, hfields, fits_texts]

end StructDescriptor

namespace Transformer

def written (transformer : Transformer) : List (String × Option Json) :=
  [("id", some (.string transformer.id)), ("name", some (.string transformer.name)),
    ("inputType", some (.string transformer.inputType)),
    ("outputType", some (.string transformer.outputType)),
    ("code", some (.string transformer.code)), ("isValid", some (.bool transformer.isValid))]

theorem toJson_eq (transformer : Transformer) :
    transformer.toJson = object (ofFields transformer.written) :=
  rfl

theorem decode_reread (transformer : Transformer) :
    decode transformer.toJson.reread = .ok transformer := by
  rw [toJson_eq]
  refine Record.decode_reread _ transformer.written
    ["id", "name", "inputType", "outputType", "code", "isValid"] rfl (by decide) (by decide) ?_
  exact Record.takes_done Transformer.mk (found transformer.written)
    |>.required "id" Decoder.text rfl rfl
    |>.withDefault "name" Decoder.text "" rfl rfl
    |>.withDefault "inputType" Decoder.text "" rfl rfl
    |>.withDefault "outputType" Decoder.text "" rfl rfl
    |>.withDefault "code" Decoder.text "" rfl rfl ["bodyText"]
    |>.withDefault "isValid" Decoder.flag false rfl rfl

theorem fits_toJson (transformer : Transformer) (depth : Nat) :
    Fits (depth + 1) transformer.toJson := by
  rw [toJson_eq]
  apply fits_ofFields
  simp [written, Fits]

end Transformer

namespace NodeKind

theorem decodeWith_reread (isNothing : Json → Bool) (kind : NodeKind) :
    decodeWith isNothing kind.toJson.reread = .ok kind := by
  cases kind <;> rfl

end NodeKind

namespace NodePosition

/-- The position whose coordinates are rounded once more. -/
def reread (position : NodePosition) : NodePosition :=
  ⟨position.x.reread, position.y.reread⟩

def written (position : NodePosition) : List (String × Option Json) :=
  [("x", some (.float position.x)), ("y", some (.float position.y))]

theorem toJson_eq (position : NodePosition) :
    position.toJson = object (ofFields position.written) :=
  rfl

theorem decode_reread (position : NodePosition) :
    decode position.toJson.reread = .ok position.reread := by
  rw [toJson_eq]
  refine Record.decode_reread _ position.written ["x", "y"] rfl (by decide) (by decide) ?_
  exact Record.takes_done NodePosition.mk (found position.written)
    |>.required "x" Decoder.number rfl rfl
    |>.required "y" Decoder.number rfl rfl

theorem reread_eq {position : NodePosition} (hx : position.x.ReadsBack)
    (hy : position.y.ReadsBack) : position.reread = position := by
  rw [reread, hx.reread_eq, hy.reread_eq]

theorem fits_toJson (position : NodePosition) (depth : Nat) : Fits (depth + 1) position.toJson := by
  rw [toJson_eq]
  apply fits_ofFields
  simp [written, Fits]

end NodePosition

namespace NodeData

def written (data : NodeData) : List (String × Option Json) :=
  [("structId", data.structId.map .string), ("transformerId", data.transformerId.map .string),
    ("label", some (.string data.label))]

theorem toJson_eq (data : NodeData) : data.toJson = object (ofFields data.written) := by
  obtain ⟨structId, transformerId, label⟩ := data
  cases structId <;> cases transformerId <;> rfl

theorem decode_reread (data : NodeData) : decode data.toJson.reread = .ok data := by
  rw [toJson_eq]
  refine Record.decode_reread _ data.written ["structId", "transformerId", "label"] rfl
    (by decide) (by decide) ?_
  exact Record.takes_done NodeData.mk (found data.written)
    |>.maybe_text "structId" rfl
    |>.maybe_text "transformerId" rfl
    |>.withDefault "label" Decoder.text "" rfl rfl

theorem fits_toJson (data : NodeData) (depth : Nat) : Fits (depth + 1) data.toJson := by
  rw [toJson_eq]
  apply fits_ofFields
  simp [written, Fits]

end NodeData

namespace GraphNode

/-- The node with its coordinates rounded once more. -/
def reread (node : GraphNode) : GraphNode :=
  { node with position := node.position.map NodePosition.reread }

def written (node : GraphNode) : List (String × Option Json) :=
  [("id", some (.string node.id)), ("type", some node.kind.toJson),
    ("position", node.position.map NodePosition.toJson), ("data", some node.data.toJson)]

theorem toJson_eq (node : GraphNode) : node.toJson = object (ofFields node.written) := by
  obtain ⟨id, kind, position, data⟩ := node
  cases position <;> rfl

theorem decode_reread (isNothing : Json → Bool) (node : GraphNode) :
    decode (NodeKind.decodeWith isNothing) node.toJson.reread = .ok node.reread := by
  have hposition : ∀ position : NodePosition,
      Decoder.optional NodePosition.decode position.toJson.reread = .ok (some position.reread) := by
    intro position
    have hdecode := position.decode_reread
    change (NodePosition.decode position.toJson.reread).map some = _
    rw [hdecode]
    rfl
  rw [toJson_eq]
  refine Record.decode_reread _ node.written ["id", "type", "position", "data"] rfl
    (by decide) (of_decide_eq_true rfl) ?_
  exact Record.takes_done GraphNode.mk (found node.written)
    |>.required "id" Decoder.text rfl rfl
    |>.required "type" (NodeKind.decodeWith isNothing) rfl
      (NodeKind.decodeWith_reread isNothing node.kind)
    |>.maybe "position" NodePosition.decode rfl NodePosition.reread hposition
    |>.withDefault "data" NodeData.decode {} rfl node.data.decode_reread

theorem reread_eq {node : GraphNode}
    (hback : ∀ position ∈ node.position, position.x.ReadsBack ∧ position.y.ReadsBack) :
    node.reread = node := by
  obtain ⟨id, kind, position, data⟩ := node
  cases position with
  | none => rfl
  | some position =>
      obtain ⟨hx, hy⟩ := hback position rfl
      simp only [reread, Option.map_some, NodePosition.reread_eq hx hy]

theorem fits_toJson (node : GraphNode) (depth : Nat) : Fits (depth + 2) node.toJson := by
  have hposition := fun position : NodePosition => position.fits_toJson depth
  have hdata := node.data.fits_toJson depth
  rw [toJson_eq]
  apply fits_ofFields
  simp [written, Fits, NodeKind.toJson, hdata, hposition]

end GraphNode

namespace GraphEdge

def written (edge : GraphEdge) : List (String × Option Json) :=
  [("id", some (.string edge.id)), ("source", some (.string edge.source)),
    ("target", some (.string edge.target)), ("sourceHandle", edge.sourceHandle.map .string),
    ("targetHandle", edge.targetHandle.map .string),
    ("data", edge.transformerId.map fun id => .object [("transformerId", .string id)])]

theorem toJson_eq (edge : GraphEdge) : edge.toJson = object (ofFields edge.written) := by
  obtain ⟨id, source, target, sourceHandle, targetHandle, transformerId⟩ := edge
  cases sourceHandle <;> cases targetHandle <;> cases transformerId <;> rfl

theorem decode_reread (edge : GraphEdge) : decode edge.toJson.reread = .ok edge := by
  have hdata : ∀ id : String, decodeData (Json.object [("transformerId", .string id)]).reread =
      .ok (some id) := fun id => rfl
  rw [toJson_eq]
  refine Record.decode_reread _ edge.written
    ["id", "source", "target", "sourceHandle", "targetHandle", "data"] rfl (by decide)
    (by decide) ?_
  exact Record.takes_done GraphEdge.mk (found edge.written)
    |>.required "id" Decoder.text rfl rfl
    |>.required "source" Decoder.text rfl rfl
    |>.required "target" Decoder.text rfl rfl
    |>.maybe_text "sourceHandle" rfl
    |>.maybe_text "targetHandle" rfl
    |>.field_optional rfl (fun transformer => transformer) hdata []

theorem fits_toJson (edge : GraphEdge) (depth : Nat) : Fits (depth + 2) edge.toJson := by
  rw [toJson_eq]
  apply fits_ofFields
  simp [written, Fits, MembersFit]

end GraphEdge

namespace MappingGraph

/-- The graph with the coordinates of its nodes rounded once more. -/
def reread (graph : MappingGraph) : MappingGraph :=
  { graph with nodes := graph.nodes.map GraphNode.reread }

theorem reread_eq {graph : MappingGraph} (hback : ∀ node ∈ graph.nodes,
    ∀ position ∈ node.position, position.x.ReadsBack ∧ position.y.ReadsBack) :
    graph.reread = graph := by
  have hnode : ∀ node ∈ graph.nodes, node.reread = node :=
    fun node hnode => GraphNode.reread_eq (hback node hnode)
  rw [reread, List.map_congr_left hnode, List.map_id']

/-- A graph is taken from what is found for its nodes and edges, among other fields or not. -/
theorem takes_record (isNothing : Json → Bool) (graph : MappingGraph)
    {found : String → Option Json}
    (hnodes : found "nodes" = some (Json.array (graph.nodes.map GraphNode.toJson)).reread)
    (hedges : found "edges" = some (Json.array (graph.edges.map GraphEdge.toJson)).reread) :
    (record (NodeKind.decodeWith isNothing)).Takes found graph.reread := by
  have hreadNodes := Decoder.list_reread (GraphNode.decode_reread isNothing) graph.nodes
  have hreadEdges := Decoder.list_reread GraphEdge.decode_reread graph.edges
  rw [List.map_id'] at hreadEdges
  exact Record.takes_done MappingGraph.mk found
    |>.withDefault "nodes" (Decoder.list (GraphNode.decode (NodeKind.decodeWith isNothing))) []
      hnodes hreadNodes
    |>.withDefault "edges" (Decoder.list GraphEdge.decode) [] hedges hreadEdges

end MappingGraph

namespace Project

/-- The fields of a project document, those of its graph among them. -/
def written (project : Project) : List (String × Option Json) :=
  [("id", some (.string project.id)), ("name", some (.string project.name)),
    ("structs", some (.array (project.structs.map StructDescriptor.toJson))),
    ("nodes", some (.array (project.graph.nodes.map GraphNode.toJson))),
    ("edges", some (.array (project.graph.edges.map GraphEdge.toJson))),
    ("transformers", some (.array (project.transformers.map Transformer.toJson))),
    ("createdAt", project.createdAt.map .string), ("updatedAt", project.updatedAt.map .string)]

def keys : List String :=
  ["id", "name", "structs", "nodes", "edges", "transformers", "createdAt", "updatedAt"]

theorem toJson_eq (project : Project) : project.toJson = object (ofFields project.written) := by
  obtain ⟨id, name, structs, graph, transformers, createdAt, updatedAt⟩ := project
  cases createdAt <;> cases updatedAt <;> rfl

/-- The project as its document gives it before anything is worked out again. -/
def reread (project : Project) : Project :=
  { project with
    structs := project.structs.map StructDescriptor.withoutDiagnostics
    graph := project.graph.reread }

theorem ofMembers_graph (project : Project) :
    (MappingGraph.record NodeKind.decodeInProject).ofMembers
        (sortMembers (rereadMembers (ofFields project.written))) = .ok project.graph.reread :=
  Record.ofMembers_reread project.written keys rfl (by decide) (by decide)
    (project.graph.takes_record _ rfl rfl)

theorem ofMembers_own (project : Project) :
    record.ofMembers (sortMembers (rereadMembers (ofFields project.written))) =
      .ok fun graph => { project.reread with graph := graph } := by
  have hstructs := Decoder.list_reread StructDescriptor.decode_reread project.structs
  have htransformers := Decoder.list_reread Transformer.decode_reread project.transformers
  rw [List.map_id'] at htransformers
  refine Record.ofMembers_reread project.written keys rfl (by decide) (by decide) ?_
  exact Record.takes_done _ (found project.written)
    |>.required "id" Decoder.text rfl rfl
    |>.required "name" Decoder.text rfl rfl
    |>.withDefault "structs" (Decoder.list StructDescriptor.decode) [] rfl hstructs
    |>.withDefault "transformers" (Decoder.list Transformer.decode) [] rfl htransformers
    |>.maybe_text "createdAt" rfl
    |>.maybe_text "updatedAt" rfl

theorem decode_reread (project : Project) : decode project.toJson.reread = .ok project.reread := by
  rw [toJson_eq, Json.reread, decode, ofMembers_own]
  dsimp only
  rw [ofMembers_graph]
  rfl

theorem fits_toJson (project : Project) : Fits depthLimit project.toJson := by
  have hstructs := itemsFit_map fun descriptor : StructDescriptor => descriptor.fits_toJson 122
  have hnodes := itemsFit_map fun node : GraphNode => node.fits_toJson 123
  have hedges := itemsFit_map fun edge : GraphEdge => edge.fits_toJson 123
  have htransformers := itemsFit_map fun transformer : Transformer => transformer.fits_toJson 124
  rw [toJson_eq]
  apply fits_ofFields
  simp [written, Fits, hstructs, hnodes, hedges, htransformers]

/-- The document of a project with an id and a name is accepted. -/
theorem ofDocument_document (check : String → Bool) {project : Project} (hid : project.id ≠ "")
    (hname : project.name ≠ "") :
    ofDocument check project.document = .ok (project.reread.restored check) := by
  have hmember : ∀ key, project.toJson.reread.member? key = found project.written key := by
    rw [toJson_eq]
    exact member?_reread (by change keys.Nodup; decide)
  have hfilled : isFilled (found project.written "id") = true := by
    simp [found, written, isFilled, Json.reread, hid]
  have hnamed : isFilled (found project.written "name") = true := by
    simp [found, written, isFilled, Json.reread, hname]
  rw [ofDocument, document, read?_pretty project.fits_toJson]
  dsimp only
  rw [ofJson, hmember, hmember, hmember, hfilled, hnamed, decode_reread]
  rfl

end Project

end FieldBridge
