import FieldBridge.Json.Record
import FieldBridge.Project.Basic
import FieldBridge.Transformer.Catalog

/-!
# The JSON forms of project data

Every type of a project has one written form, in which fields stand in a fixed
order and fields without a value are left out.  Reading also takes some older
names of fields.
-/

namespace FieldBridge

open Json

namespace FieldDescriptor

def record : Record FieldDescriptor :=
  ((((((Record.done FieldDescriptor.mk
    |>.required "name" Decoder.text)
    |>.required "type" Decoder.text)
    |>.withDefault "isPointer" Decoder.flag false)
    |>.withDefault "isSlice" Decoder.flag false)
    |>.withDefault "isMap" Decoder.flag false)
    |>.maybe "tagValue" Decoder.text ["jsonTag"])
    |>.maybe "tag" Decoder.text

def decode : Decoder FieldDescriptor :=
  record.decode "FieldDescriptor"

def toJson (field : FieldDescriptor) : Json :=
  present [
    always "name" (.string field.name),
    always "type" (.string field.type),
    always "isPointer" (.bool field.isPointer),
    always "isSlice" (.bool field.isSlice),
    always "isMap" (.bool field.isMap),
    whenText "tagValue" field.tagValue,
    whenText "tag" field.tag]

end FieldDescriptor

namespace StructDescriptor

/-- The fields of a struct descriptor.  Diagnostics are not among them. -/
def record : Record StructDescriptor :=
  ((((((Record.done (fun id name fields sourceText isValid errors warnings =>
      StructDescriptor.mk id name fields sourceText isValid errors warnings [])
    |>.required "id" Decoder.text)
    |>.withDefault "name" Decoder.text "")
    |>.withDefault "fields" (Decoder.list FieldDescriptor.decode) [])
    |>.withDefault "sourceText" Decoder.text "" ["rawCode"])
    |>.withDefault "isValid" Decoder.flag false)
    |>.withDefault "errors" (Decoder.list Decoder.text) [])
    |>.withDefault "warnings" (Decoder.list Decoder.text) []

def decode : Decoder StructDescriptor :=
  record.decode "StructDescriptor"

def toJson (descriptor : StructDescriptor) : Json :=
  present [
    always "id" (.string descriptor.id),
    always "name" (.string descriptor.name),
    always "fields" (.array (descriptor.fields.map FieldDescriptor.toJson)),
    always "sourceText" (.string descriptor.sourceText),
    always "isValid" (.bool descriptor.isValid),
    always "errors" (texts descriptor.errors),
    always "warnings" (texts descriptor.warnings)]

end StructDescriptor

namespace Transformer

def record : Record Transformer :=
  ((((((Record.done Transformer.mk
    |>.required "id" Decoder.text)
    |>.withDefault "name" Decoder.text "")
    |>.withDefault "inputType" Decoder.text "")
    |>.withDefault "outputType" Decoder.text "")
    |>.withDefault "code" Decoder.text "" ["bodyText"])
    |>.withDefault "isValid" Decoder.flag false)

def decode : Decoder Transformer :=
  record.decode "TransformerDescriptor"

def toJson (transformer : Transformer) : Json :=
  present [
    always "id" (.string transformer.id),
    always "name" (.string transformer.name),
    always "inputType" (.string transformer.inputType),
    always "outputType" (.string transformer.outputType),
    always "code" (.string transformer.code),
    always "isValid" (.bool transformer.isValid)]

def Template.toJson (template : Template) : Json :=
  present [
    always "id" (.string template.id),
    always "name" (.string template.name),
    always "description" (.string template.description),
    always "inputType" (.string template.inputType),
    always "outputType" (.string template.outputType),
    always "code" (.string template.code)]

end Transformer

namespace NodeKind

def text : NodeKind → String
  | struct => "struct"
  | transformer => "transformer"

def ofText (name : String) : Except Fault NodeKind :=
  if name = struct.text then .ok struct
  else if name = transformer.text then .ok transformer
  else .error (.unknownVariant name [struct.text, transformer.text])

/-- Takes a kind of node out of JSON: its name, or an object with its name as the
only key and a value that stands for nothing. -/
def decodeWith (isNothing : Json → Bool) : Decoder NodeKind
  | .string name => ofText name
  | .object [(name, value)] =>
    match ofText name with
    | .error fault => .error fault
    | .ok kind => if isNothing value then .ok kind else Decoder.refuse value "unit"
  | .object _ => .error .notSingle
  | value => Decoder.refuse value "string or map"

/-- Takes a kind of node out of JSON that holds no more than a graph. -/
def decode : Decoder NodeKind :=
  decodeWith fun
    | .null => true
    | _ => false

/-- Takes a kind of node out of a project, where an empty object stands for nothing
as well. -/
def decodeInProject : Decoder NodeKind :=
  decodeWith fun
    | .null => true
    | .object [] => true
    | _ => false

def toJson (kind : NodeKind) : Json :=
  .string kind.text

end NodeKind

namespace NodePosition

def record : Record NodePosition :=
  (Record.done NodePosition.mk
    |>.required "x" Decoder.number)
    |>.required "y" Decoder.number

def decode : Decoder NodePosition :=
  record.decode "NodePosition"

def toJson (position : NodePosition) : Json :=
  .object [("x", .float position.x), ("y", .float position.y)]

end NodePosition

namespace NodeData

def record : Record NodeData :=
  ((Record.done NodeData.mk
    |>.maybe "structId" Decoder.text)
    |>.maybe "transformerId" Decoder.text)
    |>.withDefault "label" Decoder.text ""

def decode : Decoder NodeData :=
  record.decode "NodeData"

def toJson (data : NodeData) : Json :=
  present [
    whenText "structId" data.structId,
    whenText "transformerId" data.transformerId,
    always "label" (.string data.label)]

end NodeData

namespace GraphNode

/-- The fields of a node, with a way to take its kind. -/
def record (kind : Decoder NodeKind) : Record GraphNode :=
  (((Record.done GraphNode.mk
    |>.required "id" Decoder.text)
    |>.required "type" kind)
    |>.maybe "position" NodePosition.decode)
    |>.withDefault "data" NodeData.decode {}

def decode (kind : Decoder NodeKind) : Decoder GraphNode :=
  (record kind).decode "GraphNode"

def toJson (node : GraphNode) : Json :=
  present [
    always "id" (.string node.id),
    always "type" node.kind.toJson,
    node.position.map fun position => ("position", position.toJson),
    always "data" node.data.toJson]

end GraphNode

namespace GraphEdge

def dataRecord : Record (Option String) :=
  Record.done (fun (transformer : Option String) => transformer)
    |>.maybe "transformerId" Decoder.text

def decodeData : Decoder (Option String) :=
  dataRecord.decode "EdgeData"

def record : Record GraphEdge :=
  (((((Record.done GraphEdge.mk
    |>.required "id" Decoder.text)
    |>.required "source" Decoder.text)
    |>.required "target" Decoder.text)
    |>.maybe "sourceHandle" Decoder.text)
    |>.maybe "targetHandle" Decoder.text)
    |>.withDefault "data" decodeData none

def decode : Decoder GraphEdge :=
  record.decode "GraphEdge"

def toJson (edge : GraphEdge) : Json :=
  present [
    always "id" (.string edge.id),
    always "source" (.string edge.source),
    always "target" (.string edge.target),
    whenText "sourceHandle" edge.sourceHandle,
    whenText "targetHandle" edge.targetHandle,
    edge.transformerId.map fun id => ("data", .object [("transformerId", .string id)])]

end GraphEdge

namespace MappingGraph

/-- The fields of a graph, with a way to take the kinds of its nodes. -/
def record (kind : Decoder NodeKind) : Record MappingGraph :=
  (Record.done MappingGraph.mk
    |>.withDefault "nodes" (Decoder.list (GraphNode.decode kind)) [])
    |>.withDefault "edges" (Decoder.list GraphEdge.decode) []

def decode : Decoder MappingGraph :=
  (record NodeKind.decode).decode "MappingGraph"

def members (graph : MappingGraph) : List (String × Json) :=
  [("nodes", .array (graph.nodes.map GraphNode.toJson)),
    ("edges", .array (graph.edges.map GraphEdge.toJson))]

def toJson (graph : MappingGraph) : Json :=
  .object graph.members

end MappingGraph

namespace FieldMapping

def record : Record FieldMapping :=
  ((Record.done FieldMapping.mk
    |>.required "sourceField" Decoder.text)
    |>.required "targetField" Decoder.text)
    |>.maybe "transformer" Transformer.decode

def decode : Decoder FieldMapping :=
  record.decode "FieldMapping"

def toJson (mapping : FieldMapping) : Json :=
  present [
    always "sourceField" (.string mapping.sourceField),
    always "targetField" (.string mapping.targetField),
    mapping.transformer.map fun transformer => ("transformer", transformer.toJson)]

end FieldMapping

namespace MappingSpec

def record : Record MappingSpec :=
  ((Record.done MappingSpec.mk
    |>.maybe "sourceStruct" StructDescriptor.decode)
    |>.maybe "targetStruct" StructDescriptor.decode)
    |>.withDefault "fieldMappings" (Decoder.list FieldMapping.decode) []

def decode : Decoder MappingSpec :=
  record.decode "MappingSpec"

def toJson (spec : MappingSpec) : Json :=
  present [
    spec.sourceStruct.map fun descriptor => ("sourceStruct", descriptor.toJson),
    spec.targetStruct.map fun descriptor => ("targetStruct", descriptor.toJson),
    always "fieldMappings" (.array (spec.fieldMappings.map FieldMapping.toJson))]

end MappingSpec

namespace Code

namespace ImportSet

def decode : Decoder ImportSet := fun value =>
  (Decoder.list Decoder.text value).map ofList

def toJson (set : ImportSet) : Json :=
  texts set.packages

end ImportSet

namespace GeneratedUnit

def record : Record GeneratedUnit :=
  (((Record.done GeneratedUnit.mk
    |>.required "functionName" Decoder.text)
    |>.required "code" Decoder.text ["bodyText"])
    |>.required "imports" ImportSet.decode)
    |>.required "errors" (Decoder.list Decoder.text)

def decode : Decoder GeneratedUnit :=
  record.decode "GeneratedUnit"

def toJson (unit : GeneratedUnit) : Json :=
  .object [
    ("functionName", .string unit.functionName),
    ("code", .string unit.code),
    ("imports", unit.imports.toJson),
    ("errors", texts unit.errors)]

end GeneratedUnit

end Code

namespace Project

def record : Record (MappingGraph → Project) :=
  (((((Record.done (fun id name structs transformers createdAt updatedAt graph =>
      Project.mk id name structs graph transformers createdAt updatedAt)
    |>.required "id" Decoder.text)
    |>.required "name" Decoder.text)
    |>.withDefault "structs" (Decoder.list StructDescriptor.decode) [])
    |>.withDefault "transformers" (Decoder.list Transformer.decode) [])
    |>.maybe "createdAt" Decoder.text)
    |>.maybe "updatedAt" Decoder.text

/-- Takes a project out of JSON: its own fields first, and then those of its graph. -/
def decode : Decoder Project
  | .object members =>
    match record.ofMembers members with
    | .error fault => .error fault
    | .ok make =>
      match (MappingGraph.record NodeKind.decodeInProject).ofMembers members with
      | .error fault => .error fault.inSequence
      | .ok graph => .ok (make graph)
  | value => Decoder.refuse value "struct FlowConfig"

def toJson (project : Project) : Json :=
  .object ([
    ("id", Json.string project.id),
    ("name", Json.string project.name),
    ("structs", Json.array (project.structs.map StructDescriptor.toJson))] ++
    project.graph.members ++
    [("transformers", Json.array (project.transformers.map Transformer.toJson))] ++
    (whenText "createdAt" project.createdAt).toList ++
    (whenText "updatedAt" project.updatedAt).toList)

end Project

end FieldBridge
