import FieldBridge.Graph.Handle
import FieldBridge.Number.Binary64

/-!
# Mapping graphs

Nodes show structs and transformers; edges connect their handles.  Nodes also have a
place on a canvas, which is carried along.
-/

namespace FieldBridge

/-- What a node shows. -/
inductive NodeKind where
  | struct
  | transformer
deriving DecidableEq, Repr

/-- The place of a node. -/
structure NodePosition where
  x : Binary64
  y : Binary64
deriving DecidableEq, Repr

/-- What a node refers to and is labelled with. -/
structure NodeData where
  structId : Option String := none
  transformerId : Option String := none
  label : String := ""
deriving DecidableEq, Repr, Inhabited

/-- A node of a mapping graph.  Only the reference that suits its kind counts. -/
structure GraphNode where
  id : String
  kind : NodeKind
  position : Option NodePosition := none
  data : NodeData := {}
deriving DecidableEq, Repr

namespace GraphNode

def ofStruct (id structId label : String) : GraphNode where
  id := id
  kind := .struct
  data := { structId := some structId, label := label }

def ofTransformer (id transformerId label : String) : GraphNode where
  id := id
  kind := .transformer
  data := { transformerId := some transformerId, label := label }

def isStruct (node : GraphNode) : Bool :=
  node.kind = .struct

def isTransformer (node : GraphNode) : Bool :=
  node.kind = .transformer

def structRef (node : GraphNode) : Option String :=
  match node.kind with
  | .struct => node.data.structId
  | .transformer => none

def transformerRef (node : GraphNode) : Option String :=
  match node.kind with
  | .transformer => node.data.transformerId
  | .struct => none

end GraphNode

/-- An edge from a handle of one node to a handle of another, perhaps with a
transformer of its own. -/
structure GraphEdge where
  id : String
  source : String
  target : String
  sourceHandle : Option String := none
  targetHandle : Option String := none
  transformerId : Option String := none
deriving DecidableEq, Repr

namespace GraphEdge

/-- The edge, begun at a field of a struct. -/
def fromField (edge : GraphEdge) (field : String) : GraphEdge :=
  { edge with sourceHandle := some (Handle.reading field) }

/-- The edge, ended at a field of a struct. -/
def toField (edge : GraphEdge) (field : String) : GraphEdge :=
  { edge with targetHandle := some (Handle.writing field) }

/-- The edge, begun at a transformer. -/
def fromTransformer (edge : GraphEdge) : GraphEdge :=
  { edge with sourceHandle := some Handle.transformerOutText }

/-- The edge, ended at a transformer. -/
def intoTransformer (edge : GraphEdge) : GraphEdge :=
  { edge with targetHandle := some Handle.transformerInText }

def withTransformer (edge : GraphEdge) (transformerId : String) : GraphEdge :=
  { edge with transformerId := some transformerId }

end GraphEdge

/-- Nodes and the edges between them. -/
structure MappingGraph where
  nodes : List GraphNode := []
  edges : List GraphEdge := []
deriving DecidableEq, Repr, Inhabited

namespace MappingGraph

def node? (graph : MappingGraph) (id : String) : Option GraphNode :=
  graph.nodes.find? (·.id = id)

end MappingGraph

end FieldBridge
