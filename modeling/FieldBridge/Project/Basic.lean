import FieldBridge.Code.Function
import FieldBridge.Graph.Analysis

/-!
# Projects

A project holds structs, transformers and the graph that connects them.  Removing
a struct, a transformer or a node also removes the edges that lose an end.  A
project compiles to a unit, and to a file when the unit has no errors.
-/

namespace FieldBridge

/-- A project document. -/
structure Project where
  id : String
  name : String
  structs : List StructDescriptor := []
  graph : MappingGraph := {}
  transformers : List Transformer := []
  createdAt : Option String := none
  updatedAt : Option String := none
deriving DecidableEq, Repr

namespace Project

/-- The graph without the nodes that have an id among `ids`, and without the edges
that touch one. -/
def dropNodes (graph : MappingGraph) (ids : List String) : MappingGraph where
  nodes := graph.nodes.filter fun node => node.id ∉ ids
  edges := graph.edges.filter fun edge => edge.source ∉ ids && edge.target ∉ ids

/-- The project without the nodes that are `doomed`, and without what depends on
their ids. -/
def withoutNodes (project : Project) (doomed : GraphNode → Bool) : Project :=
  { project with
    graph := dropNodes project.graph ((project.graph.nodes.filter doomed).map (·.id)) }

def removeStruct (project : Project) (id : String) : Project :=
  withoutNodes { project with structs := project.structs.filter (·.id ≠ id) }
    fun node => node.structRef = some id

def removeTransformer (project : Project) (id : String) : Project :=
  withoutNodes { project with transformers := project.transformers.filter (·.id ≠ id) }
    fun node => node.transformerRef = some id

def removeNode (project : Project) (id : String) : Project :=
  project.withoutNodes fun node => node.id = id

def removeEdge (project : Project) (id : String) : Project :=
  { project with
    graph := { project.graph with edges := project.graph.edges.filter (·.id ≠ id) } }

def replaceFirst {α : Type} (fits : α → Bool) (new : α) : List α → List α
  | [] => []
  | entry :: rest => if fits entry then new :: rest else entry :: replaceFirst fits new rest

def replaceStruct (project : Project) (descriptor : StructDescriptor) : Project :=
  { project with
    structs := replaceFirst (fun entry => entry.id = descriptor.id) descriptor project.structs }

def replaceTransformer (project : Project) (transformer : Transformer) : Project :=
  { project with
    transformers :=
      replaceFirst (fun entry => entry.id = transformer.id) transformer project.transformers }

def addStruct (project : Project) (descriptor : StructDescriptor) : Project :=
  { project with structs := project.structs ++ [descriptor] }

def addTransformer (project : Project) (transformer : Transformer) : Project :=
  { project with transformers := project.transformers ++ [transformer] }

def addNode (project : Project) (node : GraphNode) : Project :=
  { project with graph := { project.graph with nodes := project.graph.nodes ++ [node] } }

def addEdge (project : Project) (edge : GraphEdge) : Project :=
  { project with graph := { project.graph with edges := project.graph.edges ++ [edge] } }

def registry (project : Project) : Registry :=
  Registry.ofLists project.structs project.transformers

/-- A compiled project: its unit, and its file unless the unit has errors. -/
structure Compiled where
  unit : Code.GeneratedUnit
  file : Option String
deriving DecidableEq, Repr

def compile (project : Project) (options : Code.Options) : Compiled :=
  let specs := project.graph.analyze project.registry
  let unit := Code.generateAll specs project.transformers options
  ⟨unit, if unit.isOk then some (unit.file options.packageName) else none⟩

end Project

end FieldBridge
