import FieldBridge.Graph.Basic
import FieldBridge.Graph.Mapping
import FieldBridge.Graph.Registry

/-!
# Analysis of mapping graphs

A graph maps the first struct node that only sends to the first struct node that
only receives.  Edges with an end that is no node are left out.  The others fall
into routes: an edge between structs is a route of its own, and at a transformer
the edges in and the edges out are joined in order, the first to the first.  Every
route makes one field mapping.
-/

namespace FieldBridge

namespace MappingGraph

/-- The node that an id stands for: of several with one id, the last. -/
def lastNode? (graph : MappingGraph) (id : String) : Option GraphNode :=
  graph.nodes.reverse.find? (·.id = id)

def isStructNode (graph : MappingGraph) (id : String) : Bool :=
  (graph.lastNode? id).any GraphNode.isStruct

def isTransformerNode (graph : MappingGraph) (id : String) : Bool :=
  (graph.lastNode? id).any GraphNode.isTransformer

def hasNode (graph : MappingGraph) (id : String) : Bool :=
  graph.nodes.any (·.id = id)

def survivingEdges (graph : MappingGraph) : List GraphEdge :=
  graph.edges.filter fun edge => graph.hasNode edge.source && graph.hasNode edge.target

def sends (graph : MappingGraph) (id : String) : Bool :=
  graph.isStructNode id && graph.survivingEdges.any (·.source = id)

def receives (graph : MappingGraph) (id : String) : Bool :=
  graph.isStructNode id && graph.survivingEdges.any (·.target = id)

def sourceNode? (graph : MappingGraph) : Option GraphNode :=
  graph.nodes.find? fun node =>
    node.isStruct && graph.sends node.id && !graph.receives node.id

def targetNode? (graph : MappingGraph) : Option GraphNode :=
  graph.nodes.find? fun node =>
    node.isStruct && graph.receives node.id && !graph.sends node.id

/-- The places, in a list of edges, of the edges into a node. -/
def placesInto (edges : List GraphEdge) (id : String) : List Nat :=
  (edges.zipIdx.filter (·.1.target = id)).map Prod.snd

/-- The places, in a list of edges, of the edges out of a node. -/
def placesOutOf (edges : List GraphEdge) (id : String) : List Nat :=
  (edges.zipIdx.filter (·.1.source = id)).map Prod.snd

/-- The place in `other` that is as far along as `place` is in `own`. -/
def counterpart? (own other : List Nat) (place : Nat) : Option Nat :=
  (own.idxOf? place).bind (other[·]?)

/-- What the edge at a place is part of: an edge between structs, an edge into a
transformer with the edge it is joined to, or an edge out of one. -/
inductive Route where
  | direct (place : Nat)
  | into (place : Nat) (next : Option Nat)
  | outOf (place : Nat) (previous : Option Nat)
deriving DecidableEq, Repr

namespace Route

/-- The places of the edges of a route, from the one it was begun with. -/
def places : Route → List Nat
  | direct place => [place]
  | into place next => place :: next.toList.filter (· ≠ place)
  | outOf place previous => place :: previous.toList.filter (· ≠ place)

end Route

/-- The route of the edge at a place, when the edges at the `used` places are part
of other routes. -/
def routeOf (graph : MappingGraph) (edges : List GraphEdge) (used : List Nat)
    (edge : GraphEdge) (place : Nat) : Route :=
  let free (other : Option Nat) := other.filter fun other => other ∉ used
  if graph.isTransformerNode edge.target then
    .into place (free
      (counterpart? (placesInto edges edge.target) (placesOutOf edges edge.target) place))
  else if graph.isTransformerNode edge.source then
    .outOf place (free
      (counterpart? (placesOutOf edges edge.source) (placesInto edges edge.source) place))
  else .direct place

/-- The routes of the edges that are left, each with its place, when the edges at
the `used` places are part of other routes. -/
def routesFrom (graph : MappingGraph) (edges : List GraphEdge) (used : List Nat) :
    List (GraphEdge × Nat) → List Route
  | [] => []
  | (edge, place) :: rest =>
    if place ∈ used then routesFrom graph edges used rest
    else
      let route := graph.routeOf edges used edge place
      route :: routesFrom graph edges (route.places ++ used) rest

/-- The routes of a graph, in the order of their first edges. -/
def routes (graph : MappingGraph) : List Route :=
  graph.routesFrom graph.survivingEdges [] graph.survivingEdges.zipIdx

def edgeTransformer (registry : Registry) (edge : GraphEdge) : Option Transformer :=
  edge.transformerId.bind registry.transformer?

/-- The transformer of a node, or else the one of an edge at it. -/
def nodeTransformer (graph : MappingGraph) (registry : Registry) (id : String)
    (edge : GraphEdge) : Option Transformer :=
  (((graph.lastNode? id).bind GraphNode.transformerRef).bind registry.transformer?).or
    (edgeTransformer registry edge)

/-- The field an edge reads, when there is an edge. -/
def sourceKey (edge : Option GraphEdge) : String :=
  Handle.fieldKey (edge.bind GraphEdge.sourceHandle)

/-- The field an edge writes, when there is an edge. -/
def targetKey (edge : Option GraphEdge) : String :=
  Handle.fieldKey (edge.bind GraphEdge.targetHandle)

def fieldMapping? (graph : MappingGraph) (registry : Registry) (edges : List GraphEdge) :
    Route → Option FieldMapping
  | .direct place =>
    edges[place]?.map fun edge =>
      ⟨sourceKey (some edge), targetKey (some edge), edgeTransformer registry edge⟩
  | .into place next =>
    edges[place]?.map fun edge =>
      ⟨sourceKey (some edge), targetKey (next.bind (edges[·]?)),
        graph.nodeTransformer registry edge.target edge⟩
  | .outOf place previous =>
    edges[place]?.map fun edge =>
      ⟨sourceKey (previous.bind (edges[·]?)), targetKey (some edge),
        graph.nodeTransformer registry edge.source edge⟩

def fieldMappings (graph : MappingGraph) (registry : Registry) : List FieldMapping :=
  graph.routes.filterMap (graph.fieldMapping? registry graph.survivingEdges)

/-- The mappings that a graph describes: none, or one. -/
def analyze (graph : MappingGraph) (registry : Registry) : List MappingSpec :=
  match graph.sourceNode?, graph.targetNode? with
  | some source, some target =>
    match source.structRef.bind registry.struct?, target.structRef.bind registry.struct? with
    | some sourceStruct, some targetStruct =>
      [⟨some sourceStruct, some targetStruct, graph.fieldMappings registry⟩]
    | _, _ => []
  | _, _ => []

end MappingGraph

end FieldBridge
