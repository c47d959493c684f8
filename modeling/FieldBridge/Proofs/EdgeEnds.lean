import FieldBridge.Graph.Analysis
import FieldBridge.Proofs.FieldHandles
import Mathlib.Data.List.Basic

/-!
# Ends of edges

What an edge says is told here from the lists of a graph and from its registry alone: which
edges join two nodes, which node an end stands for, where the edges at a node are listed and
what goes along an edge.  The analysis looks these things up in ways of its own, and finds
the same.
-/

namespace FieldBridge

/-- What an edge at a node carries: the transformer that the node refers to, if it is known, or
else the one that is attached to the edge. -/
def GraphNode.carries (node : GraphNode) (registry : Registry) (edge : GraphEdge) :
    Option Transformer :=
  (node.data.transformerId.bind registry.transformer?).or
    (edge.transformerId.bind registry.transformer?)

namespace MappingGraph

/-- Whether both ends of an edge are nodes. -/
def Connects (graph : MappingGraph) (edge : GraphEdge) : Prop :=
  (∃ node ∈ graph.nodes, node.id = edge.source) ∧ ∃ node ∈ graph.nodes, node.id = edge.target

instance (graph : MappingGraph) (edge : GraphEdge) : Decidable (graph.Connects edge) :=
  inferInstanceAs (Decidable ((∃ node ∈ graph.nodes, node.id = edge.source) ∧
    ∃ node ∈ graph.nodes, node.id = edge.target))

/-- The edges between nodes, in order. -/
def connected (graph : MappingGraph) : List GraphEdge :=
  graph.edges.filter fun edge => graph.Connects edge

/-- The node that an id stands for: of several with one id, the last. -/
def StandsFor (graph : MappingGraph) (id : String) (node : GraphNode) : Prop :=
  node.id = id ∧ ∃ before after, graph.nodes = before ++ node :: after ∧
    ∀ other ∈ after, other.id ≠ id

def StandsForStruct (graph : MappingGraph) (id : String) : Prop :=
  ∃ node, graph.StandsFor id node ∧ node.kind = .struct

def StandsForTransformer (graph : MappingGraph) (id : String) : Prop :=
  ∃ node, graph.StandsFor id node ∧ node.kind = .transformer

variable {graph : MappingGraph} {id : String}

theorem survivingEdges_eq_connected (graph : MappingGraph) :
    graph.survivingEdges = graph.connected := by
  apply List.filter_congr
  intro edge _
  rw [Bool.eq_iff_iff, decide_eq_true_eq]
  simp [Connects, hasNode]

theorem connects_of_mem {edge : GraphEdge} (hedge : edge ∈ graph.connected) :
    graph.Connects edge :=
  of_decide_eq_true (List.mem_filter.1 hedge).2

theorem lastNode?_eq_some_iff_standsFor {node : GraphNode} :
    graph.lastNode? id = some node ↔ graph.StandsFor id node := by
  rw [lastNode?, List.find?_eq_some_iff_append, StandsFor, decide_eq_true_eq]
  refine and_congr_right fun _ => ?_
  constructor
  · rintro ⟨after, before, hnodes, hafter⟩
    refine ⟨before.reverse, after.reverse, ?_, by simpa using hafter⟩
    rw [← List.reverse_reverse graph.nodes, hnodes]
    simp
  · rintro ⟨before, after, hnodes, hafter⟩
    exact ⟨after.reverse, before.reverse, by simp [hnodes], by simpa using hafter⟩

theorem isStructNode_iff_standsForStruct :
    graph.isStructNode id = true ↔ graph.StandsForStruct id := by
  simp only [isStructNode, Option.any_eq_true, lastNode?_eq_some_iff_standsFor,
    GraphNode.isStruct, decide_eq_true_eq, StandsForStruct]

theorem isTransformerNode_iff_standsForTransformer :
    graph.isTransformerNode id = true ↔ graph.StandsForTransformer id := by
  simp only [isTransformerNode, Option.any_eq_true, lastNode?_eq_some_iff_standsFor,
    GraphNode.isTransformer, decide_eq_true_eq, StandsForTransformer]

instance (graph : MappingGraph) (id : String) : Decidable (graph.StandsForStruct id) :=
  decidable_of_iff _ isStructNode_iff_standsForStruct

instance (graph : MappingGraph) (id : String) : Decidable (graph.StandsForTransformer id) :=
  decidable_of_iff _ isTransformerNode_iff_standsForTransformer

/-- An id of a node stands for a struct or for a transformer. -/
theorem standsForStruct_of_not (hnode : ∃ node ∈ graph.nodes, node.id = id)
    (htransformer : ¬ graph.StandsForTransformer id) : graph.StandsForStruct id := by
  cases hlast : graph.lastNode? id with
  | none =>
      obtain ⟨node, hmem, hid⟩ := hnode
      have hnone := List.find?_eq_none.1 hlast node (by simpa using hmem)
      simp [hid] at hnone
  | some node =>
      have hnode := lastNode?_eq_some_iff_standsFor.1 hlast
      cases hkind : node.kind with
      | struct => exact ⟨node, hnode, hkind⟩
      | transformer => exact absurd ⟨node, hnode, hkind⟩ htransformer

theorem not_standsForTransformer (hstruct : graph.StandsForStruct id) :
    ¬ graph.StandsForTransformer id := by
  rintro ⟨node, hnode, hkind⟩
  obtain ⟨other, hother, hkind'⟩ := hstruct
  rw [← lastNode?_eq_some_iff_standsFor] at hnode hother
  rw [hnode] at hother
  obtain rfl := Option.some.inj hother
  rw [hkind] at hkind'
  cases hkind'

theorem nodeTransformer_eq_carries {node : GraphNode} (hnode : graph.StandsFor id node)
    (hkind : node.kind = .transformer) (registry : Registry) (edge : GraphEdge) :
    graph.nodeTransformer registry id edge = node.carries registry edge := by
  rw [nodeTransformer, lastNode?_eq_some_iff_standsFor.2 hnode, Option.bind_some,
    GraphNode.transformerRef, hkind, edgeTransformer, GraphNode.carries]

theorem findIdxs_eq_map_snd (fits : GraphEdge → Bool) (edges : List GraphEdge) :
    edges.findIdxs fits = (edges.zipIdx.filter fun entry => fits entry.1).map Prod.snd := by
  rw [List.findIdxs_eq_filterMap_zipIdx, ← List.filterMap_eq_filter, List.map_filterMap]
  congr 1
  funext entry
  cases hfits : fits entry.1 <;> simp [Option.guard, hfits]

theorem placesInto_eq_findIdxs (edges : List GraphEdge) (id : String) :
    placesInto edges id = edges.findIdxs (·.target = id) :=
  (findIdxs_eq_map_snd (fun edge => edge.target = id) edges).symm

theorem placesOutOf_eq_findIdxs (edges : List GraphEdge) (id : String) :
    placesOutOf edges id = edges.findIdxs (·.source = id) :=
  (findIdxs_eq_map_snd (fun edge => edge.source = id) edges).symm

end MappingGraph

end FieldBridge
