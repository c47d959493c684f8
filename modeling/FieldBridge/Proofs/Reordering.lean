import FieldBridge.Proofs.Bystanders
import FieldBridge.Proofs.Stitching
import Mathlib.Data.List.Pairwise
import Mathlib.Data.List.Perm.Basic

/-!
# Graphs with their edges in another order

What a graph maps is said here without places: the edges between structs each make a mapping,
and at a transformer the edges in and the edges out do, position by position.  So the order of
the edges only matters where it is the order of one transformer.  There is one exception.  A
pair at a transformer that is unknown falls back to what is attached to the edge that comes
first, and two edges need not have the same attached to them.
-/

namespace FieldBridge.MappingGraph

section Settled

variable {graph : MappingGraph}

/-- The graph with one node for each id, the last one. -/
def settled (graph : MappingGraph) : MappingGraph :=
  { graph with nodes := graph.nodes.pwFilter fun node later => node.id ≠ later.id }

theorem nodup_settled (graph : MappingGraph) : (graph.settled.nodes.map GraphNode.id).Nodup :=
  List.pairwise_map.2 (List.pairwise_pwFilter graph.nodes)

theorem lastNode?_cons (node : GraphNode) (nodes : List GraphNode) (edges : List GraphEdge)
    (id : String) : lastNode? ⟨node :: nodes, edges⟩ id =
      (lastNode? ⟨nodes, edges⟩ id).or (if node.id = id then some node else none) := by
  simp only [lastNode?, List.reverse_cons, List.find?_append, List.find?_singleton,
    decide_eq_true_eq]

theorem isSome_lastNode?_iff {id : String} : (graph.lastNode? id).isSome = true ↔
    ∃ node ∈ graph.nodes, node.id = id := by
  simp [lastNode?]

theorem lastNode?_settled (graph : MappingGraph) (id : String) :
    graph.settled.lastNode? id = graph.lastNode? id := by
  obtain ⟨nodes, edges⟩ := graph
  induction nodes with
  | nil => rfl
  | cons node nodes ih =>
      rw [lastNode?_cons, ← ih]
      by_cases hnew : ∀ later ∈ nodes.pwFilter (fun node later => node.id ≠ later.id),
          node.id ≠ later.id
      · rw [settled, List.pwFilter_cons_of_pos hnew, lastNode?_cons]
        rfl
      · have hsame : (⟨node :: nodes, edges⟩ : MappingGraph).settled =
            (⟨nodes, edges⟩ : MappingGraph).settled := by
          rw [settled, List.pwFilter_cons_of_neg hnew]
          rfl
        rw [hsame]
        by_cases hid : node.id = id
        · have hlater : ((⟨nodes, edges⟩ : MappingGraph).settled.lastNode? id).isSome = true := by
            rw [isSome_lastNode?_iff]
            push Not at hnew
            obtain ⟨later, hmem, hlater⟩ := hnew
            exact ⟨later, hmem, hlater.symm.trans hid⟩
          obtain ⟨later, hlater⟩ := Option.isSome_iff_exists.1 hlater
          rw [hlater, Option.some_or]
        · rw [if_neg hid, Option.or_none]

theorem hasNode_eq_isSome (graph : MappingGraph) (id : String) :
    graph.hasNode id = (graph.lastNode? id).isSome := by
  rw [Bool.eq_iff_iff, isSome_lastNode?_iff]
  simp [hasNode]

theorem survivingEdges_settled (graph : MappingGraph) :
    graph.settled.survivingEdges = graph.survivingEdges := by
  unfold survivingEdges
  simp only [hasNode_eq_isSome, lastNode?_settled]
  rfl

theorem isTransformerNode_settled (graph : MappingGraph) (id : String) :
    graph.settled.isTransformerNode id = graph.isTransformerNode id := by
  rw [isTransformerNode, lastNode?_settled, isTransformerNode]

theorem sameEnds_settled (graph : MappingGraph) : graph.SameEnds graph.settled where
  edges_eq := survivingEdges_settled graph
  source_eq edge _ := lastNode?_settled graph edge.source
  target_eq edge _ := lastNode?_settled graph edge.target

theorem separate_settled (hseparate : graph.Separate) : graph.settled.Separate := by
  rw [separate_iff] at *
  intro edge hedge
  rw [survivingEdges_settled] at hedge
  rw [isTransformerNode_settled, isTransformerNode_settled]
  exact hseparate edge hedge

end Settled

/-- The edges from nodes into a node, in order. -/
def edgesInto (graph : MappingGraph) (id : String) : List GraphEdge :=
  graph.connected.filter (·.target = id)

/-- The edges to nodes out of a node, in order. -/
def edgesOutOf (graph : MappingGraph) (id : String) : List GraphEdge :=
  graph.connected.filter (·.source = id)

theorem edgesInto_eq (graph : MappingGraph) (id : String) :
    graph.edgesInto id = graph.survivingEdges.filter (·.target = id) := by
  rw [survivingEdges_eq_connected, edgesInto]

theorem edgesOutOf_eq (graph : MappingGraph) (id : String) :
    graph.edgesOutOf id = graph.survivingEdges.filter (·.source = id) := by
  rw [survivingEdges_eq_connected, edgesOutOf]

/-- The positions at which a node has an edge in or an edge out. -/
def positions (graph : MappingGraph) (id : String) : List Nat :=
  List.range (max (graph.edgesInto id).length (graph.edgesOutOf id).length)

/-- Whether an edge joins structs. -/
def isDirect (graph : MappingGraph) (edge : GraphEdge) : Bool :=
  graph.isStructNode edge.source && graph.isStructNode edge.target

def directMapping (registry : Registry) (edge : Option GraphEdge) : FieldMapping :=
  ⟨sourceKey edge, targetKey edge, edge.bind (edgeTransformer registry)⟩

/-- The mapping of an edge into a transformer and an edge out of it.  If the transformer is
unknown, what is attached to the edge in comes before what is attached to the edge out. -/
def joinedMapping (registry : Registry) (node : GraphNode)
    (incoming outgoing : Option GraphEdge) : FieldMapping :=
  ⟨sourceKey incoming, targetKey outgoing,
    (node.transformerRef.bind registry.transformer?).or
      ((incoming.or outgoing).bind (edgeTransformer registry))⟩

/-- The mappings of a graph in an order that does not depend on that of its edges. -/
def outline (graph : MappingGraph) (registry : Registry) : List FieldMapping :=
  ((graph.survivingEdges.filter graph.isDirect).map fun edge =>
    directMapping registry (some edge)) ++
  (graph.nodes.filter GraphNode.isTransformer).flatMap fun node =>
    (graph.positions node.id).map fun i =>
      joinedMapping registry node (graph.edgesInto node.id)[i]? (graph.edgesOutOf node.id)[i]?

section Outline

variable {graph : MappingGraph} {registry : Registry}

theorem getElem?_edgesInto (id : String) (i : Nat) :
    (graph.edgesInto id)[i]? =
      (placesInto graph.survivingEdges id)[i]?.bind (graph.survivingEdges[·]?) := by
  have hplace := congrArg (·[i]?) (@map_placesInto graph.survivingEdges id)
  simp only [List.getElem?_map] at hplace
  rw [edgesInto_eq]
  cases hleft : (placesInto graph.survivingEdges id)[i]? <;>
    cases hright : (graph.survivingEdges.filter (·.target = id))[i]? <;> simp_all

theorem getElem?_edgesOutOf (id : String) (i : Nat) :
    (graph.edgesOutOf id)[i]? =
      (placesOutOf graph.survivingEdges id)[i]?.bind (graph.survivingEdges[·]?) := by
  have hplace := congrArg (·[i]?) (@map_placesOutOf graph.survivingEdges id)
  simp only [List.getElem?_map] at hplace
  rw [edgesOutOf_eq]
  cases hleft : (placesOutOf graph.survivingEdges id)[i]? <;>
    cases hright : (graph.survivingEdges.filter (·.source = id))[i]? <;> simp_all

theorem mem_positions_iff {id : String} {i : Nat} : i ∈ graph.positions id ↔
    (placesInto graph.survivingEdges id)[i]? ≠ none ∨
      (placesOutOf graph.survivingEdges id)[i]? ≠ none := by
  rw [positions, List.mem_range, edgesInto_eq, edgesOutOf_eq, ← List.countP_eq_length_filter,
    ← List.countP_eq_length_filter, ← length_placesInto, ← length_placesOutOf]
  simp only [ne_eq, List.getElem?_eq_none_iff]
  omega

/-- The stitch at one position of a transformer. -/
def stitchAt (graph : MappingGraph) (node : GraphNode) (i : Nat) : Stitch :=
  .through node (placesInto graph.survivingEdges node.id)[i]?
    (placesOutOf graph.survivingEdges node.id)[i]?

/-- The stitches in the order of the outline. -/
def stitchList (graph : MappingGraph) : List Stitch :=
  ((graph.survivingEdges.zipIdx.filter fun entry => graph.isDirect entry.1).map Prod.snd).map
    Stitch.direct ++
  (graph.nodes.filter GraphNode.isTransformer).flatMap fun node =>
    (graph.positions node.id).map (graph.stitchAt node)

theorem mem_stitchList_iff {stitch : Stitch} :
    stitch ∈ graph.stitchList ↔ stitch.Occurs graph := by
  rw [stitchList, List.mem_append]
  cases stitch with
  | direct place =>
      simp [stitchAt, Stitch.occurs_direct_iff, isDirect, List.mem_zipIdx_iff_getElem?]
  | through node incoming outgoing =>
      simp only [List.mem_map, List.mem_flatMap, List.mem_filter, stitchAt,
        Stitch.occurs_through_iff, mem_positions_iff, Stitch.through.injEq, reduceCtorEq,
        and_false, exists_false, false_or]
      constructor
      · rintro ⟨node, ⟨hmem, htransformer⟩, i, hposition, rfl, rfl, rfl⟩
        exact ⟨hmem, htransformer, hposition, i, rfl, rfl⟩
      · rintro ⟨hmem, htransformer, hposition, i, rfl, rfl⟩
        exact ⟨node, ⟨hmem, htransformer⟩, i, hposition, rfl, rfl, rfl⟩

/-- The positions of one transformer have different stitches, because each has an edge that no
other has. -/
theorem stitchAt_injOn (node : GraphNode) {i j : Nat} (hi : i ∈ graph.positions node.id)
    (hsame : graph.stitchAt node i = graph.stitchAt node j) : i = j := by
  simp only [stitchAt, Stitch.through.injEq, true_and] at hsame
  have hinj : ∀ {places : List Nat}, places.Nodup → places[i]? ≠ none →
      places[i]? = places[j]? → i = j := by
    intro places hnodup hsome heq
    rw [ne_eq, List.getElem?_eq_none_iff, Nat.not_le] at hsome
    exact (List.getElem?_inj hsome hnodup).1 heq
  rcases mem_positions_iff.1 hi with hsome | hsome
  · exact hinj nodup_placesInto hsome hsame.1
  · exact hinj nodup_placesOutOf hsome hsame.2

theorem nodup_stitchList (hnodes : (graph.nodes.map GraphNode.id).Nodup) :
    graph.stitchList.Nodup := by
  rw [stitchList, List.nodup_append]
  refine ⟨?_, ?_, ?_⟩
  · have hplaces : ((graph.survivingEdges.zipIdx.filter fun entry =>
        graph.isDirect entry.1).map Prod.snd).Nodup :=
      (List.filter_sublist.map Prod.snd).nodup (List.nodup_zipIdx_map_snd _)
    exact hplaces.map fun place other hsame => by cases hsame; rfl
  · rw [List.nodup_flatMap]
    constructor
    · intro node _
      exact List.nodup_range.map_on fun i hi j _ hsame => stitchAt_injOn node hi hsame
    · refine (hnodes.of_map _).filter _ |>.imp ?_
      intro node other hne
      refine List.disjoint_left.2 fun stitch hstitch hother => ?_
      obtain ⟨i, _, rfl⟩ := List.mem_map.1 hstitch
      obtain ⟨j, _, hsame⟩ := List.mem_map.1 hother
      exact hne (by injection hsame.symm)
  · intro stitch hdirect other hthrough heq
    obtain ⟨place, _, rfl⟩ := List.mem_map.1 hdirect
    obtain ⟨node, _, hnode⟩ := List.mem_flatMap.1 hthrough
    obtain ⟨i, _, rfl⟩ := List.mem_map.1 hnode
    cases heq

/-- What is looked at in the mapping of a stitch does not depend on which of its edges comes
first. -/
def Outlined {α : Type} (graph : MappingGraph) (registry : Registry) (view : FieldMapping → α) :
    Prop :=
  ∀ node ∈ graph.nodes, node.isTransformer = true → ∀ i,
    view ((graph.stitchAt node i).mapping registry graph.survivingEdges) =
      view (joinedMapping registry node (graph.edgesInto node.id)[i]?
        (graph.edgesOutOf node.id)[i]?)

/-- The mappings of a graph are its outline in another order. -/
theorem perm_map_outline {α : Type} (hnodes : (graph.nodes.map GraphNode.id).Nodup)
    (hseparate : graph.Separate) {view : FieldMapping → α}
    (hview : graph.Outlined registry view) :
    ((graph.fieldMappings registry).map view).Perm ((graph.outline registry).map view) := by
  obtain ⟨stitches, hstitches⟩ := exists_stitches registry hnodes hseparate
  -- both lists have each stitch that occurs once
  have hperm : stitches.Perm graph.stitchList := by
    rw [List.perm_ext_iff_of_nodup hstitches.nodup (nodup_stitchList hnodes)]
    intro stitch
    rw [mem_stitchList_iff, hstitches.mem_iff_occurs]
  have houtline : (graph.stitchList.map
      (Stitch.mapping registry graph.survivingEdges)).map view =
        (graph.outline registry).map view := by
    rw [stitchList, outline, List.map_append, List.map_append, List.map_append]
    congr 1
    · rw [← map_places graph.isDirect (directMapping registry)]
      simp only [List.map_map]
      rfl
    · simp only [List.map_flatMap, List.map_map]
      apply List.flatMap_congr
      intro node hnode
      apply List.map_congr_left
      intro i _
      obtain ⟨hmem, htransformer⟩ := List.mem_filter.1 hnode
      exact hview node hmem htransformer i
  rw [hstitches.mappings_eq, ← houtline]
  exact (hperm.map _).map view

/-- At a transformer that is unknown, the edges that are joined have the same attached to
them. -/
def FallsBackAlike (graph : MappingGraph) (registry : Registry) : Prop :=
  ∀ node, graph.StandsFor node.id node → node.kind = .transformer →
    node.data.transformerId.bind registry.transformer? = none →
    ∀ (i : Nat) (incoming outgoing : GraphEdge), (graph.edgesInto node.id)[i]? = some incoming →
      (graph.edgesOutOf node.id)[i]? = some outgoing →
      incoming.transformerId.bind registry.transformer? =
        outgoing.transformerId.bind registry.transformer?

/-- What a pair falls back to, if it does not matter which of its edges comes first. -/
theorem fallback_eq (node : GraphNode) (i : Nat)
    (halike : ∀ incoming outgoing, (graph.edgesInto node.id)[i]? = some incoming →
      (graph.edgesOutOf node.id)[i]? = some outgoing →
      edgeTransformer registry incoming = edgeTransformer registry outgoing) :
    (((graph.stitchAt node i).places.min?.bind (graph.survivingEdges[·]?)).bind
        (edgeTransformer registry)) =
      ((graph.edgesInto node.id)[i]?.or (graph.edgesOutOf node.id)[i]?).bind
        (edgeTransformer registry) := by
  rw [getElem?_edgesInto, getElem?_edgesOutOf] at *
  rw [stitchAt, Stitch.places]
  cases hinto : (placesInto graph.survivingEdges node.id)[i]? with
  | none =>
      cases hout : (placesOutOf graph.survivingEdges node.id)[i]? <;> simp
  | some first =>
      obtain ⟨incoming, hincoming, _⟩ := mem_placesInto.1 (List.mem_of_getElem? hinto)
      cases hout : (placesOutOf graph.survivingEdges node.id)[i]? with
      | none => simp [hincoming]
      | some second =>
          obtain ⟨outgoing, houtgoing, _⟩ := mem_placesOutOf.1 (List.mem_of_getElem? hout)
          have hsame := halike incoming outgoing (by rw [hinto, Option.bind_some, hincoming])
            (by rw [hout, Option.bind_some, houtgoing])
          have hmin : [first, second].min? = some first ∨ [first, second].min? = some second := by
            simp
            omega
          rcases hmin with hmin | hmin
          · simp [hmin, hincoming]
          · simp [hmin, hincoming, houtgoing, hsame]

theorem outlined_of_fallsBackAlike (hnodes : (graph.nodes.map GraphNode.id).Nodup)
    (halike : graph.FallsBackAlike registry) :
    graph.Outlined registry fun mapping => mapping := by
  intro node hnode htransformer i
  have hkind : node.kind = .transformer := of_decide_eq_true htransformer
  have hstands := lastNode?_eq_some_iff_standsFor.1 ((lastNode?_eq_some_iff hnodes).2 ⟨hnode, rfl⟩)
  have hpair := halike node hstands hkind
  rw [joinedMapping, getElem?_edgesInto, getElem?_edgesOutOf, stitchAt, Stitch.mapping]
  congr 1
  cases hknown : node.transformerRef.bind registry.transformer? with
  | some transformer => rfl
  | none =>
      rw [GraphNode.transformerRef, hkind] at hknown
      rw [← getElem?_edgesInto, ← getElem?_edgesOutOf, Option.none_or, Option.none_or]
      exact congrArg (FieldMapping.mk _ _) (fallback_eq node i (hpair hknown i))

theorem outlined_fields (graph : MappingGraph) (registry : Registry) :
    graph.Outlined registry fun mapping => (mapping.sourceField, mapping.targetField) := by
  intro node _ _ i
  rw [joinedMapping, getElem?_edgesInto, getElem?_edgesOutOf, stitchAt, Stitch.mapping]

end Outline

/-- A graph with its edges in another order.  The edges from nodes into a transformer keep their
order, and so do those out of it. -/
structure Reorders (graph other : MappingGraph) : Prop where
  nodes_eq : other.nodes = graph.nodes
  edges_perm : other.edges.Perm graph.edges
  into_eq : ∀ node ∈ graph.nodes, graph.StandsForTransformer node.id →
    other.edgesInto node.id = graph.edgesInto node.id
  outOf_eq : ∀ node ∈ graph.nodes, graph.StandsForTransformer node.id →
    other.edgesOutOf node.id = graph.edgesOutOf node.id

namespace Reorders

variable {graph other : MappingGraph} {registry : Registry} (hreorders : graph.Reorders other)

include hreorders

theorem lastNode?_eq (id : String) : other.lastNode? id = graph.lastNode? id := by
  rw [lastNode?, hreorders.nodes_eq, lastNode?]

theorem isTransformerNode_eq (id : String) :
    other.isTransformerNode id = graph.isTransformerNode id := by
  rw [isTransformerNode, hreorders.lastNode?_eq, isTransformerNode]

theorem isStructNode_eq (id : String) : other.isStructNode id = graph.isStructNode id := by
  rw [isStructNode, hreorders.lastNode?_eq, isStructNode]

theorem survivingEdges_perm : other.survivingEdges.Perm graph.survivingEdges := by
  have hnode : ∀ id, other.hasNode id = graph.hasNode id := by
    intro id
    rw [hasNode, hreorders.nodes_eq, hasNode]
  unfold survivingEdges
  simp only [hnode]
  exact hreorders.edges_perm.filter _

theorem sends_eq (id : String) : other.sends id = graph.sends id := by
  rw [sends, sends, hreorders.isStructNode_eq, hreorders.survivingEdges_perm.any_eq]

theorem receives_eq (id : String) : other.receives id = graph.receives id := by
  rw [receives, receives, hreorders.isStructNode_eq, hreorders.survivingEdges_perm.any_eq]

theorem sourceNode?_eq : other.sourceNode? = graph.sourceNode? := by
  simp only [sourceNode?, hreorders.nodes_eq, hreorders.sends_eq, hreorders.receives_eq]

theorem targetNode?_eq : other.targetNode? = graph.targetNode? := by
  simp only [targetNode?, hreorders.nodes_eq, hreorders.sends_eq, hreorders.receives_eq]

theorem separate (hseparate : graph.Separate) : other.Separate := by
  rw [separate_iff] at *
  intro edge hedge
  rw [hreorders.isTransformerNode_eq, hreorders.isTransformerNode_eq]
  exact hseparate edge (hreorders.survivingEdges_perm.mem_iff.1 hedge)

theorem settled : graph.settled.Reorders other.settled := by
  have hinto : ∀ (graph : MappingGraph) (id : String),
      graph.settled.edgesInto id = graph.edgesInto id := by
    intro graph id
    rw [edgesInto_eq, survivingEdges_settled, edgesInto_eq]
  have hout : ∀ (graph : MappingGraph) (id : String),
      graph.settled.edgesOutOf id = graph.edgesOutOf id := by
    intro graph id
    rw [edgesOutOf_eq, survivingEdges_settled, edgesOutOf_eq]
  have hmem : ∀ node ∈ graph.settled.nodes, node ∈ graph.nodes :=
    fun node hnode => List.pwFilter_subset graph.nodes hnode
  constructor
  · rw [MappingGraph.settled, hreorders.nodes_eq, MappingGraph.settled]
  · exact hreorders.edges_perm
  · intro node hnode htransformer
    rw [← isTransformerNode_iff_standsForTransformer, isTransformerNode_settled,
      isTransformerNode_iff_standsForTransformer] at htransformer
    rw [hinto, hinto, hreorders.into_eq node (hmem node hnode) htransformer]
  · intro node hnode htransformer
    rw [← isTransformerNode_iff_standsForTransformer, isTransformerNode_settled,
      isTransformerNode_iff_standsForTransformer] at htransformer
    rw [hout, hout, hreorders.outOf_eq node (hmem node hnode) htransformer]

/-- At a transformer nothing is in another order, so the outlines only differ in the edges
between structs. -/
theorem outline_perm (hnodes : (graph.nodes.map GraphNode.id).Nodup) (registry : Registry) :
    (other.outline registry).Perm (graph.outline registry) := by
  rw [outline, outline, hreorders.nodes_eq]
  apply List.Perm.append
  · have hdirect : other.isDirect = graph.isDirect := by
      funext edge
      rw [isDirect, hreorders.isStructNode_eq, hreorders.isStructNode_eq, isDirect]
    rw [hdirect]
    exact (hreorders.survivingEdges_perm.filter _).map _
  · refine List.Perm.of_eq (List.flatMap_congr ?_)
    intro node hnode
    obtain ⟨hmem, hkind⟩ := List.mem_filter.1 hnode
    have htransformer := isTransformerNode_iff_standsForTransformer.1
      (isTransformerNode_of_mem hnodes hmem hkind)
    rw [positions, hreorders.into_eq node hmem htransformer,
      hreorders.outOf_eq node hmem htransformer, positions]

theorem fallsBackAlike (halike : graph.FallsBackAlike registry) :
    other.FallsBackAlike registry := by
  intro node hstands hkind hunknown i incoming outgoing hincoming houtgoing
  have hnode : node ∈ graph.nodes := by
    obtain ⟨_, before, after, hnodes, _⟩ := hstands
    simp [← hreorders.nodes_eq, hnodes]
  rw [← lastNode?_eq_some_iff_standsFor, hreorders.lastNode?_eq,
    lastNode?_eq_some_iff_standsFor] at hstands
  have htransformer : graph.StandsForTransformer node.id := ⟨node, hstands, hkind⟩
  rw [hreorders.into_eq node hnode htransformer] at hincoming
  rw [hreorders.outOf_eq node hnode htransformer] at houtgoing
  exact halike node hstands hkind hunknown i incoming outgoing hincoming houtgoing

theorem perm_map_fieldMappings {α : Type} (hseparate : graph.Separate) {view : FieldMapping → α}
    (hview : graph.settled.Outlined registry view)
    (hother : other.settled.Outlined registry view) :
    ((other.fieldMappings registry).map view).Perm ((graph.fieldMappings registry).map view) := by
  have hsettled := hreorders.settled
  have hleft := perm_map_outline (nodup_settled graph) (separate_settled hseparate) hview
  have hright := perm_map_outline (nodup_settled other)
    (separate_settled (hreorders.separate hseparate)) hother
  have houtline := (hsettled.outline_perm (nodup_settled graph) registry).map view
  rw [(sameEnds_settled graph).fieldMappings] at hleft
  rw [(sameEnds_settled other).fieldMappings] at hright
  exact hright.trans (houtline.trans hleft.symm)

end Reorders

theorem fallsBackAlike_settled {graph : MappingGraph} {registry : Registry}
    (halike : graph.FallsBackAlike registry) : graph.settled.FallsBackAlike registry := by
  intro node hstands hkind hunknown i incoming outgoing hincoming houtgoing
  rw [← lastNode?_eq_some_iff_standsFor, lastNode?_settled,
    lastNode?_eq_some_iff_standsFor] at hstands
  rw [edgesInto_eq, survivingEdges_settled, ← edgesInto_eq] at hincoming
  rw [edgesOutOf_eq, survivingEdges_settled, ← edgesOutOf_eq] at houtgoing
  exact halike node hstands hkind hunknown i incoming outgoing hincoming houtgoing

/-- In whatever order the edges are listed, as long as each transformer has its edges in and
its edges out in the same order, the same structs are mapped and the same fields are joined.
The mappings are the same, transformers included, if the pairs at unknown transformers fall
back alike. -/
theorem analyze_of_reorders (graph other : MappingGraph) (registry : Registry)
    (hseparate : graph.Separate) (hreorders : graph.Reorders other) :
    List.Forall₂ (fun spec reordered =>
        reordered.sourceStruct = spec.sourceStruct ∧ reordered.targetStruct = spec.targetStruct ∧
        (reordered.fieldMappings.map fun mapping =>
            (mapping.sourceField, mapping.targetField)).Perm
          (spec.fieldMappings.map fun mapping => (mapping.sourceField, mapping.targetField)) ∧
        (graph.FallsBackAlike registry → reordered.fieldMappings.Perm spec.fieldMappings))
      (graph.analyze registry) (other.analyze registry) := by
  have hfields := hreorders.perm_map_fieldMappings hseparate
    (outlined_fields graph.settled registry) (outlined_fields other.settled registry)
  have hmappings : graph.FallsBackAlike registry →
      (other.fieldMappings registry).Perm (graph.fieldMappings registry) := by
    intro halike
    have hboth := hreorders.perm_map_fieldMappings hseparate
      (outlined_of_fallsBackAlike (nodup_settled graph) (fallsBackAlike_settled halike))
      (outlined_of_fallsBackAlike (nodup_settled other)
        (fallsBackAlike_settled (hreorders.fallsBackAlike halike)))
    rwa [List.map_id', List.map_id'] at hboth
  unfold analyze
  rw [hreorders.sourceNode?_eq, hreorders.targetNode?_eq]
  cases graph.sourceNode? with
  | none => exact .nil
  | some source =>
      cases graph.targetNode? with
      | none => exact .nil
      | some target =>
          dsimp only
          cases source.structRef.bind registry.struct? with
          | none => exact .nil
          | some sourceStruct =>
              cases target.structRef.bind registry.struct? with
              | none => exact .nil
              | some targetStruct => exact .cons ⟨rfl, rfl, hfields, hmappings⟩ .nil

/-- Two structs and a transformer between them that no registry of three entries knows.  To the
edge into it another transformer is attached. -/
def unknownJoin : MappingGraph where
  nodes := [.ofStruct "from" "a" "", .ofTransformer "join" "lost" "", .ofStruct "to" "b" ""]
  edges := [⟨"1", "from", "join", none, none, some "f"⟩, ⟨"2", "join", "to", none, none, none⟩]

/-- With the edge out of the transformer first, what is attached to the edge into it is lost. -/
theorem not_perm_unknownJoin_reverse :
    ¬ ∀ (graph other : MappingGraph) (registry : Registry), graph.Separate →
      graph.Reorders other →
        List.Forall₂ (fun spec reordered => reordered.fieldMappings.Perm spec.fieldMappings)
          (graph.analyze registry) (other.analyze registry) := by
  intro hall
  have hreorders : unknownJoin.Reorders { unknownJoin with edges := unknownJoin.edges.reverse } :=
    ⟨rfl, List.reverse_perm _, by decide, by decide⟩
  have hspecs := hall _ _ threeEntries (by decide) hreorders
  have hfirst : unknownJoin.analyze threeEntries = [⟨some { id := "a" }, some { id := "b" },
      [⟨"unknown", "unknown", some { id := "f" }⟩]⟩] := by decide
  have hsecond : analyze { unknownJoin with edges := unknownJoin.edges.reverse } threeEntries =
      [⟨some { id := "a" }, some { id := "b" }, [⟨"unknown", "unknown", none⟩]⟩] := by decide
  rw [hfirst, hsecond] at hspecs
  obtain ⟨hperm, _⟩ := List.forall₂_cons.1 hspecs
  simp at hperm

/-- The crossing transformers, with the one that is known attached to every edge. -/
def crossingAlike : MappingGraph :=
  { crossing with edges := crossing.edges.map (·.withTransformer "f") }

/-- The same with the edges of the first transformer listed the other way round. -/
def crossingReordered : MappingGraph :=
  { crossingAlike with
    edges := ["4", "5", "1", "3", "6", "7", "2"].flatMap fun id =>
      crossingAlike.edges.filter (·.id = id) }

theorem analyze_of_reorders_crossing :
    List.Forall₂ (fun spec reordered =>
        reordered.sourceStruct = spec.sourceStruct ∧ reordered.targetStruct = spec.targetStruct ∧
        reordered.fieldMappings.Perm spec.fieldMappings)
      (crossingAlike.analyze threeEntries) (crossingReordered.analyze threeEntries) := by
  have hreorders : crossingAlike.Reorders crossingReordered :=
    ⟨rfl, by decide, by decide, by decide⟩
  have hattached : ∀ edge ∈ crossingAlike.connected,
      edge.transformerId.bind threeEntries.transformer? = some { id := "f" } := by
    decide
  have halike : crossingAlike.FallsBackAlike threeEntries := by
    intro node _ _ _ i incoming outgoing hincoming houtgoing
    rw [hattached incoming (List.mem_filter.1 (List.mem_of_getElem? hincoming)).1,
      hattached outgoing (List.mem_filter.1 (List.mem_of_getElem? houtgoing)).1]
  refine (analyze_of_reorders crossingAlike crossingReordered threeEntries (by decide)
    hreorders).imp ?_
  rintro spec reordered ⟨hsource, htarget, _, hmappings⟩
  exact ⟨hsource, htarget, hmappings halike⟩

end FieldBridge.MappingGraph
