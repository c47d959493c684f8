import FieldBridge.Proofs.Routes
import Mathlib.Data.List.Nodup
import Mathlib.Data.List.Sigma

/-!
# Stitching at transformers

When no edge has a transformer at both ends, every edge stands in the order of one
transformer at most, and what it is joined to does not depend on the pass over the edges:
the first edge in with the first edge out, and so on.  The pass may meet either of them
first.  Its invariant is that the used places are whole stitches, so the edge that stands
opposite to an unused one is unused as well.
-/

namespace FieldBridge.MappingGraph

/-- What makes one mapping: an edge between structs, or what stands at one position of a
transformer, which is an edge into it, an edge out of it, or both. -/
inductive Stitch where
  | direct (place : Nat)
  | through (node : GraphNode) (incoming outgoing : Option Nat)

namespace Stitch

def places : Stitch → List Nat
  | direct place => [place]
  | through _ incoming outgoing => incoming.toList ++ outgoing.toList

/-- The stitches of a graph: each edge between structs, and at each transformer the edges
in and the edges out, position by position. -/
def Occurs (graph : MappingGraph) : Stitch → Prop
  | direct place => ∃ edge, graph.connected[place]? = some edge ∧
      graph.StandsForStruct edge.source ∧ graph.StandsForStruct edge.target
  | through node incoming outgoing => node ∈ graph.nodes ∧ node.kind = .transformer ∧
      (incoming ≠ none ∨ outgoing ≠ none) ∧
      ∃ i : Nat, (graph.connected.findIdxs (·.target = node.id))[i]? = incoming ∧
        (graph.connected.findIdxs (·.source = node.id))[i]? = outgoing

/-- The mapping that a stitch makes.  A field is unknown where no edge names it, and at a
transformer it is the earliest edge that stands in for an unknown one. -/
def Makes (graph : MappingGraph) (registry : Registry) : Stitch → FieldMapping → Prop
  | direct place, mapping => ∃ edge, graph.connected[place]? = some edge ∧
      Handle.Names edge.sourceHandle mapping.sourceField ∧
      Handle.Names edge.targetHandle mapping.targetField ∧
      mapping.transformer = edge.transformerId.bind registry.transformer?
  | through node incoming outgoing, mapping =>
      Handle.Names ((incoming.bind (graph.connected[·]?)).bind GraphEdge.sourceHandle)
        mapping.sourceField ∧
      Handle.Names ((outgoing.bind (graph.connected[·]?)).bind GraphEdge.targetHandle)
        mapping.targetField ∧
      ∃ place edge, (incoming.toList ++ outgoing.toList).min? = some place ∧
        graph.connected[place]? = some edge ∧
        mapping.transformer = node.carries registry edge

/-- The mapping that the pass over the edges gives a stitch. -/
def mapping (registry : Registry) (edges : List GraphEdge) : Stitch → FieldMapping
  | direct place =>
    ⟨sourceKey edges[place]?, targetKey edges[place]?,
      edges[place]?.bind (edgeTransformer registry)⟩
  | through node incoming outgoing =>
    ⟨sourceKey (incoming.bind (edges[·]?)), targetKey (outgoing.bind (edges[·]?)),
      (node.transformerRef.bind registry.transformer?).or
        (((incoming.toList ++ outgoing.toList).min?.bind (edges[·]?)).bind
          (edgeTransformer registry))⟩

end Stitch

section Order

variable {edges : List GraphEdge} {id : String}

theorem nodup_placesInto : (placesInto edges id).Nodup := by
  exact (List.filter_sublist.map Prod.snd).nodup (List.nodup_zipIdx_map_snd edges)

theorem nodup_placesOutOf : (placesOutOf edges id).Nodup := by
  exact (List.filter_sublist.map Prod.snd).nodup (List.nodup_zipIdx_map_snd edges)

/-- The places of some edges lead back to these edges. -/
theorem map_places {α : Type} (fits : GraphEdge → Bool) (view : Option GraphEdge → α) :
    ((edges.zipIdx.filter fun entry => fits entry.1).map Prod.snd).map
        (fun place => view edges[place]?) =
      (edges.filter fits).map fun edge => view (some edge) := by
  have hentries : ((edges.zipIdx.filter fun entry => fits entry.1).map Prod.snd).map
      (fun place => view edges[place]?) =
        ((edges.zipIdx.filter (fits ∘ Prod.fst)).map Prod.fst).map
          fun edge => view (some edge) := by
    rw [List.map_map, List.map_map]
    apply List.map_congr_left
    intro entry hentry
    have hplace := List.mem_zipIdx_iff_getElem?.1 (List.mem_filter.1 hentry).1
    rw [Function.comp_apply, hplace]
    rfl
  rw [hentries, ← List.filter_map, List.zipIdx_map_fst]

theorem map_placesInto : (placesInto edges id).map (edges[·]?) =
    (edges.filter (·.target = id)).map some :=
  map_places (fun edge => edge.target = id) fun edge => edge

theorem map_placesOutOf : (placesOutOf edges id).map (edges[·]?) =
    (edges.filter (·.source = id)).map some :=
  map_places (fun edge => edge.source = id) fun edge => edge

theorem length_placesInto : (placesInto edges id).length = edges.countP (·.target = id) := by
  have hlength := congrArg List.length (@map_placesInto edges id)
  rwa [List.length_map, List.length_map, ← List.countP_eq_length_filter] at hlength

theorem length_placesOutOf : (placesOutOf edges id).length = edges.countP (·.source = id) := by
  have hlength := congrArg List.length (@map_placesOutOf edges id)
  rwa [List.length_map, List.length_map, ← List.countP_eq_length_filter] at hlength

theorem counterpart?_of_getElem? {own other : List Nat} {place i : Nat} (hown : own.Nodup)
    (hplace : own[i]? = some place) : counterpart? own other place = other[i]? := by
  obtain ⟨hlt, heq⟩ := List.getElem?_eq_some_iff.1 hplace
  have hindex : own.idxOf? place = some i := by
    rw [List.idxOf?_eq_some_iff]
    refine ⟨hlt, heq, ?_⟩
    intro j hj hsame
    have hij := (hown.getElem_inj_iff).1 (hsame.trans heq.symm)
    omega
  rw [counterpart?, hindex, Option.bind_some]

end Order

section Graph

variable {graph : MappingGraph} {registry : Registry}

theorem lastNode?_eq_some_iff (hnodes : (graph.nodes.map GraphNode.id).Nodup) {id : String}
    {node : GraphNode} : graph.lastNode? id = some node ↔ node ∈ graph.nodes ∧ node.id = id := by
  constructor
  · intro hfind
    have hmem := List.mem_of_find?_eq_some hfind
    have hid := List.find?_some hfind
    simp_all
  · rintro ⟨hmem, rfl⟩
    cases hfind : graph.lastNode? node.id with
    | none => simpa using List.find?_eq_none.1 hfind node (by simpa using hmem)
    | some other =>
        have hother : other ∈ graph.nodes := by simpa using List.mem_of_find?_eq_some hfind
        have hid : other.id = node.id := by simpa using List.find?_some hfind
        rw [List.inj_on_of_nodup_map hnodes hother hmem hid]

theorem isTransformerNode_of_mem (hnodes : (graph.nodes.map GraphNode.id).Nodup)
    {node : GraphNode} (hnode : node ∈ graph.nodes) (htransformer : node.isTransformer = true) :
    graph.isTransformerNode node.id = true := by
  rw [isTransformerNode, (lastNode?_eq_some_iff hnodes).2 ⟨hnode, rfl⟩]
  exact htransformer

theorem isStructNode_of_isTransformerNode {id : String}
    (htransformer : graph.isTransformerNode id = true) : graph.isStructNode id = false := by
  rw [isTransformerNode_iff_standsForTransformer] at htransformer
  rw [← Bool.not_eq_true, isStructNode_iff_standsForStruct]
  exact fun hstruct => not_standsForTransformer hstruct htransformer

namespace Stitch

theorem occurs_direct_iff {place : Nat} : (direct place).Occurs graph ↔
    ∃ edge, graph.survivingEdges[place]? = some edge ∧
      graph.isStructNode edge.source = true ∧ graph.isStructNode edge.target = true := by
  simp only [Occurs, survivingEdges_eq_connected, isStructNode_iff_standsForStruct]

theorem occurs_through_iff {node : GraphNode} {incoming outgoing : Option Nat} :
    (through node incoming outgoing).Occurs graph ↔ node ∈ graph.nodes ∧
      node.isTransformer = true ∧ (incoming ≠ none ∨ outgoing ≠ none) ∧
      ∃ i : Nat, (placesInto graph.survivingEdges node.id)[i]? = incoming ∧
        (placesOutOf graph.survivingEdges node.id)[i]? = outgoing := by
  simp only [Occurs, survivingEdges_eq_connected, placesInto_eq_findIdxs,
    placesOutOf_eq_findIdxs, GraphNode.isTransformer, decide_eq_true_eq]

theorem Occurs.places_ne_nil {stitch : Stitch} (hoccurs : stitch.Occurs graph) :
    stitch.places ≠ [] := by
  cases stitch with
  | direct place => simp [places]
  | through node incoming outgoing =>
      obtain ⟨_, _, hsome, _⟩ := hoccurs
      cases incoming <;> cases outgoing <;> simp_all [places]

theorem Occurs.lt_length {stitch : Stitch} (hoccurs : stitch.Occurs graph) {place : Nat}
    (hplace : place ∈ stitch.places) : place < graph.survivingEdges.length := by
  cases stitch with
  | direct other =>
      obtain ⟨edge, hedge, _⟩ := occurs_direct_iff.1 hoccurs
      obtain rfl := List.mem_singleton.1 hplace
      exact (List.getElem?_eq_some_iff.1 hedge).1
  | through node incoming outgoing =>
      obtain ⟨_, _, _, i, hincoming, houtgoing⟩ := occurs_through_iff.1 hoccurs
      rw [places, List.mem_append, Option.mem_toList, Option.mem_toList] at hplace
      rcases hplace with rfl | rfl
      · obtain ⟨edge, hedge, _⟩ := mem_placesInto.1 (List.mem_of_getElem? hincoming)
        exact (List.getElem?_eq_some_iff.1 hedge).1
      · obtain ⟨edge, hedge, _⟩ := mem_placesOutOf.1 (List.mem_of_getElem? houtgoing)
        exact (List.getElem?_eq_some_iff.1 hedge).1

/-- The edge at a place of a transformer goes into it or comes out of it. -/
theorem Occurs.edge {node : GraphNode} {incoming outgoing : Option Nat}
    (hoccurs : (through node incoming outgoing).Occurs graph) {place : Nat}
    (hplace : place ∈ (through node incoming outgoing).places) :
    ∃ edge, graph.survivingEdges[place]? = some edge ∧
      (incoming = some place ∧ edge.target = node.id ∨
        outgoing = some place ∧ edge.source = node.id) := by
  obtain ⟨_, _, _, i, hincoming, houtgoing⟩ := occurs_through_iff.1 hoccurs
  rw [places, List.mem_append, Option.mem_toList, Option.mem_toList] at hplace
  rcases hplace with rfl | rfl
  · obtain ⟨edge, hedge, hnode⟩ := mem_placesInto.1 (List.mem_of_getElem? hincoming)
    exact ⟨edge, hedge, Or.inl ⟨rfl, hnode⟩⟩
  · obtain ⟨edge, hedge, hnode⟩ := mem_placesOutOf.1 (List.mem_of_getElem? houtgoing)
    exact ⟨edge, hedge, Or.inr ⟨rfl, hnode⟩⟩

end Stitch

/-- No edge between nodes has a transformer at both ends. -/
def Separate (graph : MappingGraph) : Prop :=
  ∀ edge ∈ graph.connected,
    ¬ (graph.StandsForTransformer edge.source ∧ graph.StandsForTransformer edge.target)

instance (graph : MappingGraph) : Decidable graph.Separate :=
  inferInstanceAs (Decidable (∀ edge ∈ graph.connected,
    ¬ (graph.StandsForTransformer edge.source ∧ graph.StandsForTransformer edge.target)))

theorem separate_iff : graph.Separate ↔ ∀ edge ∈ graph.survivingEdges,
    ¬ (graph.isTransformerNode edge.source = true ∧
      graph.isTransformerNode edge.target = true) := by
  simp only [Separate, survivingEdges_eq_connected, isTransformerNode_iff_standsForTransformer]

theorem Stitch.not_occurs_direct (hnodes : (graph.nodes.map GraphNode.id).Nodup) {place : Nat}
    {node : GraphNode} {incoming outgoing : Option Nat}
    (hthrough : (Stitch.through node incoming outgoing).Occurs graph)
    (hplace : place ∈ (Stitch.through node incoming outgoing).places) :
    ¬ (Stitch.direct place).Occurs graph := by
  intro hdirect
  obtain ⟨edge, hedge, hsource, htarget⟩ := occurs_direct_iff.1 hdirect
  obtain ⟨edge', hedge', hends⟩ := hthrough.edge hplace
  obtain ⟨hmem, hkind, _⟩ := occurs_through_iff.1 hthrough
  have hstruct := isStructNode_of_isTransformerNode (isTransformerNode_of_mem hnodes hmem hkind)
  rw [hedge] at hedge'
  obtain rfl := Option.some.inj hedge'
  rcases hends with ⟨_, hnode⟩ | ⟨_, hnode⟩
  · simp [← hnode, htarget] at hstruct
  · simp [← hnode, hsource] at hstruct

/-- Stitches at transformers that share an edge are at one transformer and at one position. -/
theorem Stitch.through_unique (hnodes : (graph.nodes.map GraphNode.id).Nodup)
    (hseparate : graph.Separate) {node node' : GraphNode}
    {incoming outgoing incoming' outgoing' : Option Nat}
    (hoccurs : (Stitch.through node incoming outgoing).Occurs graph)
    (hother : (Stitch.through node' incoming' outgoing').Occurs graph) {place : Nat}
    (hplace : place ∈ (Stitch.through node incoming outgoing).places)
    (hagain : place ∈ (Stitch.through node' incoming' outgoing').places) :
    Stitch.through node incoming outgoing = Stitch.through node' incoming' outgoing' := by
  obtain ⟨edge, hedge, hends⟩ := hoccurs.edge hplace
  obtain ⟨edge', hedge', hends'⟩ := hother.edge hagain
  obtain ⟨hmem, htransformer, _, i, hincoming, houtgoing⟩ := occurs_through_iff.1 hoccurs
  obtain ⟨hmem', htransformer', _, j, hincoming', houtgoing'⟩ := occurs_through_iff.1 hother
  rw [hedge] at hedge'
  obtain rfl := Option.some.inj hedge'
  have hends₂ := separate_iff.1 hseparate edge (List.mem_of_getElem? hedge)
  have hnode := isTransformerNode_of_mem hnodes hmem htransformer
  have hnode' := isTransformerNode_of_mem hnodes hmem' htransformer'
  have hsame : ∀ {own : List Nat}, own.Nodup → own[i]? = some place → own[j]? = some place →
      i = j := by
    intro own hown hi hj
    exact (List.getElem?_inj (List.getElem?_eq_some_iff.1 hi).1 hown).1 (hi.trans hj.symm)
  rcases hends with ⟨rfl, hid⟩ | ⟨rfl, hid⟩
  · rcases hends' with ⟨rfl, hid'⟩ | ⟨rfl, hid'⟩
    · obtain rfl := List.inj_on_of_nodup_map hnodes hmem hmem' (hid.symm.trans hid')
      obtain rfl := hsame nodup_placesInto hincoming hincoming'
      rw [← houtgoing, ← houtgoing']
    · exact absurd ⟨hid' ▸ hnode', hid ▸ hnode⟩ hends₂
  · rcases hends' with ⟨rfl, hid'⟩ | ⟨rfl, hid'⟩
    · exact absurd ⟨hid ▸ hnode, hid' ▸ hnode'⟩ hends₂
    · obtain rfl := List.inj_on_of_nodup_map hnodes hmem hmem' (hid.symm.trans hid')
      obtain rfl := hsame nodup_placesOutOf houtgoing houtgoing'
      rw [← hincoming, ← hincoming']

/-- An edge stands in one stitch only. -/
theorem Stitch.Occurs.unique (hnodes : (graph.nodes.map GraphNode.id).Nodup)
    (hseparate : graph.Separate) {stitch other : Stitch} (hoccurs : stitch.Occurs graph)
    (hother : other.Occurs graph) {place : Nat} (hplace : place ∈ stitch.places)
    (hagain : place ∈ other.places) : stitch = other := by
  cases stitch with
  | direct first =>
      obtain rfl := List.mem_singleton.1 hplace
      cases other with
      | direct second =>
          obtain rfl := List.mem_singleton.1 hagain
          rfl
      | through node incoming outgoing =>
          exact absurd hoccurs (Stitch.not_occurs_direct hnodes hother hagain)
  | through node incoming outgoing =>
      cases other with
      | direct second =>
          obtain rfl := List.mem_singleton.1 hagain
          exact absurd hother (Stitch.not_occurs_direct hnodes hoccurs hplace)
      | through node' incoming' outgoing' =>
          exact Stitch.through_unique hnodes hseparate hoccurs hother hplace hagain

/-- The used places are whole stitches. -/
def Whole (graph : MappingGraph) (used : List Nat) : Prop :=
  ∀ stitch : Stitch, stitch.Occurs graph → ∀ place ∈ stitch.places, place ∈ used →
    ∀ other ∈ stitch.places, other ∈ used

theorem Whole.fresh {used : List Nat} (hwhole : graph.Whole used) {stitch : Stitch}
    (hoccurs : stitch.Occurs graph) {place : Nat} (hpresent : place ∈ stitch.places)
    (hplace : place ∉ used) : ∀ other ∈ stitch.places, other ∉ used :=
  fun other hother hused => hplace (hwhole stitch hoccurs other hother hused place hpresent)

/-- The route of a place follows a stitch: it has the same edges and makes its mapping. -/
structure Follows (graph : MappingGraph) (registry : Registry) (place : Nat) (route : Route)
    (stitch : Stitch) : Prop where
  occurs : stitch.Occurs graph
  present : place ∈ stitch.places
  places_iff : ∀ other, other ∈ route.places ↔ other ∈ stitch.places
  mapping_eq : graph.fieldMapping? registry graph.survivingEdges route =
    some (stitch.mapping registry graph.survivingEdges)

section Step

variable {used : List Nat} {edge : GraphEdge} {place : Nat}

theorem filter_eq_self {other : Option Nat} (hfree : ∀ next, other = some next → next ∉ used) :
    other.filter (fun next => next ∉ used) = other := by
  cases other with
  | none => rfl
  | some next => simp [hfree next rfl]

theorem min?_of_fresh {places : List Nat} (hmem : place ∈ places)
    (hfresh : ∀ other ∈ places, other ∉ used) (hused : ∀ earlier < place, earlier ∈ used) :
    places.min? = some place := by
  rw [List.min?_eq_some_iff]
  refine ⟨hmem, ?_⟩
  intro other hother
  by_contra hlt
  exact hfresh other hother (hused other (by omega))

theorem exists_transformer (hnodes : (graph.nodes.map GraphNode.id).Nodup) {id : String}
    (htransformer : graph.isTransformerNode id = true) :
    ∃ node ∈ graph.nodes, node.id = id ∧ node.isTransformer = true ∧
      graph.lastNode? id = some node := by
  unfold isTransformerNode at htransformer
  obtain ⟨node, hnode, hkind⟩ := (Option.any_eq_true _ _).1 htransformer
  obtain ⟨hmem, hid⟩ := (lastNode?_eq_some_iff hnodes).1 hnode
  exact ⟨node, hmem, hid, hkind, hnode⟩

variable (hnodes : (graph.nodes.map GraphNode.id).Nodup) (hwhole : graph.Whole used)
  (hedge : graph.survivingEdges[place]? = some edge) (hplace : place ∉ used)
  (hused : ∀ earlier < place, earlier ∈ used)

include hnodes hwhole hedge hplace hused

theorem follows_into (htransformer : graph.isTransformerNode edge.target = true) :
    ∃ stitch, Follows graph registry place
      (graph.routeOf graph.survivingEdges used edge place) stitch := by
  obtain ⟨node, hmem, hid, hkind, hlast⟩ := exists_transformer hnodes htransformer
  obtain ⟨i, hi⟩ := List.mem_iff_getElem?.1 (mem_placesInto.2 ⟨edge, hedge, hid.symm⟩)
  generalize hnext : (placesOutOf graph.survivingEdges node.id)[i]? = next
  have hoccurs : (Stitch.through node (some place) next).Occurs graph :=
    Stitch.occurs_through_iff.2 ⟨hmem, hkind, Or.inl (by simp), i, hi, hnext⟩
  have hpresent : place ∈ (Stitch.through node (some place) next).places := by
    simp [Stitch.places]
  have hfresh := hwhole.fresh hoccurs hpresent hplace
  have hroute : graph.routeOf graph.survivingEdges used edge place = .into place next := by
    rw [routeOf, if_pos htransformer, ← hid, counterpart?_of_getElem? nodup_placesInto hi, hnext]
    apply congrArg (Route.into place)
    apply filter_eq_self
    rintro other rfl
    exact hfresh other (by simp [Stitch.places])
  refine ⟨_, hoccurs, hpresent, ?_, ?_⟩
  · intro other
    rw [hroute]
    cases next <;> simp [Route.places, Stitch.places]
    tauto
  · rw [hroute, fieldMapping?, hedge, Option.map_some, nodeTransformer, hlast, Stitch.mapping]
    have hmin := min?_of_fresh hpresent hfresh hused
    rw [Stitch.places] at hmin
    rw [hmin]
    simp [hedge]

theorem follows_outOf (htarget : ¬ graph.isTransformerNode edge.target = true)
    (htransformer : graph.isTransformerNode edge.source = true) :
    ∃ stitch, Follows graph registry place
      (graph.routeOf graph.survivingEdges used edge place) stitch := by
  obtain ⟨node, hmem, hid, hkind, hlast⟩ := exists_transformer hnodes htransformer
  obtain ⟨i, hi⟩ := List.mem_iff_getElem?.1 (mem_placesOutOf.2 ⟨edge, hedge, hid.symm⟩)
  generalize hprevious : (placesInto graph.survivingEdges node.id)[i]? = previous
  have hoccurs : (Stitch.through node previous (some place)).Occurs graph :=
    Stitch.occurs_through_iff.2 ⟨hmem, hkind, Or.inr (by simp), i, hprevious, hi⟩
  have hpresent : place ∈ (Stitch.through node previous (some place)).places := by
    simp [Stitch.places]
  have hfresh := hwhole.fresh hoccurs hpresent hplace
  have hroute : graph.routeOf graph.survivingEdges used edge place = .outOf place previous := by
    rw [routeOf, if_neg htarget, if_pos htransformer, ← hid,
      counterpart?_of_getElem? nodup_placesOutOf hi, hprevious]
    apply congrArg (Route.outOf place)
    apply filter_eq_self
    rintro other rfl
    exact hfresh other (by simp [Stitch.places])
  refine ⟨_, hoccurs, hpresent, ?_, ?_⟩
  · intro other
    rw [hroute]
    cases previous <;> simp [Route.places, Stitch.places]
    tauto
  · rw [hroute, fieldMapping?, hedge, Option.map_some, nodeTransformer, hlast, Stitch.mapping]
    have hmin := min?_of_fresh hpresent hfresh hused
    rw [Stitch.places] at hmin
    rw [hmin]
    simp [hedge]

omit hnodes hwhole hplace hused in
theorem follows_direct (htarget : ¬ graph.isTransformerNode edge.target = true)
    (hsource : ¬ graph.isTransformerNode edge.source = true) :
    ∃ stitch, Follows graph registry place
      (graph.routeOf graph.survivingEdges used edge place) stitch := by
  have hoccurs : (Stitch.direct place).Occurs graph := by
    rw [survivingEdges_eq_connected] at hedge
    obtain ⟨hsender, hreceiver⟩ := connects_of_mem (List.mem_of_getElem? hedge)
    rw [isTransformerNode_iff_standsForTransformer] at hsource htarget
    exact ⟨edge, hedge, standsForStruct_of_not hsender hsource,
      standsForStruct_of_not hreceiver htarget⟩
  refine ⟨.direct place, hoccurs, by simp [Stitch.places], ?_, ?_⟩
  · intro other
    rw [routeOf, if_neg htarget, if_neg hsource]
    rfl
  · rw [routeOf, if_neg htarget, if_neg hsource, fieldMapping?, hedge, Option.map_some,
      Stitch.mapping, hedge, Option.bind_some]

theorem follows_routeOf :
    ∃ stitch, Follows graph registry place
      (graph.routeOf graph.survivingEdges used edge place) stitch := by
  by_cases htarget : graph.isTransformerNode edge.target = true
  · exact follows_into hnodes hwhole hedge hplace hused htarget
  · by_cases hsource : graph.isTransformerNode edge.source = true
    · exact follows_outOf hnodes hwhole hedge hplace hused htarget hsource
    · exact follows_direct hedge htarget hsource

end Step

/-- The stitches of the edges that are not used, in the order of their earliest edges, and
the mappings they make. -/
structure Stitches (graph : MappingGraph) (registry : Registry) (used : List Nat)
    (stitches : List Stitch) (mappings : List FieldMapping) : Prop where
  mem_iff : ∀ stitch, stitch ∈ stitches ↔
    stitch.Occurs graph ∧ ∀ place ∈ stitch.places, place ∉ used
  ordered : stitches.Pairwise fun stitch later =>
    ∃ first ∈ stitch.places, ∀ place ∈ later.places, first < place
  mappings_eq : mappings = stitches.map (Stitch.mapping registry graph.survivingEdges)

theorem Stitches.cons (hnodes : (graph.nodes.map GraphNode.id).Nodup)
    (hseparate : graph.Separate) {used : List Nat} {stitches : List Stitch}
    {mappings : List FieldMapping} {place : Nat} {route : Route} {stitch : Stitch}
    (hstitches : Stitches graph registry (route.places ++ used) stitches mappings)
    (hfollows : Follows graph registry place route stitch) (hwhole : graph.Whole used)
    (hplace : place ∉ used) (hused : ∀ earlier < place, earlier ∈ used) :
    Stitches graph registry used (stitch :: stitches)
      (stitch.mapping registry graph.survivingEdges :: mappings) := by
  obtain ⟨hoccurs, hpresent, hplaces, _⟩ := hfollows
  have hfresh := hwhole.fresh hoccurs hpresent hplace
  constructor
  · intro other
    rw [List.mem_cons, hstitches.mem_iff]
    constructor
    · rintro (rfl | ⟨hother, hlater⟩)
      · exact ⟨hoccurs, hfresh⟩
      · refine ⟨hother, ?_⟩
        intro next hnext hmem
        exact hlater next hnext (List.mem_append_right route.places hmem)
    · rintro ⟨hother, hunused⟩
      by_cases hshares : ∃ shared ∈ other.places, shared ∈ stitch.places
      · obtain ⟨shared, hshared, hagain⟩ := hshares
        exact Or.inl (hother.unique hnodes hseparate hoccurs hshared hagain)
      · right
        refine ⟨hother, ?_⟩
        intro next hnext hmem
        rcases List.mem_append.1 hmem with hmem | hmem
        · exact hshares ⟨next, hnext, (hplaces next).1 hmem⟩
        · exact hunused next hnext hmem
  · rw [List.pairwise_cons]
    refine ⟨?_, hstitches.ordered⟩
    intro later hlater
    refine ⟨place, hpresent, ?_⟩
    intro other hother
    have hunused := ((hstitches.mem_iff later).1 hlater).2 other hother
    rw [List.mem_append, not_or, hplaces] at hunused
    apply lt_of_not_mem_used hused hunused.2
    rintro rfl
    exact hunused.1 hpresent
  · rw [hstitches.mappings_eq, List.map_cons]

/-- With the places of a stitch the used places are whole stitches again. -/
theorem Whole.append (hnodes : (graph.nodes.map GraphNode.id).Nodup)
    (hseparate : graph.Separate) {used : List Nat} (hwhole : graph.Whole used) {place : Nat}
    {route : Route} {stitch : Stitch} (hfollows : Follows graph registry place route stitch) :
    graph.Whole (route.places ++ used) := by
  intro other hother shared hshared hmem next hnext
  rw [List.mem_append, hfollows.places_iff] at hmem ⊢
  rcases hmem with hmem | hmem
  · rw [hother.unique hnodes hseparate hfollows.occurs hshared hmem] at hnext
    exact Or.inl hnext
  · exact Or.inr (hwhole other hother shared hshared hmem next hnext)

theorem exists_stitches_routesFrom (hnodes : (graph.nodes.map GraphNode.id).Nodup)
    (hseparate : graph.Separate) {rest : List GraphEdge} {place : Nat} {used : List Nat}
    (hrest : graph.survivingEdges.drop place = rest) (hwhole : graph.Whole used)
    (hused : ∀ earlier < place, earlier ∈ used) :
    ∃ stitches, Stitches graph registry used stitches
      ((graph.routesFrom graph.survivingEdges used (rest.zipIdx place)).filterMap
        (graph.fieldMapping? registry graph.survivingEdges)) := by
  induction rest generalizing place used with
  | nil =>
      -- every place is used by now, so no stitch is left
      have hend : graph.survivingEdges.length ≤ place := List.drop_eq_nil_iff.1 hrest
      refine ⟨[], ?_, .nil, rfl⟩
      intro stitch
      constructor
      · exact fun hstitch => nomatch hstitch
      · rintro ⟨hoccurs, hunused⟩
        obtain ⟨other, hother⟩ := List.exists_mem_of_ne_nil _ hoccurs.places_ne_nil
        have hlt := hoccurs.lt_length hother
        exact absurd (hused other (by omega)) (hunused other hother)
  | cons edge rest ih =>
      have hedge : graph.survivingEdges[place]? = some edge := by
        rw [← List.head?_drop, hrest, List.head?_cons]
      have hbehind : graph.survivingEdges.drop (place + 1) = rest := by
        rw [← List.tail_drop, hrest, List.tail_cons]
      rw [List.zipIdx_cons, routesFrom]
      by_cases hplace : place ∈ used
      · rw [if_pos hplace]
        exact ih hbehind hwhole (Nat.forall_lt_succ_right.2 ⟨hused, hplace⟩)
      · rw [if_neg hplace]
        obtain ⟨stitch, hfollows⟩ := @follows_routeOf graph registry used edge place hnodes hwhole
          hedge hplace hused
        have hnext : ∀ earlier < place + 1, earlier ∈
            (graph.routeOf graph.survivingEdges used edge place).places ++ used := by
          rw [Nat.forall_lt_succ_right]
          exact ⟨fun earlier hearlier => List.mem_append_right _ (hused earlier hearlier),
            List.mem_append_left used ((hfollows.places_iff place).2 hfollows.present)⟩
        obtain ⟨stitches, hstitches⟩ :=
          ih hbehind (hwhole.append hnodes hseparate hfollows) hnext
        refine ⟨stitch :: stitches, ?_⟩
        rw [List.filterMap_cons_some hfollows.mapping_eq]
        exact hstitches.cons hnodes hseparate hfollows hwhole hplace hused

/-- No stitch has its earliest edge before all edges of its own. -/
theorem Stitches.nodup {used : List Nat} {stitches : List Stitch} {mappings : List FieldMapping}
    (hstitches : Stitches graph registry used stitches mappings) : stitches.Nodup := by
  refine hstitches.ordered.imp ?_
  rintro stitch _ ⟨first, hfirst, hlt⟩ rfl
  exact Nat.lt_irrefl first (hlt first hfirst)

theorem Stitches.mem_iff_occurs {stitches : List Stitch} {mappings : List FieldMapping}
    (hstitches : Stitches graph registry [] stitches mappings) (stitch : Stitch) :
    stitch ∈ stitches ↔ stitch.Occurs graph := by
  rw [hstitches.mem_iff]
  simp

theorem exists_stitches (registry : Registry) (hnodes : (graph.nodes.map GraphNode.id).Nodup)
    (hseparate : graph.Separate) :
    ∃ stitches, Stitches graph registry [] stitches (graph.fieldMappings registry) :=
  exists_stitches_routesFrom hnodes hseparate rfl (fun _ _ _ _ hused => nomatch hused) (by simp)

end Graph

/-- The mapping of a stitch is the one that it makes. -/
theorem Stitch.Occurs.makes_mapping {graph : MappingGraph} {stitch : Stitch}
    (hoccurs : stitch.Occurs graph) (registry : Registry) :
    stitch.Makes graph registry (stitch.mapping registry graph.survivingEdges) := by
  rw [survivingEdges_eq_connected]
  cases stitch with
  | direct place =>
      obtain ⟨edge, hedge, _⟩ := hoccurs
      rw [mapping, hedge]
      exact ⟨edge, hedge, names_sourceKey edge, names_targetKey edge, rfl⟩
  | through node incoming outgoing =>
      obtain ⟨place, hplace⟩ := Option.isSome_iff_exists.1
        (List.isSome_min?_of_ne_nil hoccurs.places_ne_nil)
      have hlt := hoccurs.lt_length (List.min?_mem hplace)
      rw [survivingEdges_eq_connected] at hlt
      refine ⟨Handle.names_iff.2 rfl, Handle.names_iff.2 rfl, place, _, hplace,
        List.getElem?_eq_getElem hlt, ?_⟩
      rw [places] at hplace
      rw [mapping, hplace, Option.bind_some, List.getElem?_eq_getElem hlt,
        GraphNode.transformerRef, hoccurs.2.1]
      rfl

/-- The mappings of a graph are the mappings that its stitches make, one for each, in the order
of their earliest edges. -/
theorem fieldMappings_of_stitches (graph : MappingGraph) (registry : Registry)
    (spec : MappingSpec) (hnodes : (graph.nodes.map GraphNode.id).Nodup)
    (hseparate : graph.Separate) (hspec : spec ∈ graph.analyze registry) :
    ∃ stitches : List Stitch,
      (∀ stitch, stitch ∈ stitches ↔ stitch.Occurs graph) ∧ stitches.Nodup ∧
      (stitches.Pairwise fun stitch later =>
        ∃ first ∈ stitch.places, ∀ place ∈ later.places, first < place) ∧
      List.Forall₂ (Stitch.Makes graph registry) stitches spec.fieldMappings := by
  obtain ⟨stitches, hstitches⟩ := exists_stitches registry hnodes hseparate
  refine ⟨stitches, hstitches.mem_iff_occurs, hstitches.nodup, hstitches.ordered, ?_⟩
  rw [fieldMappings_of_mem_analyze hspec, hstitches.mappings_eq, List.forall₂_map_right_iff,
    List.forall₂_same]
  intro stitch hstitch
  exact ((hstitches.mem_iff_occurs stitch).1 hstitch).makes_mapping registry

/-- Two transformers between two structs, of which no registry of three entries knows the second.
The edges of the first are met the other way round and with those of the second between them,
and one edge into it is left over.  One edge has an end that is no node. -/
def crossing : MappingGraph where
  nodes := [.ofStruct "from" "a" "", .ofTransformer "first" "f" "",
    .ofTransformer "second" "g" "", .ofStruct "to" "b" ""]
  edges := [⟨"1", "first", "to", none, some "field-C-in", none⟩,
    ⟨"2", "from", "second", some "field-A-out", none, some "f"⟩,
    ⟨"3", "from", "lost", some "field-A-out", none, none⟩,
    ⟨"4", "from", "first", some "field-B-out", none, some "g"⟩,
    ⟨"5", "second", "to", none, some "field-D-in", none⟩,
    ⟨"6", "from", "to", some "field-A-out", some "field-E-in", some "f"⟩,
    ⟨"7", "from", "first", some "field-A-out", none, none⟩]

theorem fieldMappings_of_stitches_crossing : ∃ stitches : List Stitch,
    (∀ stitch, stitch ∈ stitches ↔ stitch.Occurs crossing) ∧ stitches.Nodup ∧
    (stitches.Pairwise fun stitch later =>
      ∃ first ∈ stitch.places, ∀ place ∈ later.places, first < place) ∧
    List.Forall₂ (Stitch.Makes crossing threeEntries) stitches
      [⟨"B", "C", some { id := "f" }⟩, ⟨"A", "D", some { id := "f" }⟩,
        ⟨"A", "E", some { id := "f" }⟩, ⟨"A", "unknown", some { id := "f" }⟩] := by
  apply fieldMappings_of_stitches crossing threeEntries ⟨some { id := "a" }, some { id := "b" }, _⟩
  · decide
  · decide
  · decide +kernel

end FieldBridge.MappingGraph
