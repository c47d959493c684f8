import FieldBridge.Proofs.EdgeEnds
import Mathlib.Data.List.Forall2
import Mathlib.Data.List.Range
import Mathlib.Tactic.Tauto

/-!
# Edges and mappings

Every edge between nodes is part of exactly one mapping.  The routes are made in one pass over
the edges, which keeps the places that are used already.  At every step the places before
the current one are used, so the edge joined to the current one, if there is one, comes
later, and the parts are begun in the order of the edges.
-/

namespace FieldBridge.MappingGraph

variable {graph : MappingGraph} {registry : Registry} {edges : List GraphEdge}

theorem mem_placesInto {id : String} {place : Nat} :
    place ∈ placesInto edges id ↔ ∃ edge, edges[place]? = some edge ∧ edge.target = id := by
  simp [placesInto, List.mem_zipIdx_iff_getElem?]

theorem mem_placesOutOf {id : String} {place : Nat} :
    place ∈ placesOutOf edges id ↔ ∃ edge, edges[place]? = some edge ∧ edge.source = id := by
  simp [placesOutOf, List.mem_zipIdx_iff_getElem?]

theorem exists_of_counterpart? {own other : List Nat} {place next : Nat}
    (hnext : counterpart? own other place = some next) :
    ∃ i : Nat, own[i]? = some place ∧ other[i]? = some next := by
  obtain ⟨i, hi, hother⟩ := Option.bind_eq_some_iff.1 hnext
  obtain ⟨hlt, heq, _⟩ := List.idxOf?_eq_some_iff.1 hi
  exact ⟨i, List.getElem?_eq_some_iff.2 ⟨hlt, heq⟩, hother⟩

/-- The edge into a transformer at one place and the edge out of it at another stand at the same
position of the transformer: both are the first there, or both the second, and so on. -/
structure Opposite (graph : MappingGraph) (edges : List GraphEdge) (node : GraphNode)
    (incoming outgoing : Nat) : Prop where
  stands : graph.StandsFor node.id node
  kind : node.kind = .transformer
  position : ∃ i : Nat, (edges.findIdxs (·.target = node.id))[i]? = some incoming ∧
    (edges.findIdxs (·.source = node.id))[i]? = some outgoing

/-- The mapping that a part of the edges makes.  An edge between structs knows both fields.  An
edge that is alone at a transformer leaves the field on this side of it unknown, unless it
is opposite to itself.  Of two edges that are opposite, one knows the field that is read and the
other the field that is written, and the first of them stands in for an unknown transformer. -/
inductive Makes (graph : MappingGraph) (registry : Registry) (edges : List GraphEdge) :
    List Nat → FieldMapping → Prop where
  | direct {place : Nat} {edge : GraphEdge} {source target : String}
      (present : edges[place]? = some edge)
      (sender : graph.StandsForStruct edge.source)
      (receiver : graph.StandsForStruct edge.target)
      (reads : Handle.Names edge.sourceHandle source)
      (writes : Handle.Names edge.targetHandle target) :
      Makes graph registry edges [place]
        ⟨source, target, edge.transformerId.bind registry.transformer?⟩
  | into {place : Nat} {edge : GraphEdge} {node : GraphNode} {source : String}
      (present : edges[place]? = some edge)
      (receiver : graph.StandsFor edge.target node) (kind : node.kind = .transformer)
      (reads : Handle.Names edge.sourceHandle source) :
      Makes graph registry edges [place] ⟨source, "unknown", node.carries registry edge⟩
  | outOf {place : Nat} {edge : GraphEdge} {node : GraphNode} {target : String}
      (present : edges[place]? = some edge)
      (sender : graph.StandsFor edge.source node) (kind : node.kind = .transformer)
      (receiver : graph.StandsForStruct edge.target)
      (writes : Handle.Names edge.targetHandle target) :
      Makes graph registry edges [place] ⟨"unknown", target, node.carries registry edge⟩
  | itself {place : Nat} {edge : GraphEdge} {node : GraphNode} {source target : String}
      (opposite : graph.Opposite edges node place place)
      (present : edges[place]? = some edge)
      (reads : Handle.Names edge.sourceHandle source)
      (writes : Handle.Names edge.targetHandle target) :
      Makes graph registry edges [place] ⟨source, target, node.carries registry edge⟩
  | joinedInto {first second : Nat} {incoming outgoing : GraphEdge} {node : GraphNode}
      {source target : String}
      (opposite : graph.Opposite edges node first second) (lt : first < second)
      (present : edges[first]? = some incoming) (opposed : edges[second]? = some outgoing)
      (reads : Handle.Names incoming.sourceHandle source)
      (writes : Handle.Names outgoing.targetHandle target) :
      Makes graph registry edges [first, second]
        ⟨source, target, node.carries registry incoming⟩
  | joinedOutOf {first second : Nat} {incoming outgoing : GraphEdge} {node : GraphNode}
      {source target : String}
      (opposite : graph.Opposite edges node second first) (lt : first < second)
      (present : edges[first]? = some outgoing) (opposed : edges[second]? = some incoming)
      (reads : Handle.Names incoming.sourceHandle source)
      (writes : Handle.Names outgoing.targetHandle target) :
      Makes graph registry edges [first, second]
        ⟨source, target, node.carries registry outgoing⟩

theorem Makes.lt_length {part : List Nat} {mapping : FieldMapping}
    (hmakes : Makes graph registry edges part mapping) : ∀ place ∈ part, place < edges.length := by
  have hlt : ∀ {place : Nat} {edge : GraphEdge}, edges[place]? = some edge →
      place < edges.length := fun hedge => (List.getElem?_eq_some_iff.1 hedge).1
  cases hmakes with
  | direct present => simpa using hlt present
  | into present => simpa using hlt present
  | outOf present => simpa using hlt present
  | itself _ present => simpa using hlt present
  | joinedInto _ _ present opposed => simpa using ⟨hlt present, hlt opposed⟩
  | joinedOutOf _ _ present opposed => simpa using ⟨hlt present, hlt opposed⟩

theorem Makes.nodup {part : List Nat} {mapping : FieldMapping}
    (hmakes : Makes graph registry edges part mapping) : part.Nodup := by
  cases hmakes with
  | joinedInto _ lt => simpa using Nat.ne_of_lt lt
  | joinedOutOf _ lt => simpa using Nat.ne_of_lt lt
  | _ => simp

theorem Makes.length {part : List Nat} {mapping : FieldMapping}
    (hmakes : Makes graph registry edges part mapping) : part.length = 1 ∨ part.length = 2 := by
  cases hmakes with
  | joinedInto => exact Or.inr rfl
  | joinedOutOf => exact Or.inr rfl
  | _ => exact Or.inl rfl

/-- A route that is begun at a place when others are used: it makes one mapping, and none of
its edges is used. -/
structure Begins (graph : MappingGraph) (registry : Registry) (edges : List GraphEdge)
    (used : List Nat) (place : Nat) (route : Route) : Prop where
  makes : ∃ mapping, graph.fieldMapping? registry edges route = some mapping ∧
    Makes graph registry edges route.places mapping
  first : place ∈ route.places
  fresh : ∀ other ∈ route.places, other ∉ used

theorem names_sourceKey (edge : GraphEdge) :
    Handle.Names edge.sourceHandle (sourceKey (some edge)) :=
  Handle.names_iff.2 rfl

theorem names_targetKey (edge : GraphEdge) :
    Handle.Names edge.targetHandle (targetKey (some edge)) :=
  Handle.names_iff.2 rfl

section Step

variable {used : List Nat} {edge : GraphEdge} {place : Nat} {node : GraphNode}

theorem begins_direct (hedge : edges[place]? = some edge) (hplace : place ∉ used)
    (hsender : graph.StandsForStruct edge.source)
    (hreceiver : graph.StandsForStruct edge.target) :
    Begins graph registry edges used place (.direct place) := by
  constructor
  · refine ⟨_, by rw [fieldMapping?, hedge, Option.map_some], ?_⟩
    exact .direct hedge hsender hreceiver (names_sourceKey edge) (names_targetKey edge)
  · simp [Route.places]
  · simpa [Route.places] using hplace

theorem lt_of_not_mem_used {next : Nat} (hused : ∀ earlier < place, earlier ∈ used)
    (hnext : next ∉ used) (hne : next ≠ place) : place < next := by
  by_contra hle
  exact hnext (hused next (by omega))

/-- A route into a transformer.  The edge it goes on with may be itself, when it also comes
out of the transformer. -/
theorem begins_into (hedge : edges[place]? = some edge) (hplace : place ∉ used)
    (hused : ∀ earlier < place, earlier ∈ used) (hnode : graph.StandsFor edge.target node)
    (hkind : node.kind = .transformer) {next : Option Nat}
    (hnext : ∀ other, next = some other →
      other ∉ used ∧ graph.Opposite edges node place other) :
    Begins graph registry edges used place (.into place next) := by
  have hmapping : graph.fieldMapping? registry edges (.into place next) =
      some ⟨sourceKey (some edge), targetKey (next.bind (edges[·]?)),
        node.carries registry edge⟩ := by
    rw [fieldMapping?, hedge, Option.map_some, nodeTransformer_eq_carries hnode hkind]
  cases next with
  | none =>
      constructor
      · exact ⟨_, hmapping, .into hedge hnode hkind (names_sourceKey edge)⟩
      · simp [Route.places]
      · simpa [Route.places] using hplace
  | some other =>
      obtain ⟨hother, hopposite⟩ := hnext other rfl
      obtain ⟨i, _, hi⟩ := hopposite.position
      rw [← placesOutOf_eq_findIdxs] at hi
      obtain ⟨outgoing, houtgoing, _⟩ := mem_placesOutOf.1 (List.mem_of_getElem? hi)
      rw [Option.bind_some, houtgoing] at hmapping
      by_cases heq : other = place
      · subst heq
        obtain rfl := Option.some.inj (hedge.symm.trans houtgoing)
        have hplaces : (Route.into other (some other)).places = [other] := by
          simp [Route.places]
        constructor
        · rw [hplaces]
          exact ⟨_, hmapping, .itself hopposite hedge (names_sourceKey edge)
            (names_targetKey edge)⟩
        · simp [hplaces]
        · simpa [hplaces] using hplace
      · have hplaces : (Route.into place (some other)).places = [place, other] := by
          simp [Route.places, heq]
        constructor
        · rw [hplaces]
          exact ⟨_, hmapping, .joinedInto hopposite (lt_of_not_mem_used hused hother heq) hedge
            houtgoing (names_sourceKey edge) (names_targetKey outgoing)⟩
        · simp [hplaces]
        · simpa [hplaces] using ⟨hplace, hother⟩

/-- A route out of a transformer and into a struct, so that it is not opposite to itself. -/
theorem begins_outOf (hedge : edges[place]? = some edge) (hplace : place ∉ used)
    (hused : ∀ earlier < place, earlier ∈ used) (hnode : graph.StandsFor edge.source node)
    (hkind : node.kind = .transformer) (hreceiver : graph.StandsForStruct edge.target)
    {previous : Option Nat}
    (hprevious : ∀ other, previous = some other →
      other ∉ used ∧ graph.Opposite edges node other place) :
    Begins graph registry edges used place (.outOf place previous) := by
  have hmapping : graph.fieldMapping? registry edges (.outOf place previous) =
      some ⟨sourceKey (previous.bind (edges[·]?)), targetKey (some edge),
        node.carries registry edge⟩ := by
    rw [fieldMapping?, hedge, Option.map_some, nodeTransformer_eq_carries hnode hkind]
  cases previous with
  | none =>
      constructor
      · exact ⟨_, hmapping, .outOf hedge hnode hkind hreceiver (names_targetKey edge)⟩
      · simp [Route.places]
      · simpa [Route.places] using hplace
  | some other =>
      obtain ⟨hother, hopposite⟩ := hprevious other rfl
      obtain ⟨i, hi, _⟩ := hopposite.position
      rw [← placesInto_eq_findIdxs] at hi
      obtain ⟨incoming, hincoming, htarget⟩ := mem_placesInto.1 (List.mem_of_getElem? hi)
      rw [Option.bind_some, hincoming] at hmapping
      have hne : other ≠ place := by
        rintro rfl
        obtain rfl := Option.some.inj (hedge.symm.trans hincoming)
        exact not_standsForTransformer hreceiver ⟨node, htarget ▸ hopposite.stands, hkind⟩
      have hplaces : (Route.outOf place (some other)).places = [place, other] := by
        simp [Route.places, hne]
      constructor
      · rw [hplaces]
        exact ⟨_, hmapping, .joinedOutOf hopposite (lt_of_not_mem_used hused hother hne) hedge
          hincoming (names_sourceKey incoming) (names_targetKey edge)⟩
      · simp [hplaces]
      · simpa [hplaces] using ⟨hplace, hother⟩

theorem begins_routeOf (hconnects : ∀ edge ∈ edges, graph.Connects edge)
    (hedge : edges[place]? = some edge) (hplace : place ∉ used)
    (hused : ∀ earlier < place, earlier ∈ used) :
    Begins graph registry edges used place (graph.routeOf edges used edge place) := by
  obtain ⟨hsource, htarget⟩ := hconnects edge (List.mem_of_getElem? hedge)
  unfold routeOf
  by_cases hinto : graph.isTransformerNode edge.target = true
  · rw [if_pos hinto]
    obtain ⟨node, hnode, hkind⟩ := isTransformerNode_iff_standsForTransformer.1 hinto
    apply begins_into hedge hplace hused hnode hkind
    intro other hother
    obtain ⟨hcounterpart, hfree⟩ := Option.filter_eq_some_iff.1 hother
    rw [placesInto_eq_findIdxs, placesOutOf_eq_findIdxs, ← hnode.1] at hcounterpart
    exact ⟨by simpa using hfree, hnode.1 ▸ hnode, hkind, exists_of_counterpart? hcounterpart⟩
  · rw [if_neg hinto]
    rw [isTransformerNode_iff_standsForTransformer] at hinto
    have hreceiver := standsForStruct_of_not htarget hinto
    by_cases hout : graph.isTransformerNode edge.source = true
    · rw [if_pos hout]
      obtain ⟨node, hnode, hkind⟩ := isTransformerNode_iff_standsForTransformer.1 hout
      apply begins_outOf hedge hplace hused hnode hkind hreceiver
      intro other hother
      obtain ⟨hcounterpart, hfree⟩ := Option.filter_eq_some_iff.1 hother
      rw [placesInto_eq_findIdxs, placesOutOf_eq_findIdxs, ← hnode.1] at hcounterpart
      obtain ⟨i, hi, hother⟩ := exists_of_counterpart? hcounterpart
      exact ⟨by simpa using hfree, hnode.1 ▸ hnode, hkind, i, hother, hi⟩
    · rw [if_neg hout]
      rw [isTransformerNode_iff_standsForTransformer] at hout
      exact begins_direct hedge hplace (standsForStruct_of_not hsource hout) hreceiver

end Step

/-- Parts of the edges that are not used, with the mappings that they make.  Every such edge
is in one part, and the parts come in the order of their earliest edges. -/
structure Parts (graph : MappingGraph) (registry : Registry) (edges : List GraphEdge)
    (used : List Nat) (parts : List (List Nat)) (mappings : List FieldMapping) : Prop where
  makes : List.Forall₂ (Makes graph registry edges) parts mappings
  distinct : parts.flatten.Nodup
  covers : ∀ place, place ∈ parts.flatten ↔ place < edges.length ∧ place ∉ used
  ordered : parts.Pairwise fun part later => ∃ first ∈ part, ∀ place ∈ later, first < place

theorem Parts.cons {used part : List Nat} {parts : List (List Nat)} {mapping : FieldMapping}
    {mappings : List FieldMapping} {place : Nat}
    (hparts : Parts graph registry edges (part ++ used) parts mappings)
    (hmakes : Makes graph registry edges part mapping) (hfirst : place ∈ part)
    (hfresh : ∀ other ∈ part, other ∉ used) (hused : ∀ earlier < place, earlier ∈ used) :
    Parts graph registry edges used (part :: parts) (mapping :: mappings) := by
  constructor
  · exact .cons hmakes hparts.makes
  · rw [List.flatten_cons, List.nodup_append]
    refine ⟨hmakes.nodup, hparts.distinct, ?_⟩
    rintro other hother _ hrest rfl
    apply ((hparts.covers other).1 hrest).2
    exact List.mem_append_left used hother
  · intro other
    rw [List.flatten_cons, List.mem_append, hparts.covers, List.mem_append]
    have hlt := hmakes.lt_length other
    have hunused := hfresh other
    tauto
  · rw [List.pairwise_cons]
    refine ⟨?_, hparts.ordered⟩
    intro later hlater
    refine ⟨place, hfirst, ?_⟩
    intro other hother
    have hcovered := (hparts.covers other).1 (List.mem_flatten.2 ⟨later, hlater, hother⟩)
    rw [List.mem_append, not_or] at hcovered
    apply lt_of_not_mem_used hused hcovered.2.2
    rintro rfl
    exact hcovered.2.1 hfirst

/-- The pass over the edges: before it reaches a place, all earlier places are used. -/
theorem parts_routesFrom (hconnects : ∀ edge ∈ edges, graph.Connects edge)
    {rest : List GraphEdge} {place : Nat} {used : List Nat}
    (hrest : edges.drop place = rest) (hused : ∀ earlier < place, earlier ∈ used) :
    Parts graph registry edges used
      ((graph.routesFrom edges used (rest.zipIdx place)).map Route.places)
      ((graph.routesFrom edges used (rest.zipIdx place)).filterMap
        (graph.fieldMapping? registry edges)) := by
  induction rest generalizing place used with
  | nil =>
      have hend : edges.length ≤ place := List.drop_eq_nil_iff.1 hrest
      constructor
      · exact .nil
      · exact List.nodup_nil
      · intro other
        constructor
        · exact fun hother => nomatch hother
        · intro hother
          exact absurd (hused other (by omega)) hother.2
      · exact .nil
  | cons edge rest ih =>
      have hedge : edges[place]? = some edge := by
        rw [← List.head?_drop, hrest, List.head?_cons]
      have hbehind : edges.drop (place + 1) = rest := by
        rw [← List.tail_drop, hrest, List.tail_cons]
      rw [List.zipIdx_cons, routesFrom]
      by_cases hplace : place ∈ used
      · rw [if_pos hplace]
        exact ih hbehind (Nat.forall_lt_succ_right.2 ⟨hused, hplace⟩)
      · rw [if_neg hplace]
        obtain ⟨⟨mapping, hmapping, hmakes⟩, hfirst, hfresh⟩ :=
          @begins_routeOf graph registry edges used edge place hconnects hedge hplace hused
        rw [List.map_cons, List.filterMap_cons_some hmapping]
        apply Parts.cons _ hmakes hfirst hfresh hused
        apply ih hbehind
        rw [Nat.forall_lt_succ_right]
        exact ⟨fun earlier hearlier => List.mem_append_right _ (hused earlier hearlier),
          List.mem_append_left used hfirst⟩

theorem fieldMappings_of_mem_analyze {spec : MappingSpec} (hspec : spec ∈ graph.analyze registry) :
    spec.fieldMappings = graph.fieldMappings registry := by
  unfold analyze at hspec
  repeat' split at hspec
  all_goals simp_all

/-- The number of parts and the number of pairs among them make the number of edges. -/
theorem length_of_makes {parts : List (List Nat)} {mappings : List FieldMapping}
    (hmakes : List.Forall₂ (Makes graph registry edges) parts mappings) :
    mappings.length + parts.countP (fun part => part.length = 2) = parts.flatten.length := by
  induction hmakes with
  | nil => rfl
  | cons hmakes _ ih =>
      rw [List.length_cons, List.countP_cons, List.flatten_cons, List.length_append, ← ih]
      rcases hmakes.length with hlength | hlength
      all_goals
        simp [hlength]
        omega

/-- The edges between nodes fall into parts, one edge alone or two that are joined at a
transformer, and the mappings are the mappings of the parts, one for each, in the order of
their earliest edges. -/
theorem fieldMappings_of_parts (graph : MappingGraph) (registry : Registry) (spec : MappingSpec)
    (hspec : spec ∈ graph.analyze registry) :
    ∃ parts : List (List Nat),
      List.Forall₂ (Makes graph registry graph.connected) parts spec.fieldMappings ∧
      parts.flatten.Perm (List.range graph.connected.length) ∧
      (parts.Pairwise fun part later => ∃ first ∈ part, ∀ place ∈ later, first < place) ∧
      spec.fieldMappings.length + parts.countP (fun part => part.length = 2) =
        graph.connected.length := by
  have hparts := @parts_routesFrom graph registry graph.connected
    (fun _ hedge => connects_of_mem hedge) graph.connected 0 [] rfl (by simp)
  have hperm : ((graph.routesFrom graph.connected [] graph.connected.zipIdx).map
      Route.places).flatten.Perm (List.range graph.connected.length) := by
    rw [List.perm_ext_iff_of_nodup hparts.distinct List.nodup_range]
    intro place
    rw [hparts.covers, List.mem_range]
    simp
  have hlength := length_of_makes hparts.makes
  rw [hperm.length_eq, List.length_range] at hlength
  rw [fieldMappings_of_mem_analyze hspec, fieldMappings, routes, survivingEdges_eq_connected]
  exact ⟨_, hparts.makes, hperm, hparts.ordered, hlength⟩

/-- A struct that goes into another one through two transformers.  Of two nodes with one id the
last is the second transformer, which no registry of three entries knows; it also goes into
itself.  One edge has an end that is no node. -/
def relay : MappingGraph where
  nodes := [.ofStruct "second" "a" "", .ofStruct "from" "a" "", .ofTransformer "first" "f" "",
    .ofTransformer "second" "g" "", .ofStruct "to" "b" ""]
  edges := [⟨"1", "second", "to", none, some "field-C-in", some "f"⟩,
    ⟨"2", "second", "second", some "field-S-out", none, none⟩,
    ⟨"3", "first", "second", none, none, some "f"⟩,
    ⟨"4", "from", "first", some "field-A-out", none, none⟩,
    ⟨"5", "from", "lost", some "field-A-out", none, none⟩,
    ⟨"6", "from", "to", some "field-B-out", some "field-D-in", some "g"⟩,
    ⟨"7", "from", "first", some "field-B-out", none, some "g"⟩,
    ⟨"8", "first", "to", none, some "field-E-in", none⟩]

/-- Two structs and one transformer. -/
def threeEntries : Registry :=
  .ofLists [{ id := "a" }, { id := "b" }] [{ id := "f" }]

theorem fieldMappings_of_parts_relay :
    let mappings : List FieldMapping := [⟨"S", "C", some { id := "f" }⟩,
      ⟨"unknown", "unknown", some { id := "f" }⟩, ⟨"A", "unknown", some { id := "f" }⟩,
      ⟨"B", "D", none⟩, ⟨"B", "E", some { id := "f" }⟩]
    ∃ parts : List (List Nat),
      List.Forall₂ (Makes relay threeEntries relay.connected) parts mappings ∧
      parts.flatten.Perm (List.range 7) ∧
      (parts.Pairwise fun part later => ∃ first ∈ part, ∀ place ∈ later, first < place) ∧
      mappings.length + parts.countP (fun part => part.length = 2) = 7 :=
  fieldMappings_of_parts relay threeEntries ⟨some { id := "a" }, some { id := "b" }, _⟩
    (by decide +kernel)

end FieldBridge.MappingGraph
