import FieldBridge.Project.Basic
import FieldBridge.Proofs.FieldHandles
import FieldBridge.Proofs.FunctionText
import FieldBridge.Proofs.Stitching

/-!
# Projects of a single pair

A project maps one struct to another when every edge leaves the one, enters the other, or
does both, and every transformer sends on as many values as it is given.  Such a project
compiles: its function has one assignment for each edge that leaves the first struct, and the
assignments read and write fields that the structs have.
-/

namespace FieldBridge

namespace MappingGraph

/-- The place of the edge that a stitch begins with. -/
def Stitch.first : Stitch → Nat
  | .direct place => place
  | .through _ incoming _ => incoming.getD 0

/-- The place of the edge that a stitch ends with. -/
def Stitch.last : Stitch → Nat
  | .direct place => place
  | .through _ _ outgoing => outgoing.getD 0

section Places

variable {edges : List GraphEdge} {id : String}

theorem map_bind_placesInto (handle : GraphEdge → Option String) :
    (placesInto edges id).map (fun place => edges[place]?.bind handle) =
      (edges.filter (·.target = id)).map handle :=
  map_places (fun edge => edge.target = id) (·.bind handle)

theorem map_bind_placesOutOf (handle : GraphEdge → Option String) :
    (placesOutOf edges id).map (fun place => edges[place]?.bind handle) =
      (edges.filter (·.source = id)).map handle :=
  map_places (fun edge => edge.source = id) (·.bind handle)

/-- What stitches say of the edges at one end, when they are told apart by the places of these
edges. -/
theorem perm_map_of_places {stitches : List Stitch} {place : Stitch → Nat} {places : List Nat}
    (handle : GraphEdge → Option String) (field : Stitch → Option String)
    (hperm : (stitches.map place).Perm places)
    (hfield : ∀ stitch ∈ stitches, edges[place stitch]?.bind handle = field stitch) :
    (stitches.map field).Perm (places.map fun place => edges[place]?.bind handle) := by
  have hmap := hperm.map fun place => edges[place]?.bind handle
  rw [List.map_map] at hmap
  rwa [← List.map_congr_left hfield]

end Places

end MappingGraph

theorem find?_eq_some_of_unique {α : Type} {fits : α → Bool} {entries : List α} {entry : α}
    (hentry : entry ∈ entries) (hfits : fits entry = true)
    (hunique : ∀ other ∈ entries, fits other = true → other = entry) :
    entries.find? fits = some entry := by
  cases hfind : entries.find? fits with
  | none => exact absurd hfits (List.find?_eq_none.1 hfind entry hentry)
  | some other =>
      rw [hunique other (List.mem_of_find?_eq_some hfind) (List.find?_some hfind)]

namespace Project

open MappingGraph

/-- A project whose edges all lead from one struct node to another, directly or through one
transformer, and join fields that the structs have. -/
structure SinglePair (project : Project) (sender receiver : GraphNode)
    (source target : StructDescriptor) : Prop where
  nodes : (project.graph.nodes.map GraphNode.id).Nodup
  sender_mem : sender ∈ project.graph.nodes
  receiver_mem : receiver ∈ project.graph.nodes
  sender_ne : sender ≠ receiver
  shows_source : sender.structRef.bind project.registry.struct? = some source
  shows_target : receiver.structRef.bind project.registry.struct? = some target
  source_named : source.name ≠ ""
  target_named : target.name ≠ ""
  edges_ne_nil : project.graph.edges ≠ []
  ends : ∀ edge ∈ project.graph.edges,
    edge.source = sender.id ∧ edge.target = receiver.id ∨
      edge.source = sender.id ∧ project.graph.isTransformerNode edge.target = true ∨
      project.graph.isTransformerNode edge.source = true ∧ edge.target = receiver.id
  balanced : ∀ node ∈ project.graph.nodes, node.isTransformer = true →
    project.graph.edges.countP (·.target = node.id) =
      project.graph.edges.countP (·.source = node.id)
  reads : ∀ edge ∈ project.graph.edges, edge.source = sender.id →
    ∃ field, field ≠ "" ∧ source.hasField field = true ∧
      edge.sourceHandle = some (Handle.reading field)
  writes : ∀ edge ∈ project.graph.edges, edge.target = receiver.id →
    ∃ field, field ≠ "" ∧ target.hasField field = true ∧
      edge.targetHandle = some (Handle.writing field)

namespace SinglePair

variable {project : Project} {sender receiver : GraphNode} {source target : StructDescriptor}
  (hpair : project.SinglePair sender receiver source target)

include hpair

theorem isStructNode_of_structRef {node : GraphNode} (hnode : node ∈ project.graph.nodes)
    {descriptor : StructDescriptor}
    (hshows : node.structRef.bind project.registry.struct? = some descriptor) :
    node.isStruct = true ∧ project.graph.isStructNode node.id = true := by
  obtain ⟨id, href, _⟩ := Option.bind_eq_some_iff.1 hshows
  have hstruct : node.isStruct = true := by
    unfold GraphNode.structRef at href
    cases hkind : node.kind with
    | struct => simp [GraphNode.isStruct, hkind]
    | transformer => simp [hkind] at href
  refine ⟨hstruct, ?_⟩
  rw [isStructNode, (lastNode?_eq_some_iff hpair.nodes).2 ⟨hnode, rfl⟩]
  exact hstruct

theorem sender_isStructNode : project.graph.isStructNode sender.id = true :=
  (hpair.isStructNode_of_structRef hpair.sender_mem hpair.shows_source).2

theorem receiver_isStructNode : project.graph.isStructNode receiver.id = true :=
  (hpair.isStructNode_of_structRef hpair.receiver_mem hpair.shows_target).2

theorem sender_id_ne : sender.id ≠ receiver.id := by
  intro hid
  exact hpair.sender_ne (List.inj_on_of_nodup_map hpair.nodes hpair.sender_mem
    hpair.receiver_mem hid)

omit hpair in
theorem ne_of_isTransformerNode {id other : String}
    (hstruct : project.graph.isStructNode id = true)
    (htransformer : project.graph.isTransformerNode other = true) : other ≠ id := by
  rintro rfl
  rw [isStructNode_of_isTransformerNode htransformer] at hstruct
  cases hstruct

theorem source_of_mem {edge : GraphEdge} (hedge : edge ∈ project.graph.edges) :
    edge.source = sender.id ∨ project.graph.isTransformerNode edge.source = true := by
  rcases hpair.ends edge hedge with ⟨hsource, _⟩ | ⟨hsource, _⟩ | ⟨hsource, _⟩
  · exact Or.inl hsource
  · exact Or.inl hsource
  · exact Or.inr hsource

theorem target_of_mem {edge : GraphEdge} (hedge : edge ∈ project.graph.edges) :
    edge.target = receiver.id ∨ project.graph.isTransformerNode edge.target = true := by
  rcases hpair.ends edge hedge with ⟨_, htarget⟩ | ⟨_, htarget⟩ | ⟨_, htarget⟩
  · exact Or.inl htarget
  · exact Or.inr htarget
  · exact Or.inl htarget

theorem source_of_into {edge : GraphEdge} (hedge : edge ∈ project.graph.edges)
    (htransformer : project.graph.isTransformerNode edge.target = true) :
    edge.source = sender.id := by
  have hne := ne_of_isTransformerNode hpair.receiver_isStructNode htransformer
  rcases hpair.ends edge hedge with ⟨hsource, _⟩ | ⟨hsource, _⟩ | ⟨_, htarget⟩
  · exact hsource
  · exact hsource
  · exact absurd htarget hne

theorem target_of_outOf {edge : GraphEdge} (hedge : edge ∈ project.graph.edges)
    (htransformer : project.graph.isTransformerNode edge.source = true) :
    edge.target = receiver.id := by
  have hne := ne_of_isTransformerNode hpair.sender_isStructNode htransformer
  rcases hpair.ends edge hedge with ⟨hsource, _⟩ | ⟨hsource, _⟩ | ⟨_, htarget⟩
  · exact absurd hsource hne
  · exact absurd hsource hne
  · exact htarget

theorem separate : project.graph.Separate := by
  rw [separate_iff]
  rintro edge hedge ⟨hsource, htarget⟩
  have hmem := (List.mem_filter.1 hedge).1
  exact ne_of_isTransformerNode hpair.sender_isStructNode hsource
    (hpair.source_of_into hmem htarget)

theorem survivingEdges_eq : project.graph.survivingEdges = project.graph.edges := by
  have hmember : ∀ node ∈ project.graph.nodes, project.graph.hasNode node.id = true := by
    intro node hnode
    exact List.any_eq_true.2 ⟨node, hnode, by simp⟩
  have htransformers : ∀ id, project.graph.isTransformerNode id = true →
      project.graph.hasNode id = true := by
    intro id htransformer
    obtain ⟨node, hnode, rfl, _⟩ := exists_transformer hpair.nodes htransformer
    exact hmember node hnode
  apply List.filter_eq_self.2
  intro edge hedge
  rw [Bool.and_eq_true]
  rcases hpair.ends edge hedge with ⟨hsource, htarget⟩ | ⟨hsource, htarget⟩ | ⟨hsource, htarget⟩
  · exact ⟨hsource ▸ hmember sender hpair.sender_mem, htarget ▸ hmember receiver hpair.receiver_mem⟩
  · exact ⟨hsource ▸ hmember sender hpair.sender_mem, htransformers _ htarget⟩
  · exact ⟨htransformers _ hsource, htarget ▸ hmember receiver hpair.receiver_mem⟩

theorem mem_edges {place : Nat} {edge : GraphEdge}
    (hedge : project.graph.survivingEdges[place]? = some edge) : edge ∈ project.graph.edges := by
  rw [← hpair.survivingEdges_eq]
  exact List.mem_of_getElem? hedge

/-- A transformer that is given a value sends one on, and the other way round. -/
theorem exists_into_iff {id : String} (htransformer : project.graph.isTransformerNode id = true) :
    (∃ edge ∈ project.graph.edges, edge.target = id) ↔
      ∃ edge ∈ project.graph.edges, edge.source = id := by
  obtain ⟨node, hnode, rfl, hkind, _⟩ := exists_transformer hpair.nodes htransformer
  have hpositive := congrArg (0 < ·) (hpair.balanced node hnode hkind)
  simpa [List.countP_pos_iff] using hpositive

theorem exists_leaving : ∃ edge ∈ project.graph.edges, edge.source = sender.id := by
  obtain ⟨edge, hedge⟩ := List.exists_mem_of_ne_nil _ hpair.edges_ne_nil
  rcases hpair.ends edge hedge with ⟨hsource, _⟩ | ⟨hsource, _⟩ | ⟨hsource, _⟩
  · exact ⟨edge, hedge, hsource⟩
  · exact ⟨edge, hedge, hsource⟩
  · obtain ⟨incoming, hincoming, hnode⟩ := (hpair.exists_into_iff hsource).2 ⟨edge, hedge, rfl⟩
    exact ⟨incoming, hincoming, hpair.source_of_into hincoming (hnode ▸ hsource)⟩

theorem exists_entering : ∃ edge ∈ project.graph.edges, edge.target = receiver.id := by
  obtain ⟨edge, hedge, hsource⟩ := hpair.exists_leaving
  rcases hpair.target_of_mem hedge with htarget | htarget
  · exact ⟨edge, hedge, htarget⟩
  · obtain ⟨outgoing, houtgoing, hnode⟩ := (hpair.exists_into_iff htarget).1 ⟨edge, hedge, rfl⟩
    exact ⟨outgoing, houtgoing, hpair.target_of_outOf houtgoing (hnode ▸ htarget)⟩

theorem sends_iff {id : String} (hstruct : project.graph.isStructNode id = true) :
    project.graph.sends id = true ↔ id = sender.id := by
  rw [sends, hstruct, Bool.true_and, hpair.survivingEdges_eq, List.any_eq_true]
  simp only [decide_eq_true_eq]
  constructor
  · rintro ⟨edge, hedge, rfl⟩
    rcases hpair.ends edge hedge with ⟨hsource, _⟩ | ⟨hsource, _⟩ | ⟨hsource, _⟩
    · exact hsource
    · exact hsource
    · exact absurd rfl (ne_of_isTransformerNode hstruct hsource)
  · rintro rfl
    exact hpair.exists_leaving

theorem receives_iff {id : String} (hstruct : project.graph.isStructNode id = true) :
    project.graph.receives id = true ↔ id = receiver.id := by
  rw [receives, hstruct, Bool.true_and, hpair.survivingEdges_eq, List.any_eq_true]
  simp only [decide_eq_true_eq]
  constructor
  · rintro ⟨edge, hedge, rfl⟩
    rcases hpair.ends edge hedge with ⟨_, htarget⟩ | ⟨_, htarget⟩ | ⟨_, htarget⟩
    · exact htarget
    · exact absurd rfl (ne_of_isTransformerNode hstruct htarget)
    · exact htarget
  · rintro rfl
    exact hpair.exists_entering

theorem sourceNode?_eq : project.graph.sourceNode? = some sender := by
  have hsender := hpair.isStructNode_of_structRef hpair.sender_mem hpair.shows_source
  apply find?_eq_some_of_unique hpair.sender_mem
  · simp [hsender.1, (hpair.sends_iff hsender.2).2 rfl,
      Bool.eq_false_iff.2 (mt (hpair.receives_iff hsender.2).1 hpair.sender_id_ne)]
  · intro node hnode hfits
    simp only [Bool.and_eq_true] at hfits
    have hstruct : project.graph.isStructNode node.id = true := (Bool.and_eq_true_iff.1 hfits.1.2).1
    exact List.inj_on_of_nodup_map hpair.nodes hnode hpair.sender_mem
      ((hpair.sends_iff hstruct).1 hfits.1.2)

theorem targetNode?_eq : project.graph.targetNode? = some receiver := by
  have hreceiver := hpair.isStructNode_of_structRef hpair.receiver_mem hpair.shows_target
  apply find?_eq_some_of_unique hpair.receiver_mem
  · simp [hreceiver.1, (hpair.receives_iff hreceiver.2).2 rfl,
      Bool.eq_false_iff.2 (mt (hpair.sends_iff hreceiver.2).1 hpair.sender_id_ne.symm)]
  · intro node hnode hfits
    simp only [Bool.and_eq_true] at hfits
    have hstruct : project.graph.isStructNode node.id = true := (Bool.and_eq_true_iff.1 hfits.1.2).1
    exact List.inj_on_of_nodup_map hpair.nodes hnode hpair.receiver_mem
      ((hpair.receives_iff hstruct).1 hfits.1.2)

theorem analyze_eq : project.graph.analyze project.registry =
    [⟨some source, some target, project.graph.fieldMappings project.registry⟩] := by
  rw [analyze, hpair.sourceNode?_eq, hpair.targetNode?_eq]
  simp only [hpair.shows_source, hpair.shows_target]

/-- A stitch leads from the sender to the receiver. -/
structure Crosses (project : Project) (sender receiver : GraphNode) (stitch : Stitch)
    (leaving entering : GraphEdge) : Prop where
  first_mem : stitch.first ∈ stitch.places
  last_mem : stitch.last ∈ stitch.places
  first_eq : project.graph.survivingEdges[stitch.first]? = some leaving
  last_eq : project.graph.survivingEdges[stitch.last]? = some entering
  leaves : leaving.source = sender.id
  enters : entering.target = receiver.id
  mapping_eq : ∀ registry : Registry,
    (stitch.mapping registry project.graph.survivingEdges).sourceField = sourceKey (some leaving) ∧
      (stitch.mapping registry project.graph.survivingEdges).targetField = targetKey (some entering)

theorem crosses_direct {place : Nat} (hoccurs : (Stitch.direct place).Occurs project.graph) :
    ∃ leaving entering, Crosses project sender receiver (.direct place) leaving entering := by
  obtain ⟨edge, hedge, hsource, htarget⟩ := Stitch.occurs_direct_iff.1 hoccurs
  have hends : edge.source = sender.id ∧ edge.target = receiver.id := by
    rcases hpair.ends edge (hpair.mem_edges hedge) with hboth | ⟨_, hinto⟩ | ⟨hout, _⟩
    · exact hboth
    · exact absurd rfl (ne_of_isTransformerNode htarget hinto)
    · exact absurd rfl (ne_of_isTransformerNode hsource hout)
  refine ⟨edge, edge, ?_⟩
  constructor
  · simp [Stitch.first, Stitch.places]
  · simp [Stitch.last, Stitch.places]
  · exact hedge
  · exact hedge
  · exact hends.1
  · exact hends.2
  · intro registry
    rw [Stitch.mapping, hedge]
    exact ⟨rfl, rfl⟩

/-- At a transformer every position has an edge in and an edge out. -/
theorem crosses_through {node : GraphNode} {incoming outgoing : Option Nat}
    (hoccurs : (Stitch.through node incoming outgoing).Occurs project.graph) :
    ∃ leaving entering,
      Crosses project sender receiver (.through node incoming outgoing) leaving entering := by
  obtain ⟨hnode, hkind, hsome, i, hincoming, houtgoing⟩ := Stitch.occurs_through_iff.1 hoccurs
  have hlength : (placesInto project.graph.survivingEdges node.id).length =
      (placesOutOf project.graph.survivingEdges node.id).length := by
    rw [length_placesInto, length_placesOutOf, hpair.survivingEdges_eq]
    exact hpair.balanced node hnode hkind
  have hbound : i < (placesInto project.graph.survivingEdges node.id).length := by
    by_contra hge
    rw [List.getElem?_eq_none (by omega)] at hincoming
    rw [List.getElem?_eq_none (by omega)] at houtgoing
    simp [← hincoming, ← houtgoing] at hsome
  rw [List.getElem?_eq_getElem hbound] at hincoming
  rw [List.getElem?_eq_getElem (hlength ▸ hbound)] at houtgoing
  obtain ⟨leaving, hleaving, hinto⟩ := mem_placesInto.1 (List.getElem_mem hbound)
  obtain ⟨entering, hentering, hout⟩ := mem_placesOutOf.1 (List.getElem_mem (hlength ▸ hbound))
  have htransformer := isTransformerNode_of_mem hpair.nodes hnode hkind
  rw [← hincoming, ← houtgoing]
  refine ⟨leaving, entering, ?_⟩
  constructor
  · simp [Stitch.first, Stitch.places]
  · simp [Stitch.last, Stitch.places]
  · exact hleaving
  · exact hentering
  · exact hpair.source_of_into (hpair.mem_edges hleaving) (hinto ▸ htransformer)
  · exact hpair.target_of_outOf (hpair.mem_edges hentering) (hout ▸ htransformer)
  · intro registry
    rw [Stitch.mapping, Option.bind_some, Option.bind_some, hleaving, hentering]
    exact ⟨rfl, rfl⟩

theorem exists_crosses {stitch : Stitch} (hoccurs : stitch.Occurs project.graph) :
    ∃ leaving entering, Crosses project sender receiver stitch leaving entering := by
  cases stitch with
  | direct place => exact hpair.crosses_direct hoccurs
  | through node incoming outgoing => exact hpair.crosses_through hoccurs

theorem occurs_direct {place : Nat} {edge : GraphEdge}
    (hedge : project.graph.survivingEdges[place]? = some edge) (hsource : edge.source = sender.id)
    (htarget : edge.target = receiver.id) : (Stitch.direct place).Occurs project.graph := by
  refine Stitch.occurs_direct_iff.2 ⟨edge, hedge, ?_, ?_⟩
  · rw [hsource]
    exact hpair.sender_isStructNode
  · rw [htarget]
    exact hpair.receiver_isStructNode

/-- Every edge out of the sender begins a stitch. -/
theorem exists_first_eq {place : Nat}
    (hplace : place ∈ placesOutOf project.graph.survivingEdges sender.id) :
    ∃ stitch : Stitch, stitch.Occurs project.graph ∧ stitch.first = place := by
  obtain ⟨edge, hedge, hsource⟩ := mem_placesOutOf.1 hplace
  have hmem := (List.mem_filter.1 (List.mem_of_getElem? hedge)).1
  rcases hpair.target_of_mem hmem with htarget | htransformer
  · exact ⟨.direct place, hpair.occurs_direct hedge hsource htarget, rfl⟩
  · obtain ⟨node, hnode, hid, hkind, _⟩ := exists_transformer hpair.nodes htransformer
    obtain ⟨i, hi⟩ := List.mem_iff_getElem?.1 (mem_placesInto.2 ⟨edge, hedge, hid.symm⟩)
    exact ⟨.through node (some place) (placesOutOf project.graph.survivingEdges node.id)[i]?,
      Stitch.occurs_through_iff.2 ⟨hnode, hkind, Or.inl (by simp), i, hi, rfl⟩, rfl⟩

theorem exists_last_eq {place : Nat}
    (hplace : place ∈ placesInto project.graph.survivingEdges receiver.id) :
    ∃ stitch : Stitch, stitch.Occurs project.graph ∧ stitch.last = place := by
  obtain ⟨edge, hedge, htarget⟩ := mem_placesInto.1 hplace
  have hmem := (List.mem_filter.1 (List.mem_of_getElem? hedge)).1
  rcases hpair.source_of_mem hmem with hsource | htransformer
  · exact ⟨.direct place, hpair.occurs_direct hedge hsource htarget, rfl⟩
  · obtain ⟨node, hnode, hid, hkind, _⟩ := exists_transformer hpair.nodes htransformer
    obtain ⟨i, hi⟩ := List.mem_iff_getElem?.1 (mem_placesOutOf.2 ⟨edge, hedge, hid.symm⟩)
    exact ⟨.through node (placesInto project.graph.survivingEdges node.id)[i]? (some place),
      Stitch.occurs_through_iff.2 ⟨hnode, hkind, Or.inr (by simp), i, rfl, hi⟩, rfl⟩

section Stitches

variable {stitches : List Stitch}
  (hmem : ∀ stitch, stitch ∈ stitches ↔ stitch.Occurs project.graph) (hnodup : stitches.Nodup)

include hmem hnodup

/-- Places that tell stitches apart, one for each stitch, are a permutation of the places that
begin or end a stitch. -/
theorem perm_map_place {place : Stitch → Nat} {places : List Nat}
    (hplaces : places.Nodup) (hown : ∀ stitch ∈ stitches, place stitch ∈ stitch.places)
    (hfound : ∀ stitch ∈ stitches, place stitch ∈ places)
    (hexists : ∀ other ∈ places, ∃ stitch : Stitch, stitch.Occurs project.graph ∧
      place stitch = other) : (stitches.map place).Perm places := by
  have hdistinct : (stitches.map place).Nodup := by
    refine List.Nodup.map_on ?_ hnodup
    intro stitch hstitch other hother hsame
    exact Stitch.Occurs.unique hpair.nodes hpair.separate ((hmem stitch).1 hstitch)
      ((hmem other).1 hother) (hown stitch hstitch) (hsame ▸ hown other hother)
  rw [List.perm_ext_iff_of_nodup hdistinct hplaces]
  intro other
  rw [List.mem_map]
  constructor
  · rintro ⟨stitch, hstitch, rfl⟩
    exact hfound stitch hstitch
  · intro hother
    obtain ⟨stitch, hoccurs, rfl⟩ := hexists other hother
    exact ⟨stitch, (hmem stitch).2 hoccurs, rfl⟩

theorem perm_map_first :
    (stitches.map Stitch.first).Perm (placesOutOf project.graph.survivingEdges sender.id) := by
  apply hpair.perm_map_place hmem hnodup nodup_placesOutOf
  · intro stitch hstitch
    obtain ⟨_, _, hcrosses⟩ := hpair.exists_crosses ((hmem stitch).1 hstitch)
    exact hcrosses.first_mem
  · intro stitch hstitch
    obtain ⟨leaving, _, hcrosses⟩ := hpair.exists_crosses ((hmem stitch).1 hstitch)
    exact mem_placesOutOf.2 ⟨leaving, hcrosses.first_eq, hcrosses.leaves⟩
  · exact fun place => hpair.exists_first_eq

theorem perm_map_last :
    (stitches.map Stitch.last).Perm (placesInto project.graph.survivingEdges receiver.id) := by
  apply hpair.perm_map_place hmem hnodup nodup_placesInto
  · intro stitch hstitch
    obtain ⟨_, _, hcrosses⟩ := hpair.exists_crosses ((hmem stitch).1 hstitch)
    exact hcrosses.last_mem
  · intro stitch hstitch
    obtain ⟨_, entering, hcrosses⟩ := hpair.exists_crosses ((hmem stitch).1 hstitch)
    exact mem_placesInto.2 ⟨entering, hcrosses.last_eq, hcrosses.enters⟩
  · exact fun place => hpair.exists_last_eq

end Stitches

/-- The mapping of a stitch reads and writes fields that the structs have, the ones its edges
say. -/
theorem fields_of_crosses {stitch : Stitch} {leaving entering : GraphEdge}
    (hcrosses : Crosses project sender receiver stitch leaving entering) (registry : Registry) :
    let mapping := stitch.mapping registry project.graph.survivingEdges
    (source.hasField mapping.sourceField = true ∧
        leaving.sourceHandle = some (Handle.reading mapping.sourceField)) ∧
      target.hasField mapping.targetField = true ∧
        entering.targetHandle = some (Handle.writing mapping.targetField) := by
  intro mapping
  obtain ⟨hsource, htarget⟩ := hcrosses.mapping_eq registry
  obtain ⟨read, hread, hasRead, hreading⟩ :=
    hpair.reads leaving (hpair.mem_edges hcrosses.first_eq) hcrosses.leaves
  obtain ⟨written, hwritten, hasWritten, hwriting⟩ :=
    hpair.writes entering (hpair.mem_edges hcrosses.last_eq) hcrosses.enters
  have hsourceField : mapping.sourceField = read := by
    rw [hsource, sourceKey, Option.bind_some, hreading, Handle.fieldKey_reading hread]
  have htargetField : mapping.targetField = written := by
    rw [htarget, targetKey, Option.bind_some, hwriting, Handle.fieldKey_writing hwritten]
  rw [hsourceField, htargetField]
  exact ⟨⟨hasRead, hreading⟩, hasWritten, hwriting⟩

/-- The mappings of the graph read the fields of the edges out of the sender, each once, and
write the fields of the edges into the receiver, each once. -/
theorem fieldMappings_perm (registry : Registry) :
    ((project.graph.fieldMappings registry).map fun mapping =>
        some (Handle.reading mapping.sourceField)).Perm
      ((project.graph.edges.filter (·.source = sender.id)).map (·.sourceHandle)) ∧
    ((project.graph.fieldMappings registry).map fun mapping =>
        some (Handle.writing mapping.targetField)).Perm
      ((project.graph.edges.filter (·.target = receiver.id)).map (·.targetHandle)) ∧
    ∀ mapping ∈ project.graph.fieldMappings registry,
      source.hasField mapping.sourceField = true ∧ target.hasField mapping.targetField = true := by
  obtain ⟨stitches, hstitches⟩ := exists_stitches registry hpair.nodes hpair.separate
  have hoccurs := hstitches.mem_iff_occurs
  rw [hstitches.mappings_eq, List.map_map, List.map_map, ← hpair.survivingEdges_eq,
    ← map_bind_placesOutOf, ← map_bind_placesInto]
  have hcrosses : ∀ stitch ∈ stitches, ∃ leaving entering,
      Crosses project sender receiver stitch leaving entering :=
    fun stitch hstitch => hpair.exists_crosses ((hoccurs stitch).1 hstitch)
  refine ⟨?_, ?_, ?_⟩
  · apply perm_map_of_places _ _ (hpair.perm_map_first hoccurs hstitches.nodup)
    intro stitch hstitch
    obtain ⟨leaving, entering, hstitch⟩ := hcrosses stitch hstitch
    rw [hstitch.first_eq, Option.bind_some]
    exact (hpair.fields_of_crosses hstitch registry).1.2
  · apply perm_map_of_places _ _ (hpair.perm_map_last hoccurs hstitches.nodup)
    intro stitch hstitch
    obtain ⟨leaving, entering, hstitch⟩ := hcrosses stitch hstitch
    rw [hstitch.last_eq, Option.bind_some]
    exact (hpair.fields_of_crosses hstitch registry).2.2
  · intro mapping hmapping
    obtain ⟨stitch, hstitch, rfl⟩ := List.mem_map.1 hmapping
    obtain ⟨leaving, entering, hstitch⟩ := hcrosses stitch hstitch
    have hfields := hpair.fields_of_crosses hstitch registry
    exact ⟨hfields.1.1, hfields.2.1⟩

theorem countP_leaving : project.graph.edges.countP (·.source = sender.id) =
    project.graph.edges.countP (fun edge => edge.source = sender.id ∧ edge.target = receiver.id) +
      project.graph.edges.countP (fun edge => edge.source = sender.id ∧
        project.graph.isTransformerNode edge.target = true) := by
  rw [List.countP_eq_countP_filter_add _ _ fun edge : GraphEdge => edge.target = receiver.id,
    List.countP_filter, List.countP_filter]
  congr 1
  · simp only [Bool.decide_and]
  · apply List.countP_congr
    intro edge hedge
    simp only [Bool.and_eq_true, Bool.not_eq_true', decide_eq_true_eq, decide_eq_false_iff_not]
    constructor
    · rintro ⟨hsource, hother⟩
      exact ⟨hsource, (hpair.target_of_mem hedge).resolve_left hother⟩
    · rintro ⟨hsource, htransformer⟩
      exact ⟨hsource, ne_of_isTransformerNode hpair.receiver_isStructNode htransformer⟩

theorem unit_compile (options : Code.Options) : (project.compile options).unit =
    ⟨options.functionName.getD ("Map" ++ source.name ++ "To" ++ target.name),
      Code.functionText (options.functionName.getD ("Map" ++ source.name ++ "To" ++ target.name))
        options source target (project.graph.fieldMappings project.registry),
      Code.ImportSet.detect project.transformers, []⟩ := by
  unfold compile
  rw [hpair.analyze_eq]
  simp only [Code.generateAll, Code.generate, Code.emit, if_neg hpair.source_named,
    if_neg hpair.target_named]

end SinglePair

open Code

/-- The function of a project of a single pair. -/
theorem compile_of_singlePair (project : Project) (sender receiver : GraphNode)
    (source target : StructDescriptor)
    (hpair : project.SinglePair sender receiver source target) (options : Options) :
    (project.compile options).unit.errors = [] ∧
    (project.compile options).file =
      some ((project.compile options).unit.file options.packageName) ∧
    ∃ assignments : List Assignment,
      (project.compile options).unit.code =
        mappingText (options.functionName.getD ("Map" ++ source.name ++ "To" ++ target.name))
          options source.name target.name assignments ∧
      assignments.length =
        project.graph.edges.countP (fun edge =>
          edge.source = sender.id ∧ edge.target = receiver.id) +
        project.graph.edges.countP (fun edge =>
          edge.source = sender.id ∧ project.graph.isTransformerNode edge.target = true) ∧
      (assignments.map fun assignment => some (Handle.reading assignment.reads)).Perm
        ((project.graph.edges.filter (·.source = sender.id)).map (·.sourceHandle)) ∧
      (assignments.map fun assignment => some (Handle.writing assignment.writes)).Perm
        ((project.graph.edges.filter (·.target = receiver.id)).map (·.targetHandle)) ∧
      ∀ assignment ∈ assignments,
        source.hasField assignment.reads = true ∧ target.hasField assignment.writes = true := by
  have hunit := hpair.unit_compile options
  obtain ⟨hreads, hwrites, hfields⟩ := hpair.fieldMappings_perm project.registry
  have hlength := hreads.length_eq
  rw [List.length_map, List.length_map, ← List.countP_eq_length_filter] at hlength
  have hmappings : project.graph.fieldMappings project.registry ≠ [] := by
    rw [ne_eq, ← List.length_eq_zero_iff, hlength, List.countP_eq_zero]
    obtain ⟨edge, hedge, hsource⟩ := hpair.exists_leaving
    exact fun hnone => hnone edge hedge (by simpa using hsource)
  refine ⟨by rw [hunit], ?_,
    (project.graph.fieldMappings project.registry).map (Assignment.ofMapping source target),
    ?_, ?_, ?_, ?_, ?_⟩
  · have hfile : (project.compile options).file = if (project.compile options).unit.isOk then
        some ((project.compile options).unit.file options.packageName) else none := rfl
    rw [hfile, if_pos]
    rw [hunit]
    rfl
  · rw [hunit, functionText_of_mappings options source target _ hmappings]
  · rw [List.length_map, hlength, hpair.countP_leaving]
  · rwa [List.map_map]
  · rwa [List.map_map]
  · intro assignment hassignment
    obtain ⟨mapping, hmapping, rfl⟩ := List.mem_map.1 hassignment
    exact hfields mapping hmapping

def sentStruct : StructDescriptor where
  id := "a"
  name := "A"
  fields := [.ofType "X" "int", .ofType "Y" "struct"]

def receivedStruct : StructDescriptor where
  id := "b"
  name := "B"
  fields := [.ofType "in" "int", .ofType "Y" "struct"]

/-- Two fields that go through one transformer, the second met first where it comes out, and
one that does not. -/
def threeFields : Project where
  id := "p"
  name := "P"
  structs := [sentStruct, receivedStruct]
  graph :=
    { nodes := [.ofTransformer "t" "lost" "", .ofStruct "to" "b" "", .ofStruct "from" "a" "",
        .ofStruct "apart" "a" ""]
      edges := [⟨"1", "t", "to", none, some "field-in-in", none⟩,
        ⟨"2", "from", "to", some "field-Y-out", some "field-Y-in", none⟩,
        ⟨"3", "from", "t", some "field-X-out", none, none⟩,
        ⟨"4", "from", "t", some "field-Y-out", none, none⟩,
        ⟨"5", "t", "to", none, some "field-Y-in", none⟩] }

theorem threeFields_singlePair : threeFields.SinglePair (.ofStruct "from" "a" "")
    (.ofStruct "to" "b" "") sentStruct receivedStruct := by
  constructor
  case reads =>
    simp only [threeFields, List.forall_mem_cons]
    exact ⟨nofun, fun _ => ⟨"Y", by decide, by decide, rfl⟩,
      fun _ => ⟨"X", by decide, by decide, rfl⟩, fun _ => ⟨"Y", by decide, by decide, rfl⟩,
      nofun, nofun⟩
  case writes =>
    simp only [threeFields, List.forall_mem_cons]
    exact ⟨fun _ => ⟨"in", by decide, by decide, rfl⟩,
      fun _ => ⟨"Y", by decide, by decide, rfl⟩, nofun, nofun,
      fun _ => ⟨"Y", by decide, by decide, rfl⟩, nofun⟩
  all_goals decide

theorem compile_of_singlePair_threeFields : ∃ assignments : List Assignment,
    (threeFields.compile {}).unit.code = mappingText "MapAToB" {} "A" "B" assignments ∧
      assignments.length = 3 := by
  obtain ⟨_, _, assignments, hcode, hlength, _⟩ :=
    compile_of_singlePair threeFields _ _ _ _ threeFields_singlePair {}
  exact ⟨assignments, hcode, hlength⟩

end Project

end FieldBridge
