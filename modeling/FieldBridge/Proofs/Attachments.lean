import FieldBridge.Proofs.References

/-!
# Transformers attached to edges

A project names its transformers in two places: a node shows one, and an edge may have one
attached to it.  Every edit keeps what nodes refer to.  The removal of a transformer takes
away the nodes that show it and the edges at them, but an edge between other nodes keeps the
transformer attached to it, and then refers to nothing.
-/

namespace FieldBridge.Project

/-- Whatever a node refers to is known. -/
structure NodesResolved (project : Project) : Prop where
  struct : ∀ node ∈ project.graph.nodes, ∀ id, node.structRef = some id →
    (project.registry.struct? id).isSome = true
  transformer : ∀ node ∈ project.graph.nodes, ∀ id, node.transformerRef = some id →
    (project.registry.transformer? id).isSome = true

/-- Whatever a node refers to is known, and so is whatever is attached to an edge. -/
structure Resolved (project : Project) : Prop extends project.NodesResolved where
  attached : ∀ edge ∈ project.graph.edges, ∀ id, edge.transformerId = some id →
    (project.registry.transformer? id).isSome = true

section Step

variable {project : Project} {id : String}

theorem isSome_struct?_iff : (project.registry.struct? id).isSome = true ↔
    ∃ descriptor ∈ project.structs, descriptor.id = id := by
  simp [registry, Registry.ofLists]

theorem isSome_transformer?_iff : (project.registry.transformer? id).isSome = true ↔
    ∃ transformer ∈ project.transformers, transformer.id = id := by
  simp [registry, Registry.ofLists]

theorem isSome_struct?_apply {edit : Edit} (hknown : (project.registry.struct? id).isSome = true)
    (hkept : edit ≠ .removeStruct id) :
    ((edit.apply project).registry.struct? id).isSome = true := by
  obtain ⟨descriptor, hmem, rfl⟩ := isSome_struct?_iff.1 hknown
  exact isSome_struct?_iff.2 (exists_struct_apply hmem hkept)

theorem isSome_transformer?_apply {edit : Edit}
    (hknown : (project.registry.transformer? id).isSome = true)
    (hkept : edit ≠ .removeTransformer id) :
    ((edit.apply project).registry.transformer? id).isSome = true := by
  obtain ⟨transformer, hmem, rfl⟩ := isSome_transformer?_iff.1 hknown
  exact isSome_transformer?_iff.2 (exists_transformer_apply hmem hkept)

theorem nodesResolved_apply (hresolved : project.NodesResolved) (edit : Edit) :
    (edit.apply project).NodesResolved := by
  constructor
  · intro node hnode id hstruct
    obtain ⟨hmem, haims⟩ := mem_nodes_apply hnode
    apply isSome_struct?_apply (hresolved.struct node hmem id hstruct)
    rintro rfl
    rw [GraphNode.structRef_eq_some_iff] at hstruct
    simp [Edit.aimsAt, hstruct] at haims
  · intro node hnode id htransformer
    obtain ⟨hmem, haims⟩ := mem_nodes_apply hnode
    apply isSome_transformer?_apply (hresolved.transformer node hmem id htransformer)
    rintro rfl
    rw [GraphNode.transformerRef_eq_some_iff] at htransformer
    simp [Edit.aimsAt, htransformer] at haims

theorem transformer?_removeTransformer :
    ((project.removeTransformer id).registry.transformer? id).isSome = false := by
  rw [Bool.eq_false_iff, ne_eq, isSome_transformer?_iff]
  simp [removeTransformer, withoutNodes]

/-- An edit leaves the references of a project resolved, unless it is the removal of a
transformer that is attached to an edge it leaves. -/
theorem resolved_apply_iff (hresolved : project.Resolved) (edit : Edit) :
    (edit.apply project).Resolved ↔ ∀ edge ∈ (edit.apply project).graph.edges, ∀ id,
      edge.transformerId = some id → edit ≠ .removeTransformer id := by
  constructor
  · rintro hafter edge hedge id hattached rfl
    have hknown := hafter.attached edge hedge id hattached
    rw [Edit.apply, transformer?_removeTransformer] at hknown
    cases hknown
  · intro hkept
    refine ⟨nodesResolved_apply hresolved.toNodesResolved edit, ?_⟩
    intro edge hedge id hattached
    have hmem : edge ∈ project.graph.edges := by
      rw [(edit.keeps_apply project).edges] at hedge
      exact (List.mem_filter.1 hedge).1
    exact isSome_transformer?_apply (hresolved.attached edge hmem id hattached)
      (hkept edge hedge id hattached)

theorem mem_edges_removeTransformer_iff {edge : GraphEdge} :
    edge ∈ (project.removeTransformer id).graph.edges ↔ edge ∈ project.graph.edges ∧
      ∀ node ∈ project.graph.nodes, node.transformerRef = some id →
        edge.source ≠ node.id ∧ edge.target ≠ node.id := by
  simp only [removeTransformer, withoutNodes, dropNodes, List.mem_filter, Bool.and_eq_true,
    decide_eq_true_eq, List.mem_map, not_exists, not_and]
  grind

end Step

/-- The removal of a transformer leaves no node that refers to it, and everything that nodes
refer to is known.  Of what is attached to the edges that are left, only the removed
transformer is unknown.  So the references stay resolved exactly when every edge that it is
attached to is at a node that shows it. -/
theorem resolved_removeTransformer_iff (project : Project) (hresolved : project.Resolved)
    (id : String) :
    (project.removeTransformer id).NodesResolved ∧
      (∀ node ∈ (project.removeTransformer id).graph.nodes, node.transformerRef ≠ some id) ∧
      (∀ edge ∈ (project.removeTransformer id).graph.edges, ∀ other,
        edge.transformerId = some other →
          (((project.removeTransformer id).registry.transformer? other).isSome = true ↔
            other ≠ id)) ∧
      ((project.removeTransformer id).Resolved ↔
        ∀ edge ∈ project.graph.edges, edge.transformerId = some id →
          ∃ node ∈ project.graph.nodes, node.transformerRef = some id ∧
            (edge.source = node.id ∨ edge.target = node.id)) := by
  have hnodes : (project.removeTransformer id).NodesResolved :=
    nodesResolved_apply hresolved.toNodesResolved (.removeTransformer id)
  have hgone := @transformer?_removeTransformer project id
  refine ⟨hnodes, ?_, ?_, ?_⟩
  · intro node hnode href
    have hknown := hnodes.transformer node hnode id href
    rw [hgone] at hknown
    cases hknown
  · intro edge hedge other hattached
    constructor
    · rintro hknown rfl
      rw [hgone] at hknown
      cases hknown
    · intro hne
      have hmem := (mem_edges_removeTransformer_iff.1 hedge).1
      have hkept : Edit.removeTransformer id ≠ .removeTransformer other := by
        simpa using hne.symm
      exact isSome_transformer?_apply (hresolved.attached edge hmem other hattached) hkept
  · have hstep := resolved_apply_iff hresolved (.removeTransformer id)
    simp only [Edit.apply, mem_edges_removeTransformer_iff, ne_eq, Edit.removeTransformer.injEq]
      at hstep
    rw [hstep]
    grind

/-- Two structs whose fields are joined by an edge with a transformer attached to it. -/
def attachedPair : Project where
  id := "p"
  name := "P"
  structs := [{ id := "a", name := "A" }, { id := "b", name := "B" }]
  graph :=
    { nodes := [.ofStruct "n" "a" "", .ofStruct "m" "b" ""]
      edges := [(({ id := "1", source := "n", target := "m" } : GraphEdge).fromField "X").toField
        "X" |>.withTransformer "f"] }
  transformers := [{ id := "f", name := "F" }]

theorem resolved_attachedPair : attachedPair.Resolved := by
  refine ⟨⟨?_, ?_⟩, ?_⟩
  all_goals simp [attachedPair, registry, Registry.ofLists, GraphNode.ofStruct,
    GraphNode.structRef, GraphNode.transformerRef, GraphEdge.withTransformer, GraphEdge.toField,
    GraphEdge.fromField]

/-- A transformer attached to an edge between structs is referred to when it is gone. -/
theorem not_resolved_removeTransformer_attached :
    ¬ ∀ (project : Project) (id : String), project.Resolved →
      (∀ edge ∈ (project.removeTransformer id).graph.edges, edge.transformerId ≠ some id) ∧
        (project.removeTransformer id).Resolved := by
  intro hall
  obtain ⟨hedges, _⟩ := hall attachedPair "f" resolved_attachedPair
  exact hedges _ (List.mem_singleton_self _) rfl

theorem resolved_removeTransformer_iff_attached :
    attachedPair.Resolved ∧ (attachedPair.removeTransformer "f").NodesResolved ∧
      ¬ (attachedPair.removeTransformer "f").Resolved := by
  obtain ⟨hnodes, _, _, hiff⟩ :=
    resolved_removeTransformer_iff attachedPair resolved_attachedPair "f"
  refine ⟨resolved_attachedPair, hnodes, ?_⟩
  rw [hiff]
  simp [attachedPair, GraphNode.ofStruct, GraphNode.transformerRef, GraphEdge.withTransformer]

end FieldBridge.Project
