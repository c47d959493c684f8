import FieldBridge.Project.Basic
import Mathlib.Data.List.Basic

/-!
# References within a project

A project is closed when whatever its edges and nodes refer to is there.  Every edit leaves a
closed project closed.  A removal takes away the nodes that share an id with a node it aims
at, and the edges that touch such an id; everything else stays, in its order.
-/

namespace FieldBridge

namespace GraphNode

theorem structRef_eq_some_iff {node : GraphNode} {id : String} :
    node.structRef = some id ↔ node.kind = .struct ∧ node.data.structId = some id := by
  unfold structRef
  cases node.kind <;> simp

theorem transformerRef_eq_some_iff {node : GraphNode} {id : String} :
    node.transformerRef = some id ↔
      node.kind = .transformer ∧ node.data.transformerId = some id := by
  unfold transformerRef
  cases node.kind <;> simp

end GraphNode

namespace Project

/-- Every edge joins nodes, and every node that names a struct or a transformer names one of
the project. -/
structure Closed (project : Project) : Prop where
  source : ∀ edge ∈ project.graph.edges, ∃ node ∈ project.graph.nodes, node.id = edge.source
  target : ∀ edge ∈ project.graph.edges, ∃ node ∈ project.graph.nodes, node.id = edge.target
  struct : ∀ node ∈ project.graph.nodes, ∀ id, node.kind = .struct →
    node.data.structId = some id → ∃ descriptor ∈ project.structs, descriptor.id = id
  transformer : ∀ node ∈ project.graph.nodes, ∀ id, node.kind = .transformer →
    node.data.transformerId = some id → ∃ transformer ∈ project.transformers,
      transformer.id = id

/-- A removal or a replacement. -/
inductive Edit where
  | removeStruct (id : String)
  | removeTransformer (id : String)
  | removeNode (id : String)
  | removeEdge (id : String)
  | replaceStruct (descriptor : StructDescriptor)
  | replaceTransformer (transformer : Transformer)
deriving DecidableEq

namespace Edit

def apply (project : Project) : Edit → Project
  | removeStruct id => project.removeStruct id
  | removeTransformer id => project.removeTransformer id
  | removeNode id => project.removeNode id
  | removeEdge id => project.removeEdge id
  | replaceStruct descriptor => project.replaceStruct descriptor
  | replaceTransformer transformer => project.replaceTransformer transformer

/-- Whether an edit aims at a node: the removal of what the node shows, or of the node. -/
def aimsAt : Edit → GraphNode → Bool
  | removeStruct id, node => node.kind = .struct && node.data.structId = some id
  | removeTransformer id, node => node.kind = .transformer && node.data.transformerId = some id
  | removeNode id, node => node.id = id
  | _, _ => false

/-- No node with the id is aimed at. -/
def Spares (edit : Edit) (project : Project) (id : String) : Prop :=
  ∀ node ∈ project.graph.nodes, edit.aimsAt node = true → id ≠ node.id

instance (edit : Edit) (project : Project) (id : String) : Decidable (edit.Spares project id) :=
  inferInstanceAs (Decidable (∀ node ∈ project.graph.nodes, edit.aimsAt node = true →
    id ≠ node.id))

/-- The nodes and edges that an edit leaves: the nodes whose id is spared, and the edges
between spared ids that are not removed themselves. -/
structure Keeps (edit : Edit) (before after : Project) : Prop where
  nodes : after.graph.nodes = before.graph.nodes.filter fun node => edit.Spares before node.id
  edges : after.graph.edges = before.graph.edges.filter fun edge =>
    edit.Spares before edge.source ∧ edit.Spares before edge.target ∧
      edit ≠ .removeEdge edge.id

section Keeping

variable {edit : Edit} {project : Project}

theorem keeps_of_dropNodes {after : Project}
    (hgraph : after.graph = dropNodes project.graph
      ((project.graph.nodes.filter edit.aimsAt).map (·.id)))
    (hedge : ∀ id, edit ≠ .removeEdge id) : edit.Keeps project after := by
  have hspares : ∀ id, edit.Spares project id ↔
      id ∉ (project.graph.nodes.filter edit.aimsAt).map (·.id) := by
    intro id
    unfold Spares
    simp
    grind
  constructor
  · rw [hgraph, dropNodes]
    simp only [hspares]
  · rw [hgraph, dropNodes]
    simp only [hspares, hedge, ne_eq, not_false_eq_true, and_true, Bool.decide_and]

theorem spares_of_aimless (haimless : ∀ node, edit.aimsAt node = false) (id : String) :
    edit.Spares project id := by
  intro node _ haims
  rw [haimless] at haims
  cases haims

theorem keeps_of_same_graph {after : Project} (hgraph : after.graph = project.graph)
    (haimless : ∀ node, edit.aimsAt node = false) (hedge : ∀ id, edit ≠ .removeEdge id) :
    edit.Keeps project after := by
  constructor
  · simp [hgraph, spares_of_aimless haimless]
  · simp [hgraph, spares_of_aimless haimless, hedge]

end Keeping

theorem keeps_apply (edit : Edit) (project : Project) :
    edit.Keeps project (edit.apply project) := by
  cases edit with
  | removeStruct id =>
      apply keeps_of_dropNodes _ (by simp)
      have haims : (fun node : GraphNode => decide (node.structRef = some id)) =
          (removeStruct id).aimsAt := by
        funext node
        simp [aimsAt, GraphNode.structRef_eq_some_iff]
      simp only [apply, Project.removeStruct, withoutNodes, haims]
  | removeTransformer id =>
      apply keeps_of_dropNodes _ (by simp)
      have haims : (fun node : GraphNode => decide (node.transformerRef = some id)) =
          (removeTransformer id).aimsAt := by
        funext node
        simp [aimsAt, GraphNode.transformerRef_eq_some_iff]
      simp only [apply, Project.removeTransformer, withoutNodes, haims]
  | removeNode id =>
      exact keeps_of_dropNodes rfl (by simp)
  | removeEdge id =>
      constructor
      · simp [apply, Project.removeEdge, Spares, aimsAt]
      · simp [apply, Project.removeEdge, Spares, aimsAt, eq_comm]
  | replaceStruct descriptor => exact keeps_of_same_graph rfl (fun _ => rfl) (by simp)
  | replaceTransformer transformer => exact keeps_of_same_graph rfl (fun _ => rfl) (by simp)

end Edit

theorem exists_mem_replaceFirst {α β : Type} [DecidableEq β] (key : α → β) (new : α)
    {entries : List α} {entry : α} (hentry : entry ∈ entries) :
    ∃ kept ∈ replaceFirst (fun other => key other = key new) new entries,
      key kept = key entry := by
  induction entries with
  | nil => cases hentry
  | cons first rest ih =>
      rw [replaceFirst]
      by_cases hfits : key first = key new
      · rw [if_pos (by simpa using hfits)]
        rcases List.mem_cons.1 hentry with rfl | hrest
        · exact ⟨new, List.mem_cons_self, hfits.symm⟩
        · exact ⟨entry, List.mem_cons_of_mem new hrest, rfl⟩
      · rw [if_neg (by simpa using hfits)]
        rcases List.mem_cons.1 hentry with rfl | hrest
        · exact ⟨entry, List.mem_cons_self, rfl⟩
        · obtain ⟨kept, hkept, hkey⟩ := ih hrest
          exact ⟨kept, List.mem_cons_of_mem first hkept, hkey⟩

section Step

variable {project : Project} {edit : Edit}

/-- A struct goes away only when its id is removed. -/
theorem exists_struct_apply {descriptor : StructDescriptor}
    (hdescriptor : descriptor ∈ project.structs) (hkept : edit ≠ .removeStruct descriptor.id) :
    ∃ kept ∈ (edit.apply project).structs, kept.id = descriptor.id := by
  cases edit with
  | removeStruct id =>
      refine ⟨descriptor, ?_, rfl⟩
      have hne : descriptor.id ≠ id := by
        rintro rfl
        exact hkept rfl
      simpa [Edit.apply, removeStruct, withoutNodes] using ⟨hdescriptor, hne⟩
  | replaceStruct new => exact exists_mem_replaceFirst StructDescriptor.id new hdescriptor
  | _ => exact ⟨descriptor, hdescriptor, rfl⟩

theorem exists_transformer_apply {transformer : Transformer}
    (htransformer : transformer ∈ project.transformers)
    (hkept : edit ≠ .removeTransformer transformer.id) :
    ∃ kept ∈ (edit.apply project).transformers, kept.id = transformer.id := by
  cases edit with
  | removeTransformer id =>
      refine ⟨transformer, ?_, rfl⟩
      have hne : transformer.id ≠ id := by
        rintro rfl
        exact hkept rfl
      simpa [Edit.apply, removeTransformer, withoutNodes] using ⟨htransformer, hne⟩
  | replaceTransformer new => exact exists_mem_replaceFirst Transformer.id new htransformer
  | _ => exact ⟨transformer, htransformer, rfl⟩

/-- An end of an edge that is left is a node that is left, because whether a node stays
depends on its id alone. -/
theorem exists_node_apply {id : String} (hspares : edit.Spares project id)
    (hnode : ∃ node ∈ project.graph.nodes, node.id = id) :
    ∃ node ∈ (edit.apply project).graph.nodes, node.id = id := by
  obtain ⟨node, hmem, rfl⟩ := hnode
  refine ⟨node, ?_, rfl⟩
  rw [(edit.keeps_apply project).nodes, List.mem_filter]
  exact ⟨hmem, decide_eq_true hspares⟩

/-- A node that an edit leaves was there before, and the edit does not aim at it. -/
theorem mem_nodes_apply {node : GraphNode} (hnode : node ∈ (edit.apply project).graph.nodes) :
    node ∈ project.graph.nodes ∧ edit.aimsAt node = false := by
  rw [(edit.keeps_apply project).nodes, List.mem_filter, decide_eq_true_eq] at hnode
  refine ⟨hnode.1, ?_⟩
  by_contra haims
  exact hnode.2 node hnode.1 (by simpa using haims) rfl

theorem closed_apply (hclosed : project.Closed) (edit : Edit) :
    (edit.apply project).Closed := by
  have hedges : ∀ edge ∈ (edit.apply project).graph.edges, edge ∈ project.graph.edges ∧
      edit.Spares project edge.source ∧ edit.Spares project edge.target := by
    intro edge hedge
    rw [(edit.keeps_apply project).edges, List.mem_filter, decide_eq_true_eq] at hedge
    exact ⟨hedge.1, hedge.2.1, hedge.2.2.1⟩
  constructor
  · intro edge hedge
    obtain ⟨hmem, hsource, _⟩ := hedges edge hedge
    exact exists_node_apply hsource (hclosed.source edge hmem)
  · intro edge hedge
    obtain ⟨hmem, _, htarget⟩ := hedges edge hedge
    exact exists_node_apply htarget (hclosed.target edge hmem)
  · intro node hnode id hkind hstruct
    obtain ⟨hmem, haims⟩ := mem_nodes_apply hnode
    obtain ⟨descriptor, hdescriptor, rfl⟩ := hclosed.struct node hmem id hkind hstruct
    apply exists_struct_apply hdescriptor
    rintro rfl
    simp [Edit.aimsAt, hkind, hstruct] at haims
  · intro node hnode id hkind htransformer
    obtain ⟨hmem, haims⟩ := mem_nodes_apply hnode
    obtain ⟨transformer, hknown, rfl⟩ := hclosed.transformer node hmem id hkind htransformer
    apply exists_transformer_apply hknown
    rintro rfl
    simp [Edit.aimsAt, hkind, htransformer] at haims

end Step

/-- The projects along a run of edits, the first and the last included. -/
def run (project : Project) : List Edit → List Project
  | [] => [project]
  | edit :: edits => project :: run (edit.apply project) edits

/-- Every project along a run that begins with a closed one is closed, and from each of them
every edit keeps what it does not aim at. -/
theorem closed_of_mem_run (project : Project) (hclosed : project.Closed) (edits : List Edit) :
    ∀ state ∈ project.run edits, state.Closed ∧
      ∀ edit : Edit, edit.Keeps state (edit.apply state) := by
  induction edits generalizing project with
  | nil =>
      intro state hstate
      obtain rfl := List.mem_singleton.1 hstate
      exact ⟨hclosed, fun edit => edit.keeps_apply state⟩
  | cons edit edits ih =>
      intro state hstate
      rcases List.mem_cons.1 hstate with rfl | hlater
      · exact ⟨hclosed, fun edit => edit.keeps_apply state⟩
      · exact ih (edit.apply project) (closed_apply hclosed edit) state hlater

/-- A struct and a transformer shown by nodes with one id, and a struct joined to itself. -/
def sharedIds : Project where
  id := "p"
  name := "P"
  structs := [{ id := "a" }, { id := "b" }, { id := "a" }]
  graph :=
    { nodes := [.ofStruct "n" "a" "", .ofTransformer "n" "f" "", .ofStruct "m" "b" ""]
      edges := [⟨"1", "n", "m", none, none, none⟩, ⟨"2", "m", "m", none, none, none⟩] }
  transformers := [{ id := "f" }]

/-- The same project without one of the structs, and the other one replaced. -/
def sharedIdsEdited : Project :=
  (Edit.replaceStruct { id := "b", name := "B" }).apply ((Edit.removeStruct "a").apply sharedIds)

theorem closed_of_mem_run_sharedIds : sharedIds.Closed ∧ sharedIdsEdited.Closed ∧
    (Edit.removeNode "m").Keeps sharedIdsEdited
      ((Edit.removeNode "m").apply sharedIdsEdited) := by
  have hclosed : sharedIds.Closed := by
    constructor
    all_goals simp [sharedIds, GraphNode.ofStruct, GraphNode.ofTransformer]
  have hedited := closed_of_mem_run sharedIds hclosed
    [.removeStruct "a", .replaceStruct { id := "b", name := "B" }] sharedIdsEdited
    (by simp [run, sharedIdsEdited])
  exact ⟨hclosed, hedited.1, hedited.2 _⟩

end Project

end FieldBridge
