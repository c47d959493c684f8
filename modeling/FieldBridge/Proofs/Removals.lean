import FieldBridge.Proofs.References
import Mathlib.Data.Finset.Insert
import Mathlib.Data.Fintype.Basic

/-!
# Removals in any order

A removal looks at the nodes that are there to find out which ids it drops, so the removals
made before it have a say in what it does.  All the same a run of removals comes to what the
project was before the run, without everything that any of them names: whether a node stays
depends on its id alone, and nodes that share an id go together.  So neither the order of
removals nor their number matters.
-/

namespace FieldBridge.Project

/-- A removal of whatever has an id. -/
inductive Removal where
  | struct (id : String)
  | transformer (id : String)
  | node (id : String)
  | edge (id : String)
deriving DecidableEq

namespace Removal

def toEdit : Removal → Edit
  | struct id => .removeStruct id
  | transformer id => .removeTransformer id
  | node id => .removeNode id
  | edge id => .removeEdge id

def apply (project : Project) (removal : Removal) : Project :=
  removal.toEdit.apply project

end Removal

def removeAll (project : Project) (removals : List Removal) : Project :=
  removals.foldl Removal.apply project

/-- None of the removals aims at a node with the id. -/
def Spared (project : Project) (removals : Finset Removal) (id : String) : Prop :=
  ∀ removal ∈ removals, removal.toEdit.Spares project id

instance (project : Project) (removals : Finset Removal) (id : String) :
    Decidable (project.Spared removals id) :=
  inferInstanceAs (Decidable (∀ removal ∈ removals, removal.toEdit.Spares project id))

/-- The project without everything that the removals name, and without the nodes and edges
that depend on it. -/
def without (project : Project) (removals : Finset Removal) : Project :=
  { project with
    structs := project.structs.filter fun descriptor => .struct descriptor.id ∉ removals
    graph :=
      { nodes := project.graph.nodes.filter fun node => project.Spared removals node.id
        edges := project.graph.edges.filter fun edge =>
          project.Spared removals edge.source ∧ project.Spared removals edge.target ∧
            .edge edge.id ∉ removals }
    transformers :=
      project.transformers.filter fun transformer => .transformer transformer.id ∉ removals }

section Step

variable {project : Project} {removal : Removal}

theorem structs_apply : (removal.apply project).structs =
    project.structs.filter fun descriptor => removal ≠ .struct descriptor.id := by
  simp only [Removal.apply]
  cases removal with
  | struct id => simp [Removal.toEdit, Edit.apply, removeStruct, withoutNodes, eq_comm]
  | transformer id => simp [Removal.toEdit, Edit.apply, removeTransformer, withoutNodes]
  | node id => simp [Removal.toEdit, Edit.apply, removeNode, withoutNodes]
  | edge id => simp [Removal.toEdit, Edit.apply, removeEdge]

theorem transformers_apply : (removal.apply project).transformers =
    project.transformers.filter fun transformer => removal ≠ .transformer transformer.id := by
  simp only [Removal.apply]
  cases removal with
  | struct id => simp [Removal.toEdit, Edit.apply, removeStruct, withoutNodes]
  | transformer id => simp [Removal.toEdit, Edit.apply, removeTransformer, withoutNodes, eq_comm]
  | node id => simp [Removal.toEdit, Edit.apply, removeNode, withoutNodes]
  | edge id => simp [Removal.toEdit, Edit.apply, removeEdge]

theorem details_apply : (removal.apply project).id = project.id ∧
    (removal.apply project).name = project.name ∧
    (removal.apply project).createdAt = project.createdAt ∧
    (removal.apply project).updatedAt = project.updatedAt := by
  cases removal <;> exact ⟨rfl, rfl, rfl, rfl⟩

theorem filter_filter_named {α : Type} (name : α → Removal) (removals : Finset Removal)
    (entries : List α) :
    (entries.filter fun entry => removal ≠ name entry).filter (name · ∉ removals) =
      entries.filter (name · ∉ insert removal removals) := by
  rw [List.filter_filter]
  apply List.filter_congr
  intro entry _
  rw [← Bool.decide_and, decide_eq_decide, Finset.mem_insert, not_or, and_comm]
  simp only [ne_eq, eq_comm]

/-- What a removal leaves of the nodes decides about the ids that it spares as all the nodes
did: a node that went shared its id with one that the removal aims at. -/
theorem spares_apply_iff {id : String} (edit : Edit) (hspares : removal.toEdit.Spares project id) :
    edit.Spares (removal.apply project) id ↔ edit.Spares project id := by
  have hnodes := (removal.toEdit.keeps_apply project).nodes
  change (removal.apply project).graph.nodes = _ at hnodes
  unfold Edit.Spares
  rw [hnodes]
  constructor
  · rintro hafter node hnode haims rfl
    exact hafter node (List.mem_filter.2 ⟨hnode, decide_eq_true hspares⟩) haims rfl
  · intro hbefore node hnode
    exact hbefore node (List.mem_filter.1 hnode).1

theorem spared_insert_iff (removals : Finset Removal) (id : String) :
    project.Spared (insert removal removals) id ↔
      removal.toEdit.Spares project id ∧ (removal.apply project).Spared removals id := by
  rw [Spared, Finset.forall_mem_insert]
  apply and_congr_right
  intro hspares
  unfold Spared
  simp only [spares_apply_iff _ hspares]

theorem toEdit_ne_removeEdge_iff {id : String} :
    removal.toEdit ≠ .removeEdge id ↔ removal ≠ .edge id := by
  cases removal <;> simp [Removal.toEdit]

theorem nodes_without_apply (removals : Finset Removal) :
    ((removal.apply project).without removals).graph.nodes =
      (project.without (insert removal removals)).graph.nodes := by
  have hnodes := (removal.toEdit.keeps_apply project).nodes
  change (removal.apply project).graph.nodes = _ at hnodes
  simp only [without, hnodes, List.filter_filter, spared_insert_iff, Bool.decide_and]
  simp only [Bool.and_comm]

theorem edges_without_apply (removals : Finset Removal) :
    ((removal.apply project).without removals).graph.edges =
      (project.without (insert removal removals)).graph.edges := by
  have hedges := (removal.toEdit.keeps_apply project).edges
  change (removal.apply project).graph.edges = _ at hedges
  simp only [without, hedges, List.filter_filter, spared_insert_iff, toEdit_ne_removeEdge_iff]
  congr 1
  funext edge
  rw [← Bool.decide_and, decide_eq_decide]
  simp only [Finset.mem_insert, not_or, ne_eq, eq_comm]
  tauto

/-- A removal that was made may as well be left for later. -/
theorem without_apply (project : Project) (removal : Removal) (removals : Finset Removal) :
    (removal.apply project).without removals = project.without (insert removal removals) := by
  obtain ⟨hid, hname, hcreated, hupdated⟩ := @details_apply project removal
  simp only [without, structs_apply, transformers_apply, Project.mk.injEq, MappingGraph.mk.injEq]
  refine ⟨hid, hname, ?structs, ⟨?nodes, ?edges⟩, ?transformers, hcreated, hupdated⟩
  case structs =>
    exact filter_filter_named (fun descriptor : StructDescriptor => .struct descriptor.id)
      removals _
  case nodes => exact nodes_without_apply removals
  case edges => exact edges_without_apply removals
  case transformers =>
    exact filter_filter_named (fun transformer : Transformer => .transformer transformer.id)
      removals _

end Step

theorem without_empty (project : Project) : project.without ∅ = project := by
  simp [without, Spared]

theorem removeAll_eq (project : Project) (removals : List Removal) :
    project.removeAll removals = project.without removals.toFinset := by
  induction removals generalizing project with
  | nil => exact (without_empty project).symm
  | cons removal removals ih =>
      change (removal.apply project).removeAll removals = _
      rw [ih, without_apply, List.toFinset_cons]

/-- Removals may change places, and a removal that was made before does nothing.  What a run
of removals comes to is given by the set of them. -/
theorem removals_commute (project : Project) :
    (∀ removal other : Removal,
      other.apply (removal.apply project) = removal.apply (other.apply project)) ∧
    (∀ removal : Removal, removal.apply (removal.apply project) = removal.apply project) ∧
    ∀ removals : List Removal, project.removeAll removals = project.without removals.toFinset := by
  refine ⟨?_, ?_, removeAll_eq project⟩
  · intro removal other
    change project.removeAll [removal, other] = project.removeAll [other, removal]
    rw [removeAll_eq, removeAll_eq]
    congr 1
    simpa using Finset.pair_comm removal other
  · intro removal
    change project.removeAll [removal, removal] = project.removeAll [removal]
    rw [removeAll_eq, removeAll_eq]
    congr 1
    simp

end FieldBridge.Project
