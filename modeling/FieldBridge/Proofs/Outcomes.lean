import FieldBridge.Project.Basic
import FieldBridge.Proofs.Stitching

/-!
# Outcomes of compiling

A project compiles to a file, or to one reason why there is none.  It depends on two nodes:
the first struct node that only sends and the first that only receives.  When both are there
and show structs with names, the unit has no errors and makes the file.  Otherwise the unit
holds a single error and nothing of a function.
-/

namespace FieldBridge

namespace MappingGraph

/-- An edge between nodes of the graph. -/
def Survives (graph : MappingGraph) (edge : GraphEdge) : Prop :=
  edge ∈ graph.edges ∧ (∃ node ∈ graph.nodes, node.id = edge.source) ∧
    ∃ node ∈ graph.nodes, node.id = edge.target

def HasEdgeOut (graph : MappingGraph) (node : GraphNode) : Prop :=
  ∃ edge, graph.Survives edge ∧ edge.source = node.id

def HasEdgeIn (graph : MappingGraph) (node : GraphNode) : Prop :=
  ∃ edge, graph.Survives edge ∧ edge.target = node.id

/-- A struct node with surviving edges out of it and none into it. -/
def OnlySends (graph : MappingGraph) (node : GraphNode) : Prop :=
  node.kind = .struct ∧ graph.HasEdgeOut node ∧ ¬ graph.HasEdgeIn node

/-- A struct node with surviving edges into it and none out of it. -/
def OnlyReceives (graph : MappingGraph) (node : GraphNode) : Prop :=
  node.kind = .struct ∧ graph.HasEdgeIn node ∧ ¬ graph.HasEdgeOut node

/-- The first node, in node order, of which something holds. -/
def FirstWith (graph : MappingGraph) (holds : GraphNode → Prop) (node : GraphNode) : Prop :=
  holds node ∧ ∃ before after, graph.nodes = before ++ node :: after ∧
    ∀ other ∈ before, ¬ holds other

section Ends

variable {graph : MappingGraph}

theorem mem_survivingEdges_iff {edge : GraphEdge} :
    edge ∈ graph.survivingEdges ↔ graph.Survives edge := by
  simp [survivingEdges, Survives, hasNode]

theorem find?_eq_some_iff_firstWith {fits : GraphNode → Bool} {holds : GraphNode → Prop}
    (hholds : ∀ node ∈ graph.nodes, fits node = true ↔ holds node) {node : GraphNode} :
    graph.nodes.find? fits = some node ↔ graph.FirstWith holds node := by
  rw [List.find?_eq_some_iff_append, FirstWith]
  constructor
  · rintro ⟨hfits, before, after, hsplit, hbefore⟩
    refine ⟨(hholds node (by simp [hsplit])).1 hfits, before, after, hsplit, ?_⟩
    intro other hother hother'
    have hfits' := (hholds other (by simp [hsplit, hother])).2 hother'
    simpa [hfits'] using hbefore other hother
  · rintro ⟨hnode, before, after, hsplit, hbefore⟩
    refine ⟨(hholds node (by simp [hsplit])).2 hnode, before, after, hsplit, ?_⟩
    intro other hother
    have hfits' := mt (hholds other (by simp [hsplit, hother])).1 (hbefore other hother)
    simpa using hfits'

variable (hnodes : (graph.nodes.map GraphNode.id).Nodup)

include hnodes

/-- With distinct ids the node that an id stands for is the only one with this id. -/
theorem isStructNode_iff {node : GraphNode} (hnode : node ∈ graph.nodes) :
    graph.isStructNode node.id = true ↔ node.kind = .struct := by
  rw [isStructNode, (lastNode?_eq_some_iff hnodes).2 ⟨hnode, rfl⟩]
  simp [GraphNode.isStruct]

theorem sends_iff {node : GraphNode} (hnode : node ∈ graph.nodes) :
    graph.sends node.id = true ↔ node.kind = .struct ∧ graph.HasEdgeOut node := by
  rw [sends, Bool.and_eq_true, isStructNode_iff hnodes hnode, List.any_eq_true]
  simp only [decide_eq_true_eq, mem_survivingEdges_iff, HasEdgeOut]

theorem receives_iff {node : GraphNode} (hnode : node ∈ graph.nodes) :
    graph.receives node.id = true ↔ node.kind = .struct ∧ graph.HasEdgeIn node := by
  rw [receives, Bool.and_eq_true, isStructNode_iff hnodes hnode, List.any_eq_true]
  simp only [decide_eq_true_eq, mem_survivingEdges_iff, HasEdgeIn]

theorem sourceNode?_eq_some_iff {node : GraphNode} :
    graph.sourceNode? = some node ↔ graph.FirstWith graph.OnlySends node := by
  apply find?_eq_some_iff_firstWith
  intro node hnode
  rw [Bool.and_eq_true, Bool.and_eq_true, Bool.not_eq_true', ← Bool.not_eq_true,
    sends_iff hnodes hnode, receives_iff hnodes hnode, GraphNode.isStruct, decide_eq_true_eq,
    OnlySends]
  tauto

theorem targetNode?_eq_some_iff {node : GraphNode} :
    graph.targetNode? = some node ↔ graph.FirstWith graph.OnlyReceives node := by
  apply find?_eq_some_iff_firstWith
  intro node hnode
  rw [Bool.and_eq_true, Bool.and_eq_true, Bool.not_eq_true', ← Bool.not_eq_true,
    sends_iff hnodes hnode, receives_iff hnodes hnode, GraphNode.isStruct, decide_eq_true_eq,
    OnlyReceives]
  tauto

end Ends

end MappingGraph

namespace Code

theorem generate_of_named {source target : StructDescriptor} (hsource : source.name ≠ "")
    (htarget : target.name ≠ "") (mappings : List FieldMapping)
    (transformers : List Transformer) (options : Options) :
    (generate ⟨some source, some target, mappings⟩ transformers options).errors = [] := by
  simp only [generate, emit, if_neg hsource, if_neg htarget]

theorem generate_of_unnamed {source target : StructDescriptor}
    (hname : source.name = "" ∨ target.name = "") (mappings : List FieldMapping)
    (transformers : List Transformer) (options : Options) :
    ∃ name reason, generate ⟨some source, some target, mappings⟩ transformers options =
      .failed name reason := by
  by_cases hsource : source.name = ""
  · simp only [generate, emit, if_pos hsource]
    exact ⟨_, _, rfl⟩
  · simp only [generate, emit, if_neg hsource, if_pos (hname.resolve_left hsource)]
    exact ⟨_, _, rfl⟩

end Code

namespace Project

open Code MappingGraph

/-- The structs to map from and to: those that the first node that only sends shows, and the
first that only receives. -/
structure Ends (project : Project) (source target : StructDescriptor) : Prop where
  source : ∃ node, project.graph.FirstWith project.graph.OnlySends node ∧
    node.structRef.bind project.registry.struct? = some source
  target : ∃ node, project.graph.FirstWith project.graph.OnlyReceives node ∧
    node.structRef.bind project.registry.struct? = some target

def Mapped (project : Project) : Prop :=
  ∃ source target, project.Ends source target ∧ source.name ≠ "" ∧ target.name ≠ ""

/-- No errors, and the file of the unit. -/
structure Compiled.Succeeds (compiled : Compiled) (options : Options) : Prop where
  errors : compiled.unit.errors = []
  file : compiled.file = some (compiled.unit.file options.packageName)

/-- No file, and a unit with one error and nothing else but the import that it starts with. -/
structure Compiled.Fails (compiled : Compiled) : Prop where
  file : compiled.file = none
  errors : ∃ reason, compiled.unit.errors = [reason]
  code : compiled.unit.code = ""
  imports : compiled.unit.imports.packages = ["fmt"]

section Compile

variable {project : Project}

theorem succeeds_of_errors_eq_nil {options : Options}
    (herrors : (project.compile options).unit.errors = []) :
    (project.compile options).Succeeds options := by
  refine ⟨herrors, ?_⟩
  have hok : (project.compile options).unit.isOk = true := by
    rw [GeneratedUnit.isOk, herrors]
    rfl
  exact if_pos hok

theorem fails_of_unit_eq_failed {options : Options} {name reason : String}
    (hunit : (project.compile options).unit = .failed name reason) :
    (project.compile options).Fails := by
  have hfile : (project.compile options).file = if (project.compile options).unit.isOk then
      some ((project.compile options).unit.file options.packageName) else none := rfl
  refine ⟨?_, ⟨reason, ?_⟩, ?_, ?_⟩
  · rw [hfile, hunit]
    rfl
  all_goals rw [hunit]
  all_goals rfl

variable (hnodes : (project.graph.nodes.map GraphNode.id).Nodup)

include hnodes

theorem Ends.analyze_eq {source target : StructDescriptor} (hends : project.Ends source target) :
    project.graph.analyze project.registry =
      [⟨some source, some target, project.graph.fieldMappings project.registry⟩] := by
  obtain ⟨sender, hsender, hsource⟩ := hends.source
  obtain ⟨receiver, hreceiver, htarget⟩ := hends.target
  unfold analyze
  rw [(sourceNode?_eq_some_iff hnodes).2 hsender, (targetNode?_eq_some_iff hnodes).2 hreceiver]
  simp only [hsource, htarget]

theorem analyze_eq_nil (hends : ∀ source target, ¬ project.Ends source target) :
    project.graph.analyze project.registry = [] := by
  unfold analyze
  split
  · next sender receiver hsender hreceiver =>
    split
    · next source target hsource htarget =>
      exact absurd ⟨⟨sender, (sourceNode?_eq_some_iff hnodes).1 hsender, hsource⟩,
        receiver, (targetNode?_eq_some_iff hnodes).1 hreceiver, htarget⟩ (hends source target)
    · rfl
  · rfl

theorem succeeds_of_mapped (hmapped : project.Mapped) (options : Options) :
    (project.compile options).Succeeds options := by
  obtain ⟨source, target, hends, hsource, htarget⟩ := hmapped
  apply succeeds_of_errors_eq_nil
  unfold compile
  rw [hends.analyze_eq hnodes]
  exact generate_of_named hsource htarget _ _ _

theorem fails_of_not_mapped (hmapped : ¬ project.Mapped) (options : Options) :
    (project.compile options).Fails := by
  by_cases hends : ∃ source target, project.Ends source target
  · obtain ⟨source, target, hends⟩ := hends
    have hname : source.name = "" ∨ target.name = "" := by
      by_contra hnames
      rw [not_or] at hnames
      exact hmapped ⟨source, target, hends, hnames⟩
    obtain ⟨name, reason, hfailed⟩ := generate_of_unnamed hname
      (project.graph.fieldMappings project.registry) project.transformers options
    apply fails_of_unit_eq_failed
    unfold compile
    rw [hends.analyze_eq hnodes]
    exact hfailed
  · simp only [not_exists] at hends
    apply fails_of_unit_eq_failed
    unfold compile
    rw [analyze_eq_nil hnodes hends]
    rfl

end Compile

/-- A project with distinct node ids compiles to a file exactly when there is a struct to map
from and one to map to, and otherwise to a single error. -/
theorem compile_file_iff_mapped (project : Project)
    (hnodes : (project.graph.nodes.map GraphNode.id).Nodup) (options : Options) :
    ((project.compile options).file.isSome = true ↔ project.Mapped) ∧
      (project.Mapped → (project.compile options).Succeeds options) ∧
      (¬ project.Mapped → (project.compile options).Fails) := by
  refine ⟨⟨?_, ?_⟩, fun hmapped => succeeds_of_mapped hnodes hmapped options,
    fun hmapped => fails_of_not_mapped hnodes hmapped options⟩
  · intro hfile
    by_contra hmapped
    rw [(fails_of_not_mapped hnodes hmapped options).file] at hfile
    cases hfile
  · intro hmapped
    rw [(succeeds_of_mapped hnodes hmapped options).file]
    rfl

/-- Two structs, the second without a name, joined by one edge, with other edges into a
transformer and to nowhere. -/
def namelessTarget : Project where
  id := "p"
  name := "P"
  structs := [{ id := "a", name := "A" }, { id := "b" }]
  graph :=
    { nodes := [.ofTransformer "t" "f" "", .ofStruct "n" "a" "", .ofStruct "m" "b" ""]
      edges := [⟨"1", "n", "m", none, none, none⟩, ⟨"2", "n", "t", none, none, none⟩,
        ⟨"3", "m", "gone", none, none, none⟩] }

/-- Without a name the target fails the whole project, and with one it makes a file. -/
theorem compile_file_iff_mapped_named : ¬ namelessTarget.Mapped ∧
    (namelessTarget.compile {}).Fails ∧
    (namelessTarget.replaceStruct { id := "b", name := "B" }).Mapped := by
  obtain ⟨hnone, _, hfails⟩ := compile_file_iff_mapped namelessTarget (by decide) {}
  obtain ⟨hsome, _, _⟩ := compile_file_iff_mapped
    (namelessTarget.replaceStruct { id := "b", name := "B" }) (by decide) {}
  have hmapped : ¬ namelessTarget.Mapped := mt hnone.2 (by decide)
  exact ⟨hmapped, hfails hmapped, hsome.1 (by decide)⟩

end Project

end FieldBridge
