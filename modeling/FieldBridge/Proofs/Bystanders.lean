import FieldBridge.Project.Basic
import FieldBridge.Proofs.EdgeEnds

/-!
# Nodes and structs that take no part

What a project maps is decided at the ends of its edges between nodes.  A node that none of
them touches neither sends nor receives, whatever other nodes share its id, and a struct that
none of the other nodes shows is never looked up.  So they can be taken away, together with
the edges that have an end which is no node, and the project compiles to the same unit and the
same file.
-/

namespace FieldBridge

namespace MappingGraph

/-- Whether an edge between nodes begins or ends at an id. -/
def Touches (graph : MappingGraph) (id : String) : Prop :=
  ∃ edge ∈ graph.connected, edge.source = id ∨ edge.target = id

instance (graph : MappingGraph) (id : String) : Decidable (graph.Touches id) :=
  inferInstanceAs (Decidable (∃ edge ∈ graph.connected, edge.source = id ∨ edge.target = id))

/-- The graph with its edges between nodes and the nodes that they touch. -/
def pruned (graph : MappingGraph) : MappingGraph where
  nodes := graph.nodes.filter fun node => graph.Touches node.id
  edges := graph.connected

section Pruned

variable {graph : MappingGraph} {id : String}

theorem touches_of_mem {edge : GraphEdge} (hedge : edge ∈ graph.survivingEdges) :
    graph.Touches edge.source ∧ graph.Touches edge.target := by
  rw [survivingEdges_eq_connected] at hedge
  exact ⟨⟨edge, hedge, Or.inl rfl⟩, edge, hedge, Or.inr rfl⟩

/-- A search through the nodes that a filter keeps finds what it finds among all of them, if
the filter keeps whatever is searched for. -/
theorem find?_filter_of_imp {α : Type} {kept wanted : α → Bool}
    (himp : ∀ entry, wanted entry = true → kept entry = true) (entries : List α) :
    (entries.filter kept).find? wanted = entries.find? wanted := by
  rw [List.find?_filter]
  congr 1
  funext entry
  cases hwanted : wanted entry with
  | false => simp
  | true => simp [himp entry hwanted]

theorem lastNode?_pruned (htouches : graph.Touches id) :
    graph.pruned.lastNode? id = graph.lastNode? id := by
  rw [lastNode?, pruned, ← List.filter_reverse, find?_filter_of_imp, lastNode?]
  intro node hnode
  rw [of_decide_eq_true hnode]
  exact decide_eq_true htouches

theorem hasNode_pruned (htouches : graph.Touches id) :
    graph.pruned.hasNode id = graph.hasNode id := by
  rw [hasNode, hasNode, pruned, List.any_filter]
  congr 1
  funext node
  by_cases hid : node.id = id
  · simp [hid, htouches]
  · simp [hid]

theorem survivingEdges_pruned (graph : MappingGraph) :
    graph.pruned.survivingEdges = graph.survivingEdges := by
  change graph.connected.filter _ = _
  rw [← survivingEdges_eq_connected]
  apply List.filter_eq_self.2
  intro edge hedge
  obtain ⟨hsource, htarget⟩ := touches_of_mem hedge
  rw [hasNode_pruned hsource, hasNode_pruned htarget]
  exact (List.mem_filter.1 hedge).2

/-- Only an id that is touched sends, so the nodes that are left decide whether it does. -/
theorem sends_pruned (graph : MappingGraph) (id : String) :
    graph.pruned.sends id = graph.sends id := by
  rw [sends, sends, survivingEdges_pruned]
  cases hany : graph.survivingEdges.any (·.source = id) with
  | false => simp
  | true =>
      obtain ⟨edge, hedge, hsource⟩ := List.any_eq_true.1 hany
      obtain rfl := of_decide_eq_true hsource
      rw [isStructNode, lastNode?_pruned (touches_of_mem hedge).1, isStructNode]

theorem receives_pruned (graph : MappingGraph) (id : String) :
    graph.pruned.receives id = graph.receives id := by
  rw [receives, receives, survivingEdges_pruned]
  cases hany : graph.survivingEdges.any (·.target = id) with
  | false => simp
  | true =>
      obtain ⟨edge, hedge, htarget⟩ := List.any_eq_true.1 hany
      obtain rfl := of_decide_eq_true htarget
      rw [isStructNode, lastNode?_pruned (touches_of_mem hedge).2, isStructNode]

theorem touches_of_sends (hsends : graph.sends id = true) : graph.Touches id := by
  obtain ⟨edge, hedge, hsource⟩ := List.any_eq_true.1 (Bool.and_eq_true_iff.1 hsends).2
  exact of_decide_eq_true hsource ▸ (touches_of_mem hedge).1

theorem touches_of_receives (hreceives : graph.receives id = true) : graph.Touches id := by
  obtain ⟨edge, hedge, htarget⟩ := List.any_eq_true.1 (Bool.and_eq_true_iff.1 hreceives).2
  exact of_decide_eq_true htarget ▸ (touches_of_mem hedge).2

theorem sourceNode?_pruned (graph : MappingGraph) :
    graph.pruned.sourceNode? = graph.sourceNode? := by
  simp only [sourceNode?, sends_pruned, receives_pruned]
  apply find?_filter_of_imp
  intro node hnode
  simp only [Bool.and_eq_true] at hnode
  exact decide_eq_true (touches_of_sends hnode.1.2)

theorem targetNode?_pruned (graph : MappingGraph) :
    graph.pruned.targetNode? = graph.targetNode? := by
  simp only [targetNode?, sends_pruned, receives_pruned]
  apply find?_filter_of_imp
  intro node hnode
  simp only [Bool.and_eq_true] at hnode
  exact decide_eq_true (touches_of_receives hnode.1.2)

end Pruned

/-- Graphs with the same surviving edges, between nodes that stand for the same. -/
structure SameEnds (graph other : MappingGraph) : Prop where
  edges_eq : other.survivingEdges = graph.survivingEdges
  source_eq : ∀ edge ∈ graph.survivingEdges,
    other.lastNode? edge.source = graph.lastNode? edge.source
  target_eq : ∀ edge ∈ graph.survivingEdges,
    other.lastNode? edge.target = graph.lastNode? edge.target

namespace SameEnds

variable {graph other : MappingGraph} (hsame : graph.SameEnds other)

include hsame

theorem routeOf {edge : GraphEdge} (hedge : edge ∈ graph.survivingEdges)
    (edges : List GraphEdge) (used : List Nat) (place : Nat) :
    other.routeOf edges used edge place = graph.routeOf edges used edge place := by
  have hsource : other.isTransformerNode edge.source = graph.isTransformerNode edge.source := by
    rw [isTransformerNode, hsame.source_eq edge hedge, isTransformerNode]
  have htarget : other.isTransformerNode edge.target = graph.isTransformerNode edge.target := by
    rw [isTransformerNode, hsame.target_eq edge hedge, isTransformerNode]
  unfold MappingGraph.routeOf
  rw [hsource, htarget]

theorem routesFrom {left : List (GraphEdge × Nat)}
    (hleft : ∀ first ∈ left, first.1 ∈ graph.survivingEdges) (edges : List GraphEdge)
    (used : List Nat) :
    other.routesFrom edges used left = graph.routesFrom edges used left := by
  induction left generalizing used with
  | nil => rfl
  | cons first rest ih =>
      obtain ⟨edge, place⟩ := first
      have hrest : ∀ first ∈ rest, first.1 ∈ graph.survivingEdges := fun first hfirst =>
        hleft first (List.mem_cons_of_mem _ hfirst)
      have hroute := hsame.routeOf (hleft (edge, place) List.mem_cons_self) edges used place
      simp only [MappingGraph.routesFrom, hroute, ih hrest]

theorem routes : other.routes = graph.routes := by
  rw [MappingGraph.routes, hsame.edges_eq, hsame.routesFrom, MappingGraph.routes]
  rintro ⟨edge, place⟩ hmem
  exact (List.mem_zipIdx' hmem).2 ▸ List.getElem_mem _

theorem fieldMapping? (registry : Registry) (route : Route) :
    other.fieldMapping? registry graph.survivingEdges route =
      graph.fieldMapping? registry graph.survivingEdges route := by
  have hedge : ∀ {place : Nat} {edge : GraphEdge}, graph.survivingEdges[place]? = some edge →
      edge ∈ graph.survivingEdges := List.mem_of_getElem?
  cases route with
  | direct place => rfl
  | into place next =>
      apply Option.map_congr
      intro edge hplace
      rw [nodeTransformer, hsame.target_eq edge (hedge hplace), nodeTransformer]
  | outOf place previous =>
      apply Option.map_congr
      intro edge hplace
      rw [nodeTransformer, hsame.source_eq edge (hedge hplace), nodeTransformer]

/-- The mappings only depend on the surviving edges and on what stands at their ends. -/
theorem fieldMappings (registry : Registry) :
    other.fieldMappings registry = graph.fieldMappings registry := by
  rw [MappingGraph.fieldMappings, hsame.routes, hsame.edges_eq, MappingGraph.fieldMappings]
  exact List.filterMap_congr fun route _ => hsame.fieldMapping? registry route

end SameEnds

theorem sameEnds_pruned (graph : MappingGraph) : graph.SameEnds graph.pruned where
  edges_eq := survivingEdges_pruned graph
  source_eq _ hedge := lastNode?_pruned (touches_of_mem hedge).1
  target_eq _ hedge := lastNode?_pruned (touches_of_mem hedge).2

/-- A registry that knows the structs which the nodes left show is as good as the whole one. -/
theorem analyze_pruned (graph : MappingGraph) {registry other : Registry}
    (hstruct : ∀ node ∈ graph.pruned.nodes, ∀ id, node.structRef = some id →
      other.struct? id = registry.struct? id)
    (htransformer : other.transformer? = registry.transformer?) :
    graph.pruned.analyze other = graph.analyze registry := by
  have hresolve : ∀ {node : GraphNode}, node ∈ graph.pruned.nodes →
      node.structRef.bind other.struct? = node.structRef.bind registry.struct? := by
    intro node hnode
    exact Option.bind_congr fun id hid => hstruct node hnode id hid
  have hmappings : graph.pruned.fieldMappings other = graph.fieldMappings registry := by
    rw [(sameEnds_pruned graph).fieldMappings]
    obtain ⟨struct?, transformer?⟩ := registry
    obtain ⟨struct?', transformer?'⟩ := other
    subst htransformer
    rfl
  unfold analyze
  rw [hmappings]
  cases hsource : graph.pruned.sourceNode? with
  | none => rw [← sourceNode?_pruned, hsource]
  | some source =>
      cases htarget : graph.pruned.targetNode? with
      | none => rw [← targetNode?_pruned, htarget, ← sourceNode?_pruned, hsource]
      | some target =>
          rw [← sourceNode?_pruned, ← targetNode?_pruned, hsource, htarget]
          dsimp only
          rw [hresolve (List.mem_of_find?_eq_some hsource),
            hresolve (List.mem_of_find?_eq_some htarget)]

end MappingGraph

namespace Project

/-- The project without the edges that have an end which is no node, then without the nodes that
no edge touches, then without the structs that no struct node refers to. -/
def pruned (project : Project) : Project :=
  { project with
    graph := project.graph.pruned
    structs := project.structs.filter fun descriptor =>
      ∃ node ∈ project.graph.pruned.nodes,
        node.kind = .struct ∧ node.data.structId = some descriptor.id }

theorem struct?_pruned {project : Project} {node : GraphNode}
    (hnode : node ∈ project.graph.pruned.nodes) {id : String} (hid : node.structRef = some id) :
    project.pruned.registry.struct? id = project.registry.struct? id := by
  apply MappingGraph.find?_filter_of_imp
  intro descriptor hdescriptor
  obtain rfl := of_decide_eq_true hdescriptor
  unfold GraphNode.structRef at hid
  split at hid
  · next hkind => exact decide_eq_true ⟨node, hnode, hkind, hid⟩
  · cases hid

/-- Whatever takes no part in the mapping does not matter. -/
theorem compile_pruned (project : Project) (options : Code.Options) :
    project.pruned.compile options = project.compile options := by
  have hspecs : project.pruned.graph.analyze project.pruned.registry =
      project.graph.analyze project.registry :=
    project.graph.analyze_pruned (fun _ hnode _ hid => struct?_pruned hnode hid) rfl
  unfold compile
  rw [hspecs]
  rfl

/-- Two structs joined by one edge, beside a third one that a node without edges shows and a node
that refers to nothing.  Edges from both of these lead to no node. -/
def bystanders : Project where
  id := "p"
  name := "P"
  structs := [{ id := "c", name := "C" }, { id := "a", name := "A" }, { id := "b", name := "B" }]
  graph :=
    { nodes := [.ofStruct "apart" "c" "", .ofStruct "from" "a" "", .ofTransformer "t" "lost" "",
        .ofStruct "to" "b" ""]
      edges := [⟨"1", "apart", "gone", some "field-X-out", none, none⟩,
        ⟨"2", "from", "to", some "field-X-out", some "field-Y-in", none⟩,
        ⟨"3", "t", "gone", none, none, none⟩] }

/-- What takes no part is really taken away, and what is left compiles to the same file. -/
theorem compile_pruned_bystanders :
    bystanders.pruned.graph.edges.map (·.id) = ["2"] ∧
      bystanders.pruned.graph.nodes.map (·.id) = ["from", "to"] ∧
      bystanders.pruned.structs.map (·.id) = ["a", "b"] ∧
      (bystanders.compile {}).file.isSome = true ∧
      bystanders.pruned.compile {} = bystanders.compile {} := by
  refine ⟨by decide, by decide, by decide, by decide +kernel, ?_⟩
  exact compile_pruned bystanders {}

end Project

end FieldBridge
