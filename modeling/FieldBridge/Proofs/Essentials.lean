import FieldBridge.Project.Basic

/-!
# What compiling looks at

Compiling a project looks at the ids, names and fields of its structs, at the names and the
code of its transformers, and at its graph without the places of the nodes.  Everything else
can be left out, and the same unit and the same file come out.
-/

namespace FieldBridge

/-- The descriptor with its id, its name and its fields only. -/
def StructDescriptor.bare (descriptor : StructDescriptor) : StructDescriptor :=
  { id := descriptor.id, name := descriptor.name, fields := descriptor.fields }

/-- The transformer without a verdict on it. -/
def Transformer.bare (transformer : Transformer) : Transformer :=
  { transformer with isValid := false }

def GraphNode.bare (node : GraphNode) : GraphNode :=
  { node with position := none }

def MappingGraph.bare (graph : MappingGraph) : MappingGraph :=
  { graph with nodes := graph.nodes.map GraphNode.bare }

def Registry.bare (registry : Registry) : Registry where
  struct? id := (registry.struct? id).map StructDescriptor.bare
  transformer? id := (registry.transformer? id).map Transformer.bare

def FieldMapping.bare (mapping : FieldMapping) : FieldMapping :=
  { mapping with transformer := mapping.transformer.map Transformer.bare }

def MappingSpec.bare (spec : MappingSpec) : MappingSpec where
  sourceStruct := spec.sourceStruct.map StructDescriptor.bare
  targetStruct := spec.targetStruct.map StructDescriptor.bare
  fieldMappings := spec.fieldMappings.map FieldMapping.bare

namespace MappingGraph

@[simp] theorem lastNode?_bare (graph : MappingGraph) (id : String) :
    graph.bare.lastNode? id = (graph.lastNode? id).map GraphNode.bare := by
  rw [lastNode?, bare, ← List.map_reverse, List.find?_map]
  rfl

@[simp] theorem isStructNode_bare (graph : MappingGraph) (id : String) :
    graph.bare.isStructNode id = graph.isStructNode id := by
  rw [isStructNode, lastNode?_bare, Option.any_map]
  rfl

@[simp] theorem isTransformerNode_bare (graph : MappingGraph) (id : String) :
    graph.bare.isTransformerNode id = graph.isTransformerNode id := by
  rw [isTransformerNode, lastNode?_bare, Option.any_map]
  rfl

@[simp] theorem hasNode_bare (graph : MappingGraph) (id : String) :
    graph.bare.hasNode id = graph.hasNode id := by
  rw [hasNode, bare, List.any_map]
  rfl

@[simp] theorem survivingEdges_bare (graph : MappingGraph) :
    graph.bare.survivingEdges = graph.survivingEdges := by
  simp only [survivingEdges, hasNode_bare]
  rfl

@[simp] theorem sends_bare (graph : MappingGraph) (id : String) :
    graph.bare.sends id = graph.sends id := by
  simp [sends]

@[simp] theorem receives_bare (graph : MappingGraph) (id : String) :
    graph.bare.receives id = graph.receives id := by
  simp [receives]

theorem sourceNode?_bare (graph : MappingGraph) :
    graph.bare.sourceNode? = graph.sourceNode?.map GraphNode.bare := by
  simp only [sourceNode?, sends_bare, receives_bare]
  rw [bare, List.find?_map]
  rfl

theorem targetNode?_bare (graph : MappingGraph) :
    graph.bare.targetNode? = graph.targetNode?.map GraphNode.bare := by
  simp only [targetNode?, sends_bare, receives_bare]
  rw [bare, List.find?_map]
  rfl

theorem routesFrom_bare (graph : MappingGraph) (edges : List GraphEdge) (used : List Nat)
    (left : List (GraphEdge × Nat)) :
    graph.bare.routesFrom edges used left = graph.routesFrom edges used left := by
  induction left generalizing used with
  | nil => rfl
  | cons first rest ih =>
      obtain ⟨edge, place⟩ := first
      have hroute : graph.bare.routeOf edges used edge place =
          graph.routeOf edges used edge place := by
        simp [routeOf]
      simp only [routesFrom, hroute, ih]

theorem edgeTransformer_bare (registry : Registry) (edge : GraphEdge) :
    edgeTransformer registry.bare edge = (edgeTransformer registry edge).map Transformer.bare := by
  rw [edgeTransformer, edgeTransformer, Option.map_bind]
  rfl

theorem nodeTransformer_bare (graph : MappingGraph) (registry : Registry) (id : String)
    (edge : GraphEdge) :
    graph.bare.nodeTransformer registry.bare id edge =
      (graph.nodeTransformer registry id edge).map Transformer.bare := by
  rw [nodeTransformer, nodeTransformer, edgeTransformer_bare, lastNode?_bare, Option.map_or,
    Option.map_bind, Option.bind_map]
  rfl

theorem fieldMapping?_bare (graph : MappingGraph) (registry : Registry) (edges : List GraphEdge)
    (route : Route) :
    graph.bare.fieldMapping? registry.bare edges route =
      (graph.fieldMapping? registry edges route).map FieldMapping.bare := by
  cases route <;>
    simp only [fieldMapping?, edgeTransformer_bare, nodeTransformer_bare, Option.map_map] <;>
    rfl

theorem fieldMappings_bare (graph : MappingGraph) (registry : Registry) :
    graph.bare.fieldMappings registry.bare =
      (graph.fieldMappings registry).map FieldMapping.bare := by
  have hmapping := funext (fieldMapping?_bare graph registry graph.survivingEdges)
  rw [fieldMappings, fieldMappings, routes, routes, routesFrom_bare, survivingEdges_bare,
    List.map_filterMap, hmapping]

/-- Mappings only carry what compiling looks at. -/
theorem analyze_bare (graph : MappingGraph) (registry : Registry) :
    graph.bare.analyze registry.bare = (graph.analyze registry).map MappingSpec.bare := by
  have hstruct : ∀ node : GraphNode, node.bare.structRef.bind registry.bare.struct? =
      (node.structRef.bind registry.struct?).map StructDescriptor.bare := by
    intro node
    rw [Option.map_bind]
    rfl
  rw [analyze, analyze, sourceNode?_bare, targetNode?_bare]
  cases graph.sourceNode? with
  | none => rfl
  | some source =>
      cases graph.targetNode? with
      | none => rfl
      | some target =>
          simp only [Option.map_some, hstruct]
          cases source.structRef.bind registry.struct? with
          | none => rfl
          | some sourceStruct =>
              cases target.structRef.bind registry.struct? with
              | none => rfl
              | some targetStruct =>
                  simp only [Option.map_some, fieldMappings_bare]
                  rfl

end MappingGraph

namespace Code

theorem writeAssignment_bare (options : Options) (source target : StructDescriptor)
    (buffer : Buffer) (mapping : FieldMapping) :
    writeAssignment options source.bare target.bare buffer mapping.bare =
      writeAssignment options source target buffer mapping := by
  obtain ⟨sourceField, targetField, transformer⟩ := mapping
  cases transformer <;> rfl

theorem functionText_bare (name : String) (options : Options) (source target : StructDescriptor)
    (mappings : List FieldMapping) :
    functionText name options source.bare target.bare (mappings.map FieldMapping.bare) =
      functionText name options source target mappings := by
  have hassignments : ∀ buffer, writeAssignments options source.bare target.bare
      (mappings.map FieldMapping.bare) buffer =
        writeAssignments options source target mappings buffer := by
    intro buffer
    unfold writeAssignments
    simp only [ne_eq, List.map_eq_nil_iff, List.foldl_map, writeAssignment_bare]
    rfl
  unfold functionText
  simp only [hassignments]
  rfl

theorem detect_bare (transformers : List Transformer) :
    ImportSet.detect (transformers.map Transformer.bare) = ImportSet.detect transformers := by
  rw [ImportSet.detect, List.flatMap_map]
  rfl

theorem generate_bare (spec : MappingSpec) (transformers : List Transformer) (options : Options) :
    generate spec.bare (transformers.map Transformer.bare) options =
      generate spec transformers options := by
  obtain ⟨sourceStruct, targetStruct, mappings⟩ := spec
  cases sourceStruct with
  | none => rfl
  | some source =>
      cases targetStruct with
      | none => rfl
      | some target =>
          simp only [generate, MappingSpec.bare, Option.map_some, emit, functionText_bare,
            detect_bare]
          rfl

theorem generateAll_bare (specs : List MappingSpec) (transformers : List Transformer)
    (options : Options) :
    generateAll (specs.map MappingSpec.bare) (transformers.map Transformer.bare) options =
      generateAll specs transformers options := by
  have hunits : ∀ options, ((specs.map MappingSpec.bare).map fun spec =>
      generate spec (transformers.map Transformer.bare) options) =
        specs.map fun spec => generate spec transformers options := by
    intro options
    rw [List.map_map]
    exact List.map_congr_left fun spec _ => generate_bare spec transformers options
  match specs with
  | [] => rfl
  | [spec] => exact generate_bare spec transformers options
  | first :: second :: specs => exact congrArg combine (hunits _)

end Code

namespace Project

/-- The project with what compiling looks at. -/
def bare (project : Project) : Project :=
  { project with
    structs := project.structs.map StructDescriptor.bare
    graph := project.graph.bare
    transformers := project.transformers.map Transformer.bare }

theorem registry_bare (project : Project) : project.bare.registry = project.registry.bare := by
  have hstruct : ∀ id, project.bare.registry.struct? id = project.registry.bare.struct? id :=
    fun id => List.find?_map
  have htransformer : ∀ id, project.bare.registry.transformer? id =
      project.registry.bare.transformer? id := fun id => List.find?_map
  calc project.bare.registry
      = ⟨project.bare.registry.struct?, project.bare.registry.transformer?⟩ := rfl
    _ = project.registry.bare := by rw [funext hstruct, funext htransformer]

/-- What compiling does not look at does not matter. -/
theorem compile_bare (project : Project) (options : Code.Options) :
    project.bare.compile options = project.compile options := by
  unfold compile
  rw [registry_bare]
  simp only [bare, MappingGraph.analyze_bare, Code.generateAll_bare]

end Project

end FieldBridge
