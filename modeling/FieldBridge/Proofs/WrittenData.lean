import FieldBridge.Proofs.WrittenProjects

/-!
# Reading and writing data again

Every type of data is read from JSON and written as JSON.  What is accepted may be written in
more than one way: under older names of fields, with fields left out, or as an array.  One
round of reading and writing settles all of it: the value is read back as it was, and its text
does not change any more.  This holds because what a codec leaves out when it writes is what it
fills in when it reads.
-/

namespace FieldBridge

open Json

namespace Json

variable {α : Type} {decoder : Decoder α} {holds : α → Prop}

theorem Decoder.forall_of_each (hitem : ∀ json value, decoder json = .ok value → holds value)
    {items : List Json} {values : List α} (heach : Decoder.each decoder items = .ok values) :
    ∀ value ∈ values, holds value := by
  induction items generalizing values with
  | nil =>
      obtain rfl := Except.ok.inj heach
      exact fun _ hmem => absurd hmem List.not_mem_nil
  | cons item items ih =>
      rw [Decoder.each] at heach
      split at heach
      · cases heach
      · next first hfirst =>
          split at heach
          · cases heach
          · next more hmore =>
              obtain rfl := Except.ok.inj heach
              exact List.forall_mem_cons.2 ⟨hitem item first hfirst, ih hmore⟩

theorem Decoder.forall_of_list (hitem : ∀ json value, decoder json = .ok value → holds value)
    {json : Json} {values : List α} (hlist : Decoder.list decoder json = .ok values) :
    ∀ value ∈ values, holds value := by
  cases json with
  | array items => exact Decoder.forall_of_each hitem hlist
  | _ => cases hlist

theorem Decoder.forall_of_optional (hitem : ∀ json value, decoder json = .ok value → holds value)
    {json : Json} {value : Option α} (hoptional : Decoder.optional decoder json = .ok value) :
    ∀ some ∈ value, holds some := by
  unfold Decoder.optional at hoptional
  split at hoptional
  · obtain rfl := Except.ok.inj hoptional
    exact fun _ hmem => nomatch hmem
  · cases hdecode : decoder json with
    | error fault =>
        rw [hdecode] at hoptional
        cases hoptional
    | ok found =>
        rw [hdecode] at hoptional
        obtain rfl := Except.ok.inj hoptional
        intro value hmem
        obtain rfl := Option.some.inj hmem
        exact hitem json _ hdecode

end Json

/-- How a type of data is read from JSON and written as JSON, and the coordinates in it. -/
structure Codec (α : Type) where
  decode : Decoder α
  toJson : α → Json
  coordinates : α → List Binary64 := fun _ => []

namespace Codec

variable {α : Type}

def read? (codec : Codec α) (text : String) : Option α :=
  (Json.read? text.toList).bind fun json => (codec.decode json).toOption

def write (codec : Codec α) (value : α) : String :=
  (codec.toJson value).pretty

/-- Whatever text a value was read from, the text it is written as is read as the same value
and written the same again, if its coordinates are read back as they are printed. -/
def IsStable (codec : Codec α) : Prop :=
  ∀ text value, codec.read? text = some value →
    (∀ number ∈ codec.coordinates value, number.ReadsBack) →
      ∃ again, codec.read? (codec.write value) = some again ∧ again = value ∧
        codec.write again = codec.write value

theorem exists_decode_of_read? {codec : Codec α} {text : String} {value : α}
    (hread : codec.read? text = some value) : ∃ json, codec.decode json = .ok value := by
  obtain ⟨json, _, hdecode⟩ := Option.bind_eq_some_iff.1 hread
  refine ⟨json, ?_⟩
  cases hresult : codec.decode json with
  | error fault =>
      rw [hresult] at hdecode
      cases hdecode
  | ok found =>
      rw [hresult] at hdecode
      rw [Option.some.inj hdecode]

/-- A codec is stable when what it accepts is taken back from its written form. -/
theorem isStable_of_decode {codec : Codec α} (hfits : ∀ value, Fits depthLimit (codec.toJson value))
    (hdecode : ∀ json value, codec.decode json = .ok value →
      (∀ number ∈ codec.coordinates value, number.ReadsBack) →
        codec.decode (codec.toJson value).reread = .ok value) : codec.IsStable := by
  intro text value hread hback
  obtain ⟨json, hjson⟩ := exists_decode_of_read? hread
  refine ⟨value, ?_, rfl, rfl⟩
  rw [read?, write, read?_pretty (hfits value), Option.bind_some, hdecode json value hjson hback]
  rfl

end Codec

namespace FieldDescriptor

def codec : Codec FieldDescriptor where
  decode := decode
  toJson := toJson

theorem codec_isStable : codec.IsStable :=
  Codec.isStable_of_decode (fun field => field.fits_toJson 126)
    fun _ field _ _ => field.decode_reread

end FieldDescriptor

namespace StructDescriptor

def codec : Codec StructDescriptor where
  decode := decode
  toJson := toJson

/-- A struct that was taken from a document has no findings. -/
theorem withoutDiagnostics_of_decode (json : Json) (descriptor : StructDescriptor)
    (hdecode : decode json = .ok descriptor) : descriptor.withoutDiagnostics = descriptor := by
  obtain ⟨_, _, hwarnings⟩ := Record.exists_build_of_decode hdecode
  obtain ⟨_, _, herrors, rfl, _⟩ := Record.field_build_eq_ok hwarnings
  obtain ⟨_, _, hvalid, rfl, _⟩ := Record.field_build_eq_ok herrors
  obtain ⟨_, _, htext, rfl, _⟩ := Record.field_build_eq_ok hvalid
  obtain ⟨_, _, hfields, rfl, _⟩ := Record.field_build_eq_ok htext
  obtain ⟨_, _, hname, rfl, _⟩ := Record.field_build_eq_ok hfields
  obtain ⟨_, _, hid, rfl, _⟩ := Record.field_build_eq_ok hname
  obtain ⟨_, _, hdone, rfl, _⟩ := Record.field_build_eq_ok hid
  cases hdone
  rfl

theorem codec_isStable : codec.IsStable := by
  refine Codec.isStable_of_decode (fun descriptor => descriptor.fits_toJson 124) ?_
  intro json descriptor hdecode _
  have hreread := descriptor.decode_reread
  rwa [withoutDiagnostics_of_decode json descriptor hdecode] at hreread

/-- The structs among accepted ones have no findings either. -/
theorem map_withoutDiagnostics {descriptors : List StructDescriptor}
    (hplain : ∀ descriptor ∈ descriptors, descriptor.withoutDiagnostics = descriptor) :
    descriptors.map withoutDiagnostics = descriptors := by
  rw [List.map_congr_left hplain, List.map_id']

end StructDescriptor

namespace Transformer

def codec : Codec Transformer where
  decode := decode
  toJson := toJson

theorem codec_isStable : codec.IsStable :=
  Codec.isStable_of_decode (fun transformer => transformer.fits_toJson 126)
    fun _ transformer _ _ => transformer.decode_reread

end Transformer

namespace GraphNode

def coordinates (node : GraphNode) : List Binary64 :=
  node.position.toList.flatMap fun position => [position.x, position.y]

def codec : Codec GraphNode where
  decode := decode NodeKind.decode
  toJson := toJson
  coordinates := coordinates

theorem readsBack_of_coordinates {node : GraphNode}
    (hback : ∀ number ∈ node.coordinates, number.ReadsBack) :
    ∀ position ∈ node.position, position.x.ReadsBack ∧ position.y.ReadsBack := by
  intro position hposition
  have hmem : ∀ number ∈ [position.x, position.y], number ∈ node.coordinates := fun number hmem =>
    List.mem_flatMap.2 ⟨position, Option.mem_toList.2 hposition, hmem⟩
  exact ⟨hback _ (hmem _ (by simp)), hback _ (hmem _ (by simp))⟩

theorem codec_isStable : codec.IsStable := by
  refine Codec.isStable_of_decode (fun node => node.fits_toJson 125) fun _ node _ hback => ?_
  have hreread : decode NodeKind.decode node.toJson.reread = .ok node.reread :=
    node.decode_reread _
  rwa [reread_eq (readsBack_of_coordinates hback)] at hreread

end GraphNode

namespace GraphEdge

def codec : Codec GraphEdge where
  decode := decode
  toJson := toJson

theorem codec_isStable : codec.IsStable :=
  Codec.isStable_of_decode (fun edge => edge.fits_toJson 125) fun _ edge _ _ => edge.decode_reread

end GraphEdge

namespace MappingGraph

def coordinates (graph : MappingGraph) : List Binary64 :=
  graph.nodes.flatMap GraphNode.coordinates

def codec : Codec MappingGraph where
  decode := decode
  toJson := toJson
  coordinates := coordinates

def written (graph : MappingGraph) : List (String × Option Json) :=
  [("nodes", some (.array (graph.nodes.map GraphNode.toJson))),
    ("edges", some (.array (graph.edges.map GraphEdge.toJson)))]

theorem toJson_eq (graph : MappingGraph) : graph.toJson = object (ofFields graph.written) :=
  rfl

theorem decode_reread (graph : MappingGraph) : decode graph.toJson.reread = .ok graph.reread := by
  rw [toJson_eq]
  exact Record.decode_reread _ graph.written ["nodes", "edges"] rfl (by decide) (by decide)
    (graph.takes_record _ rfl rfl)

theorem fits_toJson (graph : MappingGraph) (depth : Nat) : Fits (depth + 4) graph.toJson := by
  have hnodes := itemsFit_map fun node : GraphNode => node.fits_toJson depth
  have hedges := itemsFit_map fun edge : GraphEdge => edge.fits_toJson depth
  rw [toJson_eq]
  apply fits_ofFields
  simp [written, Fits, hnodes, hedges]

theorem reread_of_coordinates {graph : MappingGraph}
    (hback : ∀ number ∈ graph.coordinates, number.ReadsBack) : graph.reread = graph :=
  reread_eq fun node hnode => GraphNode.readsBack_of_coordinates fun number hnumber =>
    hback number (List.mem_flatMap.2 ⟨node, hnode, hnumber⟩)

theorem codec_isStable : codec.IsStable := by
  refine Codec.isStable_of_decode (fun graph => graph.fits_toJson 123) fun _ graph _ hback => ?_
  have hreread := graph.decode_reread
  rwa [reread_of_coordinates hback] at hreread

end MappingGraph

namespace FieldMapping

def codec : Codec FieldMapping where
  decode := decode
  toJson := toJson

def written (mapping : FieldMapping) : List (String × Option Json) :=
  [("sourceField", some (.string mapping.sourceField)),
    ("targetField", some (.string mapping.targetField)),
    ("transformer", mapping.transformer.map Transformer.toJson)]

theorem toJson_eq (mapping : FieldMapping) :
    mapping.toJson = object (ofFields mapping.written) := by
  obtain ⟨sourceField, targetField, transformer⟩ := mapping
  cases transformer <;> rfl

theorem decode_reread (mapping : FieldMapping) : decode mapping.toJson.reread = .ok mapping := by
  have htransformer : ∀ transformer : Transformer,
      Decoder.optional Transformer.decode transformer.toJson.reread = .ok (some transformer) := by
    intro transformer
    have hdecode := transformer.decode_reread
    change (Transformer.decode transformer.toJson.reread).map some = _
    rw [hdecode]
    rfl
  rw [toJson_eq]
  refine Record.decode_reread _ mapping.written ["sourceField", "targetField", "transformer"] rfl
    (by decide) (by decide) ?_
  exact Record.takes_done FieldMapping.mk (found mapping.written)
    |>.required "sourceField" Decoder.text rfl rfl
    |>.required "targetField" Decoder.text rfl rfl
    |>.field_optional rfl (fun transformer => transformer) htransformer []

theorem fits_toJson (mapping : FieldMapping) (depth : Nat) : Fits (depth + 2) mapping.toJson := by
  have htransformer := fun transformer : Transformer => transformer.fits_toJson depth
  rw [toJson_eq]
  apply fits_ofFields
  simp [written, Fits, htransformer]

theorem codec_isStable : codec.IsStable :=
  Codec.isStable_of_decode (fun mapping => mapping.fits_toJson 125)
    fun _ mapping _ _ => mapping.decode_reread

end FieldMapping

namespace MappingSpec

def codec : Codec MappingSpec where
  decode := decode
  toJson := toJson

/-- The mapping without the findings of its structs. -/
def withoutDiagnostics (spec : MappingSpec) : MappingSpec :=
  { spec with
    sourceStruct := spec.sourceStruct.map StructDescriptor.withoutDiagnostics
    targetStruct := spec.targetStruct.map StructDescriptor.withoutDiagnostics }

def written (spec : MappingSpec) : List (String × Option Json) :=
  [("sourceStruct", spec.sourceStruct.map StructDescriptor.toJson),
    ("targetStruct", spec.targetStruct.map StructDescriptor.toJson),
    ("fieldMappings", some (.array (spec.fieldMappings.map FieldMapping.toJson)))]

theorem toJson_eq (spec : MappingSpec) : spec.toJson = object (ofFields spec.written) := by
  obtain ⟨sourceStruct, targetStruct, fieldMappings⟩ := spec
  cases sourceStruct <;> cases targetStruct <;> rfl

theorem decode_reread (spec : MappingSpec) :
    decode spec.toJson.reread = .ok spec.withoutDiagnostics := by
  have hstruct : ∀ descriptor : StructDescriptor,
      Decoder.optional StructDescriptor.decode descriptor.toJson.reread =
        .ok (some descriptor.withoutDiagnostics) := by
    intro descriptor
    have hdecode := descriptor.decode_reread
    change (StructDescriptor.decode descriptor.toJson.reread).map some = _
    rw [hdecode]
    rfl
  have hmappings := Decoder.list_reread FieldMapping.decode_reread spec.fieldMappings
  rw [List.map_id'] at hmappings
  rw [toJson_eq]
  refine Record.decode_reread _ spec.written ["sourceStruct", "targetStruct", "fieldMappings"] rfl
    (by decide) (by decide) ?_
  exact Record.takes_done MappingSpec.mk (found spec.written)
    |>.maybe "sourceStruct" StructDescriptor.decode rfl StructDescriptor.withoutDiagnostics hstruct
    |>.maybe "targetStruct" StructDescriptor.decode rfl StructDescriptor.withoutDiagnostics hstruct
    |>.withDefault "fieldMappings" (Decoder.list FieldMapping.decode) [] rfl hmappings

theorem fits_toJson (spec : MappingSpec) (depth : Nat) : Fits (depth + 4) spec.toJson := by
  have hstruct := fun descriptor : StructDescriptor => descriptor.fits_toJson depth
  have hmappings := itemsFit_map fun mapping : FieldMapping => mapping.fits_toJson depth
  rw [toJson_eq]
  apply fits_ofFields
  simp [written, Fits, hstruct, hmappings]

theorem withoutDiagnostics_of_decode {json : Json} {spec : MappingSpec}
    (hdecode : decode json = .ok spec) : spec.withoutDiagnostics = spec := by
  have hplain : ∀ descriptor : Option StructDescriptor,
      (∃ json, Decoder.optional StructDescriptor.decode json = .ok descriptor) ∨
        some none = some descriptor →
      descriptor.map StructDescriptor.withoutDiagnostics = descriptor := by
    rintro (_ | descriptor) (⟨json, hjson⟩ | hnone)
    · rfl
    · rfl
    · exact congrArg some (Decoder.forall_of_optional
        StructDescriptor.withoutDiagnostics_of_decode hjson descriptor rfl)
    · cases hnone
  obtain ⟨_, _, hmappings⟩ := Record.exists_build_of_decode hdecode
  obtain ⟨_, mappings, htarget, rfl, _⟩ := Record.field_build_eq_ok hmappings
  obtain ⟨_, target, hsource, rfl, _, htaken⟩ := Record.field_build_eq_ok htarget
  obtain ⟨_, source, hdone, rfl, _, htaken'⟩ := Record.field_build_eq_ok hsource
  cases hdone
  rw [withoutDiagnostics]
  simp only [hplain source htaken', hplain target htaken]

theorem codec_isStable : codec.IsStable := by
  refine Codec.isStable_of_decode (fun spec => spec.fits_toJson 123) fun _ spec hdecode _ => ?_
  have hreread := spec.decode_reread
  rwa [withoutDiagnostics_of_decode hdecode] at hreread

end MappingSpec

namespace Code

namespace ImportSet

def codec : Codec ImportSet where
  decode := decode
  toJson := toJson

theorem insert_of_mem {set : ImportSet} {package : String} (hmem : package ∈ set.packages) :
    set.insert package = set :=
  if_pos (decide_eq_true hmem)

theorem insert_of_not_mem {set : ImportSet} {package : String} (hnew : package ∉ set.packages) :
    set.insert package = ⟨set.packages ++ [package]⟩ :=
  if_neg (by simpa [contains] using hnew)

theorem nodup_insert {set : ImportSet} (hset : set.packages.Nodup) (package : String) :
    (set.insert package).packages.Nodup := by
  by_cases hmem : package ∈ set.packages
  · rwa [insert_of_mem hmem]
  · rw [insert_of_not_mem hmem]
    refine List.nodup_append.2 ⟨hset, by simp, fun other hother last hlast heq => ?_⟩
    rw [heq, List.mem_singleton.1 hlast] at hother
    exact hmem hother

theorem nodup_insertAll {set : ImportSet} (hset : set.packages.Nodup) (packages : List String) :
    (set.insertAll packages).packages.Nodup := by
  induction packages generalizing set with
  | nil => exact hset
  | cons package packages ih => exact ih (nodup_insert hset package)

/-- Packages that differ, from one another and from those of a set, are put behind them. -/
theorem insertAll_of_nodup {set : ImportSet} {packages : List String}
    (hnodup : (set.packages ++ packages).Nodup) :
    set.insertAll packages = ⟨set.packages ++ packages⟩ := by
  induction packages generalizing set with
  | nil => rw [List.append_nil]; rfl
  | cons package packages ih =>
      have hnew : package ∉ set.packages := fun hmem =>
        (List.nodup_append.1 hnodup).2.2 _ hmem _ List.mem_cons_self rfl
      change (set.insert package).insertAll packages = _
      rw [List.append_cons] at hnodup
      rw [insert_of_not_mem hnew, ih hnodup, ← List.append_cons]

theorem nodup_of_decode {json : Json} {set : ImportSet} (hdecode : decode json = .ok set) :
    set.packages.Nodup := by
  unfold decode at hdecode
  cases hlist : Decoder.list Decoder.text json with
  | error fault =>
      rw [hlist] at hdecode
      cases hdecode
  | ok packages =>
      rw [hlist] at hdecode
      obtain rfl := Except.ok.inj hdecode
      exact nodup_insertAll List.nodup_nil packages

theorem decode_reread {set : ImportSet} (hnodup : set.packages.Nodup) :
    decode set.toJson.reread = .ok set := by
  have hempty : ({} : ImportSet).insertAll set.packages = set := insertAll_of_nodup hnodup
  rw [decode, toJson, Decoder.texts_reread]
  exact congrArg Except.ok hempty

theorem codec_isStable : codec.IsStable :=
  Codec.isStable_of_decode (fun set => fits_texts 126 set.packages)
    fun _ _ hdecode _ => decode_reread (nodup_of_decode hdecode)

end ImportSet

namespace GeneratedUnit

def codec : Codec GeneratedUnit where
  decode := decode
  toJson := toJson

def written (unit : GeneratedUnit) : List (String × Option Json) :=
  [("functionName", some (.string unit.functionName)), ("code", some (.string unit.code)),
    ("imports", some unit.imports.toJson), ("errors", some (texts unit.errors))]

theorem toJson_eq (unit : GeneratedUnit) : unit.toJson = object (ofFields unit.written) :=
  rfl

theorem decode_reread {unit : GeneratedUnit} (hnodup : unit.imports.packages.Nodup) :
    decode unit.toJson.reread = .ok unit := by
  rw [toJson_eq]
  refine Record.decode_reread _ unit.written ["functionName", "code", "imports", "errors"] rfl
    (by decide) (by decide) ?_
  exact Record.takes_done GeneratedUnit.mk (found unit.written)
    |>.required "functionName" Decoder.text rfl rfl
    |>.required "code" Decoder.text rfl rfl ["bodyText"]
    |>.required "imports" ImportSet.decode rfl (ImportSet.decode_reread hnodup)
    |>.required "errors" (Decoder.list Decoder.text) rfl (Decoder.texts_reread _)

theorem fits_toJson (unit : GeneratedUnit) (depth : Nat) : Fits (depth + 2) unit.toJson := by
  rw [toJson_eq]
  apply fits_ofFields
  simp [written, Fits, ImportSet.toJson, fits_texts]

theorem nodup_of_decode {json : Json} {unit : GeneratedUnit} (hdecode : decode json = .ok unit) :
    unit.imports.packages.Nodup := by
  obtain ⟨_, _, herrors⟩ := Record.exists_build_of_decode hdecode
  obtain ⟨_, _, himports, rfl, _⟩ := Record.field_build_eq_ok herrors
  obtain ⟨_, imports, hcode, rfl, _, htaken⟩ := Record.field_build_eq_ok himports
  obtain ⟨_, _, hname, rfl, _⟩ := Record.field_build_eq_ok hcode
  obtain ⟨_, _, hdone, rfl, _⟩ := Record.field_build_eq_ok hname
  cases hdone
  rcases htaken with ⟨json, hjson⟩ | hnone
  · exact ImportSet.nodup_of_decode hjson
  · cases hnone

theorem codec_isStable : codec.IsStable :=
  Codec.isStable_of_decode (fun unit => unit.fits_toJson 125)
    fun _ _ hdecode _ => decode_reread (nodup_of_decode hdecode)

/-- An array of the fields, which names a package twice, is accepted with each package once. -/
example : codec.read? "[\"f\", \"\", [\"fmt\", \"time\", \"fmt\"], []]" =
    some ⟨"f", "", ⟨["fmt", "time"]⟩, []⟩ := by
  decide +kernel

end GeneratedUnit

end Code

namespace Project

def codec : Codec Project where
  decode := decode
  toJson := toJson
  coordinates project := project.graph.coordinates

theorem structs_of_decode {json : Json} {project : Project} (hdecode : decode json = .ok project) :
    ∀ descriptor ∈ project.structs, descriptor.withoutDiagnostics = descriptor := by
  cases json with
  | object members =>
      rw [decode] at hdecode
      split at hdecode
      · cases hdecode
      · next make hmake =>
          split at hdecode
          · cases hdecode
          · next graph hgraph =>
              obtain rfl := Except.ok.inj hdecode
              obtain ⟨_, _, hupdated⟩ := Record.exists_build_of_ofMembers hmake
              obtain ⟨_, _, hcreated, rfl, _⟩ := Record.field_build_eq_ok hupdated
              obtain ⟨_, _, htransformers, rfl, _⟩ := Record.field_build_eq_ok hcreated
              obtain ⟨_, _, hstructs, rfl, _⟩ := Record.field_build_eq_ok htransformers
              obtain ⟨_, structs, hname, rfl, _, htaken⟩ := Record.field_build_eq_ok hstructs
              obtain ⟨_, _, hid, rfl, _⟩ := Record.field_build_eq_ok hname
              obtain ⟨_, _, hdone, rfl, _⟩ := Record.field_build_eq_ok hid
              cases hdone
              rcases htaken with ⟨json, hjson⟩ | hnone
              · exact Decoder.forall_of_list StructDescriptor.withoutDiagnostics_of_decode hjson
              · obtain rfl := Option.some.inj hnone
                exact fun _ hmem => absurd hmem List.not_mem_nil
  | _ => cases hdecode

theorem codec_isStable : codec.IsStable := by
  refine Codec.isStable_of_decode fits_toJson fun _ project hdecode hback => ?_
  have hreread := project.decode_reread
  rw [reread, StructDescriptor.map_withoutDiagnostics (structs_of_decode hdecode),
    MappingGraph.reread_of_coordinates hback] at hreread
  exact hreread

end Project

/-- Every type of data has a stable codec. -/
theorem codecs_are_stable :
    FieldDescriptor.codec.IsStable ∧ StructDescriptor.codec.IsStable ∧
      Transformer.codec.IsStable ∧ GraphNode.codec.IsStable ∧ GraphEdge.codec.IsStable ∧
      MappingGraph.codec.IsStable ∧ FieldMapping.codec.IsStable ∧ MappingSpec.codec.IsStable ∧
      Code.GeneratedUnit.codec.IsStable ∧ Code.ImportSet.codec.IsStable ∧
      Project.codec.IsStable :=
  ⟨FieldDescriptor.codec_isStable, StructDescriptor.codec_isStable, Transformer.codec_isStable,
    GraphNode.codec_isStable, GraphEdge.codec_isStable, MappingGraph.codec_isStable,
    FieldMapping.codec_isStable, MappingSpec.codec_isStable, Code.GeneratedUnit.codec_isStable,
    Code.ImportSet.codec_isStable, Project.codec_isStable⟩

/-- Two structs and a transformer, with a node for one struct at one and a half and minus four. -/
def older : Project where
  id := "p"
  name := "P"
  structs := [{ id := "a", name := "A" },
    { id := "b", sourceText := "type B", fields :=
        [{ name := "X", type := "int", tagValue := some "x" }] }]
  transformers := [{ id := "t", code := "func f" }]
  graph :=
    { nodes := [{ GraphNode.ofStruct "n" "a" "" with
        position := some
          ⟨⟨false, 3 * 2 ^ 51, 1022, by decide⟩, ⟨true, 2 ^ 52, 1024, by decide⟩⟩ }] }

/-- One struct is an array of its first fields, older names stand for the source text, the tag and
the code, and everything that may be left out is left out. -/
def olderText : String :=
  "\x7b\"id\":\"p\",\"name\":\"P\",\"structs\":[[\"a\",\"A\"],\x7b\"rawCode\":\"type B\"," ++
    "\"fields\":[\x7b\"name\":\"X\",\"type\":\"int\",\"jsonTag\":\"x\"\x7d],\"id\":\"b\"\x7d]," ++
    "\"transformers\":[\x7b\"id\":\"t\",\"bodyText\":\"func f\"\x7d]," ++
    "\"nodes\":[\x7b\"id\":\"n\",\"type\":\"struct\"," ++
    "\"position\":[15e-1,-4],\"data\":\x7b\"structId\":\"a\"\x7d\x7d]\x7d"

theorem codecs_are_stable_older : Project.codec.read? olderText = some older ∧
    ∃ again, Project.codec.read? (Project.codec.write older) = some again ∧ again = older ∧
      Project.codec.write again = Project.codec.write older := by
  have hread : Project.codec.read? olderText = some older := by decide +kernel
  obtain ⟨_, _, _, _, _, _, _, _, _, _, hproject⟩ := codecs_are_stable
  refine ⟨hread, hproject olderText older hread ?_⟩
  have hcoordinates : Project.codec.coordinates older =
      [⟨false, 3 * 2 ^ 51, 1022, by decide⟩, ⟨true, 2 ^ 52, 1024, by decide⟩] := rfl
  rw [hcoordinates, List.forall_mem_cons, List.forall_mem_singleton]
  exact ⟨Binary64.readsBack_of_isNumber (by decide +kernel),
    Binary64.readsBack_of_isNumber (by decide +kernel)⟩

end FieldBridge
