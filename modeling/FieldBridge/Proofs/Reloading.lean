import FieldBridge.Proofs.Essentials
import FieldBridge.Proofs.Rereading
import FieldBridge.Proofs.WrittenProjects
import FieldBridge.Reading
import FieldBridge.Snippet.Recognizer

/-!
# Reloading a project

A project that was read from a document is written to a document that is read as the same
project, apart from the diagnostics of its structs, which no document has.  A project that
was never read from a document need not come back the same, but it compiles to the same unit
and the same file.  Both rest on reading the source text of a struct without fields again.
-/

namespace FieldBridge

open Json

namespace StructDescriptor

/-- The descriptor was read from a source, under an id of its own or one of a supply. -/
def IsRead (descriptor : StructDescriptor) : Prop :=
  ∃ source id supply, descriptor = read id source ∨ descriptor = (readOne source supply).1 ∨
    descriptor ∈ (readMany source supply).1

/-- A struct without fields that was read has no fields when it is read from its own text. -/
theorem IsRead.bare_read {descriptor : StructDescriptor} (hread : descriptor.IsRead)
    (hfields : descriptor.fields = []) :
    (read descriptor.id descriptor.sourceText).bare = descriptor.bare := by
  have htrim : ∀ id source, (read id source).fields = [] →
      (read (read id source).id (read id source).sourceText).bare = (read id source).bare := by
    intro id source hfields
    have hagain := congrArg bare (read_trim id source (Or.inr hfields))
    rw [id_read]
    exact hagain
  obtain ⟨source, id, supply, rfl | rfl | hmem⟩ := hread
  · exact htrim id source hfields
  · exact htrim _ source hfields
  · obtain ⟨id, declaration, hdeclaration, rfl⟩ := exists_of_mem_ofDeclarations hmem
    obtain ⟨hname, hsame⟩ := fields_read_declarationText hdeclaration id
    have hid := id_read id (declarationText source.toList declaration)
    change (read id (declarationText source.toList declaration)).bare = _
    rw [bare, hid, hname, hsame]
    rfl

theorem IsRead.bare_restored {descriptor : StructDescriptor} (hread : descriptor.IsRead) :
    descriptor.withoutDiagnostics.restored.bare = descriptor.bare := by
  unfold restored
  split
  · next hempty =>
      simp only [Bool.and_eq_true, decide_eq_true_eq] at hempty
      exact hread.bare_read hempty.1
  · rfl

end StructDescriptor

namespace Project

/-- What building a project takes from the first two fields of its record. -/
theorem id_name_of_build {row : Row} {lack : Nat → Fault} {make : MappingGraph → Project}
    (hbuild : record.build row lack = .ok make) (graph : MappingGraph) :
    (∀ json, row[0]? = some (some json) → Decoder.text json = .ok (make graph).id) ∧
      ∀ json, row[1]? = some (some json) → Decoder.text json = .ok (make graph).name := by
  obtain ⟨_, updatedAt, hupdated, rfl, _⟩ := Record.field_build_eq_ok hbuild
  obtain ⟨_, createdAt, hcreated, rfl, _⟩ := Record.field_build_eq_ok hupdated
  obtain ⟨_, transformers, htransformers, rfl, _⟩ := Record.field_build_eq_ok hcreated
  obtain ⟨_, structs, hstructs, rfl, _⟩ := Record.field_build_eq_ok htransformers
  obtain ⟨_, name, hnamed, rfl, hname, _⟩ := Record.field_build_eq_ok hstructs
  obtain ⟨_, id, hdone, rfl, hid, _⟩ := Record.field_build_eq_ok hnamed
  cases hdone
  exact ⟨hid, hname⟩

theorem isFilled_eq_true {value : Option Json} (hfilled : isFilled value = true) :
    ∃ text, value = some (.string text) ∧ text ≠ "" := by
  unfold isFilled at hfilled
  split at hfilled
  · next text => exact ⟨text, rfl, by simpa using hfilled⟩
  · cases hfilled

/-- The id and the name of a project are those of the document it was taken from. -/
theorem id_name_of_decode {value : Json} {project : Project} (hdecode : decode value = .ok project)
    {id name : String} (hid : value.member? "id" = some (.string id))
    (hname : value.member? "name" = some (.string name)) :
    project.id = id ∧ project.name = name := by
  cases value with
  | object members =>
      rw [decode] at hdecode
      split at hdecode
      · cases hdecode
      · next make hmake =>
          split at hdecode
          · cases hdecode
          · next graph hgraph =>
              obtain rfl := Except.ok.inj hdecode
              rw [Record.ofMembers] at hmake
              split at hmake
              · cases hmake
              · next row hvisit =>
                  obtain ⟨hbuildId, hbuildName⟩ := id_name_of_build hmake graph
                  have hrowId := @visit_lookup record.slots 0
                    ⟨"id", [], fun value => (Decoder.text value).map fun _ => ()⟩ rfl rfl rfl
                    members _ row rfl hvisit
                  have hrowName := @visit_lookup record.slots 1
                    ⟨"name", [], fun value => (Decoder.text value).map fun _ => ()⟩ rfl rfl rfl
                    members _ row rfl hvisit
                  change lookup members "id" = _ at hid
                  change lookup members "name" = _ at hname
                  rw [hid] at hrowId
                  rw [hname] at hrowName
                  exact ⟨(Except.ok.inj (hbuildId _ hrowId)).symm,
                    (Except.ok.inj (hbuildName _ hrowName)).symm⟩
  | _ => cases hid

/-- An accepted document has an id and a name for its project. -/
theorem named_of_ofDocument {check : String → Bool} {text : String} {project : Project}
    (hread : ofDocument check text = .ok project) :
    ∃ decoded : Project, project = decoded.restored check ∧ decoded.id ≠ "" ∧
      decoded.name ≠ "" := by
  unfold ofDocument at hread
  split at hread
  · cases hread
  · next value _ =>
      unfold ofJson at hread
      by_cases hid : isFilled (value.member? "id") = true
      · by_cases hname : isFilled (value.member? "name") = true
        · by_cases hstructs : isArray (value.member? "structs") = true
          · simp only [hid, hname, hstructs, Bool.not_true, Bool.false_eq_true, if_false] at hread
            split at hread
            · cases hread
            · next decoded hdecode =>
                obtain ⟨id, hidValue, hidNe⟩ := isFilled_eq_true hid
                obtain ⟨name, hnameValue, hnameNe⟩ := isFilled_eq_true hname
                obtain ⟨rfl, rfl⟩ := id_name_of_decode hdecode hidValue hnameValue
                exact ⟨decoded, (Except.ok.inj hread).symm, hidNe, hnameNe⟩
          · simp [hid, hname, hstructs] at hread
        · simp [hid, hname] at hread
      · simp [hid] at hread

theorem bare_restored_reread {project : Project}
    (hstructs : ∀ descriptor ∈ project.structs, descriptor.IsRead) (check : String → Bool) :
    (project.reread.restored check).bare = project.bare := by
  have hdescriptors : ((project.structs.map StructDescriptor.withoutDiagnostics).map
      StructDescriptor.restored).map StructDescriptor.bare =
        project.structs.map StructDescriptor.bare := by
    rw [List.map_map, List.map_map]
    exact List.map_congr_left fun descriptor hmem => (hstructs descriptor hmem).bare_restored
  have hnodes : (project.graph.nodes.map GraphNode.reread).map GraphNode.bare =
      project.graph.nodes.map GraphNode.bare := by
    rw [List.map_map]
    rfl
  have htransformers : (project.transformers.map (Transformer.checked check)).map
      Transformer.bare = project.transformers.map Transformer.bare := by
    rw [List.map_map]
    rfl
  unfold bare
  simp only [restored, reread, MappingGraph.bare, MappingGraph.reread, hdescriptors, hnodes,
    htransformers]

/-- A project whose structs were read compiles to the same unit and the same file after it
was written and read again. -/
theorem compile_reloaded (check : String → Bool) (project : Project) (hid : project.id ≠ "")
    (hname : project.name ≠ "") (hstructs : ∀ descriptor ∈ project.structs, descriptor.IsRead)
    (options : Code.Options) :
    ∃ again, ofDocument check project.document = .ok again ∧
      again.compile options = project.compile options := by
  refine ⟨project.reread.restored check, ofDocument_document check hid hname, ?_⟩
  rw [← compile_bare, bare_restored_reread hstructs, compile_bare]

def givingStruct : StructDescriptor :=
  .ofFindings "a" "A" [.ofType "X" "int"] "type A struct \x7b X int \x7d" []

def emptyStruct : StructDescriptor :=
  .ofFindings "b" "B" [] "type B struct \x7b\x7d" [.noFields ⟨⟨6, 0, 6⟩, ⟨7, 0, 7⟩⟩]

/-- A field that goes through a transformer into a struct which was read without fields, beside
a text that declares none. -/
def fieldless : Project where
  id := "p"
  name := "P"
  structs := [givingStruct, emptyStruct, .read "c" " type "]
  transformers := [{ id := "t", name := "same", code := "func same(n int) int \x7b return n \x7d" }]
  graph :=
    { nodes := [.ofStruct "from" "a" "", .ofTransformer "through" "t" "", .ofStruct "to" "b" ""]
      edges := [⟨"1", "from", "through", some "field-X-out", none, none⟩,
        ⟨"2", "through", "to", none, some "field-Y-in", none⟩] }

theorem isRead_of_mem_fieldless : ∀ descriptor ∈ fieldless.structs, descriptor.IsRead := by
  have hgiving : givingStruct = .read "a" "type A struct \x7b X int \x7d" := by cbv
  have hempty : emptyStruct = .read "b" " type B struct \x7b\x7d " := by cbv
  simp only [fieldless, List.forall_mem_cons]
  exact ⟨⟨_, _, .sequential, Or.inl hgiving⟩, ⟨_, _, .sequential, Or.inl hempty⟩,
    ⟨_, _, .sequential, Or.inl rfl⟩, List.forall_mem_nil _⟩

theorem compile_reloaded_fieldless : (fieldless.compile {}).file.isSome = true ∧
    ∃ again, ofDocument Snippet.accepts fieldless.document = .ok again ∧
      again.compile {} = fieldless.compile {} :=
  ⟨by decide +kernel, compile_reloaded Snippet.accepts fieldless (by decide) (by decide)
    isRead_of_mem_fieldless {}⟩

end Project

/-- Restoring twice, with a document between, finds nothing new. -/
theorem StructDescriptor.restored_restored (descriptor : StructDescriptor) :
    descriptor.restored.withoutDiagnostics.restored.withoutDiagnostics =
      descriptor.restored.withoutDiagnostics := by
  by_cases hempty : (descriptor.fields = [] && !Text.isBlank descriptor.sourceText.toList) = true
  · have hread : descriptor.restored = read descriptor.id descriptor.sourceText := if_pos hempty
    rw [hread]
    unfold restored
    split
    · next hagain =>
        simp only [Bool.and_eq_true, decide_eq_true_eq] at hagain
        have hsame := congrArg withoutDiagnostics
          (read_trim descriptor.id descriptor.sourceText (Or.inr hagain.1))
        change (read (read descriptor.id descriptor.sourceText).id _).withoutDiagnostics = _
        rw [id_read]
        exact hsame
    · rfl
  · have hkept : descriptor.withoutDiagnostics.restored = descriptor.withoutDiagnostics :=
      if_neg hempty
    have hself : descriptor.restored = descriptor := if_neg hempty
    rw [hself, hkept]
    rfl

namespace Project

/-- The project without the findings of its structs, which no document has. -/
def withoutDiagnostics (project : Project) : Project :=
  { project with structs := project.structs.map StructDescriptor.withoutDiagnostics }

theorem document_withoutDiagnostics (project : Project) :
    project.withoutDiagnostics.document = project.document := by
  have hstructs : project.withoutDiagnostics.structs.map StructDescriptor.toJson =
      project.structs.map StructDescriptor.toJson := by
    rw [withoutDiagnostics, List.map_map]
    rfl
  unfold document toJson
  rw [hstructs]
  rfl

/-- An accepted document is written again as a document that is accepted as the same project,
and that is the same when it is written once more. -/
theorem ofDocument_again {check : String → Bool} {text : String} {project : Project}
    (hread : ofDocument check text = .ok project)
    (hcoordinates : ∀ node ∈ project.graph.nodes, ∀ position ∈ node.position,
      Json.read? position.x.text.toList = some (.float position.x) ∧
        Json.read? position.y.text.toList = some (.float position.y)) :
    ∃ again, ofDocument check project.document = .ok again ∧
      again.withoutDiagnostics = project.withoutDiagnostics ∧
      again.document = project.document := by
  obtain ⟨decoded, rfl, hid, hname⟩ := named_of_ofDocument hread
  have hsame : ((decoded.restored check).reread.restored check).withoutDiagnostics =
      (decoded.restored check).withoutDiagnostics := by
    have hstructs : (((decoded.structs.map StructDescriptor.restored).map
        StructDescriptor.withoutDiagnostics).map StructDescriptor.restored).map
          StructDescriptor.withoutDiagnostics =
        (decoded.structs.map StructDescriptor.restored).map
          StructDescriptor.withoutDiagnostics := by
      simp only [List.map_map]
      exact List.map_congr_left fun descriptor _ => descriptor.restored_restored
    have hgraph : decoded.graph.reread = decoded.graph := MappingGraph.reread_eq hcoordinates
    have htransformers : (decoded.transformers.map (Transformer.checked check)).map
        (Transformer.checked check) = decoded.transformers.map (Transformer.checked check) := by
      rw [List.map_map]
      rfl
    simp only [withoutDiagnostics, restored, reread, hstructs, hgraph, htransformers]
  refine ⟨_, ofDocument_document check hid hname, hsame, ?_⟩
  rw [← document_withoutDiagnostics, hsame, document_withoutDiagnostics]

/-- A text that declares no struct, shown by a node at one half and minus two. -/
def undeclared : Project where
  id := "p"
  name := "P"
  structs := [.read "a" " type "]
  graph :=
    { nodes := [{ GraphNode.ofStruct "n" "a" "" with
        position := some ⟨⟨false, 2 ^ 52, 1021, by decide⟩, ⟨true, 2 ^ 52, 1023, by decide⟩⟩ }] }

/-- The same project with members in another order, and numbers in another form, than a
document is written with. -/
def undeclaredText : String :=
  "\x7b\"name\":\"P\",\"structs\":[\x7b\"id\":\"a\",\"sourceText\":\" type \"\x7d]," ++
    "\"edges\":[],\"nodes\":[\x7b\"id\":\"n\",\"type\":\"struct\"," ++
    "\"position\":\x7b\"y\":-2,\"x\":5e-1\x7d,\"data\":\x7b\"structId\":\"a\"\x7d\x7d]," ++
    "\"id\":\"p\"\x7d"

theorem ofDocument_again_undeclared : ∃ again,
    ofDocument Snippet.accepts undeclared.document = .ok again ∧
    again.withoutDiagnostics = undeclared.withoutDiagnostics ∧
    again.document = undeclared.document := by
  have hread : ofDocument Snippet.accepts undeclaredText = .ok undeclared := by decide +kernel
  refine ofDocument_again hread fun node hnode position hposition => ?_
  obtain rfl := List.mem_singleton.1 hnode
  obtain rfl := Option.some.inj hposition
  exact ⟨Binary64.readsBack_of_isNumber (by decide +kernel),
    Binary64.readsBack_of_isNumber (by decide +kernel)⟩

end Project

end FieldBridge
