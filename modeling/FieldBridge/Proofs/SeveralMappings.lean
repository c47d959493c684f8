import FieldBridge.Proofs.FunctionLines
import FieldBridge.Proofs.ImportOrder
import FieldBridge.Proofs.Outcomes

/-!
# Units of several mappings

A mapping either makes a function, and then needs what the transformers mention, or it makes
nothing but one error.  The unit of several mappings holds what each of them makes when it is
generated alone under the name of its structs, in order.  A mapping that makes nothing leaves the
text of the others as it is, and one that makes a function is enough for all imports.
-/

namespace FieldBridge.Code

/-- What a unit imports, when some function is in it and when there is none. -/
def importsFor (transformers : List Transformer) (made : Bool) : ImportSet :=
  if made then .detect transformers else .baseline

/-- A function without errors, or one error without a function. -/
structure IsSingle (transformers : List Transformer) (unit : GeneratedUnit) : Prop where
  code_ne_iff : unit.code ≠ "" ↔ unit.isOk = true
  imports_eq : unit.imports = importsFor transformers unit.isOk

section Single

variable (transformers : List Transformer) (options : Options)

theorem functionText_ne_empty (name : String) (source target : StructDescriptor)
    (mappings : List FieldMapping) :
    functionText name options source target mappings ≠ "" := by
  rw [functionText_eq, functionLines]
  intro hempty
  have hchars := congrArg String.toList hempty
  rw [toList_intercalate_append_singleton] at hchars
  simp at hchars

theorem isSingle_failed (name reason : String) :
    IsSingle transformers (.failed name reason) :=
  ⟨by simp [GeneratedUnit.failed, GeneratedUnit.isOk], rfl⟩

theorem isSingle_generate (spec : MappingSpec) :
    IsSingle transformers (generate spec transformers options) := by
  obtain ⟨source?, target?, mappings⟩ := spec
  unfold generate
  dsimp only
  split
  · next source target =>
    cases hemit : emit (options.functionName.getD ("Map" ++ source.name ++ "To" ++ target.name))
        options source target mappings with
    | error failure => exact isSingle_failed transformers _ _
    | ok code =>
        have hcode : code ≠ "" := by
          unfold emit at hemit
          split at hemit
          · cases hemit
          · split at hemit
            · cases hemit
            · cases hemit
              exact functionText_ne_empty options _ source target mappings
        exact ⟨by simpa [GeneratedUnit.isOk] using hcode, rfl⟩
  · exact isSingle_failed transformers _ _

end Single

section Several

variable {transformers : List Transformer} {units : List GeneratedUnit}

theorem merge_importsFor (transformers : List Transformer) (made more : Bool) :
    (importsFor transformers made).merge (importsFor transformers more) =
      importsFor transformers (made || more) := by
  cases made with
  | false =>
      cases more with
      | false => exact ImportSet.merge_self _
      | true =>
          -- What is detected is added to the baseline, so the baseline in front adds nothing.
          have hmerge := ImportSet.merge_insertAll .baseline .baseline
            (transformers.flatMap fun transformer => ImportSet.mentionedIn transformer.code)
          rwa [ImportSet.merge_self] at hmerge
  | true =>
      cases more with
      | false => exact ImportSet.insertAll_of_subset (ImportSet.prefix_insertAll .baseline _).subset
      | true => exact ImportSet.merge_self _

theorem nodup_importsFor (transformers : List Transformer) (made : Bool) :
    (importsFor transformers made).packages.Nodup := by
  have hbaseline : ImportSet.baseline.packages.Nodup := List.nodup_singleton _
  cases made with
  | false => exact hbaseline
  | true => exact ImportSet.nodup_insertAll hbaseline _

theorem foldl_merge_imports (hunits : ∀ unit ∈ units, IsSingle transformers unit) (made : Bool) :
    units.foldl (fun imports unit => imports.merge unit.imports) (importsFor transformers made) =
      importsFor transformers (made || units.any (·.isOk)) := by
  induction units generalizing made with
  | nil => simp
  | cons unit units ih =>
      obtain ⟨hunit, hrest⟩ := List.forall_mem_cons.1 hunits
      rw [List.foldl_cons, hunit.imports_eq, merge_importsFor, ih hrest, List.any_cons,
        Bool.or_assoc]

/-- Imports of units are those of a unit with a function, if there is one among them. -/
theorem imports_combine (hsome : units ≠ [])
    (hunits : ∀ unit ∈ units, IsSingle transformers unit) :
    (combine units).imports = importsFor transformers (units.any (·.isOk)) := by
  cases units with
  | nil => exact absurd rfl hsome
  | cons unit units =>
      obtain ⟨hunit, hrest⟩ := List.forall_mem_cons.1 hunits
      have hfirst : ({} : ImportSet).merge unit.imports = importsFor transformers unit.isOk := by
        rw [hunit.imports_eq]
        exact ImportSet.insertAll_of_nodup (nodup_importsFor transformers _)
      rw [combine, List.foldl_cons, hfirst, foldl_merge_imports hrest, List.any_cons]

end Several

/-- What a mapping makes on its own, under the name of its structs. -/
def generateAlone (transformers : List Transformer) (options : Options) (spec : MappingSpec) :
    GeneratedUnit :=
  generate spec transformers { options with functionName := none }

/-- The texts that there are, with an empty line between them. -/
def joinTexts (texts : List String) : String :=
  "\n\n".intercalate (texts.filter (· ≠ ""))

section Units

variable (transformers : List Transformer) (options : Options)

theorem generateAll_eq_combine (first second : MappingSpec) (rest : List MappingSpec) :
    generateAll (first :: second :: rest) transformers options =
      combine ((first :: second :: rest).map (generateAlone transformers options)) :=
  rfl

theorem isSingle_of_mem {specs : List MappingSpec} :
    ∀ unit ∈ specs.map (generateAlone transformers options), IsSingle transformers unit :=
  List.forall_mem_map.2 fun spec _ => isSingle_generate transformers _ spec

theorem imports_generateAll (first second : MappingSpec) (rest : List MappingSpec) :
    (generateAll (first :: second :: rest) transformers options).imports =
      importsFor transformers ((first :: second :: rest).any fun spec =>
        (generateAlone transformers options spec).isOk) := by
  rw [generateAll_eq_combine, imports_combine (by simp) (isSingle_of_mem transformers options),
    List.any_map]
  rfl

theorem code_eq_empty_of_errors {spec : MappingSpec}
    (herrors : (generateAlone transformers options spec).errors ≠ []) :
    (generateAlone transformers options spec).code = "" := by
  have hsingle : IsSingle transformers (generateAlone transformers options spec) :=
    isSingle_generate transformers _ spec
  have hcode := hsingle.code_ne_iff
  rw [GeneratedUnit.isOk, List.isEmpty_iff] at hcode
  exact not_not.1 fun hsome => herrors (hcode.1 hsome)

theorem joinTexts_skip {text : String} (hempty : text = "") (before after : List String) :
    joinTexts (before ++ text :: after) = joinTexts (before ++ after) := by
  simp [joinTexts, hempty]

end Units

/-- The unit of several mappings is made of the units of each of them alone, whatever name the
options give; those that fail leave no text, and imports depend only on whether all fail.  The
unit of one mapping is its own. -/
theorem generateAll_of_alone (first second : MappingSpec) (rest : List MappingSpec)
    (transformers : List Transformer) (options : Options) :
    ((generateAll (first :: second :: rest) transformers options).code =
        joinTexts ((first :: second :: rest).map fun spec =>
          (generateAlone transformers options spec).code) ∧
      (generateAll (first :: second :: rest) transformers options).errors =
        (first :: second :: rest).flatMap fun spec =>
          (generateAlone transformers options spec).errors) ∧
    ((generateAll (first :: second :: rest) transformers options).imports =
      if ∃ spec ∈ first :: second :: rest, (generateAlone transformers options spec).errors = []
      then .detect transformers else ⟨["fmt"]⟩) ∧
    (∀ before failing after, first :: second :: rest = before ++ failing :: after →
      (generateAlone transformers options failing).errors ≠ [] →
      (generateAll (first :: second :: rest) transformers options).code =
        joinTexts ((before ++ after).map fun spec =>
          (generateAlone transformers options spec).code)) ∧
    ∀ spec, generateAll [spec] transformers options = generate spec transformers options := by
  have hcode : (generateAll (first :: second :: rest) transformers options).code =
      joinTexts ((first :: second :: rest).map fun spec =>
        (generateAlone transformers options spec).code) := by
    rw [generateAll_eq_combine, combine, List.map_map]
    rfl
  refine ⟨⟨hcode, ?_⟩, ?_, ?_, fun _ => rfl⟩
  · rw [generateAll_eq_combine, combine, List.flatMap_map]
  · rw [imports_generateAll, importsFor]
    refine if_congr ?_ rfl rfl
    simp only [List.any_eq_true, GeneratedUnit.isOk, List.isEmpty_iff]
  · intro before failing after hspecs herrors
    rw [hcode, hspecs, List.map_append, List.map_cons,
      joinTexts_skip (code_eq_empty_of_errors transformers options herrors), List.map_append]

def readAge : Transformer where
  id := "t"
  name := "readAge"
  code := "func readAge(s string) int \x7b n, _ := strconv.Atoi(s); return n \x7d"

def visitToGuest : MappingSpec where
  sourceStruct := some visitor
  targetStruct := some guest
  fieldMappings := [⟨"Age", "Age", some readAge⟩]

def guestToVisitor : MappingSpec where
  sourceStruct := some guest
  targetStruct := some visitor

/-- A mapping without structs fails between two that make functions. -/
theorem generateAll_of_alone_one_failing :
    (generateAlone [readAge] {} {}).errors ≠ [] ∧
    (generateAll [visitToGuest, {}, guestToVisitor] [readAge] {}).code =
      joinTexts ([visitToGuest, guestToVisitor].map fun spec =>
        (generateAlone [readAge] {} spec).code) ∧
    (generateAll [visitToGuest, {}, guestToVisitor] [readAge] {}).errors = [missingStruct] ∧
    (generateAll [visitToGuest, {}, guestToVisitor] [readAge] {}).imports =
      ⟨["fmt", "strconv"]⟩ := by
  have herrors : (generateAlone [readAge] {} {}).errors ≠ [] := by decide +kernel
  have hunit := generateAll_of_alone visitToGuest {} [guestToVisitor] [readAge] {}
  refine ⟨herrors, ?_, hunit.1.2.trans (by decide +kernel), hunit.2.1.trans (by decide +kernel)⟩
  exact hunit.2.2.1 [visitToGuest] {} [guestToVisitor] rfl herrors

end FieldBridge.Code
