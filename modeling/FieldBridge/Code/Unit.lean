import FieldBridge.Code.ImportSet

/-!
# Generated units

A unit is the code of mapping functions with the imports it needs and the errors
that kept functions from being generated.  A unit without errors makes a file.
-/

namespace FieldBridge.Code

/-- How code is generated. -/
structure Options where
  functionName : Option String := none
  packageName : String := "main"
  sourceVar : String := "src"
  targetVar : String := "target"
  indent : String := "    "
deriving DecidableEq, Repr, Inhabited

/-- Generated code with its imports and errors. -/
structure GeneratedUnit where
  functionName : String
  code : String
  imports : ImportSet
  errors : List String
deriving DecidableEq, Repr

namespace GeneratedUnit

def failed (functionName error : String) : GeneratedUnit :=
  ⟨functionName, "", ImportSet.baseline, [error]⟩

def isOk (unit : GeneratedUnit) : Bool :=
  unit.errors.isEmpty

def importText : List String → String
  | [] => ""
  | [package] => "import \"" ++ package ++ "\"\n\n"
  | packages =>
    "import (\n" ++ String.join (packages.map fun package => "    \"" ++ package ++ "\"\n") ++
      ")\n\n"

def endLine (text : String) : String :=
  if text.toList.getLast? = some '\n' then text else text ++ "\n"

def file (unit : GeneratedUnit) (packageName : String) : String :=
  endLine ("package " ++ packageName ++ "\n\n" ++ importText unit.imports.packages ++ unit.code)

/-- Every package is imported on a line of its own. -/
theorem exists_importText_eq {packages : List String} {package : String}
    (hpackage : package ∈ packages) :
    ∃ before after, importText packages = before ++ "\"" ++ package ++ "\"\n" ++ after := by
  obtain ⟨first, last, rfl⟩ := List.append_of_mem hpackage
  unfold importText
  split
  · next hnone => simp at hnone
  · next only hone =>
      obtain ⟨rfl, rfl, rfl⟩ : first = [] ∧ package = only ∧ last = [] := by
        simpa [List.append_eq_cons_iff] using hone
      exact ⟨"import ", "\n", by simp [← String.toList_inj]⟩
  · refine ⟨"import (\n" ++ String.join (first.map fun package => "    \"" ++ package ++ "\"\n") ++
      "    ", String.join (last.map fun package => "    \"" ++ package ++ "\"\n") ++ ")\n\n", ?_⟩
    rw [List.map_append, List.map_cons, String.join_append, String.join_cons]
    simp [← String.toList_inj]

/-- The text of a file is the package clause, then the imports, then the code, and it ends a
line. -/
theorem exists_file_eq (unit : GeneratedUnit) (packageName : String) :
    ∃ imports ending, unit.file packageName =
        "package " ++ packageName ++ "\n\n" ++ imports ++ unit.code ++ ending ∧
      (∀ package ∈ unit.imports.packages, ∃ before after,
        imports = before ++ "\"" ++ package ++ "\"\n" ++ after) ∧
      (ending = "" ∨ ending = "\n") := by
  have himports := fun package => @exists_importText_eq unit.imports.packages package
  unfold file endLine
  split
  · exact ⟨_, "", by rw [String.append_empty], himports, Or.inl rfl⟩
  · exact ⟨_, "\n", rfl, himports, Or.inr rfl⟩

end GeneratedUnit

end FieldBridge.Code
