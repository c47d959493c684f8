import FieldBridge.Proofs.FunctionLines

/-!
# The text of a mapping function

The lines of a function with field mappings, one after the other: a header, the declaration of
the target, one assignment for each field mapping, and the return.
-/

namespace FieldBridge.Code

/-- A field of the target that is given the value of a field of the source, perhaps through a
function. -/
structure Assignment where
  reads : String
  writes : String
  call : Option String
deriving DecidableEq

namespace Assignment

def value (options : Options) (assignment : Assignment) : String :=
  match assignment.call with
  | none => options.sourceVar ++ "." ++ assignment.reads
  | some function => function ++ "(" ++ (options.sourceVar ++ "." ++ assignment.reads) ++ ")"

/-- The line of an assignment, as it is written. -/
def line (options : Options) (assignment : Assignment) : String :=
  options.indent ++ options.targetVar ++ "." ++ assignment.writes ++ " = " ++
    assignment.value options ++ "\n"

/-- The function that the value of a mapping goes through. -/
def callOf (source target : StructDescriptor) (mapping : FieldMapping) : Option String :=
  match mapping.transformer with
  | some transformer => some transformer.callName
  | none =>
    match source.field? mapping.sourceField, target.field? mapping.targetField with
    | some sourceField, some targetField =>
      if sourceField.isInlineStruct && targetField.isInlineStruct then
        some (inlineFunctionName sourceField targetField)
      else none
    | _, _ => none

def ofMapping (source target : StructDescriptor) (mapping : FieldMapping) : Assignment where
  reads := mapping.sourceField
  writes := mapping.targetField
  call := callOf source target mapping

theorem assignedValue_eq (options : Options) (source target : StructDescriptor)
    (mapping : FieldMapping) :
    assignedValue options source target mapping =
      (ofMapping source target mapping).value options := by
  unfold assignedValue value ofMapping callOf
  cases mapping.transformer with
  | some transformer => rfl
  | none =>
      cases source.field? mapping.sourceField with
      | none => rfl
      | some sourceField =>
          cases target.field? mapping.targetField with
          | none => rfl
          | some targetField =>
              by_cases hinline : sourceField.isInlineStruct && targetField.isInlineStruct
              · simp only [if_pos hinline]
              · simp only [if_neg hinline]

end Assignment

/-- The text of a function with assignments. -/
def mappingText (name : String) (options : Options) (source target : String)
    (assignments : List Assignment) : String :=
  "func " ++ name ++ "(" ++ options.sourceVar ++ " " ++ source ++ ") " ++ target ++ " \x7b\n" ++
    options.indent ++ "var " ++ options.targetVar ++ " " ++ target ++ "\n\n" ++
    options.indent ++ "// Field mappings\n" ++
    String.join (assignments.map (Assignment.line options)) ++ "\n" ++
    options.indent ++ "return " ++ options.targetVar ++ "\n\x7d"

theorem value_ofMapping (options : Options) (source target : StructDescriptor)
    (mapping : FieldMapping) :
    (Assignment.ofMapping source target mapping).value options =
      expression options source target mapping := by
  rw [← Assignment.assignedValue_eq, assignedValue_eq_expression]

theorem functionText_of_mappings (options : Options) (source target : StructDescriptor)
    (name : String) {mappings : List FieldMapping} (hmappings : mappings ≠ []) :
    functionText name options source target mappings =
      mappingText name options source.name target.name
        (mappings.map (Assignment.ofMapping source target)) := by
  have hline : ∀ mapping, (assignmentLine options mapping.targetField
        (expression options source target mapping)).toList ++ ['\n'] =
      ((Assignment.ofMapping source target mapping).line options).toList := by
    intro mapping
    rw [Assignment.line, value_ofMapping]
    simp [assignmentLine, Assignment.ofMapping]
  have hlines : (String.join ((mappings.map (Assignment.ofMapping source target)).map
      (Assignment.line options))).toList = lineText (mappings.map fun mapping =>
        assignmentLine options mapping.targetField
          (expression options source target mapping)) := by
    simp only [String.toList_join, lineText, List.flatMap_map, hline]
  apply String.toList_inj.1
  unfold mappingText
  generalize String.join ((mappings.map (Assignment.ofMapping source target)).map
    (Assignment.line options)) = lines at hlines
  rw [functionText_eq, functionLines, toList_intercalate_append_singleton, openLines,
    assignmentLines, if_pos hmappings]
  simp [lineText, block, hlines]

end FieldBridge.Code
