import FieldBridge.Code.Buffer
import FieldBridge.Code.Unit
import FieldBridge.Graph.Mapping

/-!
# Mapping functions

A mapping becomes a function from its source struct to its target struct, with one
assignment for each field mapping.  A mapping without field mappings assigns the
fields that both structs have.  Several mappings become several functions in one
unit.
-/

namespace FieldBridge.Code

/-- The reason why a function cannot be generated. -/
inductive Failure where
  | unnamedStruct (id : String)
deriving DecidableEq, Repr

def Failure.message : Failure → String
  | unnamedStruct id => "struct " ++ id ++ " has no name"

/-- The name of the function between two inline structs, which is taken to exist.
An inline struct has no name of its own, so that its field stands in. -/
def inlineFunctionName (source target : FieldDescriptor) : String :=
  let part (field : FieldDescriptor) :=
    if isIdentifier field.type.toList then field.type else field.name
  "Map" ++ part source ++ "To" ++ part target

def assignedValue (options : Options) (source target : StructDescriptor)
    (mapping : FieldMapping) : String :=
  let value := options.sourceVar ++ "." ++ mapping.sourceField
  match mapping.transformer with
  | some transformer => transformer.callName ++ "(" ++ value ++ ")"
  | none =>
    match source.field? mapping.sourceField, target.field? mapping.targetField with
    | some sourceField, some targetField =>
      if sourceField.isInlineStruct && targetField.isInlineStruct then
        inlineFunctionName sourceField targetField ++ "(" ++ value ++ ")"
      else value
    | _, _ => value

def writeAssignment (options : Options) (source target : StructDescriptor) (buffer : Buffer)
    (mapping : FieldMapping) : Buffer :=
  (buffer.indent 1).writeLine
    (options.targetVar ++ "." ++ mapping.targetField ++ " = " ++
      assignedValue options source target mapping)

/-- The names of the fields that both structs have, in the order of the target. -/
def commonFields (source target : StructDescriptor) : List String :=
  (target.fields.map (·.name)).filter fun name => name ≠ "" && source.hasField name

def writeCommon (options : Options) (buffer : Buffer) (name : String) : Buffer :=
  (buffer.indent 1).writeLine
    (options.targetVar ++ "." ++ name ++ " = " ++ options.sourceVar ++ "." ++ name)

def writeAssignments (options : Options) (source target : StructDescriptor)
    (mappings : List FieldMapping) (buffer : Buffer) : Buffer :=
  if mappings ≠ [] then
    (mappings.foldl (writeAssignment options source target)
      (buffer.line 1 "// Field mappings")).newline
  else
    match commonFields source target with
    | [] => buffer
    | names =>
      (names.foldl (writeCommon options)
        (buffer.line 1 "// Auto-mapped fields with matching names")).newline

def functionText (name : String) (options : Options) (source target : StructDescriptor)
    (mappings : List FieldMapping) : String :=
  let header :=
    "func " ++ name ++ "(" ++ options.sourceVar ++ " " ++ source.name ++ ") " ++ target.name ++
      " \x7b"
  let opened := (Buffer.empty options.indent).writeLine header
  let declared :=
    ((opened.indent 1).writeLine ("var " ++ options.targetVar ++ " " ++ target.name)).newline
  let assigned := writeAssignments options source target mappings declared
  let returned := (assigned.indent 1).writeLine ("return " ++ options.targetVar)
  (returned.line 0 "\x7d").finish

/-- The text of a function, when both structs have names. -/
def emit (name : String) (options : Options) (source target : StructDescriptor)
    (mappings : List FieldMapping) : Except Failure String :=
  if source.name = "" then .error (.unnamedStruct source.id)
  else if target.name = "" then .error (.unnamedStruct target.id)
  else .ok (functionText name options source target mappings)

def defaultFunctionName : String := "MapStructs"

def severalMappings : String := "MultipleMappings"

def noMapping : String :=
  "No mapping found. A mapping requires at least one source and one target struct " ++
    "connected by fields."

def missingStruct : String :=
  "No mapping found: source or target struct is missing"

def generate (spec : MappingSpec) (transformers : List Transformer) (options : Options) :
    GeneratedUnit :=
  match spec.sourceStruct, spec.targetStruct with
  | some source, some target =>
    let name := options.functionName.getD ("Map" ++ source.name ++ "To" ++ target.name)
    match emit name options source target spec.fieldMappings with
    | .ok code => ⟨name, code, ImportSet.detect transformers, []⟩
    | .error failure => .failed name ("Code generation error: " ++ failure.message)
  | _, _ => .failed (options.functionName.getD defaultFunctionName) missingStruct

def combine (units : List GeneratedUnit) : GeneratedUnit where
  functionName := severalMappings
  code := "\n\n".intercalate ((units.map (·.code)).filter (· ≠ ""))
  imports := units.foldl (fun imports unit => imports.merge unit.imports) {}
  errors := units.flatMap (·.errors)

/-- The unit of all mappings of a graph.  A name in the options is for a single
mapping only. -/
def generateAll (specs : List MappingSpec) (transformers : List Transformer)
    (options : Options) : GeneratedUnit :=
  match specs with
  | [] => .failed defaultFunctionName noMapping
  | [spec] => generate spec transformers options
  | specs =>
    let options := { options with functionName := none }
    combine (specs.map fun spec => generate spec transformers options)

end FieldBridge.Code
