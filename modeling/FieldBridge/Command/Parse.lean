import FieldBridge.Command.Arguments
import FieldBridge.Command.Basic
import FieldBridge.Diagnostic.Report

/-!
# Parsing structs

The command reports what was found about each struct of a text, or writes the
descriptors as JSON.  It succeeds when all structs are valid.
-/

namespace FieldBridge.Command

/-- What is reported about a struct: its diagnostics, and a line on the struct if it
has a name. -/
def structReport (source path : String) (descriptor : StructDescriptor) : String :=
  let line :=
    descriptor.name ++ " (" ++ counted descriptor.fields.length "field" ++ ")"
  String.join (descriptor.diagnostics.map fun diagnostic => diagnostic.render false source path) ++
    if descriptor.name = "" then ""
    else if descriptor.isValid then goodLine line
    else badLine line

/-- Parses a text that goes by the name `path`. -/
def parseText (world : World) (source path : String) (json : Bool) : Outcome :=
  let descriptors := (StructDescriptor.readAny source world.ids).1
  { code := exitCode (descriptors.all (·.isValid))
    stdout :=
      if json then jsonText (.array (descriptors.map StructDescriptor.toJson)) else ""
    stderr :=
      if json then "" else String.join (descriptors.map (structReport source path))
    tree := world.tree }

def parse (world : World) (origin : Origin) (json : Bool) : Outcome :=
  match origin with
  | .standardInput => parseText world world.input standardInputName json
  | .file path =>
    match world.tree.readPath path with
    | .ok source => parseText world source path json
    | .error fault =>
      { code := exitCode false
        stderr := errorLine (Failure.unread path fault).message
        tree := world.tree }

end FieldBridge.Command
