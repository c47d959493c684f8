import FieldBridge.Command.Generate
import FieldBridge.Command.Parse

/-!
# Running command lines
-/

namespace FieldBridge.Command

/-- The column in which the description of a template begins, less the blank before
it. -/
def idWidth : Nat := 18

def padded (text : String) : String :=
  text ++ String.ofList (List.replicate (idWidth - text.length) ' ')

def templateText (template : Transformer.Template) : String :=
  padded template.id ++ " " ++ template.name ++ " (" ++ template.inputType ++ " -> " ++
    template.outputType ++ ")\n" ++ padded "" ++ " " ++ template.description ++ "\n"

def templates (world : World) (json : Bool) : Outcome where
  code := exitCode true
  stdout :=
    if json then jsonText (.array (Transformer.catalog.map Transformer.Template.toJson))
    else String.join (Transformer.catalog.map templateText)
  tree := world.tree

def usage : String :=
  "fieldbridge - functions that map one Go struct to another\n\n" ++
  "Usage:\n" ++
  "  fieldbridge parse [--json] (FILE | --stdin)\n" ++
  "  fieldbridge generate [--package PACKAGE] (PATH | --stdin [--json])\n" ++
  "  fieldbridge templates [--json]\n"

def Stop.outcome (stop : Stop) (world : World) : Outcome :=
  match stop with
  | help => { code := exitCode true, stdout := usage, tree := world.tree }
  | misuse => { code := misuseCode, stderr := usage, tree := world.tree }

def Invocation.run (invocation : Invocation) (world : World) : Outcome :=
  match invocation with
  | parse origin json => Command.parse world origin json
  | generate origin packageName json => Command.generate world origin packageName json
  | templates json => Command.templates world json

def run (arguments : List String) (world : World) : Outcome :=
  match Invocation.ofArguments arguments with
  | .ok invocation => invocation.run world
  | .error stop => stop.outcome world

end FieldBridge.Command
