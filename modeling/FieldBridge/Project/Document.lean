import FieldBridge.Json.Printer
import FieldBridge.Json.Reader
import FieldBridge.Project.Schema

/-!
# Project documents

A project is kept as a JSON document.  A document must name its project and list
its structs.  Reading a document does not trust what can be found out: a struct
that is kept as source text only is read again, and transformers are checked anew.
-/

namespace FieldBridge

open Json

/-- Why a document is refused. -/
inductive DocumentError where
  | notJson
  | malformed (fault : Fault)
  | missing (key : String)
  | structsNotListed
deriving DecidableEq, Repr

namespace DocumentError

/-- Whether a document is JSON without the members that a document must have. -/
def isFormat : DocumentError → Bool
  | missing _ => true
  | structsNotListed => true
  | _ => false

/-- What is wrong with a document, in words. -/
def detail : DocumentError → String
  | notJson => "not a JSON text"
  | malformed fault => fault.message
  | missing key => "missing " ++ key
  | structsNotListed => "structs must be an array"

def message (error : DocumentError) : String :=
  (if error.isFormat then "Invalid configuration format: "
    else "malformed configuration JSON: ") ++ error.detail

end DocumentError

/-- The descriptor, read again from its source text if it has no fields. -/
def StructDescriptor.restored (descriptor : StructDescriptor) : StructDescriptor :=
  if descriptor.fields = [] && !Text.isBlank descriptor.sourceText.toList then
    read descriptor.id descriptor.sourceText
  else descriptor

namespace Project

def isFilled (value : Option Json) : Bool :=
  match value with
  | some (.string text) => text ≠ ""
  | _ => false

def isArray (value : Option Json) : Bool :=
  (value.bind Json.array?).isSome

/-- The project with everything that follows from texts worked out again. -/
def restored (check : String → Bool) (project : Project) : Project :=
  { project with
    structs := project.structs.map StructDescriptor.restored
    transformers := project.transformers.map (Transformer.checked check) }

def ofJson (check : String → Bool) (value : Json) : Except DocumentError Project :=
  if !isFilled (value.member? "id") then .error (.missing "id")
  else if !isFilled (value.member? "name") then .error (.missing "name")
  else if !isArray (value.member? "structs") then .error .structsNotListed
  else
    match decode value with
    | .error fault => .error (.malformed fault)
    | .ok project => .ok (project.restored check)

def ofDocument (check : String → Bool) (text : String) : Except DocumentError Project :=
  match Json.read? text.toList with
  | none => .error .notJson
  | some value => ofJson check value

def document (project : Project) : String :=
  project.toJson.pretty

end Project

end FieldBridge
