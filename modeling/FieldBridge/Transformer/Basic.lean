import FieldBridge.Identifier
import FieldBridge.Text

/-!
# Transformers

A transformer is a named function, given as code, that converts the value of one
field into the value of another.  It is valid when it has a name that can be seen
and its code passes a check.  Generated code calls it by its call name.
-/

namespace FieldBridge

/-- A conversion function with its code. -/
structure Transformer where
  id : String
  name : String := ""
  inputType : String := ""
  outputType : String := ""
  code : String := ""
  isValid : Bool := false
deriving DecidableEq, Repr

namespace Transformer

def checked (check : String → Bool) (transformer : Transformer) : Transformer :=
  { transformer with
    isValid := !Text.isBlank transformer.name.toList && check transformer.code }

def create (check : String → Bool) (id name inputType outputType code : String) : Transformer :=
  checked check ⟨id, name, inputType, outputType, code, false⟩

def edit (check : String → Bool) (transformer : Transformer) (name code : String) : Transformer :=
  checked check { transformer with name := name, code := code }

/-- The name of the function that the code begins with: the word after `func` and
white space. -/
def declaredFunction (transformer : Transformer) : Option (List Char) :=
  match ['f', 'u', 'n', 'c'].isPrefixOf? (Text.trimStart transformer.code.toList) with
  | some (c :: rest) =>
    if Unicode.isWhiteSpace c then
      let word := (Text.trimStart rest).takeWhile Unicode.continuesWord
      if isIdentifier word then some word else none
    else none
  | _ => none

/-- The characters of a name that can be part of an identifier, after an underscore
if they need one. -/
def sanitizedName (name : List Char) : List Char :=
  let word := name.filter Unicode.continuesWord
  if isIdentifier word then word else '_' :: word

/-- The name that generated code calls the transformer by: its own name if that is
an identifier, else the function its code declares, else what is left of its name. -/
def callName (transformer : Transformer) : String :=
  if isIdentifier transformer.name.toList then transformer.name
  else
    match transformer.declaredFunction with
    | some declared => String.ofList declared
    | none => String.ofList (sanitizedName transformer.name.toList)

end Transformer

end FieldBridge
