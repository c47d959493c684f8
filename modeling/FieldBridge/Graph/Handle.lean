/-!
# Handles

An edge is attached to a node at a handle, which is named by a text.  A struct node
has two handles for each field, one to read it and one to write it; a transformer
node has one handle in and one handle out.
-/

namespace FieldBridge

/-- What a handle stands for. -/
inductive Handle where
  | field (name : String)
  | transformerIn
  | transformerOut
  | other (text : String)
deriving DecidableEq, Repr

namespace Handle

def transformerInText : String := "transformer-in"

def transformerOutText : String := "transformer-out"

def reading (field : String) : String :=
  "field-" ++ field ++ "-out"

def writing (field : String) : String :=
  "field-" ++ field ++ "-in"

def between? (first last text : List Char) : Option (List Char) :=
  (first.isPrefixOf? text).bind last.isSuffixOf?

/-- What the text of a handle stands for.  A field needs a name. -/
def parse (text : String) : Handle :=
  if text = transformerInText then transformerIn
  else if text = transformerOutText then transformerOut
  else
    let first := "field-".toList
    match (between? first "-out".toList text.toList).or
        (between? first "-in".toList text.toList) with
    | some (c :: name) => field (String.ofList (c :: name))
    | _ => other text

/-- The name of the field, when a handle stands for one. -/
def field? : Handle → Option String
  | field name => some name
  | _ => none

def unknownField : String := "unknown"

/-- The field that a handle stands for, if there is a handle. -/
def fieldKey (handle : Option String) : String :=
  ((handle.map parse).bind field?).getD unknownField

end Handle

end FieldBridge
