import FieldBridge.Declaration.Check
import FieldBridge.Declaration.Search
import FieldBridge.Tag

/-!
# Struct descriptors

A descriptor is what the rest of the program knows of a declaration: its name, its
fields with what their types and tags say, the text it was read from, and whether
it is valid.  A descriptor is valid when no error was found.
-/

namespace FieldBridge

/-- A field of a struct.  The flags follow from how the type is written. -/
structure FieldDescriptor where
  name : String
  type : String
  isPointer : Bool := false
  isSlice : Bool := false
  isMap : Bool := false
  tagValue : Option String := none
  tag : Option String := none
deriving DecidableEq, Repr

namespace FieldDescriptor

/-- The field `name` of a type, without a tag. -/
def ofType (name type : String) : FieldDescriptor where
  name := name
  type := type
  isPointer := ['*'].isPrefixOf type.toList
  isSlice := ['[', ']'].isPrefixOf type.toList
  isMap := ['m', 'a', 'p', '['].isPrefixOf type.toList

/-- The field with a tag, and the name it is serialised under. -/
def withTag (field : FieldDescriptor) (tag : String) : FieldDescriptor :=
  { field with
    tagValue := (Tag.jsonName tag.toList).map String.ofList
    tag := some tag }

def isInlineStruct (field : FieldDescriptor) : Bool :=
  "struct \x7b".toList.isPrefixOf field.type.toList ||
    "struct\x7b".toList.isPrefixOf field.type.toList

def ofField (field : Declaration.Field) : FieldDescriptor :=
  match field.tag with
  | some tag => (ofType field.name field.type).withTag tag
  | none => ofType field.name field.type

end FieldDescriptor

/-- What is known of a struct declaration. -/
structure StructDescriptor where
  id : String
  name : String := ""
  fields : List FieldDescriptor := []
  sourceText : String := ""
  isValid : Bool := false
  errors : List String := []
  warnings : List String := []
  diagnostics : List Diagnostic := []
deriving DecidableEq, Repr

namespace StructDescriptor

/-- The descriptor of a declaration about which `diagnostics` were found. -/
def ofFindings (id name : String) (fields : List FieldDescriptor) (sourceText : String)
    (diagnostics : List Diagnostic) : StructDescriptor where
  id := id
  name := name
  fields := fields
  sourceText := sourceText
  isValid := !diagnostics.any Diagnostic.isError
  errors := (diagnostics.filter Diagnostic.isError).map (·.message)
  warnings := (diagnostics.filter (!·.isError)).map (·.message)
  diagnostics := diagnostics

def ofDeclaration (id sourceText : String) (declaration : Declaration) : StructDescriptor :=
  ofFindings id declaration.name (declaration.fields.map FieldDescriptor.ofField) sourceText
    declaration.diagnostics

/-- The first struct a text declares, under the id `id`. -/
def read (id source : String) : StructDescriptor :=
  let sourceText := String.ofList (Text.trim source.toList)
  match Declaration.first? source.toList with
  | some declaration => ofDeclaration id sourceText declaration
  | none => ofFindings id "" [] sourceText [.noDeclaration]

theorem id_read (id source : String) : (read id source).id = id := by
  unfold read
  split <;> rfl

/-- The text of a declaration on its own: a member of a group gets the word `type`
that the group had. -/
def declarationText (source : List Char) (declaration : Declaration) : String :=
  let text := String.ofList ((declaration.span.text? source).getD [])
  if declaration.grouped then "type " ++ text else text

def field? (descriptor : StructDescriptor) (name : String) : Option FieldDescriptor :=
  descriptor.fields.find? (·.name = name)

def hasField (descriptor : StructDescriptor) (name : String) : Bool :=
  (descriptor.field? name).isSome

end StructDescriptor

end FieldBridge
