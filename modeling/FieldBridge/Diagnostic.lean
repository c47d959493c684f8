import FieldBridge.Position

/-!
# Diagnostics

A diagnostic is a finding about one declaration: what kind of finding, how
severe, in which words, and where.  Each finding has one constructor function
here, so that its wording is written once.
-/

namespace FieldBridge

namespace Diagnostic

/-- The kinds of findings. -/
inductive Kind where
  | missingDeclaration
  | missingBody
  | unclosedBody
  | missingStructName
  | unexportedStructName
  | emptyStruct
  | duplicateField
  | missingFieldName
  | invalidFieldName
  | missingFieldType
  | unexpectedToken
deriving DecidableEq, Repr

namespace Kind

def all : List Kind :=
  [missingDeclaration, missingBody, unclosedBody, missingStructName, unexportedStructName,
    emptyStruct, duplicateField, missingFieldName, invalidFieldName, missingFieldType,
    unexpectedToken]

def title : Kind → String
  | missingDeclaration => "Missing declaration"
  | missingBody => "Missing body"
  | unclosedBody => "Unclosed body"
  | missingStructName => "Missing struct name"
  | unexportedStructName => "Unexported struct name"
  | emptyStruct => "Empty struct"
  | duplicateField => "Duplicate field"
  | missingFieldName => "Missing field name"
  | invalidFieldName => "Invalid field name"
  | missingFieldType => "Missing field type"
  | unexpectedToken => "Unexpected token"

end Kind

/-- An error makes a declaration invalid, a warning never does. -/
inductive Severity where
  | error
  | warning
deriving DecidableEq, Repr

def Severity.label : Severity → String
  | error => "error"
  | warning => "warning"

end Diagnostic

/-- A finding about a declaration, positioned in the text it was read from. -/
structure Diagnostic where
  kind : Diagnostic.Kind
  severity : Diagnostic.Severity
  message : String
  span : Span
  related : Option Span := none
  relatedLabel : Option String := none
  help : Option String := none
deriving DecidableEq, Repr

namespace Diagnostic

def isError (diagnostic : Diagnostic) : Bool :=
  diagnostic.severity = .error

def invalidBody : String :=
  "Invalid struct body. Expected: \x7b field declarations \x7d"

def noDeclaration : Diagnostic where
  kind := .missingDeclaration
  severity := .error
  message := "No struct definition found. Expected: type StructName struct \x7b ... \x7d"
  span := Span.point .start
  help := some "Declare a struct: type User struct \x7b ID int \x7d"

/-- No field list follows the word at `span`. -/
def noBody (span : Span) : Diagnostic where
  kind := .missingBody
  severity := .error
  message := invalidBody
  span := span
  help := some "Follow 'struct' with a field list, e.g. struct \x7b Name string \x7d"

/-- The text ends at `finish` inside the field list opened at `opening`. -/
def unclosed (finish opening : Span) : Diagnostic where
  kind := .unclosedBody
  severity := .error
  message := invalidBody
  span := finish
  related := some opening
  relatedLabel := some "opened here"
  help := some "Close the field list with '\x7d'"

/-- The text ends inside the inline struct of the field `owner`. -/
def unclosedInline (owner : String) (opening : Span) : Diagnostic where
  kind := .unclosedBody
  severity := .error
  message := "Unclosed nested struct in field " ++ owner
  span := opening
  help := some "Close the nested field list with '\x7d'"

/-- Text is left on the line of the field `field` after its tag. -/
def leftover (field : String) (span : Span) : Diagnostic where
  kind := .unexpectedToken
  severity := .warning
  message := "Unexpected text after " ++
    if field = "" then "field declaration" else "field " ++ field
  span := span
  help := some "Each line declares one field: Name Type `tag`"

def noStructName (span : Span) : Diagnostic where
  kind := .missingStructName
  severity := .error
  message := "Struct name is required"
  span := span
  help := some "Name the type: type User struct \x7b ... \x7d"

def unexported (span : Span) : Diagnostic where
  kind := .unexportedStructName
  severity := .warning
  message := "Struct name should start with uppercase letter for export"
  span := span

def noFields (span : Span) : Diagnostic where
  kind := .emptyStruct
  severity := .warning
  message := "Struct has no fields"
  span := span

def noFieldName (span : Span) : Diagnostic where
  kind := .missingFieldName
  severity := .error
  message := "Field name is required"
  span := span

def badFieldName (name : String) (span : Span) : Diagnostic where
  kind := .invalidFieldName
  severity := .error
  message := "Invalid field name: " ++ name
  span := span

/-- The name of a field was already used by the field at `first`. -/
def repeatedField (name : String) (span first : Span) : Diagnostic where
  kind := .duplicateField
  severity := .error
  message := "Duplicate field name: " ++ name
  span := span
  related := some first
  relatedLabel := some "first declared here"
  help := some "Field names must be unique within a struct"

/-- The field `name` has no type. -/
def noFieldType (name : String) (span : Span) : Diagnostic where
  kind := .missingFieldType
  severity := .error
  message := "Field " ++ (if name = "" then "<unnamed>" else name) ++ " is missing type"
  span := span

end Diagnostic

end FieldBridge
