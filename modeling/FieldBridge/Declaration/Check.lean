import FieldBridge.Declaration.Basic
import FieldBridge.Identifier

/-!
# Checking declarations

The rules a complete declaration is checked by: it has a name that is a capital
word, it has fields, and every field has a name of its own and a type.  Errors
come from a missing name, a missing type or a repeated name; everything else is a
warning.
-/

namespace FieldBridge.Declaration

def checkName (declaration : Declaration) : List Diagnostic :=
  match declaration.name.toList with
  | [] => [.noStructName declaration.nameSpan]
  | c :: _ => if Unicode.isUppercase c then [] else [.unexported declaration.nameSpan]

def firstNamed? (name : String) (fields : List Field) : Option Field :=
  fields.find? (·.name = name)

/-- Findings about the name of a field, given the fields before it. -/
def checkFieldName (before : List Field) (field : Field) : List Diagnostic :=
  if field.name = "" then [.noFieldName field.span]
  else if !isIdentifier field.name.toList then [.badFieldName field.name field.span]
  else
    match firstNamed? field.name before with
    | some first => [.repeatedField field.name field.span first.span]
    | none => []

/-- Findings about a field, given the fields before it. -/
def checkField (before : List Field) (field : Field) : List Diagnostic :=
  checkFieldName before field ++
    if field.type = "" then [.noFieldType field.name field.span] else []

/-- Findings about fields, given the fields before them. -/
def checkFields (before : List Field) : List Field → List Diagnostic
  | [] => []
  | field :: rest => checkField before field ++ checkFields (before ++ [field]) rest

def check (declaration : Declaration) : List Diagnostic :=
  checkName declaration ++
    (if declaration.fields = [] then [.noFields declaration.nameSpan] else []) ++
    checkFields [] declaration.fields

/-- Everything found about a declaration.  A structural failure stands in for the
checks; what was found while reading follows either way. -/
def diagnostics (declaration : Declaration) : List Diagnostic :=
  (match declaration.failure with
  | some failure => [failure]
  | none => declaration.check) ++ declaration.notes

end FieldBridge.Declaration
