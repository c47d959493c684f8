import FieldBridge.Diagnostic
import FieldBridge.Token

/-!
# Struct declarations as written

A declaration is what stands between the word `type` and the closing brace of a
field list, before anything about it is judged.  A structural failure keeps the
fields that were read before it.
-/

namespace FieldBridge

namespace Declaration

/-- A field as written.  A field without a name stands at the start of its line. -/
structure Field where
  name : String
  type : String
  tag : Option String
  span : Span
deriving DecidableEq, Repr

end Declaration

/-- A struct declaration as written. -/
structure Declaration where
  name : String
  nameSpan : Span
  fields : List Declaration.Field
  span : Span
  grouped : Bool
  failure : Option Diagnostic
  notes : List Diagnostic
deriving DecidableEq, Repr

end FieldBridge
