import FieldBridge.Descriptor
import FieldBridge.Transformer.Basic

/-!
# Mappings

A mapping is a pair of structs with the fields of one that go into fields of the
other.
-/

namespace FieldBridge

/-- A field that goes into a field, perhaps through a transformer. -/
structure FieldMapping where
  sourceField : String
  targetField : String
  transformer : Option Transformer := none
deriving DecidableEq, Repr

/-- Two structs and what goes from one to the other. -/
structure MappingSpec where
  sourceStruct : Option StructDescriptor := none
  targetStruct : Option StructDescriptor := none
  fieldMappings : List FieldMapping := []
deriving DecidableEq, Repr, Inhabited

end FieldBridge
