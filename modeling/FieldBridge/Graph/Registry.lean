import FieldBridge.Descriptor
import FieldBridge.Transformer.Basic
import Std.Data.HashMap

/-!
# Registries

A registry resolves the ids that nodes and edges refer to.  A list resolves an id
to the first entry that has it; a table of the entries by id keeps the last.
-/

namespace FieldBridge

/-- What ids stand for. -/
structure Registry where
  struct? : String → Option StructDescriptor
  transformer? : String → Option Transformer

namespace Registry

def ofLists (structs : List StructDescriptor) (transformers : List Transformer) : Registry where
  struct? id := structs.find? (·.id = id)
  transformer? id := transformers.find? (·.id = id)

end Registry

/-- Structs and transformers by their ids. -/
structure RegistryTable where
  structs : Std.HashMap String StructDescriptor
  transformers : Std.HashMap String Transformer

namespace RegistryTable

def ofLists (structs : List StructDescriptor) (transformers : List Transformer) :
    RegistryTable where
  structs := .ofList (structs.map fun descriptor => (descriptor.id, descriptor))
  transformers := .ofList (transformers.map fun transformer => (transformer.id, transformer))

def registry (table : RegistryTable) : Registry where
  struct? id := table.structs[id]?
  transformer? id := table.transformers[id]?

end RegistryTable

end FieldBridge
