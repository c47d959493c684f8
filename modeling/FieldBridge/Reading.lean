import FieldBridge.Descriptor
import FieldBridge.Identity
import FieldBridge.Transformer.Catalog

/-!
# Reading under one supply of ids

Descriptors and transformers that are made one after the other share a supply of
ids.  A request is one such making; running requests passes the supply along.
-/

namespace FieldBridge

namespace StructDescriptor

/-- The first struct a text declares, under the next id. -/
def readOne (source : String) (supply : IdSupply) : StructDescriptor × IdSupply :=
  let minted := supply.next "struct"
  (read minted.1 source, minted.2)

/-- Descriptors of declarations from one source, each under the next id. -/
def ofDeclarations (source : List Char) (supply : IdSupply) :
    List Declaration → List StructDescriptor × IdSupply
  | [] => ([], supply)
  | declaration :: rest =>
    let minted := supply.next "struct"
    let more := ofDeclarations source minted.2 rest
    (ofDeclaration minted.1 (declarationText source declaration) declaration :: more.1, more.2)

/-- Every struct a text declares, in order, each under the next id. -/
def readMany (source : String) (supply : IdSupply) : List StructDescriptor × IdSupply :=
  ofDeclarations source.toList supply (Declaration.all source.toList)

/-- Every struct a text declares, or the report that there is none. -/
def readAny (source : String) (supply : IdSupply) : List StructDescriptor × IdSupply :=
  match readMany source supply with
  | ([], supply) =>
    let one := readOne source supply
    ([one.1], one.2)
  | many => many

end StructDescriptor

/-- Something to be made under a supply of ids.  A template is taken from the catalog by
its id, or is one's own. -/
inductive Request where
  | one (source : String)
  | many (source : String)
  | withId (id source : String)
  | freshId (kind : String)
  | instantiate (template : String)
  | instantiateOwn (template : Transformer.Template)

/-- What a request made. -/
inductive Reply where
  | struct (descriptor : StructDescriptor)
  | structs (descriptors : List StructDescriptor)
  | id (text : String)
  | transformer (transformer : Option Transformer)

namespace Request

/-- Answers a request.  An unknown template makes nothing and uses no id. -/
def answer (check : String → Bool) (request : Request) (supply : IdSupply) : Reply × IdSupply :=
  match request with
  | one source =>
    let read := StructDescriptor.readOne source supply
    (.struct read.1, read.2)
  | many source =>
    let read := StructDescriptor.readMany source supply
    (.structs read.1, read.2)
  | withId id source => (.struct (StructDescriptor.read id source), supply)
  | freshId kind =>
    let minted := supply.next kind
    (.id minted.1, minted.2)
  | instantiate template =>
    match Transformer.template? template with
    | none => (.transformer none, supply)
    | some template =>
      let made := template.instantiate check supply
      (.transformer (some made.1), made.2)
  | instantiateOwn template =>
    let made := template.instantiate check supply
    (.transformer (some made.1), made.2)

def answerAll (check : String → Bool) (supply : IdSupply) : List Request → List Reply × IdSupply
  | [] => ([], supply)
  | request :: rest =>
    let reply := request.answer check supply
    let more := answerAll check reply.2 rest
    (reply.1 :: more.1, more.2)

end Request

end FieldBridge
