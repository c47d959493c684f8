import FieldBridge.Json.Fault

/-!
# Records in JSON

A record is written as an object, or as an array of its fields in order.  The
members of an object are looked at in their order, and the first that is refused
is reported; fields that must be there are looked for when all are right.
-/

namespace FieldBridge.Json

/-- A field of a record as far as members are concerned. -/
structure Slot where
  name : String
  aliases : List String
  check : Json → Except Fault Unit

namespace Slot

def isCalled (slot : Slot) (key : String) : Bool :=
  key = slot.name || key ∈ slot.aliases

end Slot

/-- The values found for the fields of a record, in the order of the fields. -/
abbrev Row := List (Option Json)

/-- Looks at the members of an object.  A value goes to the field that its key
names; two keys may not name one field. -/
def visit (slots : List Slot) : List (String × Json) → Row → Except Fault Row
  | [], row => .ok row
  | (key, value) :: rest, row =>
    match slots.findIdx? (·.isCalled key) with
    | none => visit slots rest row
    | some place =>
      match slots[place]? with
      | none => visit slots rest row
      | some slot =>
        if (row[place]?.getD none).isSome then .error (.duplicateField slot.name)
        else
          match slot.check value with
          | .error fault => .error fault
          | .ok () => visit slots rest (row.set place (some value))

/-- How a value of type `α` is put together from the fields of a record. -/
structure Record (α : Type) where
  slots : List Slot
  build : Row → (Nat → Fault) → Except Fault α

namespace Record

def done {α : Type} (value : α) : Record α where
  slots := []
  build _ _ := .ok value

/-- The record with one more field, which may be missing when there is a value for
its absence. -/
def field {α β : Type} (record : Record (α → β)) (name : String) (aliases : List String)
    (decoder : Decoder α) (absent : Option α) : Record β where
  slots := record.slots ++ [⟨name, aliases, fun value => (decoder value).map fun _ => ()⟩]
  build row lack :=
    let place := record.slots.length
    match record.build row lack with
    | .error fault => .error fault
    | .ok make =>
      match row[place]?.getD none, absent with
      | some value, _ => (decoder value).map make
      | none, some value => .ok (make value)
      | none, none => .error (lack place)

def required {α β : Type} (record : Record (α → β)) (name : String) (decoder : Decoder α)
    (aliases : List String := []) : Record β :=
  record.field name aliases decoder none

def withDefault {α β : Type} (record : Record (α → β)) (name : String) (decoder : Decoder α)
    (absent : α) (aliases : List String := []) : Record β :=
  record.field name aliases decoder (some absent)

def maybe {α β : Type} (record : Record (Option α → β)) (name : String) (decoder : Decoder α)
    (aliases : List String := []) : Record β :=
  record.field name aliases (Decoder.optional decoder) (some none)

def ofMembers {α : Type} (record : Record α) (members : List (String × Json)) :
    Except Fault α :=
  match visit record.slots members (record.slots.map fun _ => none) with
  | .error fault => .error fault
  | .ok row =>
    record.build row fun place => .missingField ((record.slots[place]?.map Slot.name).getD "")

def ofItems {α : Type} (record : Record α) (type : String) (items : List Json) :
    Except Fault α :=
  let count := record.slots.length
  match record.build (items.map some) fun place => .tooShort place type count with
  | .error fault => .error fault
  | .ok value => if items.length ≤ count then .ok value else .error (.tooLong items.length count)

/-- Takes a record called `type` out of a value. -/
def decode {α : Type} (record : Record α) (type : String) : Decoder α
  | object members => record.ofMembers members
  | array items => record.ofItems type items
  | value => Decoder.refuse value ("struct " ++ type)

end Record

def present (members : List (Option (String × Json))) : Json :=
  object (members.filterMap id)

def always (name : String) (value : Json) : Option (String × Json) :=
  some (name, value)

/-- A member for a text, if there is one. -/
def whenText (name : String) (value : Option String) : Option (String × Json) :=
  value.map fun text => (name, string text)

def texts (values : List String) : Json :=
  array (values.map string)

end FieldBridge.Json
