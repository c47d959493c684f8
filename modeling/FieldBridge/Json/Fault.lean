import FieldBridge.Json.Value
import FieldBridge.Unicode.Basic
import FieldBridge.Unicode.Printable

/-!
# Faults of JSON values

A value of the wrong shape is refused with a fault that says what was found and
what was wanted.  Strings are shown quoted, with characters that cannot be seen
written as code points.
-/

namespace FieldBridge.Json

def codePointText (c : Char) : List Char :=
  ['\\', 'u', '{'] ++ Nat.toDigits 16 c.toNat ++ ['}']

def isPrintable (c : Char) : Bool :=
  if c.toNat < 128 then 32 ≤ c.toNat && c.toNat < 127
  else !Unicode.within Unicode.unprintableRanges c && !Unicode.within Unicode.combiningRanges c

def shownChar (c : Char) : List Char :=
  if c = '\x00' then ['\\', '0']
  else if c = '\t' then ['\\', 't']
  else if c = '\n' then ['\\', 'n']
  else if c = '\r' then ['\\', 'r']
  else if c = '\\' then ['\\', '\\']
  else if c = '\x22' then ['\\', '\x22']
  else if isPrintable c then [c]
  else codePointText c

/-- A text as it is shown, with quotation marks. -/
def shownText (text : String) : String :=
  String.ofList ('\x22' :: text.toList.flatMap shownChar ++ ['\x22'])

/-- What a value is, in words. -/
def description : Json → String
  | null => "null"
  | bool true => "boolean `true`"
  | bool false => "boolean `false`"
  | integer value => "integer `" ++ toString value ++ "`"
  | float value => "floating point `" ++ value.text ++ "`"
  | string text => "string " ++ shownText text
  | array _ => "sequence"
  | object _ => "map"

/-- Why a value could not be taken. -/
inductive Fault where
  | wrongType (found wanted : String)
  | unknownVariant (found : String) (known : List String)
  | notSingle
  | missingField (name : String)
  | duplicateField (name : String)
  | tooShort (length : Nat) (type : String) (fields : Nat)
  | tooLong (length fields : Nat)
  | surplus (length fields : Nat)
deriving DecidableEq, Repr

namespace Fault

def quoted (name : String) : String :=
  "`" ++ name ++ "`"

def elements (count : Nat) : String :=
  toString count ++ if count = 1 then " element" else " elements"

def message : Fault → String
  | wrongType found wanted => "invalid type: " ++ found ++ ", expected " ++ wanted
  | unknownVariant found known =>
    "unknown variant " ++ quoted found ++ ", expected " ++
      " or ".intercalate (known.map quoted)
  | notSingle => "invalid value: map, expected map with a single key"
  | missingField name => "missing field " ++ quoted name
  | duplicateField name => "duplicate field " ++ quoted name
  | tooShort length type fields =>
    "invalid length " ++ toString length ++ ", expected struct " ++ type ++ " with " ++
      elements fields
  | tooLong length _ =>
    "invalid length " ++ toString length ++ ", expected fewer elements in array"
  | surplus length fields =>
    "invalid length " ++ toString length ++ ", expected " ++ elements fields ++ " in sequence"

/-- The fault of an array that is read as one sequence among others.  Too long an
array is then told from what was taken of it. -/
def inSequence : Fault → Fault
  | tooLong length fields => surplus length fields
  | fault => fault

end Fault

abbrev Decoder (α : Type) := Json → Except Fault α

namespace Decoder

def refuse {α : Type} (value : Json) (wanted : String) : Except Fault α :=
  .error (.wrongType value.description wanted)

def text : Decoder String
  | string text => .ok text
  | value => refuse value "a string"

def flag : Decoder Bool
  | bool value => .ok value
  | value => refuse value "a boolean"

def ofInteger (value : Int) : Binary64 :=
  ((Binary64.ofNat? value.natAbs).getD .zero).withSign (value < 0)

def number : Decoder Binary64
  | float value => .ok value
  | integer value => .ok (ofInteger value)
  | value => refuse value "f64"

/-- Takes values one after the other, up to the first that is refused. -/
def each {α : Type} (item : Decoder α) : List Json → Except Fault (List α)
  | [] => .ok []
  | value :: rest =>
    match item value with
    | .error fault => .error fault
    | .ok first =>
      match each item rest with
      | .error fault => .error fault
      | .ok more => .ok (first :: more)

def list {α : Type} (item : Decoder α) : Decoder (List α)
  | array items => each item items
  | value => refuse value "a sequence"

/-- Values of a type, or null. -/
def optional {α : Type} (item : Decoder α) : Decoder (Option α)
  | null => .ok none
  | value => (item value).map some

end Decoder

end FieldBridge.Json
