import FieldBridge.Json.Numeral
import FieldBridge.Json.Quoted

/-!
# Reading JSON

A text is read as one value with blanks around it.  Values may be nested 127 deep.
Reading stops at the first thing that is not JSON, and then there is no value.
-/

namespace FieldBridge.Json

def isBlank (c : Char) : Bool :=
  c = ' ' || c = '\n' || c = '\t' || c = '\r'

def skipBlanks (text : List Char) : List Char :=
  text.dropWhile isBlank

/-- How deep values may be nested. -/
def depthLimit : Nat := 127

mutual

/-- The value at the start of a text, in at most `steps` nested steps and nested at
most `depth` deep. -/
def readValue (steps depth : Nat) (text : List Char) : Option (Json × List Char) :=
  match steps with
  | 0 => none
  | steps + 1 =>
    match skipBlanks text with
    | 'n' :: 'u' :: 'l' :: 'l' :: rest => some (null, rest)
    | 't' :: 'r' :: 'u' :: 'e' :: rest => some (bool true, rest)
    | 'f' :: 'a' :: 'l' :: 's' :: 'e' :: rest => some (bool false, rest)
    | '\x22' :: rest =>
      (Quoted.decode? rest).map fun decoded => (string (String.ofList decoded.1), decoded.2)
    | '[' :: rest =>
      match depth with
      | 0 => none
      | depth + 1 =>
        match skipBlanks rest with
        | ']' :: rest => some (array [], rest)
        | rest => (readItems steps depth rest).map fun read => (array read.1, read.2)
    | '{' :: rest =>
      match depth with
      | 0 => none
      | depth + 1 =>
        match skipBlanks rest with
        | '}' :: rest => some (object [], rest)
        | rest =>
          (readMembers steps depth rest).map fun read => (object (sortMembers read.1), read.2)
    | rest =>
      match Numeral.parts? rest with
      | none => none
      | some parts => parts.value?.map fun value => (value, parts.rest)

/-- The items of an array, from the first one on, and the text after the array. -/
def readItems (steps depth : Nat) (text : List Char) : Option (List Json × List Char) :=
  match steps with
  | 0 => none
  | steps + 1 =>
    match readValue steps depth text with
    | none => none
    | some (item, rest) =>
      match skipBlanks rest with
      | ',' :: rest => (readItems steps depth rest).map fun read => (item :: read.1, read.2)
      | ']' :: rest => some ([item], rest)
      | _ => none

/-- The members of an object, from the first one on, and the text after the object. -/
def readMembers (steps depth : Nat) (text : List Char) :
    Option (List (String × Json) × List Char) :=
  match steps with
  | 0 => none
  | steps + 1 =>
    match skipBlanks text with
    | '\x22' :: rest =>
      match Quoted.decode? rest with
      | none => none
      | some (key, rest) =>
        match skipBlanks rest with
        | ':' :: rest =>
          match readValue steps depth rest with
          | none => none
          | some (value, rest) =>
            match skipBlanks rest with
            | ',' :: rest =>
              (readMembers steps depth rest).map fun read =>
                ((String.ofList key, value) :: read.1, read.2)
            | '}' :: rest => some ([(String.ofList key, value)], rest)
            | _ => none
        | _ => none
    | _ => none

end

/-- The value that a text is.  Every second step takes a character. -/
def read? (text : List Char) : Option Json :=
  match readValue (2 * text.length + 2) depthLimit text with
  | some (value, rest) => if skipBlanks rest = [] then some value else none
  | none => none

end FieldBridge.Json
