/-!
# Paths

A path is a text in which slashes separate the names of directories and files.  The
name at its end has an extension if something stands before its last dot.  The
system takes neither paths nor names of any length.
-/

namespace FieldBridge.Path

/-- The parts of a path between its slashes.  Parts may be empty. -/
def parts : List Char → List (List Char)
  | [] => [[]]
  | c :: rest =>
    if c = '/' then [] :: parts rest
    else
      match parts rest with
      | [] => [[c]]
      | part :: more => (c :: part) :: more

def isStill (part : List Char) : Bool :=
  part = [] || part = ['.']

def isUp (part : List Char) : Bool :=
  part = ['.', '.']

/-- The name at the end of a path, unless the path ends by going up. -/
def name? (path : String) : Option String :=
  match ((parts path.toList).filter (!isStill ·)).getLast? with
  | none => none
  | some part => if isUp part then none else some (String.ofList part)

/-- The part of a name before its last dot, and the part after it.  A name that has
no other dot than the one it begins with has no extension. -/
def split (name : List Char) : List Char × Option (List Char) :=
  match name.reverse.dropWhile (· ≠ '.') with
  | _ :: c :: stem =>
    ((c :: stem).reverse, some (name.reverse.takeWhile (· ≠ '.')).reverse)
  | _ => (name, none)

def hasExtension (name : String) (ext : String) : Bool :=
  (split name.toList).2 = some ext.toList

/-- A name with its extension replaced, or added if it has none.  A name that is two
dots without its extension leads to the directory above, and stays like that. -/
def withExtension (name : String) (ext : String) : String :=
  match split name.toList with
  | (['.'], some _) => ".."
  | (stem, _) => String.ofList (stem ++ '.' :: ext.toList)

def maxLength : Nat := 4095

def maxNameLength : Nat := 255

def isTooLong (path : String) : Bool :=
  maxLength < path.utf8ByteSize

def isLongPart (part : List Char) : Bool :=
  maxNameLength < (String.ofList part).utf8ByteSize

def join (directory : String) (name : String) : String :=
  if directory.toList.getLast? = some '/' then directory ++ name
  else directory ++ "/" ++ name

end FieldBridge.Path
