import FieldBridge.Path

/-!
# File trees

A file tree is what can be seen of a file system: files with their texts, files that
cannot be opened, devices that are read like files, and directories.  A directory is
there as soon as something is in it.  A path that does not begin with a slash starts
from the home directory.

There are no links in a file tree, and all its directories can be listed.  What lies
behind a link, or in a directory that keeps its entries to itself, is not seen and not
part of it.
-/

namespace FieldBridge

abbrev Place := List String

def Place.after (place : Place) (part : List Char) : Place :=
  if Path.isStill part then place
  else if Path.isUp part then place.dropLast
  else place ++ [String.ofList part]

/-- What is at a place. -/
inductive Entry where
  | file (text : String)
  | closed (reason : String)
  | device (text : String)
  | directory
deriving DecidableEq, Repr

/-- A file system, with the directory that paths start from. -/
structure FileTree where
  entries : List (Place × Entry) := []
  home : Place := []
deriving DecidableEq, Repr

/-- Why a file cannot be used. -/
inductive FileFault where
  | missing
  | notDirectory
  | isDirectory
  | tooLong
  | refused (reason : String)
deriving DecidableEq, Repr

def FileFault.message : FileFault → String
  | missing => "No such file or directory (os error 2)"
  | notDirectory => "Not a directory (os error 20)"
  | isDirectory => "Is a directory (os error 21)"
  | tooLong => "File name too long (os error 36)"
  | refused reason => reason

namespace FileTree

def entry? (tree : FileTree) (place : Place) : Option Entry :=
  match tree.entries.lookup place with
  | some entry => some entry
  | none =>
    if place.isPrefixOf tree.home || tree.entries.any (fun entry => place.isPrefixOf entry.1) then
      some .directory
    else none

def step (tree : FileTree) (place : Place) (part : List Char) : Except FileFault Place :=
  match tree.entry? place with
  | none => .error .missing
  | some .directory =>
    if Path.isLongPart part then .error .tooLong else .ok (Place.after place part)
  | some _ => .error .notDirectory

/-- The place that parts of a path lead to, one after the other. -/
def follow (tree : FileTree) (place : Place) : List (List Char) → Except FileFault Place
  | [] => .ok place
  | part :: rest =>
    match tree.step place part with
    | .error fault => .error fault
    | .ok next => follow tree next rest

/-- The place that a path leads to.  There need not be anything. -/
def locate (tree : FileTree) (path : String) : Except FileFault Place :=
  if Path.isTooLong path then .error .tooLong
  else
    match path.toList with
    | [] => .error .missing
    | '/' :: rest => tree.follow [] (Path.parts rest)
    | chars => tree.follow tree.home (Path.parts chars)

def read (tree : FileTree) (place : Place) : Except FileFault String :=
  match tree.entry? place with
  | none => .error .missing
  | some (.file text) | some (.device text) => .ok text
  | some (.closed reason) => .error (.refused reason)
  | some .directory => .error .isDirectory

def put (tree : FileTree) (place : Place) (text : String) : FileTree :=
  { tree with
    entries := (place, .file text) :: tree.entries.filter fun entry => entry.1 ≠ place }

/-- Writes a text to the file at a place, which may be new in its directory.  What is
written to a device is gone. -/
def write (tree : FileTree) (place : Place) (text : String) : Except FileFault FileTree :=
  match tree.entry? place with
  | none => .ok (tree.put place text)
  | some (.file _) => .ok (tree.put place text)
  | some (.device _) => .ok tree
  | some (.closed reason) => .error (.refused reason)
  | some .directory => .error .isDirectory

def readPath (tree : FileTree) (path : String) : Except FileFault String :=
  match tree.locate path with
  | .error fault => .error fault
  | .ok place => tree.read place

def beginnings {α : Type} : List α → List (List α)
  | [] => []
  | first :: rest => [first] :: (beginnings rest).map (first :: ·)

/-- The ways down from a place, each to one entry below it. -/
def below (tree : FileTree) (place : Place) : List Place :=
  (tree.entries.flatMap fun entry =>
    match place.isPrefixOf? entry.1 with
    | some way => beginnings way
    | none => []).eraseDups

end FileTree

end FieldBridge
