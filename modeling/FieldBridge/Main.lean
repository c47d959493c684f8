import FieldBridge.Command.Elapsed
import FieldBridge.Command.Run

/-!
# The program

The program takes stock of the files that its command line leads to, runs the
command on them, and then writes what the command reports and the files it changed.
-/

namespace FieldBridge.Main

open Command

partial def readAll (stream : IO.FS.Stream) (text : String) : IO String := do
  let line ← stream.getLine
  if line.isEmpty then return text else readAll stream (text ++ line)

def reasonOf : IO.Error → String
  | .permissionDenied _ code details => details ++ " (os error " ++ toString code ++ ")"
  | .userError _ => "stream did not contain valid UTF-8"
  | error => toString error

def pathTo (place : Place) : String :=
  "/" ++ "/".intercalate place

def entryAt (place : Place) : IO.FS.DirEntry :=
  ⟨"/", "/".intercalate place⟩

/-- What is at an entry of a directory and below it.  Below a directory only documents
and generated files are looked at. -/
partial def survey (entry : IO.FS.DirEntry) (place : Place) : IO (List (Place × Entry)) := do
  if ← entry.path.isDir then
    let below ← (← entry.path.readDir).toList.mapM fun inner => do
      let isRelevant :=
        Path.hasExtension inner.fileName Target.documentExtension ||
          Path.hasExtension inner.fileName Target.generatedExtension ||
          (← inner.path.isDir)
      if isRelevant then survey inner (place ++ [inner.fileName]) else return []
    return (place, .directory) :: below.flatten
  else if ← entry.path.pathExists then
    try
      let text ← IO.FS.readFile entry.path
      let isFile := (← entry.path.metadata).type == .file
      return [(place, if isFile then .file text else .device text)]
    catch error => return [(place, .closed (reasonOf error))]
  else return []

/-- The places that parts of a path lead to, one after the other. -/
def placesAlong (place : Place) : List (List Char) → List Place
  | [] => [place]
  | part :: rest => place :: placesAlong (Place.after place part) rest

def directoriesAmong (places : List Place) : IO (List (Place × Entry)) := do
  let found ← places.filterM fun place => (entryAt place).path.isDir
  return found.map fun place => (place, .directory)

/-- What a path leads to and goes through, and the generated file that belongs to it. -/
def surveyPath (home : Place) (path : String) : IO FileTree := do
  let along :=
    placesAlong (if path.startsWith "/" then [] else home) (Path.parts path.toList)
  let place := along.getLast?.getD home
  let output := (Target.ofPath path place).output.place
  let here ← survey (entryAt place) place
  let beside ← survey (entryAt output) output
  return { home := home, entries := here ++ beside ++ (← directoriesAmong along) }

def observe (invocation : Except Stop Invocation) : IO World := do
  let current ← IO.currentDir
  let home :=
    ((Path.parts current.toString.toList).filter (!Path.isStill ·)).map String.ofList
  let bytes ← IO.getRandomBytes 16
  let ids := IdSupply.random (bytes.foldl (fun bits byte => bits * 256 + byte.toNat) 0)
  match invocation with
  | .ok invocation =>
    match invocation.origin? with
    | some .standardInput =>
      return { tree := { home := home }, input := ← readAll (← IO.getStdin) "", ids := ids }
    | some (.file path) => return { tree := ← surveyPath home path, ids := ids }
    | none => return { ids := ids }
  | .error _ => return { ids := ids }

def carryOut (before after : FileTree) : IO Unit :=
  after.entries.forM fun entry => do
    match entry.2 with
    | .file text =>
      if before.entry? entry.1 ≠ some entry.2 then
        IO.FS.writeFile (pathTo entry.1) text
    | _ => return ()

/-- Runs a command line, and gives its exit code. -/
def runCommandLine (arguments : List String) : IO UInt32 := do
  let start ← IO.monoNanosNow
  let world ← observe (Invocation.ofArguments arguments)
  let outcome ← IO.lazyPure fun _ => run arguments world
  carryOut world.tree outcome.tree
  IO.print outcome.stdout
  IO.eprint (outcome.report (elapsedText ((← IO.monoNanosNow) - start)))
  return outcome.code.toUInt32

end FieldBridge.Main

def main (arguments : List String) : IO UInt32 :=
  FieldBridge.Main.runCommandLine arguments
