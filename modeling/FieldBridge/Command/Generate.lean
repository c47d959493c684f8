import FieldBridge.Command.Arguments
import FieldBridge.Command.Basic

/-!
# Generating files

A project that comes from standard input is compiled to standard output.  A project
in a file is compiled to a file beside it, and so is every project below a
directory.  A project whose mappings have errors is counted as failed; a document
that is no project ends the command.

The documents below a directory are those of the file tree.  So a walk over it meets no
links and no directory that cannot be listed, which it would pass over.
-/

namespace FieldBridge.Command

/-- A file to be compiled: the path it is called by, its name and its place. -/
structure Target where
  path : String
  name : String
  place : Place
deriving DecidableEq, Repr

namespace Target

def generatedExtension : String := "go"

def documentExtension : String := "json"

def isDocument (target : Target) : Bool :=
  Path.hasExtension target.name documentExtension

def sibling (target : Target) (name : String) : Target where
  path :=
    String.ofList (target.path.toList.take (target.path.length - target.name.length)) ++ name
  name := name
  place := Place.after target.place.dropLast name.toList

def output (target : Target) : Target :=
  target.sibling (Path.withExtension target.name generatedExtension)

def ofPath (path : String) (place : Place) : Target where
  path := path
  name := (Path.name? path).getD ""
  place := place

def descend (target : Target) : Place → Target
  | [] => target
  | name :: rest =>
    descend ⟨Path.join target.path name, name, target.place ++ [name]⟩ rest

/-- Whether the path or the name of a target is longer than the system takes it. -/
def isTooLong (target : Target) : Bool :=
  Path.isTooLong target.path || Path.isLongPart target.name.toList

/-- Whether the directory of a target can be looked into, as its own path is not too
long. -/
def isVisible (target : Target) : Bool :=
  target.path.utf8ByteSize ≤ Path.maxLength + 1 + target.name.utf8ByteSize

def read (target : Target) (tree : FileTree) : Except FileFault String :=
  if target.isTooLong then .error .tooLong else tree.read target.place

def write (target : Target) (tree : FileTree) (text : String) : Except FileFault FileTree :=
  if target.isTooLong then .error .tooLong else tree.write target.place text

end Target

def optionsFor (packageName : String) : Code.Options :=
  { packageName := packageName }

/-- Compiles the project in a document called `path`. -/
def compileDocument (check : String → Bool) (path text : String) (options : Code.Options) :
    Except Failure Project.Compiled :=
  match Project.ofDocument check text with
  | .ok project => .ok (project.compile options)
  | .error error => .error (.refused path error)

def generateInput (world : World) (options : Code.Options) (json : Bool) : Outcome :=
  match compileDocument world.check standardInputName world.input options with
  | .error failure =>
    { code := exitCode false, stderr := errorLine failure.message, tree := world.tree }
  | .ok compiled =>
    { code := exitCode compiled.unit.isOk
      stdout := if json then jsonText compiled.unit.toJson else compiled.file.getD ""
      stderr := String.join (compiled.unit.errors.map errorLine)
      tree := world.tree }

/-- What became of targets so far. -/
structure Progress where
  tree : FileTree
  report : String := ""
  generated : Nat := 0
  failed : Nat := 0
deriving DecidableEq, Repr

namespace Progress

def good (progress : Progress) (tree : FileTree) (path : String) : Progress :=
  { progress with
    tree := tree
    report := progress.report ++ goodLine path
    generated := progress.generated + 1 }

def bad (progress : Progress) (path : String) (errors : List String) : Progress :=
  { progress with
    report :=
      progress.report ++ String.join (errors.map fun error => badLine (path ++ ": " ++ error))
    failed := progress.failed + 1 }

def finish (progress : Progress) : Outcome where
  code := exitCode (progress.failed = 0)
  stderr := progress.report
  generated := some progress.generated
  tree := progress.tree

def abandon (progress : Progress) (failure : Failure) : Outcome where
  code := exitCode false
  stderr := progress.report ++ errorLine failure.message
  tree := progress.tree

end Progress

def generateTarget (check : String → Bool) (options : Code.Options) (progress : Progress)
    (target : Target) : Except Failure Progress :=
  match target.read progress.tree with
  | .error fault => .error (.unread target.path fault)
  | .ok text =>
    match compileDocument check target.path text options with
    | .error failure => .error failure
    | .ok compiled =>
      match compiled.file with
      | none => .ok (progress.bad target.path compiled.unit.errors)
      | some file =>
        match target.output.write progress.tree file with
        | .error fault => .error (.unwritten target.output.path fault)
        | .ok tree => .ok (progress.good tree target.output.path)

def generateTargets (check : String → Bool) (options : Code.Options) (progress : Progress) :
    List Target → Outcome
  | [] => progress.finish
  | target :: rest =>
    match generateTarget check options progress target with
    | .error failure => progress.abandon failure
    | .ok next => generateTargets check options next rest

def documents (world : World) (directory : Target) : List Target :=
  let below := world.order.arrange (world.tree.below directory.place)
  (directory :: (below.map directory.descend).filter (·.isVisible)).filter (·.isDocument)

def generateDirectory (world : World) (options : Code.Options) (directory : Target) : Outcome :=
  let start : Progress := { tree := world.tree }
  match documents world directory with
  | [] => start.abandon (.noDocuments directory.path)
  | targets => generateTargets world.check options start targets

def generatePath (world : World) (options : Code.Options) (path : String) : Outcome :=
  let start : Progress := { tree := world.tree }
  match world.tree.locate path with
  | .error _ => start.abandon (.notFound path)
  | .ok place =>
    let target := Target.ofPath path place
    match world.tree.entry? place with
    | some .directory => generateDirectory world options target
    | some (.file _) | some (.closed _) => generateTargets world.check options start [target]
    | some (.device _) | none => start.abandon (.notFound path)

def generate (world : World) (origin : Origin) (packageName : String) (json : Bool) : Outcome :=
  match origin with
  | .standardInput => generateInput world (optionsFor packageName) json
  | .file path => generatePath world (optionsFor packageName) path

end FieldBridge.Command
