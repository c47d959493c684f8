import FieldBridge.FileTree
import FieldBridge.Project.Document
import FieldBridge.Reading
import FieldBridge.Snippet.Recognizer

/-!
# What commands work with

A command sees a file tree and standard input, and leaves behind an exit code, two
texts and a file tree.  It is given a supply of ids and a check of code.
-/

namespace FieldBridge.Command

/-- An order in which the entries below a directory are visited. -/
structure Order where
  arrange : List Place → List Place
  perm (places : List Place) : (arrange places).Perm places

def Order.asKnown : Order where
  arrange places := places
  perm places := .refl places

/-- What a command can see. -/
structure World where
  tree : FileTree := {}
  input : String := ""
  ids : IdSupply := .sequential
  order : Order := .asKnown
  check : String → Bool := Snippet.accepts

/-- A count of things that are called `noun` one by one. -/
def counted (count : Nat) (noun : String) : String :=
  toString count ++ " " ++ noun ++ if count = 1 then "" else "s"

/-- What a command leaves behind.  A command that has looked at all its projects also
says how many files it generated. -/
structure Outcome where
  code : Nat
  stdout : String := ""
  stderr : String := ""
  generated : Option Nat := none
  tree : FileTree
deriving DecidableEq, Repr

namespace Outcome

/-- The line that sums up how many files were generated, and in what time. -/
def summary (outcome : Outcome) (elapsed : String) : String :=
  match outcome.generated with
  | none => ""
  | some count => "\n✨ Generated " ++ counted count "file" ++ " in " ++ elapsed ++ "\n"

def report (outcome : Outcome) (elapsed : String) : String :=
  outcome.stderr ++ outcome.summary elapsed

end Outcome

def exitCode (success : Bool) : Nat :=
  if success then 0 else 1

def misuseCode : Nat := 2

/-- Why a command cannot go on. -/
inductive Failure where
  | unread (path : String) (fault : FileFault)
  | unwritten (path : String) (fault : FileFault)
  | refused (path : String) (error : DocumentError)
  | notFound (path : String)
  | noDocuments (path : String)
deriving DecidableEq, Repr

def Failure.message : Failure → String
  | unread path fault => "failed to read " ++ path ++ ": " ++ fault.message
  | unwritten path fault => "failed to write " ++ path ++ ": " ++ fault.message
  | refused path error => path ++ ": " ++ error.message
  | notFound path => path ++ " does not exist"
  | noDocuments path => "no .json project files found in " ++ path

def errorLine (text : String) : String :=
  "Error: " ++ text ++ "\n"

def standardInputName : String := "<stdin>"

def goodLine (text : String) : String :=
  "  ✓ " ++ text ++ "\n"

def badLine (text : String) : String :=
  "  ✗ " ++ text ++ "\n"

def jsonText (value : Json) : String :=
  value.pretty ++ "\n"

end FieldBridge.Command
