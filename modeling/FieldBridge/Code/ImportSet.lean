import FieldBridge.Transformer.Basic

/-!
# Import sets

The packages that a file imports, in the order in which they were first needed.
Some packages are needed because the code of a transformer mentions them.
-/

namespace FieldBridge.Code

/-- Packages in order, none twice. -/
structure ImportSet where
  packages : List String := []
deriving DecidableEq, Repr, Inhabited

namespace ImportSet

def contains (set : ImportSet) (package : String) : Bool :=
  package ∈ set.packages

/-- The set with a package, last unless it was there already. -/
def insert (set : ImportSet) (package : String) : ImportSet :=
  if set.contains package then set else ⟨set.packages ++ [package]⟩

/-- The set with a package, and whether the package was new to it. -/
def insertNew (set : ImportSet) (package : String) : Bool × ImportSet :=
  if set.contains package then (false, set) else (true, ⟨set.packages ++ [package]⟩)

theorem insertNew_eq (set : ImportSet) (package : String) :
    set.insertNew package = (!set.contains package, set.insert package) := by
  unfold insertNew insert
  split <;> simp [*]

/-- The set with packages, one after the other. -/
def insertAll (set : ImportSet) (packages : List String) : ImportSet :=
  packages.foldl insert set

def ofList (packages : List String) : ImportSet :=
  insertAll {} packages

def merge (set other : ImportSet) : ImportSet :=
  set.insertAll other.packages

def baselinePackage : String := "fmt"

def baseline : ImportSet :=
  insert {} baselinePackage

/-- The packages that code can mention, with the text that mentions them. -/
def mentions : List (String × String) :=
  [("strconv.", "strconv"), ("time.", "time"), ("strings.", "strings"), ("errors.", "errors")]

def occursIn (part : List Char) : List Char → Bool
  | [] => part = []
  | c :: text => part.isPrefixOf (c :: text) || occursIn part text

def mentionedIn (code : String) : List String :=
  (mentions.filter fun mention => occursIn mention.1.toList code.toList).map Prod.snd

def detect (transformers : List Transformer) : ImportSet :=
  baseline.insertAll (transformers.flatMap fun transformer => mentionedIn transformer.code)

end ImportSet

end FieldBridge.Code
