/-!
# Command lines

A command line names a command and says where its input is.  It is looked at from
left to right, and the first thing that is wrong with it, or a call for help, ends
the reading.
-/

namespace FieldBridge.Command

/-- Where input comes from. -/
inductive Origin where
  | standardInput
  | file (path : String)
deriving DecidableEq, Repr

/-- What is to be done. -/
inductive Invocation where
  | parse (origin : Origin) (json : Bool)
  | generate (origin : Origin) (packageName : String) (json : Bool)
  | templates (json : Bool)
deriving DecidableEq, Repr

/-- Why nothing is done. -/
inductive Stop where
  | help
  | misuse
deriving DecidableEq, Repr

/-- The commands. -/
inductive Verb where
  | parse
  | generate
  | templates
deriving DecidableEq, Repr

namespace Verb

def ofName? (name : String) : Option Verb :=
  if name = "parse" then some parse
  else if name = "generate" then some generate
  else if name = "templates" then some templates
  else none

/-- Whether a command has input. -/
def hasInput (verb : Verb) : Bool :=
  verb ≠ templates

/-- Whether a command takes the name of a package. -/
def hasPackage (verb : Verb) : Bool :=
  verb = generate

end Verb

/-- What the words after a command say. -/
structure Words where
  file : Option String := none
  stdin : Bool := false
  json : Bool := false
  packageName : Option String := none
deriving DecidableEq, Repr

namespace Words

def takeFile (verb : Verb) (words : Words) (word : String) : Except Stop Words :=
  if verb.hasInput && words.file = none && word ≠ "" then .ok { words with file := some word }
  else .error .misuse

def takePackage (verb : Verb) (words : Words) (name : String) : Except Stop Words :=
  if verb.hasPackage && words.packageName = none then
    .ok { words with packageName := some name }
  else .error .misuse

/-- Whether a word is an option.  A dash on its own is not. -/
def isOption (word : String) : Bool :=
  word.toList.head? = some '-' && word ≠ "-"

def takeOption (verb : Verb) (words : Words) (word : String) : Except Stop Words :=
  if word = "--help" || "-h".toList.isPrefixOf word.toList then .error .help
  else if word = "--json" then
    if words.json then .error .misuse else .ok { words with json := true }
  else if word = "--stdin" then
    if !verb.hasInput || words.stdin then .error .misuse else .ok { words with stdin := true }
  else
    match "--package=".toList.isPrefixOf? word.toList with
    | some name => words.takePackage verb (String.ofList name)
    | none => .error .misuse

def takeFiles (verb : Verb) (words : Words) : List String → Except Stop Words
  | [] => .ok words
  | word :: rest =>
    match words.takeFile verb word with
    | .error stop => .error stop
    | .ok words => takeFiles verb words rest

def takeAll (verb : Verb) (words : Words) : List String → Except Stop Words
  | [] => .ok words
  | "--" :: rest => words.takeFiles verb rest
  | ["--package"] => .error .misuse
  | "--package" :: name :: rest =>
    if isOption name then .error .misuse
    else
      match words.takePackage verb name with
      | .error stop => .error stop
      | .ok words => takeAll verb words rest
  | word :: rest =>
    match if isOption word then words.takeOption verb word else words.takeFile verb word with
    | .error stop => .error stop
    | .ok words => takeAll verb words rest

/-- Where input comes from.  Standard input is taken before a file. -/
def origin (words : Words) : Except Stop Origin :=
  if words.stdin then .ok .standardInput
  else
    match words.file with
    | some path => .ok (.file path)
    | none => .error .misuse

end Words

namespace Invocation

/-- What a command with its words asks for.  A generated unit is shown as JSON only
when the project comes from standard input. -/
def ofWords (verb : Verb) (words : Words) : Except Stop Invocation :=
  match verb with
  | .templates => .ok (templates words.json)
  | .parse => words.origin.map fun origin => parse origin words.json
  | .generate =>
    if words.json && !words.stdin then .error .misuse
    else
      words.origin.map fun origin => generate origin (words.packageName.getD "main") words.json

def origin? : Invocation → Option Origin
  | parse origin _ => some origin
  | generate origin _ _ => some origin
  | templates _ => none

def ofHelp : List String → Stop
  | [] => .help
  | [topic] => if topic = "help" || (Verb.ofName? topic).isSome then .help else .misuse
  | _ => .misuse

def ofArguments : List String → Except Stop Invocation
  | [] => .error .misuse
  | name :: rest =>
    match Verb.ofName? name with
    | some verb =>
      match Words.takeAll verb {} rest with
      | .error stop => .error stop
      | .ok words => ofWords verb words
    | none =>
      if name = "help" then .error (ofHelp rest)
      else if name = "--help" || "-h".toList.isPrefixOf name.toList then .error .help
      else .error .misuse

end Invocation

end FieldBridge.Command
