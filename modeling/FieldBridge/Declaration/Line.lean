import FieldBridge.Declaration.Basic

/-!
# Field lines

The parts of a field line: a qualified name, further names, a type, a tag, and
what is left over.  Every reader takes the tokens of a text and returns what it
read together with the tokens after it; none gives back more tokens than it got.
-/

namespace FieldBridge.Declaration

def skipNewlines (tokens : List Token) : List Token :=
  tokens.dropWhile fun token => token.kind = .newline

def skipSeparators (tokens : List Token) : List Token :=
  tokens.dropWhile Token.isSeparator

/-- The bracket depth after a token; an unmatched closing bracket leaves it at zero. -/
def nest (depth : Nat) (token : Token) : Nat :=
  if token.isOpening then depth + 1
  else if token.isClosing then depth - 1
  else depth

/-- The rest of a line.  A line goes on inside brackets; it ends after a line end
or semicolon, and before the bracket that closes what the line stands in. -/
def skipLine (closer : Char) (depth : Nat) : List Token → List Token
  | [] => []
  | token :: rest =>
    if depth = 0 ∧ token.isSeparator then rest
    else if depth = 0 ∧ token.isPunct closer then token :: rest
    else skipLine closer (nest depth token) rest

/-- The tokens of a type.  Outside brackets a type ends where the field does;
inside them it takes everything. -/
def splitType (depth : Nat) : List Token → List Token × List Token
  | [] => ([], [])
  | token :: rest =>
    if depth = 0 ∧ token.endsField then ([], token :: rest)
    else
      let split := splitType (nest depth token) rest
      (token :: split.1, split.2)

/-- Tokens as one line of text, after a token that ended at byte `last`: tokens
that touch stay together, all others are one blank apart, and line ends vanish. -/
def joinFrom (last : Option Nat) : List Token → String
  | [] => ""
  | token :: rest =>
    if token.kind = .newline then joinFrom last rest
    else
      let gap := if last.any (· < token.span.start.byte) then " " else ""
      gap ++ token.text ++ joinFrom (some token.span.stop.byte) rest

/-- The text of a type at the start of `tokens`, and the tokens after it. -/
def typeText (tokens : List Token) : String × List Token :=
  let split := splitType 0 tokens
  (joinFrom none split.1, split.2)

/-- The selectors `.Name` that follow a name. -/
def selectors : List Token → List String × List Token
  | dot :: token :: rest =>
    match dot.isPunct '.', token.name? with
    | true, some name =>
      let more := selectors rest
      (name :: more.1, more.2)
    | _, _ => ([], dot :: token :: rest)
  | tokens => ([], tokens)

/-- A name with its selectors: the last segment, and the whole path. -/
def qualified (first : String) (tokens : List Token) : (String × String) × List Token :=
  let more := selectors tokens
  let path := first :: more.1
  ((path.getLastD first, ".".intercalate path), more.2)

/-- The names that follow a field name, each after a comma.  Lines may break
after the comma; what is no name ends the list and stays. -/
def moreNames (comma : Bool) : List Token → List (String × Span) × List Token
  | [] => ([], [])
  | token :: rest =>
    if comma then
      if token.kind = .newline then moreNames true rest
      else
        match token.name? with
        | some name =>
          let more := moreNames false rest
          ((name, token.span) :: more.1, more.2)
        | none => ([], token :: rest)
    else if token.isPunct ',' then moreNames true rest
    else ([], token :: rest)

/-- The tag at the start of `tokens`. -/
def tag : List Token → Option String × List Token
  | [] => (none, [])
  | token :: rest =>
    match token.string? with
    | some value => (some value, rest)
    | none => (none, token :: rest)

/-- The part of a field line that is read before its tag: names with a type, or
names with the field list of an inline struct still to be read. -/
inductive Head where
  | plain (names : List (String × Span)) (type : String) (rest : List Token)
  | inline (names : List (String × Span)) (opening : Span) (rest : List Token)

/-- The head of a line that begins with a star: an embedded pointer. -/
def pointerHead (span : Span) (tokens : List Token) : Head :=
  match tokens with
  | token :: rest =>
    match token.name? with
    | some first =>
      let path := qualified first rest
      .plain [(path.1.1, span)] ("*" ++ path.1.2) path.2
    | none =>
      let type := typeText (token :: rest)
      .plain [("", span)] ("*" ++ type.1) type.2
  | [] => .plain [("", span)] "*" []

/-- Whether the name before `tokens` stands alone on its line or is qualified,
and so is an embedded type. -/
def isEmbedded : List Token → Bool
  | [] => true
  | token :: _ => token.endsField || token.isPunct '.'

/-- The opening brace of the inline struct at the start of `tokens`, and the tokens
after it. -/
def inlineBody? : List Token → Option (Span × List Token)
  | word :: brace :: rest =>
    if word.isWord "struct" && brace.isPunct '{' then some (brace.span, rest) else none
  | _ => none

/-- Names with what follows them: an inline struct, or else a type. -/
def typedHead (names : List (String × Span)) (tokens : List Token) : Head :=
  match inlineBody? tokens with
  | some (opening, rest) => .inline names opening rest
  | none =>
    let type := typeText tokens
    .plain names type.1 type.2

def namedHead (name : String) (span : Span) (tokens : List Token) : Head :=
  if isEmbedded tokens then
    let path := qualified name tokens
    .plain [(path.1.1, span)] path.1.2 path.2
  else
    let more := moreNames false tokens
    typedHead ((name, span) :: more.1) more.2

/-- The head of a line that begins with `token`.  A line without a name keeps its
text as a type, so that the missing name is noticed later. -/
def head (token : Token) (rest : List Token) : Head :=
  match token.kind with
  | .ident name => namedHead name token.span rest
  | _ =>
    if token.isPunct '*' then pointerHead token.span rest
    else
      let type := typeText (token :: rest)
      .plain [("", token.span)] type.1 type.2

/-- The fields of one line, the findings made while reading it, and the tokens
after it. -/
structure Line where
  fields : List Field
  notes : List Diagnostic
  rest : List Token

/-- The end of a field line: a tag, and a finding when anything is left. -/
def endLine (names : List (String × Span)) (type : String) (notes : List Diagnostic)
    (tokens : List Token) : Line :=
  let label := tag tokens
  let fields := names.map fun name => ⟨name.1, type, label.1, name.2⟩
  match label.2 with
  | [] => ⟨fields, notes, []⟩
  | token :: rest =>
    if token.endsField then ⟨fields, notes, token :: rest⟩
    else
      let owner := (names.getLast?.map Prod.fst).getD ""
      ⟨fields, notes ++ [.leftover owner token.span], skipLine '}' 0 (token :: rest)⟩

end FieldBridge.Declaration
