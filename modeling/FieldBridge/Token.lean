import FieldBridge.Position
import FieldBridge.Token.Lexeme

/-!
# Tokens

A token is a lexeme that matters to declarations, placed in its source.  Blanks
and comments are dropped, except that a block comment over several lines ends
the line it begins on.  Keywords are ordinary words here.
-/

namespace FieldBridge

/-- What a token is, with the text it stands for. -/
inductive Token.Kind where
  | ident (name : String)
  | number (digits : String)
  | raw (value : String)
  | quoted (value : String)
  | punct (c : Char)
  | newline
  | eof
deriving DecidableEq, Repr

/-- A token: its kind, its characters as written, and where they stand. -/
structure Token where
  kind : Token.Kind
  text : String
  span : Span
deriving DecidableEq, Repr

namespace Lexeme

/-- The kind of token a lexeme makes, if it makes one. -/
def kind? : Lexeme → Option Token.Kind
  | lineFeed => some .newline
  | blank _ => none
  | lineComment _ => none
  | blockComment body _ => if '\n' ∈ body then some .newline else none
  | rawString body _ => some (.raw (String.ofList body))
  | quotedString body _ => some (.quoted (String.ofList (unescape body)))
  | word name => some (.ident (String.ofList name))
  | number digits => some (.number (String.ofList digits))
  | symbol c => some (.punct c)

end Lexeme

namespace Token

def finish (position : Position) : Token :=
  ⟨.eof, "", Span.point position⟩

/-- The tokens of consecutive lexemes, the first of which stands at `position`. -/
def place : Position → List Lexeme → List Token
  | _, [] => []
  | position, lexeme :: lexemes =>
    let stop := position.after lexeme.text
    match lexeme.kind? with
    | some kind => ⟨kind, String.ofList lexeme.text, ⟨position, stop⟩⟩ :: place stop lexemes
    | none => place stop lexemes

/-- The tokens of a source text, without the one that ends the stream. -/
def scan (source : List Char) : List Token :=
  place .start (lexemes source)

def stream (source : List Char) : List Token :=
  scan source ++ [finish (Position.start.after source)]

/-- Whether a token is the word `name`. -/
def isWord (token : Token) (name : String) : Bool :=
  token.kind = .ident name

/-- Whether a token is the symbol `c`. -/
def isPunct (token : Token) (c : Char) : Bool :=
  token.kind = .punct c

/-- The name, when the token is a word. -/
def name? (token : Token) : Option String :=
  match token.kind with
  | .ident name => some name
  | _ => none

/-- The value, when the token is a string of either style. -/
def string? (token : Token) : Option String :=
  match token.kind with
  | .raw value => some value
  | .quoted value => some value
  | _ => none

def isOpening (token : Token) : Bool :=
  token.isPunct '(' || token.isPunct '[' || token.isPunct '{'

def isClosing (token : Token) : Bool :=
  token.isPunct ')' || token.isPunct ']' || token.isPunct '}'

/-- Whether a token ends the name and type of a field: a line end, a tag, a
semicolon or the end of the field list. -/
def endsField (token : Token) : Bool :=
  match token.kind with
  | .newline | .raw _ | .quoted _ | .eof => true
  | .punct c => c = ';' || c = '}'
  | _ => false

def isSeparator (token : Token) : Bool :=
  token.kind = .newline || token.isPunct ';'

theorem name?_eq_some_iff {token : Token} {name : String} :
    token.name? = some name ↔ token.kind = .ident name := by
  unfold name?
  split <;> simp_all

theorem name?_of_isWord {token : Token} {name : String} (hword : token.isWord name = true) :
    token.name? = some name :=
  name?_eq_some_iff.2 (of_decide_eq_true hword)

theorem isPunct_eq_false_of_name? {token : Token} {name : String}
    (hname : token.name? = some name) (c : Char) : token.isPunct c = false := by
  simp [isPunct, name?_eq_some_iff.1 hname]

theorem isSeparator_eq_false_of_name? {token : Token} {name : String}
    (hname : token.name? = some name) : token.isSeparator = false := by
  simp [isSeparator, isPunct, name?_eq_some_iff.1 hname]

theorem name?_eq_none_of_isSeparator {token : Token} (hseparator : token.isSeparator = true) :
    token.name? = none := by
  simp only [isSeparator, isPunct, Bool.or_eq_true, decide_eq_true_eq] at hseparator
  rcases hseparator with hkind | hkind <;> simp [name?, hkind]

theorem isPunct_eq_false_of_isSeparator {token : Token} (hseparator : token.isSeparator = true)
    {c : Char} (hc : c ≠ ';') : token.isPunct c = false := by
  simp only [isSeparator, isPunct, Bool.or_eq_true, decide_eq_true_eq] at hseparator
  rcases hseparator with hkind | hkind <;> simp [isPunct, hkind, hc.symm]

theorem name?_eq_none_of_isPunct {token : Token} {c : Char}
    (hpunct : token.isPunct c = true) : token.name? = none := by
  have hkind : token.kind = .punct c := by simpa [isPunct] using hpunct
  simp [name?, hkind]

end Token

end FieldBridge
