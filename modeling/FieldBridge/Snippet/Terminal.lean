/-!
# Terminals

The grammar of code is written in terminals.  Marks and words that the grammar does
not tell apart are one terminal.  Sets of terminals are the bits of a number.
-/

namespace FieldBridge.Snippet

/-- The terminals of code.  `finish` stands for the end of the text.  `caseLabel` is never
read: it is expected where lines end that belong to no case, and the words that a case
begins with are no names there. -/
inductive Terminal where
  | lineEnd
  | semicolon
  | comma
  | dot
  | ellipsis
  | colon
  | define
  | assign
  | update
  | step
  | star
  | sign
  | ampersand
  | bang
  | tilde
  | bar
  | multiply
  | compare
  | andAlso
  | orElse
  | arrow
  | openParen
  | closeParen
  | openBracket
  | closeBracket
  | openBrace
  | closeBrace
  | caseWord
  | chanWord
  | constWord
  | defaultWord
  | elseWord
  | fallthroughWord
  | forWord
  | funcWord
  | gotoWord
  | ifWord
  | importWord
  | interfaceWord
  | launchWord
  | leaveWord
  | mapWord
  | packageWord
  | rangeWord
  | returnWord
  | selectWord
  | structWord
  | switchWord
  | typeWord
  | varWord
  | allocator
  | constant
  | name
  | number
  | string
  | caseLabel
  | finish
deriving DecidableEq, Repr

namespace Terminal

/-- The marks of code, with their terminals. -/
def marks : List (String × Terminal) := [
  ("\n", lineEnd), ("\x00", lineEnd), (";", semicolon), (",", comma), (".", dot),
  ("...", ellipsis), (":", colon), (":=", define), ("=", assign),
  ("*=", update), ("/=", update), ("%=", update), ("<<=", update), (">>=", update),
  ("&=", update), ("&^=", update), ("+=", update), ("-=", update), ("|=", update),
  ("^=", update), ("++", step), ("--", step),
  ("*", star), ("+", sign), ("-", sign), ("^", sign), ("&", ampersand), ("!", bang),
  ("~", tilde), ("|", bar),
  ("/", multiply), ("%", multiply), ("<<", multiply), (">>", multiply), ("&^", multiply),
  ("==", compare), ("!=", compare), ("<", compare), ("<=", compare), (">", compare),
  (">=", compare), ("&&", andAlso), ("||", orElse), ("<-", arrow),
  ("(", openParen), (")", closeParen), ("[", openBracket), ("]", closeBracket),
  ("\x7b", openBrace), ("\x7d", closeBrace)]

/-- The words of code that are no names, with their terminals. -/
def words : List (String × Terminal) := [
  ("break", leaveWord), ("case", caseWord), ("chan", chanWord), ("const", constWord),
  ("continue", leaveWord), ("default", defaultWord), ("defer", launchWord),
  ("else", elseWord), ("fallthrough", fallthroughWord), ("false", constant),
  ("for", forWord), ("func", funcWord), ("go", launchWord), ("goto", gotoWord),
  ("if", ifWord), ("import", importWord), ("interface", interfaceWord),
  ("iota", constant), ("make", allocator), ("map", mapWord), ("new", allocator),
  ("nil", constant), ("package", packageWord), ("range", rangeWord),
  ("return", returnWord), ("select", selectWord), ("struct", structWord),
  ("switch", switchWord), ("true", constant), ("type", typeWord), ("var", varWord)]

end Terminal

/-- Sets of terminals, as numbers. -/
abbrev Terminals := Nat

namespace Terminals

def single (terminal : Terminal) : Terminals :=
  1 <<< terminal.ctorIdx

def has (set : Terminals) (terminal : Terminal) : Bool :=
  Nat.testBit set terminal.ctorIdx

def union (left right : Terminals) : Terminals :=
  left ||| right

end Terminals

end FieldBridge.Snippet
