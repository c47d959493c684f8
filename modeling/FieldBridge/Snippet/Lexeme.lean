import FieldBridge.Snippet.Terminal
import FieldBridge.Unicode.Basic
import FieldBridge.Unicode.Identifier

/-!
# Lexemes

Functions that tell how many characters of a text a lexeme takes from its start.
None is taken when the lexeme is not there.
-/

namespace FieldBridge.Snippet.Lexeme

def startsName (c : Char) : Bool :=
  if c.toNat < 128 then c.isAlpha || c = '_' else Unicode.within Unicode.identifierStartRanges c

def continuesName (c : Char) : Bool :=
  if c.toNat < 128 then c.isAlphanum || c = '_'
  else Unicode.within Unicode.identifierContinueRanges c

def nameLength : List Char → Nat
  | [] => 0
  | c :: rest => if startsName c then 1 + (rest.takeWhile continuesName).length else 0

def isBlank (c : Char) : Bool :=
  c = ' ' || c = '\t' || c = '\n' || c = '\r' || c = '\x0b' || c = '\x0c'

def isHexDigit (c : Char) : Bool :=
  c.isDigit || ('a' ≤ c && c ≤ 'f') || ('A' ≤ c && c ≤ 'F')

def isOctalDigit (c : Char) : Bool :=
  '0' ≤ c && c ≤ '7'

def isBinaryDigit (c : Char) : Bool :=
  c = '0' || c = '1'

/-- Digits after a digit, with single underscores before them. -/
def moreDigits (isDigit : Char → Bool) : List Char → Nat
  | '_' :: c :: rest => if isDigit c then 2 + moreDigits isDigit rest else 0
  | c :: rest => if isDigit c then 1 + moreDigits isDigit rest else 0
  | [] => 0

/-- Digits, with single underscores between them only. -/
def digits (isDigit : Char → Bool) : List Char → Nat
  | c :: rest => if isDigit c then 1 + moreDigits isDigit rest else 0
  | [] => 0

/-- Digits, with an underscore before them if there is one. -/
def openDigits (isDigit : Char → Bool) : List Char → Nat
  | '_' :: rest =>
    match digits isDigit rest with
    | 0 => 0
    | count => 1 + count
  | text => digits isDigit text

/-- A part and what follows it, unless either is missing. -/
def both (first : Nat) (second : Nat) : Nat :=
  if first = 0 || second = 0 then 0 else first + second

/-- A letter of an exponent, a sign if there is one, and decimal digits. -/
def exponent (isLetter : Char → Bool) : List Char → Nat
  | c :: d :: rest =>
    if !isLetter c then 0
    else if d = '+' || d = '-' then both 2 (digits Char.isDigit rest)
    else both 1 (digits Char.isDigit (d :: rest))
  | _ => 0

def isDecimalLetter (c : Char) : Bool :=
  c = 'e' || c = 'E'

/-- The letters that begin the exponent of a number in base sixteen. -/
def isHexLetter (c : Char) : Bool :=
  c = 'p' || c = 'P'

def pointed (text : List Char) : Nat :=
  let whole := digits Char.isDigit text
  match text.drop whole with
  | '.' :: rest =>
    let part := digits Char.isDigit rest
    if whole = 0 && part = 0 then 0 else whole + 1 + part
  | _ => 0

/-- Digits of base sixteen after their mark, with a point among or beside them if
there is one. -/
def hexMantissa (text : List Char) : Nat :=
  let whole := openDigits isHexDigit text
  match text.drop whole with
  | '.' :: rest =>
    let part := digits isHexDigit rest
    if whole = 0 && part = 0 then 0 else whole + 1 + part
  | _ => whole

def decimalFloat (text : List Char) : Nat :=
  let mantissa := pointed text
  let plain := digits Char.isDigit text
  if mantissa ≠ 0 then mantissa + exponent isDecimalLetter (text.drop mantissa)
  else both plain (exponent isDecimalLetter (text.drop plain))

/-- A whole number after a zero and the mark of a base, or after a zero alone. -/
def basedInteger : List Char → Nat
  | [] => 0
  | c :: rest =>
    if c = 'x' || c = 'X' then both 1 (openDigits isHexDigit rest)
    else if c = 'b' || c = 'B' then both 1 (openDigits isBinaryDigit rest)
    else if c = 'o' || c = 'O' then both 1 (openDigits isOctalDigit rest)
    else openDigits isOctalDigit (c :: rest)

/-- A number of base sixteen with an exponent, after its zero. -/
def hexFloat : List Char → Nat
  | [] => 0
  | c :: rest =>
    if c = 'x' || c = 'X' then
      let mantissa := hexMantissa rest
      both (both 1 mantissa) (exponent isHexLetter (rest.drop mantissa))
    else 0

def realLengths (text : List Char) : List Nat :=
  match text with
  | '0' :: rest => [1 + basedInteger rest, both 1 (hexFloat rest), decimalFloat text]
  | _ => [digits Char.isDigit text, decimalFloat text]

def imaginary (text : List Char) (count : Nat) : Nat :=
  match text.drop count with
  | 'i' :: _ => both count 1
  | _ => 0

/-- A number, real or imaginary. -/
def numberLength (text : List Char) : Nat :=
  let reals := realLengths text
  let imaginaries := (digits Char.isDigit text :: reals).map (imaginary text)
  (reals ++ imaginaries).foldl max 0

def hexDigits (count : Nat) (text : List Char) : Nat :=
  if (text.take count).length = count && (text.take count).all isHexDigit then count else 0

/-- The letters that begin an escape of a fixed number of digits of base sixteen. -/
def codeDigits : Char → Nat
  | 'x' => 2
  | 'u' => 4
  | 'U' => 8
  | _ => 0

/-- An escape of a string, after its backslash.  Any character can be escaped. -/
def stringEscape : List Char → Nat
  | [] => 0
  | c :: rest =>
    if codeDigits c ≠ 0 then both 1 (hexDigits (codeDigits c) rest)
    else if c = '\x00' then 0
    else 1

/-- The characters that stand for a character of their own after a backslash. -/
def isPlainEscape (c : Char) : Bool :=
  c ∈ ['a', 'b', 'f', 'n', 'r', 't', 'v', '\\', '\x27', '\x22']

/-- An escape of a character, after its backslash. -/
def characterEscape : List Char → Nat
  | [] => 0
  | c :: rest =>
    if codeDigits c ≠ 0 then both 1 (hexDigits (codeDigits c) rest)
    else if isPlainEscape c then 1
    else if isOctalDigit c && (rest.take 2).length = 2 && (rest.take 2).all isOctalDigit then 3
    else 0

/-- A character between its quotation marks, the first of which is left out. -/
def characterBody : List Char → Nat
  | [] => 0
  | c :: rest =>
    if c = '\\' then both 1 (characterEscape rest)
    else if c = '\x27' || c = '\x00' then 0
    else 1

def characterLength : List Char → Nat
  | '\x27' :: rest =>
    let body := characterBody rest
    match rest.drop body with
    | '\x27' :: _ => both body 2
    | _ => 0
  | _ => 0

/-- What a block comment takes after its opening, and after `taken` characters more.
`starred` tells whether a star stands before. -/
def blockRest (starred : Bool) (taken : Nat) : List Char → Nat
  | [] => 0
  | c :: rest =>
    if starred && c = '/' then taken + 1
    else if c = '\x00' then 0
    else blockRest (c = '*') (taken + 1) rest

def commentLength : List Char → Nat
  | '/' :: '/' :: rest => 2 + (rest.takeWhile fun c => c ≠ '\n' && c ≠ '\x00').length
  | '/' :: '*' :: rest => both 2 (blockRest false 0 rest)
  | _ => 0

def rawRest (text : List Char) : Nat :=
  let body := (text.takeWhile fun c => c ≠ '\x60' && c ≠ '\x00').length
  match text.drop body with
  | '\x60' :: _ => body + 1
  | _ => 0

def blankComment (text : List Char) : Nat :=
  let blanks := (text.takeWhile isBlank).length
  both blanks (commentLength (text.drop blanks))

/-- A part of a string that is neither its end nor a character that cannot be in it.  A
line end can only stand before a comment. -/
def quotedPart : List Char → Nat
  | [] => 0
  | c :: rest =>
    if c = '\x00' then 0
    else if c = '\\' then both 1 (stringEscape rest)
    else if c = '\n' then blankComment (c :: rest)
    else 1

/-- What a string takes after its opening quotation mark, and after `taken` characters
more.  At most `count` parts are looked at. -/
def quotedRest : Nat → Nat → List Char → Nat
  | 0, _, _ => 0
  | count + 1, taken, text =>
    if text.head? = some '\x22' then taken + 1
    else
      match quotedPart text with
      | 0 => 0
      | part => quotedRest count (taken + part) (text.drop part)

def stringLength : List Char → Nat
  | '\x60' :: rest => both 1 (rawRest rest)
  | '\x22' :: rest => both 1 (quotedRest rest.length 0 rest)
  | _ => 0

def markLength (mark : String) (text : List Char) : Nat :=
  if mark.toList.isPrefixOf text then mark.length else 0

end FieldBridge.Snippet.Lexeme
