import FieldBridge.Text

/-!
# Lexemes

A source text is cut into lexemes that together are the whole text: line feeds,
blanks, comments, strings, words, numbers and single symbols.  Each cut takes at
least one character, which is also why cutting ends.  The main statement is
`flatMap_text_lexemes`: nothing is lost and nothing is added.
-/

namespace FieldBridge

/-- One piece of a source text.  Comments and strings hold what stands between
their delimiters, and whether the closing delimiter was there. -/
inductive Lexeme where
  | lineFeed
  | blank (c : Char)
  | lineComment (body : List Char)
  | blockComment (body : List Char) (closed : Bool)
  | rawString (body : List Char) (closed : Bool)
  | quotedString (body : List Char) (closed : Bool)
  | word (name : List Char)
  | number (digits : List Char)
  | symbol (c : Char)
deriving DecidableEq, Repr

namespace Lexeme

def text : Lexeme → List Char
  | lineFeed => ['\n']
  | blank c => [c]
  | lineComment body => '/' :: '/' :: body
  | blockComment body closed => '/' :: '*' :: body ++ if closed then ['*', '/'] else []
  | rawString body closed => '\x60' :: body ++ if closed then ['\x60'] else []
  | quotedString body closed => '\x22' :: body ++ if closed then ['\x22'] else []
  | word name => name
  | number digits => digits
  | symbol c => [c]

/-- A delimited stretch at the start of a text, and what follows it. -/
structure Cut where
  body : List Char
  closed : Bool
  rest : List Char

namespace Cut

def cons (c : Char) (cut : Cut) : Cut :=
  { cut with body := c :: cut.body }

/-- The characters of the stretch, its closing delimiter and the rest. -/
def whole (delimiter : List Char) (cut : Cut) : List Char :=
  cut.body ++ (if cut.closed then delimiter else []) ++ cut.rest

@[simp] theorem whole_cons (delimiter : List Char) (c : Char) (cut : Cut) :
    (cut.cons c).whole delimiter = c :: cut.whole delimiter := rfl

end Cut

/-- A block comment runs to the first closing mark, or to the end. -/
def cutBlockComment : List Char → Cut
  | [] => ⟨[], false, []⟩
  | '*' :: '/' :: rest => ⟨[], true, rest⟩
  | c :: rest => (cutBlockComment rest).cons c

/-- A raw string runs to the next backquote, or to the end. -/
def cutRawString : List Char → Cut
  | [] => ⟨[], false, []⟩
  | c :: rest => if c = '\x60' then ⟨[], true, rest⟩ else (cutRawString rest).cons c

/-- An interpreted string runs to the next quotation mark, or stops before a line
feed; a backslash takes the character after it along, whatever that is. -/
def cutQuotedString : List Char → Cut
  | [] => ⟨[], false, []⟩
  | '\\' :: c :: rest => ((cutQuotedString rest).cons c).cons '\\'
  | c :: rest =>
    if c = '\x22' then ⟨[], true, rest⟩
    else if c = '\n' then ⟨[], false, c :: rest⟩
    else (cutQuotedString rest).cons c

/-- What an interpreted string stands for: quotation marks, backslashes, line
feeds and tabs are unescaped, and every other escape is kept as written. -/
def unescape : List Char → List Char
  | '\\' :: '\x22' :: rest => '\x22' :: unescape rest
  | '\\' :: '\\' :: rest => '\\' :: unescape rest
  | '\\' :: 'n' :: rest => '\n' :: unescape rest
  | '\\' :: 't' :: rest => '\t' :: unescape rest
  | '\\' :: c :: rest => '\\' :: c :: unescape rest
  | c :: rest => c :: unescape rest
  | [] => []

/-- The characters of a number: letters, digits, underscores and points of ASCII. -/
def continuesNumber (c : Char) : Bool :=
  c.isAlphanum || c = '_' || c = '.'

/-- The first lexeme of a text that begins with `c`, and the text after it. -/
def cut (c : Char) (rest : List Char) : Lexeme × List Char :=
  if c = '\n' then (lineFeed, rest)
  else if Unicode.isWhiteSpace c then (blank c, rest)
  else if c = '\x60' then
    let raw := cutRawString rest
    (rawString raw.body raw.closed, raw.rest)
  else if c = '\x22' then
    let quoted := cutQuotedString rest
    (quotedString quoted.body quoted.closed, quoted.rest)
  else if Unicode.startsWord c then
    (word (c :: rest.takeWhile Unicode.continuesWord), rest.dropWhile Unicode.continuesWord)
  else if c.isDigit then
    (number (c :: rest.takeWhile continuesNumber), rest.dropWhile continuesNumber)
  else
    match c, rest with
    | '/', '/' :: more =>
      (lineComment (more.takeWhile (· ≠ '\n')), more.dropWhile (· ≠ '\n'))
    | '/', '*' :: more =>
      let comment := cutBlockComment more
      (blockComment comment.body comment.closed, comment.rest)
    | _, _ => (symbol c, rest)

theorem whole_cutBlockComment (text : List Char) :
    (cutBlockComment text).whole ['*', '/'] = text := by
  fun_induction cutBlockComment text with
  | case1 => rfl
  | case2 rest => rfl
  | case3 c rest hopen ih => rw [Cut.whole_cons, ih]

theorem whole_cutRawString (text : List Char) :
    (cutRawString text).whole ['\x60'] = text := by
  fun_induction cutRawString text with
  | case1 => rfl
  | case2 rest => rfl
  | case3 c rest hopen ih => rw [Cut.whole_cons, ih]

theorem whole_cutQuotedString (text : List Char) :
    (cutQuotedString text).whole ['\x22'] = text := by
  fun_induction cutQuotedString text with
  | case1 => rfl
  | case2 c rest ih => rw [Cut.whole_cons, Cut.whole_cons, ih]
  | case3 rest => rfl
  | case4 rest => rfl
  | case5 c rest _ _ _ ih => rw [Cut.whole_cons, ih]

theorem text_cut (c : Char) (rest : List Char) :
    (cut c rest).1.text ++ (cut c rest).2 = c :: rest := by
  have hraw := whole_cutRawString rest
  have hquoted := whole_cutQuotedString rest
  simp only [Cut.whole] at hraw hquoted
  unfold cut
  repeat' split
  · next h => subst h; rfl
  · rfl
  · next h => subst h; simpa [text] using hraw
  · next h => subst h; simpa [text] using hquoted
  · simp [text]
  · simp [text]
  · simp [text]
  · next more _ _ _ _ _ _ =>
      have hcomment := whole_cutBlockComment more
      simp only [Cut.whole] at hcomment
      simpa [text] using hcomment
  · rfl

theorem text_cut_ne_nil (c : Char) (rest : List Char) : (cut c rest).1.text ≠ [] := by
  unfold cut
  repeat' split
  all_goals simp [text]

theorem length_cut_lt (c : Char) (rest : List Char) :
    (cut c rest).2.length < (c :: rest).length := by
  have hwhole := congrArg List.length (text_cut c rest)
  have htext := List.length_pos_iff.2 (text_cut_ne_nil c rest)
  rw [List.length_append] at hwhole
  omega

end Lexeme

/-- The lexemes of a text, in order. -/
def lexemes : List Char → List Lexeme
  | [] => []
  | c :: rest => (Lexeme.cut c rest).1 :: lexemes (Lexeme.cut c rest).2
termination_by text => text.length
decreasing_by exact Lexeme.length_cut_lt c rest

theorem flatMap_text_lexemes (text : List Char) :
    (lexemes text).flatMap Lexeme.text = text := by
  fun_induction lexemes text with
  | case1 => rfl
  | case2 c rest ih => rw [List.flatMap_cons, ih, Lexeme.text_cut]

end FieldBridge
