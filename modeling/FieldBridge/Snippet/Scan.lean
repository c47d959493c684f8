import FieldBridge.Snippet.Lexeme

/-!
# Scanning

What comes next in a text depends on the terminals that are expected there.  The
longest lexeme of an expected terminal is taken.  Blanks and comments before it are
passed over; a line end is a blank unless it is expected.  A word is a name where
what it begins cannot be.
-/

namespace FieldBridge.Snippet

/-- A terminal, the characters taken up to its end, and the text after it. -/
structure Scanned where
  terminal : Terminal
  taken : Nat
  rest : List Char

/-- What a word stands for, if anything.  Where `caseLabel` is expected, the words of a
case stand for nothing unless they are expected themselves. -/
def wordTerminal? (expected : Terminals) (word : String) : Option Terminal :=
  let name := if expected.has .name then some .name else none
  match Terminal.words.lookup word with
  | none => name
  | some terminal =>
    if expected.has terminal then some terminal
    else if expected.has .caseLabel && (terminal = .caseWord || terminal = .defaultWord) then none
    else name

/-- The longer of two lexemes, the first if they are equal. -/
def longer (left right : Option Terminal × Nat) : Option Terminal × Nat :=
  if left.2 < right.2 then right else left

/-- The longest lexeme at the start of a text that stands for an expected terminal, and
its length. -/
def longestLexeme (expected : Terminals) (text : List Char) : Option Terminal × Nat :=
  let word := Lexeme.nameLength text
  if word ≠ 0 then (wordTerminal? expected (String.ofList (text.take word)), word)
  else
    let marks := Terminal.marks.filter fun mark => expected.has mark.2
    let others :=
      (if expected.has .number then
        [(some .number, max (Lexeme.numberLength text) (Lexeme.characterLength text))] else []) ++
      (if expected.has .string then [(some .string, Lexeme.stringLength text)] else [])
    ((marks.map fun mark => (some mark.2, Lexeme.markLength mark.1 text)) ++ others).foldl longer
      (none, 0)

/-- The characters at the start of a text that count for nothing: a comment or a
blank. -/
def idleLength (text : List Char) : Nat :=
  match Lexeme.commentLength text with
  | 0 => if text.head?.any Lexeme.isBlank then 1 else 0
  | comment => comment

theorem ne_nil_of_idleLength_ne_zero {text : List Char} (hidle : idleLength text ≠ 0) :
    text ≠ [] := by
  rintro rfl
  exact hidle rfl

/-- What the end of the text stands for.  It ends a line where an operator could
follow and no assignment could. -/
def endTerminal? (expected : Terminals) : Option Terminal :=
  if expected.has .finish then some .finish
  else if expected.has .lineEnd && expected.has .compare && !expected.has .update then
    some .lineEnd
  else none

/-- The next terminal of a text, `taken` characters of which were passed over. -/
def scan (expected : Terminals) (taken : Nat) (text : List Char) : Option Scanned :=
  let found := longestLexeme expected text
  if found.2 ≠ 0 && Lexeme.commentLength text ≤ found.2 then
    found.1.map fun terminal => ⟨terminal, taken + found.2, text.drop found.2⟩
  else if _ : idleLength text = 0 then
    if text = [] then (endTerminal? expected).map fun terminal => ⟨terminal, taken, []⟩ else none
  else scan expected (taken + idleLength text) (text.drop (idleLength text))
termination_by text.length
decreasing_by
  have hne := List.length_pos_iff.2 (ne_nil_of_idleLength_ne_zero ‹_›)
  rw [List.length_drop]
  omega

end FieldBridge.Snippet
