import FieldBridge.Text

/-!
# Positions and spans

A position counts a text up to a point in bytes, lines and characters of the
current line.  Positions are only ever made by walking over text, so that the
three counts agree.
-/

namespace FieldBridge

/-- A point in a text: byte offset, and line and column counted from zero. -/
structure Position where
  byte : Nat
  line : Nat
  col : Nat
deriving DecidableEq, Repr, Inhabited

namespace Position

def start : Position := ⟨0, 0, 0⟩

/-- The position after one more character; a line feed begins a line. -/
def advance (position : Position) (c : Char) : Position :=
  if c = '\n' then ⟨position.byte + c.utf8Size, position.line + 1, 0⟩
  else ⟨position.byte + c.utf8Size, position.line, position.col + 1⟩

/-- The position after `text`, begun at `position`. -/
def after (position : Position) (text : List Char) : Position :=
  text.foldl advance position

@[simp] theorem after_nil (position : Position) : position.after [] = position := rfl

@[simp] theorem after_cons (position : Position) (c : Char) (text : List Char) :
    position.after (c :: text) = (position.advance c).after text := rfl

@[simp] theorem after_append (position : Position) (left right : List Char) :
    position.after (left ++ right) = (position.after left).after right :=
  List.foldl_append

@[simp] theorem advance_byte (position : Position) (c : Char) :
    (position.advance c).byte = position.byte + c.utf8Size := by
  unfold advance
  split <;> rfl

theorem after_byte (position : Position) (text : List Char) :
    (position.after text).byte = position.byte + Text.byteLength text := by
  induction text generalizing position with
  | nil => rfl
  | cons c text ih => rw [after_cons, ih, advance_byte, Text.byteLength_cons, Nat.add_assoc]

end Position

/-- The stretch of a text between two positions. -/
structure Span where
  start : Position
  stop : Position
deriving DecidableEq, Repr, Inhabited

namespace Span

def point (position : Position) : Span := ⟨position, position⟩

def through (first last : Span) : Span := ⟨first.start, last.stop⟩

def collapsed (span : Span) : Span := point span.start

/-- The characters of `source` that a span covers. -/
def text? (span : Span) (source : List Char) : Option (List Char) :=
  Text.slice? span.start.byte span.stop.byte source

end Span

end FieldBridge
