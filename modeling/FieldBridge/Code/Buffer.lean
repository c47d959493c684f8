/-!
# Text buffers

Code is written into a buffer of completed lines and one line still being written.
The text of a buffer ends without the line feed of its last line.
-/

namespace FieldBridge.Code

/-- Completed lines, the line being written, and one level of indentation. -/
structure Buffer where
  indentUnit : List Char
  lines : List (List Char) := []
  current : List Char := []
deriving DecidableEq, Repr

namespace Buffer

def empty (indentUnit : String) : Buffer where
  indentUnit := indentUnit.toList

def push (text : String) (buffer : Buffer) : Buffer :=
  { buffer with current := buffer.current ++ text.toList }

def indent (level : Nat) (buffer : Buffer) : Buffer :=
  { buffer with
    current := buffer.current ++ (List.replicate level buffer.indentUnit).flatten }

def newline (buffer : Buffer) : Buffer :=
  { buffer with lines := buffer.lines ++ [buffer.current], current := [] }

def line (level : Nat) (text : String) (buffer : Buffer) : Buffer :=
  newline (push text (indent level buffer))

/-- Adds characters, of which line feeds complete lines. -/
def writeChars (text : List Char) (buffer : Buffer) : Buffer :=
  text.foldl
    (fun buffer c =>
      if c = '\n' then newline buffer else { buffer with current := buffer.current ++ [c] })
    buffer

def write (text : String) (buffer : Buffer) : Buffer :=
  writeChars text.toList buffer

def writeLine (text : String) (buffer : Buffer) : Buffer :=
  newline (write text buffer)

def length (buffer : Buffer) : Nat :=
  buffer.lines.length

def isEmpty (buffer : Buffer) : Bool :=
  buffer.lines.isEmpty && buffer.current.isEmpty

def finish (buffer : Buffer) : String :=
  let lines := if buffer.current = [] then buffer.lines else buffer.lines ++ [buffer.current]
  String.ofList (['\n'].intercalate lines)

end Buffer

end FieldBridge.Code
