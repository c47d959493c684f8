import FieldBridge.Diagnostic

/-!
# Reports

A report shows a diagnostic with the lines it is about.  Every line of the source
stands behind a gutter with its number, and below it carets stand under the
characters of the span: all of it on one line, or the rest of its first line.
-/

namespace FieldBridge.Diagnostic

/-- The marks that switch a terminal between styles. -/
structure Style where
  accent : String
  dim : String
  highlight : String
  reset : String

def Style.plain : Style := ⟨"", "", "", ""⟩

def Style.colored (severity : Severity) : Style where
  accent :=
    match severity with
    | .error => "\x1b[1;31m"
    | .warning => "\x1b[1;33m"
  dim := "\x1b[2m"
  highlight := "\x1b[1;38;5;73m"
  reset := "\x1b[0m"

/-- A row of an excerpt: what stands in the gutter, how wide the gutter is, and
what stands behind its bar. -/
structure Row where
  label : String
  width : Nat
  body : String
deriving DecidableEq, Repr

namespace Row

def gutter (row : Row) : String :=
  String.ofList (List.replicate (row.width - row.label.length) ' ') ++ row.label

def render (style : Style) (row : Row) : String :=
  style.dim ++ row.gutter ++ " |" ++ style.reset ++ row.body ++ "\n"

end Row

/-- The width of the gutter for a line number: at least two places. -/
def gutterWidth (number : Nat) : Nat :=
  max (toString number).length 2

/-- The number of carets for a span that begins on `line`. -/
def caretCount (span : Span) (line : List Char) : Nat :=
  if span.stop.line = span.start.line then max (span.stop.col - span.start.col) 1
  else max (line.length - span.start.col) 1

def sourceRow (number : Nat) (line : List Char) : Row :=
  ⟨toString number, gutterWidth number, " " ++ String.ofList line⟩

/-- The row of carets below a source line.  They stand between `before` and `after`. -/
def caretRow (number : Nat) (span : Span) (line : List Char) (before after : String) : Row where
  label := ""
  width := gutterWidth number
  body :=
    " " ++ String.ofList (List.replicate span.start.col ' ') ++ before ++
      String.ofList (List.replicate (caretCount span line) '^') ++ after

def lineOf? (source : List Char) (span : Span) : Option (List Char) :=
  (Text.lines source)[span.start.line]?

def mainRows (style : Style) (diagnostic : Diagnostic) (source : List Char) : List Row :=
  match lineOf? source diagnostic.span with
  | none => []
  | some line =>
    let number := diagnostic.span.start.line + 1
    [⟨"", gutterWidth number, ""⟩, sourceRow number line,
      caretRow number diagnostic.span line style.accent style.reset]

def relatedRows (style : Style) (diagnostic : Diagnostic) (source : List Char) : List Row :=
  match diagnostic.related with
  | none => []
  | some span =>
    match lineOf? source span with
    | none => []
    | some line =>
      let number := span.start.line + 1
      let label := diagnostic.relatedLabel.getD "declared here"
      [sourceRow number line,
        caretRow number span line style.dim (" " ++ label ++ style.reset)]

/-- The lines of the help of a diagnostic, the first behind a title. -/
def helpText (style : Style) (diagnostic : Diagnostic) : String :=
  match diagnostic.help with
  | none => ""
  | some help =>
    match (Text.lines help.toList).map String.ofList with
    | [] => "\n"
    | first :: rest =>
      "\n" ++ " " ++ style.highlight ++ "help:" ++ style.reset ++ " " ++ first ++ "\n" ++
        String.join (rest.map fun line => "       " ++ line ++ "\n")

/-- The report of a diagnostic about the text `source`, which is called `filename`. -/
def renderWith (style : Style) (diagnostic : Diagnostic) (source filename : String) : String :=
  let start := diagnostic.span.start
  "\n" ++ " " ++ style.dim ++ "file:" ++ style.reset ++ " " ++ filename ++ ":" ++
    toString (start.line + 1) ++ ":" ++ toString (start.col + 1) ++ "\n" ++
    style.accent ++ diagnostic.severity.label ++ ":" ++ style.reset ++ " " ++
    diagnostic.message ++ "\n" ++
    String.join ((diagnostic.mainRows style source.toList ++
      diagnostic.relatedRows style source.toList).map (Row.render style)) ++
    diagnostic.helpText style ++ "\n"

/-- The report of a diagnostic, with or without colours. -/
def render (color : Bool) (diagnostic : Diagnostic) (source filename : String) : String :=
  diagnostic.renderWith (if color then Style.colored diagnostic.severity else Style.plain)
    source filename

end FieldBridge.Diagnostic
