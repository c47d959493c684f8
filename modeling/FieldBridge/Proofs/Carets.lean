import FieldBridge.Diagnostic.Report
import FieldBridge.Proofs.FindingPlaces
import Mathlib.Data.List.DropRight

/-!
# Carets

A report shows the line that a finding begins on, and carets below it.  In a text without
carriage returns the line is shown as it stands in the text, the carets begin under the first
character of the span, and there is one for each character that the span has on that line, or
one when it has none.  A span at the end of a text is on no line when the text ends with a line
feed, and then nothing is shown of it.
-/

namespace FieldBridge

namespace Text

/-- The characters of a text in front of its first line feed. -/
def firstLine (text : List Char) : List Char :=
  text.takeWhile (· ≠ '\n')

/-- The characters of a text behind its last line feed. -/
def lastLine (text : List Char) : List Char :=
  text.rtakeWhile (· ≠ '\n')

section Lines

variable {line : List Char}

theorem ne_lineFeed_of_mem (hline : '\n' ∉ line) : ∀ c ∈ line, decide (c ≠ '\n') = true :=
  fun _ hc => decide_eq_true fun heq => hline (heq ▸ hc)

@[simp] theorem firstLine_nil : firstLine [] = [] := rfl

theorem firstLine_append (hline : '\n' ∉ line) (rest : List Char) :
    firstLine (line ++ rest) = line ++ firstLine rest :=
  List.takeWhile_append_of_pos (ne_lineFeed_of_mem hline)

theorem firstLine_of_not_mem (hline : '\n' ∉ line) : firstLine line = line := by
  simpa using firstLine_append hline []

theorem firstLine_append_lineFeed (hline : '\n' ∉ line) (rest : List Char) :
    firstLine (line ++ '\n' :: rest) = line := by
  rw [firstLine_append hline, firstLine, List.takeWhile_cons_of_neg (by simp), List.append_nil]

theorem lastLine_of_not_mem (hline : '\n' ∉ line) : lastLine line = line :=
  List.rtakeWhile_eq_self_iff.2 (ne_lineFeed_of_mem hline)

theorem lastLine_append (before : List Char) (hline : '\n' ∉ line) :
    lastLine (before ++ line) = lastLine before ++ line := by
  have hreverse : '\n' ∉ line.reverse := by simpa using hline
  rw [lastLine, List.rtakeWhile, List.reverse_append,
    List.takeWhile_append_of_pos (ne_lineFeed_of_mem hreverse), List.reverse_append,
    List.reverse_reverse]
  rfl

theorem lastLine_append_lineFeed (before line : List Char) :
    lastLine (before ++ '\n' :: line) = lastLine line := by
  simp only [lastLine, List.rtakeWhile, List.reverse_append, List.reverse_cons,
    List.append_assoc, List.takeWhile_append, List.singleton_append]
  split
  · next hlength =>
    rw [List.takeWhile_cons_of_neg (by simp), List.append_nil,
      (List.takeWhile_prefix _).eq_of_length hlength]
  · rfl

theorem dropReturn_of_not_mem (hreturn : '\r' ∉ line) : dropReturn line = line :=
  if_neg fun hlast => hreturn (List.mem_of_getLast? hlast)

theorem lines_append_lineFeed (hline : '\n' ∉ line) (hreturn : '\r' ∉ line) (rest : List Char) :
    lines (line ++ '\n' :: rest) = line :: lines rest := by
  unfold lines
  rw [List.splitOn_append_cons_self_of_not_mem hline]
  obtain ⟨part, parts, hparts⟩ := List.exists_cons_of_ne_nil (List.splitOn_ne_nil '\n' rest)
  simp only [hparts, List.dropLast_cons_cons, List.map_cons, List.getLast?_cons_cons,
    dropReturn_of_not_mem hreturn]
  split <;> rfl

theorem lines_of_not_mem (hline : '\n' ∉ line) :
    lines line = if line = [] then [] else [line] := by
  unfold lines
  rw [List.splitOn_eq_singleton hline]
  cases line <;> rfl

/-- The first line of a text is there unless the text is empty. -/
theorem head?_lines {text : List Char} (hreturn : '\r' ∉ text) :
    (lines text)[0]? = if text = [] then none else some (firstLine text) := by
  by_cases hmem : '\n' ∈ text
  · obtain ⟨line, rest, rfl, hline⟩ := List.eq_append_cons_of_mem hmem
    rw [lines_append_lineFeed hline fun hc => hreturn (List.mem_append_left _ hc),
      firstLine_append_lineFeed hline, if_neg (by simp)]
    rfl
  · rw [lines_of_not_mem hmem, firstLine_of_not_mem hmem]
    split <;> rfl

/-- The line that a text is on behind its beginning `before`.  The induction goes along
`before`, and `line` is what was read of the line that is under way. -/
theorem getElem?_lines_open (before rest : List Char) (hline : '\n' ∉ line)
    (hreturn : '\r' ∉ line ++ (before ++ rest)) :
    (lines (line ++ (before ++ rest)))[before.count '\n']? =
      if lastLine (line ++ before) ++ rest = [] then none
      else some (lastLine (line ++ before) ++ firstLine rest) := by
  induction before generalizing line with
  | nil =>
      rw [List.nil_append] at hreturn ⊢
      rw [List.append_nil, lastLine_of_not_mem hline, List.count_nil, head?_lines hreturn,
        firstLine_append hline]
  | cons c before ih =>
      by_cases hc : c = '\n'
      · subst hc
        have hkept : '\r' ∉ line := fun hmem => hreturn (List.mem_append_left _ hmem)
        have hmore : '\r' ∉ [] ++ (before ++ rest) := fun hmem =>
          hreturn (List.mem_append_right _ (List.mem_cons_of_mem _ hmem))
        rw [List.cons_append, lines_append_lineFeed hline hkept, List.count_cons_self,
          List.getElem?_cons_succ, lastLine_append_lineFeed]
        exact ih (List.not_mem_nil) hmore
      · have hopen : '\n' ∉ line ++ [c] := by simp [hline, Ne.symm hc]
        have hmore := ih hopen (by simpa using hreturn)
        rw [List.count_cons_of_ne hc]
        simpa using hmore

/-- The line of a text that its beginning `before` ends on: what `before` has of it, and what
follows up to the next line feed. -/
theorem getElem?_lines {before rest : List Char} (hreturn : '\r' ∉ before ++ rest) :
    (lines (before ++ rest))[before.count '\n']? =
      if lastLine before ++ rest = [] then none else some (lastLine before ++ firstLine rest) :=
  getElem?_lines_open before rest List.not_mem_nil hreturn

end Lines

end Text

theorem Position.behind_col (text : List Char) :
    (behind text).col = (Text.lastLine text).length :=
  List.length_reverse.symm

namespace Span

/-- A span cuts a source in three: what is `before` it, the `part` that it covers, and what is
`after` it.  Its positions count the lines and columns of the source. -/
structure Cuts (span : Span) (source before part after : List Char) : Prop where
  source_eq : source = before ++ (part ++ after)
  span_eq : span = ⟨Position.behind before, Position.behind (before ++ part)⟩

theorem cuts_point (before after : List Char) :
    (point (Position.start.after before)).Cuts (before ++ after) before [] after :=
  ⟨rfl, by rw [Position.after_start_eq, List.append_nil, point]⟩

theorem Cuts.collapsed {span : Span} {source before part after : List Char}
    (hcuts : span.Cuts source before part after) :
    span.collapsed.Cuts source before [] (part ++ after) :=
  ⟨hcuts.source_eq, by rw [Span.collapsed, hcuts.span_eq, point, List.append_nil]⟩

end Span

theorem Declaration.Placed.exists_cuts {source : List Char} {span : Span}
    (hplaced : Placed (Token.scan source) span) :
    ∃ before part after, span.Cuts source before part after := by
  obtain ⟨token, htoken, _, _, _, _, _, hspan⟩ := hplaced
  obtain ⟨before, part, after, hsource, htokenSpan, _⟩ :=
    (tiles_stream source).covers token (Token.mem_stream htoken)
  have hcuts : token.span.Cuts source before part after := ⟨hsource, htokenSpan⟩
  rcases hspan with rfl | rfl
  · exact ⟨before, part, after, hcuts⟩
  · exact ⟨before, [], part ++ after, hcuts.collapsed⟩

theorem Declaration.IsPlaced.exists_cuts {source : List Char} {diagnostic : Diagnostic}
    (hplaced : IsPlaced (Token.scan source) (Position.start.after source) diagnostic) :
    ∀ span ∈ diagnostic.spans, ∃ before part after, span.Cuts source before part after := by
  intro span hspan
  rcases hplaced with hspans | ⟨opening, rfl, hopening⟩
  · exact (hspans span hspan).exists_cuts
  · rcases List.mem_cons.1 hspan with rfl | hrelated
    · have hpoint := Span.cuts_point source []
      rw [List.append_nil] at hpoint
      exact ⟨source, [], [], hpoint⟩
    · obtain rfl := List.mem_singleton.1 hrelated
      exact hopening.exists_cuts

namespace Diagnostic

/-- The left edge of a row: a number or nothing, flush right, and a bar. -/
def margin (number : Nat) (label : String) : String :=
  String.ofList (List.replicate (gutterWidth number - label.length) ' ') ++ label ++ " |"

/-- A line under its number, and below it carets behind some blanks. -/
def excerpt (number : Nat) (line : List Char) (blanks carets : Nat) (label : String) : String :=
  margin number (toString number) ++ " " ++ String.ofList line ++ "\n" ++
    (margin number "" ++ " " ++ String.ofList (List.replicate blanks ' ') ++
      String.ofList (List.replicate carets '^') ++ label ++ "\n")

/-- The two rows of an excerpt begin equally far on, so that its blanks and carets stand under
the characters of the line. -/
theorem length_margin_number (number : Nat) :
    (margin number (toString number)).length = (margin number "").length := by
  have hwidth : (toString number).length ≤ gutterWidth number := Nat.le_max_left _ _
  simp only [margin, String.length_append, String.length_ofList, List.length_replicate,
    String.length_empty]
  omega

example : excerpt 3 "  B string".toList 2 1 " again" =
    " 3 |   B string\n   |   ^ again\n" := by
  decide

/-- What a report shows of a span of a source: its line with carets under what the line has of
the span, in rows that begin equally far on, or nothing when the source ends in front of that
line. -/
inductive Shows (source : List Char) (span : Span) (above label : String) : String → Prop where
  | absent {before part after : List Char} (cuts : span.Cuts source before part after)
      (ends : Text.lastLine before ++ (part ++ after) = [])
      (missing : (Text.lines source)[span.start.line]? = none) : Shows source span above label ""
  | line {before part after line : List Char} (cuts : span.Cuts source before part after)
      (line_eq : line = Text.lastLine before ++ Text.firstLine (part ++ after))
      (exists_line : (Text.lines source)[span.start.line]? = some line)
      (aligned : (margin (span.start.line + 1) (toString (span.start.line + 1))).length =
        (margin (span.start.line + 1) "").length) :
      Shows source span above label (above ++ excerpt (span.start.line + 1) line
        (Text.lastLine before).length (max (Text.firstLine part).length 1) label)

theorem caretCount_of_cuts {span : Span} {source before part after : List Char}
    (hcuts : span.Cuts source before part after) :
    caretCount span (Text.lastLine before ++ Text.firstLine (part ++ after)) =
      max (Text.firstLine part).length 1 := by
  have hlines : (Position.behind (before ++ part)).line =
      (Position.behind before).line + part.count '\n' := List.count_append
  rw [caretCount, hcuts.span_eq]
  dsimp only
  rw [hlines, Position.behind_col, Position.behind_col]
  by_cases hmem : '\n' ∈ part
  · have hcount := List.count_pos_iff.2 hmem
    rw [if_neg (by omega), List.length_append, Nat.add_sub_cancel_left]
    obtain ⟨line, rest, rfl, hline⟩ := List.eq_append_cons_of_mem hmem
    rw [List.append_assoc, List.cons_append, Text.firstLine_append_lineFeed hline,
      Text.firstLine_append_lineFeed hline]
  · rw [List.count_eq_zero.2 hmem, if_pos (Nat.add_zero _), Text.lastLine_append before hmem,
      Text.firstLine_of_not_mem hmem, List.length_append, Nat.add_sub_cancel_left]

/-- The rows of a report about a span, as they are put together. -/
def rows (source : List Char) (span : Span) (above label : String) : String :=
  match lineOf? source span with
  | none => ""
  | some line =>
    above ++ excerpt (span.start.line + 1) line span.start.col (caretCount span line) label

theorem shows_rows {source : List Char} (hreturn : '\r' ∉ source) {span : Span}
    (hspan : ∃ before part after, span.Cuts source before part after) (above label : String) :
    Shows source span above label (rows source span above label) := by
  obtain ⟨before, part, after, hcuts⟩ := hspan
  have hline : lineOf? source span =
      if Text.lastLine before ++ (part ++ after) = [] then none
      else some (Text.lastLine before ++ Text.firstLine (part ++ after)) := by
    rw [lineOf?, hcuts.span_eq, hcuts.source_eq]
    exact Text.getElem?_lines (hcuts.source_eq ▸ hreturn)
  by_cases hends : Text.lastLine before ++ (part ++ after) = []
  · rw [if_pos hends] at hline
    simp only [rows, hline]
    exact .absent hcuts hends hline
  · rw [if_neg hends] at hline
    have hcol : span.start.col = (Text.lastLine before).length := by
      rw [hcuts.span_eq]
      exact Position.behind_col before
    simp only [rows, hline, caretCount_of_cuts hcuts, hcol]
    exact .line hcuts rfl hline (length_margin_number _)

/-- What a report says in front of the rows of its source. -/
def heading (diagnostic : Diagnostic) (filename : String) : String :=
  "\n file: " ++ filename ++ ":" ++ toString (diagnostic.span.start.line + 1) ++ ":" ++
    toString (diagnostic.span.start.col + 1) ++ "\n" ++ diagnostic.severity.label ++ ": " ++
    diagnostic.message ++ "\n"

theorem Row.render_plain (row : Row) :
    row.render .plain = row.gutter ++ " |" ++ row.body ++ "\n" := by
  simp only [Row.render, Style.plain, String.empty_append, String.append_empty]

theorem render_sourceRow (number : Nat) (line : List Char) :
    (sourceRow number line).render .plain =
      margin number (toString number) ++ " " ++ String.ofList line ++ "\n" := by
  rw [Row.render_plain, sourceRow, ← String.append_assoc]
  rfl

theorem render_caretRow (number : Nat) (span : Span) (line : List Char) (label : String) :
    (caretRow number span line "" label).render .plain =
      margin number "" ++ " " ++ String.ofList (List.replicate span.start.col ' ') ++
        String.ofList (List.replicate (caretCount span line) '^') ++ label ++ "\n" := by
  simp only [Row.render_plain, caretRow, String.append_empty, ← String.append_assoc]
  rfl

theorem render_rows (number : Nat) (span : Span) (line : List Char) (label : String) :
    (sourceRow number line).render .plain ++
        (caretRow number span line "" label).render .plain =
      excerpt number line span.start.col (caretCount span line) label := by
  rw [render_sourceRow, render_caretRow, excerpt]

theorem join_mainRows (diagnostic : Diagnostic) (source : List Char) :
    String.join ((diagnostic.mainRows .plain source).map (Row.render .plain)) =
      rows source diagnostic.span (margin (diagnostic.span.start.line + 1) "" ++ "\n") "" := by
  unfold mainRows rows
  cases lineOf? source diagnostic.span with
  | none => rfl
  | some line =>
      dsimp only
      rw [List.map_cons, List.map_cons, List.map_cons, List.map_nil, String.join_cons,
        String.join_cons, String.join_cons, String.join_nil, String.append_empty, ← render_rows,
        Row.render_plain ⟨"", _, ""⟩, String.append_empty]
      rfl

theorem join_relatedRows (diagnostic : Diagnostic) (source : List Char) :
    String.join ((diagnostic.relatedRows .plain source).map (Row.render .plain)) =
      diagnostic.related.elim "" fun span => rows source span ""
        (" " ++ diagnostic.relatedLabel.getD "declared here") := by
  unfold relatedRows
  cases diagnostic.related with
  | none => rfl
  | some span =>
      dsimp only [Option.elim_some]
      unfold rows
      cases lineOf? source span with
      | none => rfl
      | some line =>
          dsimp only
          rw [List.map_cons, List.map_cons, List.map_nil, String.join_cons, String.join_cons,
            String.join_nil, String.append_empty, String.empty_append, ← render_rows]
          simp only [Style.plain, String.append_empty]

theorem heading_eq (diagnostic : Diagnostic) (filename : String) :
    "\n" ++ " " ++ Style.plain.dim ++ "file:" ++ Style.plain.reset ++ " " ++ filename ++ ":" ++
      toString (diagnostic.span.start.line + 1) ++ ":" ++
      toString (diagnostic.span.start.col + 1) ++ "\n" ++
      Style.plain.accent ++ diagnostic.severity.label ++ ":" ++ Style.plain.reset ++ " " ++
      diagnostic.message ++ "\n" = diagnostic.heading filename := by
  have hfile : "\n" ++ " " ++ Style.plain.dim ++ "file:" ++ Style.plain.reset ++ " " =
      "\n file: " := rfl
  have haccent : Style.plain.accent = "" := rfl
  have hlabel : ":" ++ Style.plain.reset ++ " " = ": " := rfl
  rw [hfile, haccent, String.append_empty]
  unfold heading
  simp only [← hlabel, String.append_assoc]

/-- The report without colours, with the rows of its two spans. -/
theorem render_eq (diagnostic : Diagnostic) (source filename : String) :
    diagnostic.render false source filename = diagnostic.heading filename ++
      rows source.toList diagnostic.span (margin (diagnostic.span.start.line + 1) "" ++ "\n") "" ++
      (diagnostic.related.elim "" fun span => rows source.toList span ""
        (" " ++ diagnostic.relatedLabel.getD "declared here")) ++
      diagnostic.helpText .plain ++ "\n" := by
  unfold render renderWith
  simp only [if_neg Bool.false_ne_true, heading_eq, List.map_append, String.join_append,
    join_mainRows, join_relatedRows]
  simp only [String.append_assoc]

/-- The report of a finding about `source` without colours: behind its heading stands what it
shows of the place that it is about, and then of the place that it relates this to. -/
structure Reports (diagnostic : Diagnostic) (source filename main related : String) : Prop where
  report_eq : diagnostic.render false source filename =
    diagnostic.heading filename ++ main ++ related ++ diagnostic.helpText .plain ++ "\n"
  main_shows : Shows source.toList diagnostic.span
    (margin (diagnostic.span.start.line + 1) "" ++ "\n") "" main
  related_shows : ∀ span, diagnostic.related = some span →
    Shows source.toList span "" (" " ++ diagnostic.relatedLabel.getD "declared here") related
  related_none : diagnostic.related = none → related = ""

theorem exists_reports {diagnostic : Diagnostic} {source : String}
    (hreturn : '\r' ∉ source.toList) (hcuts : ∀ span ∈ diagnostic.spans,
      ∃ before part after, span.Cuts source.toList before part after) (filename : String) :
    ∃ main related, diagnostic.Reports source filename main related := by
  refine ⟨_, _, diagnostic.render_eq source filename,
    shows_rows hreturn (hcuts diagnostic.span List.mem_cons_self) _ _, ?_, ?_⟩
  · intro span hspan
    have hmem : span ∈ diagnostic.spans :=
      List.mem_cons_of_mem _ (by rw [hspan]; exact List.mem_singleton_self span)
    rw [hspan]
    exact shows_rows hreturn (hcuts span hmem) _ _
  · intro hnone
    rw [hnone]
    rfl

end Diagnostic

namespace StructDescriptor

open Declaration

theorem exists_of_mem_diagnostics_read {id source : String} {diagnostic : Diagnostic}
    (hdiagnostic : diagnostic ∈ (read id source).diagnostics) :
    (∃ declaration ∈ all source.toList, diagnostic ∈ declaration.diagnostics) ∨
      diagnostic = .noDeclaration := by
  unfold read at hdiagnostic
  split at hdiagnostic
  · next declaration hfirst => exact .inl ⟨declaration, mem_all_of_first? hfirst, hdiagnostic⟩
  · exact .inr (List.mem_singleton.1 hdiagnostic)

/-- Every place that a finding about a source names is cut out of that source. -/
theorem exists_cuts_of_mem {source : String} {supply : IdSupply}
    {descriptor : StructDescriptor}
    (hmem : descriptor = (readOne source supply).1 ∨ descriptor ∈ (readMany source supply).1)
    {diagnostic : Diagnostic} (hdiagnostic : diagnostic ∈ descriptor.diagnostics) :
    ∀ span ∈ diagnostic.spans, ∃ before part after, span.Cuts source.toList before part after := by
  rcases hmem with rfl | hmem
  · rcases exists_of_mem_diagnostics_read hdiagnostic with ⟨declaration, hdeclared, hfound⟩ | rfl
    · exact (isPlaced_of_mem_all hdeclared diagnostic hfound).exists_cuts
    · intro span hspan
      obtain rfl := List.mem_singleton.1 hspan
      exact ⟨[], [], source.toList, Span.cuts_point [] source.toList⟩
  · obtain ⟨_, declaration, hdeclared, rfl⟩ := exists_of_mem_ofDeclarations hmem
    exact (isPlaced_of_mem_all hdeclared diagnostic hdiagnostic).exists_cuts

/-- In the report of every finding about a source without carriage returns, the carets stand
under the characters of the source that the finding is about. -/
theorem exists_reports_of_mem_diagnostics (source filename : String) (supply : IdSupply)
    (hreturn : '\r' ∉ source.toList) :
    ∀ descriptor, descriptor = (readOne source supply).1 ∨
        descriptor ∈ (readMany source supply).1 →
      ∀ diagnostic ∈ descriptor.diagnostics,
        ∃ main related, diagnostic.Reports source filename main related :=
  fun _ hmem _ hdiagnostic =>
    Diagnostic.exists_reports hreturn (exists_cuts_of_mem hmem hdiagnostic) filename

/-- Two lines that declare the same field. -/
def repeatedOnLines : String :=
  "type A struct\x7b\n  B int\n  B string\n\x7d"

theorem first?_repeatedOnLines : first? repeatedOnLines.toList =
    some ⟨"A", ⟨⟨5, 0, 5⟩, ⟨6, 0, 6⟩⟩, [⟨"B", "int", none, ⟨⟨17, 1, 2⟩, ⟨18, 1, 3⟩⟩⟩,
      ⟨"B", "string", none, ⟨⟨25, 2, 2⟩, ⟨26, 2, 3⟩⟩⟩], ⟨⟨0, 0, 0⟩, ⟨35, 3, 1⟩⟩, false, none,
      []⟩ := by
  cbv

theorem exists_reports_repeated_field :
    '\r' ∉ repeatedOnLines.toList ∧
      ∃ diagnostic ∈ (readOne repeatedOnLines .sequential).1.diagnostics,
        diagnostic.related = some ⟨⟨17, 1, 2⟩, ⟨18, 1, 3⟩⟩ ∧
          ∃ main related, diagnostic.Reports repeatedOnLines "a.go" main related := by
  have hreturn : '\r' ∉ repeatedOnLines.toList := by decide
  have hmem : Diagnostic.repeatedField "B" ⟨⟨25, 2, 2⟩, ⟨26, 2, 3⟩⟩ ⟨⟨17, 1, 2⟩, ⟨18, 1, 3⟩⟩ ∈
      (readOne repeatedOnLines .sequential).1.diagnostics := by
    simp only [readOne, read, first?_repeatedOnLines]
    exact List.mem_singleton.2 rfl
  exact ⟨hreturn, _, hmem, rfl, exists_reports_of_mem_diagnostics repeatedOnLines "a.go"
    .sequential hreturn _ (.inl rfl) _ hmem⟩

end StructDescriptor

end FieldBridge
