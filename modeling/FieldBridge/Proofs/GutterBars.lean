import FieldBridge.Proofs.Carets

/-!
# Gutter bars

Every row of a report begins with a gutter, which holds a line number or nothing, and a bar.
The gutter is as wide as the number of the row's own excerpt, and at least two places wide.  So
the bars of one excerpt stand in one column; the bars of a report with two excerpts do so exactly
when the two line numbers have equally many digits or at most two.
-/

namespace FieldBridge.Diagnostic

/-- The rows that a report without colours shows of a source. -/
def sourceRows (diagnostic : Diagnostic) (source : String) : List Row :=
  diagnostic.mainRows .plain source.toList ++ diagnostic.relatedRows .plain source.toList

theorem render_eq_sourceRows (diagnostic : Diagnostic) (source filename : String) :
    diagnostic.render false source filename = diagnostic.heading filename ++
      String.join ((diagnostic.sourceRows source).map (Row.render .plain)) ++
      diagnostic.helpText .plain ++ "\n" := by
  unfold render renderWith
  simp only [if_neg Bool.false_ne_true, heading_eq]
  rfl

/-- The beginnings of a text that end in front of the bars of its rows, when `above` stands
above the rows. -/
def upToBars (above : String) : List Row → List String
  | [] => []
  | row :: rows => (above ++ row.gutter) :: upToBars (above ++ row.render .plain) rows

/-- The beginnings of a report that end in front of a bar. -/
def barFronts (diagnostic : Diagnostic) (source filename : String) : List String :=
  upToBars (diagnostic.heading filename) (diagnostic.sourceRows source)

/-- The columns of the bars in a report: each counts the characters in front of the bar on its
line. -/
def barColumns (diagnostic : Diagnostic) (source filename : String) : List Nat :=
  (diagnostic.barFronts source filename).map fun front => (Position.behind front.toList).col

/-- The bars of a report stand in one column. -/
def BarsLineUp (diagnostic : Diagnostic) (source filename : String) : Prop :=
  ∀ column ∈ diagnostic.barColumns source filename,
    ∀ other ∈ diagnostic.barColumns source filename, column = other

namespace Row

/-- A row as reports have them: its label is a number or nothing, and the gutter has room
for it. -/
structure IsNumbered (row : Row) : Prop where
  digits : ∀ c ∈ row.label.toList, c.isDigit = true
  fits : row.label.length ≤ row.width

variable {row : Row}

theorem IsNumbered.length_gutter (hnumbered : row.IsNumbered) : row.gutter.length = row.width := by
  have hfits := hnumbered.fits
  rw [gutter, String.length_append, String.length_ofList, List.length_replicate]
  omega

/-- The first bar on the line of a row is the one behind its gutter. -/
theorem IsNumbered.blank_or_digit (hnumbered : row.IsNumbered) :
    ∀ c ∈ row.gutter.toList, c = ' ' ∨ c.isDigit = true := by
  intro c hc
  rw [gutter, String.toList_append, String.toList_ofList, List.mem_append] at hc
  exact hc.imp List.eq_of_mem_replicate (hnumbered.digits c)

theorem IsNumbered.not_lineFeed (hnumbered : row.IsNumbered) : '\n' ∉ row.gutter.toList := by
  intro hmem
  rcases hnumbered.blank_or_digit _ hmem with hblank | hdigit
  · exact absurd hblank (by decide)
  · exact absurd hdigit (by decide)

theorem isNumbered_blank (number : Nat) (body : String) :
    IsNumbered ⟨"", gutterWidth number, body⟩ :=
  ⟨fun _ hc => absurd hc List.not_mem_nil, Nat.zero_le _⟩

theorem isNumbered_sourceRow (number : Nat) (line : List Char) :
    (sourceRow number line).IsNumbered where
  digits c hc := by
    rw [sourceRow, Nat.toString_eq_ofList_toDigits, String.toList_ofList] at hc
    exact Nat.isDigit_of_mem_toDigits (by decide) (by decide) hc
  fits := Nat.le_max_left _ _

end Row

theorem lastLine_ended (text : String) : Text.lastLine (text ++ "\n").toList = [] := by
  have hfeed : "\n".toList = ['\n'] := rfl
  rw [String.toList_append, hfeed, Text.lastLine_append_lineFeed,
    Text.lastLine_of_not_mem List.not_mem_nil]

section Columns

variable {rows : List Row} {above : String}

/-- Behind a line feed every row begins a line, so that its bar stands behind its gutter. -/
theorem map_lastLine_upToBars (habove : Text.lastLine above.toList = [])
    (hnumbered : ∀ row ∈ rows, row.IsNumbered) :
    (upToBars above rows).map (fun front => Text.lastLine front.toList) =
      rows.map fun row => row.gutter.toList := by
  induction rows generalizing above with
  | nil => rfl
  | cons row rows ih =>
      obtain ⟨hrow, hrows⟩ := List.forall_mem_cons.1 hnumbered
      rw [upToBars, List.map_cons, List.map_cons, String.toList_append,
        Text.lastLine_append _ hrow.not_lineFeed, habove, List.nil_append, ih _ hrows]
      rw [Row.render, ← String.append_assoc]
      exact lastLine_ended _

theorem exists_of_mem_upToBars {front : String} (hfront : front ∈ upToBars above rows) :
    ∃ rest, above ++ String.join (rows.map (Row.render .plain)) = front ++ " |" ++ rest := by
  induction rows generalizing above with
  | nil => cases hfront
  | cons row rows ih =>
      rw [List.map_cons, String.join_cons, ← String.append_assoc]
      rcases List.mem_cons.1 hfront with rfl | hlater
      · refine ⟨row.body ++ "\n" ++ String.join (rows.map (Row.render .plain)), ?_⟩
        simp only [Row.render_plain, String.append_assoc]
      · exact ih hlater

end Columns

section Reports

variable (diagnostic : Diagnostic) (source filename : String)

theorem isNumbered_of_mem_sourceRows : ∀ row ∈ diagnostic.sourceRows source, row.IsNumbered := by
  intro row hrow
  rcases List.mem_append.1 hrow with hmain | hrelated
  · unfold mainRows at hmain
    split at hmain
    · cases hmain
    · simp only [List.mem_cons, List.not_mem_nil, or_false] at hmain
      rcases hmain with rfl | rfl | rfl
      · exact Row.isNumbered_blank _ _
      · exact Row.isNumbered_sourceRow _ _
      · exact Row.isNumbered_blank _ _
  · unfold relatedRows at hrelated
    split at hrelated
    · cases hrelated
    · split at hrelated
      · cases hrelated
      · simp only [List.mem_cons, List.not_mem_nil, or_false] at hrelated
        rcases hrelated with rfl | rfl
        · exact Row.isNumbered_sourceRow _ _
        · exact Row.isNumbered_blank _ _

theorem lastLine_heading : Text.lastLine (diagnostic.heading filename).toList = [] := by
  unfold heading
  exact lastLine_ended _

theorem map_lastLine_barFronts :
    (diagnostic.barFronts source filename).map (fun front => Text.lastLine front.toList) =
      (diagnostic.sourceRows source).map fun row => row.gutter.toList :=
  map_lastLine_upToBars (diagnostic.lastLine_heading filename)
    (diagnostic.isNumbered_of_mem_sourceRows source)

theorem barColumns_eq_map_width :
    diagnostic.barColumns source filename = (diagnostic.sourceRows source).map Row.width := by
  calc diagnostic.barColumns source filename
      = ((diagnostic.barFronts source filename).map fun front =>
          Text.lastLine front.toList).map List.length := by
        rw [List.map_map]
        exact List.map_congr_left fun front _ => Position.behind_col front.toList
    _ = ((diagnostic.sourceRows source).map fun row => row.gutter.toList).map List.length := by
        rw [map_lastLine_barFronts]
    _ = (diagnostic.sourceRows source).map Row.width := by
        rw [List.map_map]
        apply List.map_congr_left
        intro row hrow
        rw [Function.comp_apply, String.length_toList]
        exact (diagnostic.isNumbered_of_mem_sourceRows source row hrow).length_gutter

end Reports

/-- The columns of the bars of an excerpt: there are `count`, if the source has the line. -/
def excerptColumns (source : String) (span : Span) (count : Nat) : List Nat :=
  if span.start.line < (Text.lines source.toList).length then
    List.replicate count (gutterWidth (span.start.line + 1))
  else []

section Widths

variable {source : String} {span : Span}

theorem excerptColumns_of_none (hline : lineOf? source.toList span = none) (count : Nat) :
    excerptColumns source span count = [] :=
  if_neg (Nat.not_lt.2 (List.getElem?_eq_none_iff.1 hline))

theorem excerptColumns_of_some {line : List Char} (hline : lineOf? source.toList span = some line)
    (count : Nat) :
    excerptColumns source span count = List.replicate count (gutterWidth (span.start.line + 1)) :=
  if_pos (List.getElem?_eq_some_iff.1 hline).1

end Widths

theorem map_width_mainRows (diagnostic : Diagnostic) (source : String) :
    (diagnostic.mainRows .plain source.toList).map Row.width =
      excerptColumns source diagnostic.span 3 := by
  unfold mainRows
  cases hline : lineOf? source.toList diagnostic.span with
  | none => exact (excerptColumns_of_none hline 3).symm
  | some line => exact (excerptColumns_of_some hline 3).symm

theorem map_width_relatedRows (diagnostic : Diagnostic) (source : String) :
    (diagnostic.relatedRows .plain source.toList).map Row.width =
      diagnostic.related.elim [] fun span => excerptColumns source span 2 := by
  unfold relatedRows
  cases diagnostic.related with
  | none => rfl
  | some span =>
      dsimp only [Option.elim_some]
      cases hline : lineOf? source.toList span with
      | none => exact (excerptColumns_of_none hline 2).symm
      | some line => exact (excerptColumns_of_some hline 2).symm

/-- The numbers of two lines take equally many places, at least two. -/
def SameWidth (number other : Nat) : Prop :=
  (toString number).length = (toString other).length ∨ number < 100 ∧ other < 100

instance (number other : Nat) : Decidable (SameWidth number other) :=
  inferInstanceAs (Decidable (_ ∨ _))

theorem gutterWidth_eq_iff {number other : Nat} :
    gutterWidth number = gutterWidth other ↔ SameWidth number other := by
  have hplaces : ∀ n : Nat, (toString n).length ≤ 2 ↔ n < 100 := by
    intro n
    rw [Nat.toString_eq_ofList_toDigits, String.length_ofList]
    exact Nat.length_toDigits_le_iff (by decide) (by decide)
  have hnumber := hplaces number
  have hother := hplaces other
  unfold gutterWidth SameWidth
  omega

theorem barColumns_eq (diagnostic : Diagnostic) (source filename : String) :
    diagnostic.barColumns source filename = excerptColumns source diagnostic.span 3 ++
      diagnostic.related.elim [] fun span => excerptColumns source span 2 := by
  rw [barColumns_eq_map_width, sourceRows, List.map_append, map_width_mainRows,
    map_width_relatedRows]

theorem mem_excerptColumns_iff {source : String} {span : Span} {count column : Nat} :
    column ∈ excerptColumns source span count ↔
      span.start.line < (Text.lines source.toList).length ∧ count ≠ 0 ∧
        column = gutterWidth (span.start.line + 1) := by
  unfold excerptColumns
  split
  · next hline => simp [hline]
  · next hline => simp [hline]

section Bars

variable {diagnostic : Diagnostic} {source filename : String}

theorem bar_of_mem_barFronts {front : String}
    (hfront : front ∈ diagnostic.barFronts source filename) :
    (∃ rest, diagnostic.render false source filename = front ++ " |" ++ rest) ∧
      ∀ c ∈ Text.lastLine front.toList, c = ' ' ∨ c.isDigit = true := by
  constructor
  · obtain ⟨rest, hrest⟩ := exists_of_mem_upToBars hfront
    refine ⟨rest ++ (diagnostic.helpText .plain ++ "\n"), ?_⟩
    rw [render_eq_sourceRows, hrest]
    simp only [String.append_assoc]
  · have hline : Text.lastLine front.toList ∈
        (diagnostic.sourceRows source).map fun row => row.gutter.toList := by
      rw [← map_lastLine_barFronts diagnostic source filename]
      exact List.mem_map_of_mem hfront
    obtain ⟨row, hrow, hgutter⟩ := List.mem_map.1 hline
    rw [← hgutter]
    exact (diagnostic.isNumbered_of_mem_sourceRows source row hrow).blank_or_digit

theorem barsLineUp_iff_sameWidth : diagnostic.BarsLineUp source filename ↔
    ∀ span, diagnostic.related = some span →
      diagnostic.span.start.line < (Text.lines source.toList).length →
        span.start.line < (Text.lines source.toList).length →
          SameWidth (diagnostic.span.start.line + 1) (span.start.line + 1) := by
  unfold BarsLineUp
  rw [barColumns_eq]
  constructor
  · intro hcolumns span hrelated hmain hline
    rw [hrelated] at hcolumns
    apply gutterWidth_eq_iff.1
    exact hcolumns _ (List.mem_append_left _ (mem_excerptColumns_iff.2 ⟨hmain, by decide, rfl⟩)) _
      (List.mem_append_right _ (mem_excerptColumns_iff.2 ⟨hline, by decide, rfl⟩))
  · intro hwidth column hcolumn other hother
    cases hrelated : diagnostic.related with
    | none =>
        simp only [hrelated, Option.elim_none, List.append_nil, mem_excerptColumns_iff]
          at hcolumn hother
        rw [hcolumn.2.2, hother.2.2]
    | some span =>
        simp only [hrelated, Option.elim_some, List.mem_append, mem_excerptColumns_iff]
          at hcolumn hother
        have hequal := fun hmain hline =>
          gutterWidth_eq_iff.2 (hwidth span hrelated hmain hline)
        rcases hcolumn with ⟨hline, -, rfl⟩ | ⟨hline, -, rfl⟩
        · rcases hother with ⟨-, -, rfl⟩ | ⟨hline', -, rfl⟩
          · rfl
          · exact hequal hline hline'
        · rcases hother with ⟨hline', -, rfl⟩ | ⟨-, -, rfl⟩
          · exact (hequal hline' hline).symm
          · rfl

end Bars

/-- A report without colours has three bars for the place that it is about, and two for the
place that it relates this to, as far as the source has these lines.  In front of a bar its line
has blanks and digits only.  The bars stand in one column exactly when the numbers of the two
lines take equally many places. -/
theorem bars_of_report (diagnostic : Diagnostic) (source filename : String) :
    (∀ front ∈ diagnostic.barFronts source filename,
      (∃ rest, diagnostic.render false source filename = front ++ " |" ++ rest) ∧
        ∀ c ∈ Text.lastLine front.toList, c = ' ' ∨ c.isDigit = true) ∧
    diagnostic.barColumns source filename = (excerptColumns source diagnostic.span 3 ++
      diagnostic.related.elim [] fun span => excerptColumns source span 2) ∧
    (diagnostic.BarsLineUp source filename ↔
      ∀ span, diagnostic.related = some span →
        diagnostic.span.start.line < (Text.lines source.toList).length →
          span.start.line < (Text.lines source.toList).length →
            SameWidth (diagnostic.span.start.line + 1) (span.start.line + 1)) :=
  ⟨fun _ => bar_of_mem_barFronts, diagnostic.barColumns_eq source filename,
    barsLineUp_iff_sameWidth⟩

/-- A field that is declared again behind a comment that goes on to the hundredth line. -/
def repeatedFarBelow : String :=
  "type A struct\x7bB int /*" ++ String.ofList (List.replicate 99 '\n') ++ "*/ B string\x7d"

theorem first?_repeatedFarBelow : Declaration.first? repeatedFarBelow.toList =
    some ⟨"A", ⟨⟨5, 0, 5⟩, ⟨6, 0, 6⟩⟩, [⟨"B", "int", none, ⟨⟨14, 0, 14⟩, ⟨15, 0, 15⟩⟩⟩,
      ⟨"B", "string", none, ⟨⟨124, 99, 3⟩, ⟨125, 99, 4⟩⟩⟩], ⟨⟨0, 0, 0⟩, ⟨133, 99, 12⟩⟩, false,
      none, []⟩ := by
  cbv

theorem length_lines_repeatedFarBelow : (Text.lines repeatedFarBelow.toList).length = 100 := by
  cbv

theorem not_barsLineUp_repeatedFarBelow :
    ∃ diagnostic ∈ (StructDescriptor.readOne repeatedFarBelow .sequential).1.diagnostics,
      '\n' ∉ diagnostic.message.toList ∧
        (∀ help, diagnostic.help = some help → '\n' ∉ help.toList) ∧
          ¬ diagnostic.BarsLineUp repeatedFarBelow "a.go" := by
  have hmem : Diagnostic.repeatedField "B" ⟨⟨124, 99, 3⟩, ⟨125, 99, 4⟩⟩ ⟨⟨14, 0, 14⟩, ⟨15, 0, 15⟩⟩ ∈
      (StructDescriptor.readOne repeatedFarBelow .sequential).1.diagnostics := by
    simp only [StructDescriptor.readOne, StructDescriptor.read, first?_repeatedFarBelow]
    exact List.mem_singleton.2 rfl
  have hmessage : '\n' ∉ (Diagnostic.repeatedField "B" ⟨⟨124, 99, 3⟩, ⟨125, 99, 4⟩⟩
      ⟨⟨14, 0, 14⟩, ⟨15, 0, 15⟩⟩).message.toList := by
    decide
  have hhelp : ∀ help, (Diagnostic.repeatedField "B" ⟨⟨124, 99, 3⟩, ⟨125, 99, 4⟩⟩
      ⟨⟨14, 0, 14⟩, ⟨15, 0, 15⟩⟩).help = some help → '\n' ∉ help.toList := by
    rintro help ⟨⟩
    decide
  have hbars : ¬ (Diagnostic.repeatedField "B" ⟨⟨124, 99, 3⟩, ⟨125, 99, 4⟩⟩
      ⟨⟨14, 0, 14⟩, ⟨15, 0, 15⟩⟩).BarsLineUp repeatedFarBelow "a.go" := by
    rw [barsLineUp_iff_sameWidth, length_lines_repeatedFarBelow]
    intro hwidth
    have hsame := hwidth ⟨⟨14, 0, 14⟩, ⟨15, 0, 15⟩⟩ rfl (by decide) (by decide)
    exact absurd hsame (by decide)
  exact ⟨_, hmem, hmessage, hhelp, hbars⟩

end FieldBridge.Diagnostic
