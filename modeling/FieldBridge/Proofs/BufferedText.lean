import FieldBridge.Code.Buffer

/-!
# The text of a buffer

A buffer keeps whatever is written into it, cut into lines.  A written text is cut at its line
feeds; indentation and pushed texts are not looked through, and must have none.  Then the
finished text is everything that was written, but for a line feed at the very end; there is one
complete line for each line feed, and an empty buffer is one into which no character was
written.
-/

namespace FieldBridge.Code.Buffer

/-- What has been written into a buffer. -/
def text (buffer : Buffer) : List Char :=
  buffer.lines.flatMap (· ++ ['\n']) ++ buffer.current

@[simp] theorem text_empty (unit : String) : (empty unit).text = [] := rfl

@[simp] theorem text_push (text : String) (buffer : Buffer) :
    (push text buffer).text = buffer.text ++ text.toList := by
  simp [Buffer.text, push]

@[simp] theorem text_indent (level : Nat) (buffer : Buffer) :
    (indent level buffer).text =
      buffer.text ++ (List.replicate level buffer.indentUnit).flatten := by
  simp [text, indent]

@[simp] theorem text_newline (buffer : Buffer) : (newline buffer).text = buffer.text ++ ['\n'] := by
  simp [text, newline]

@[simp] theorem text_writeChars (chars : List Char) (buffer : Buffer) :
    (writeChars chars buffer).text = buffer.text ++ chars := by
  unfold writeChars
  induction chars generalizing buffer with
  | nil => simp
  | cons c chars ih =>
      rw [List.foldl_cons, ih]
      split
      · next hc => simp [hc]
      · simp [text]

@[simp] theorem text_write (text : String) (buffer : Buffer) :
    (write text buffer).text = buffer.text ++ text.toList :=
  text_writeChars text.toList buffer

@[simp] theorem text_writeLine (text : String) (buffer : Buffer) :
    (writeLine text buffer).text = buffer.text ++ text.toList ++ ['\n'] := by
  simp [writeLine]

@[simp] theorem text_line (level : Nat) (text : String) (buffer : Buffer) :
    (line level text buffer).text =
      buffer.text ++ (List.replicate level buffer.indentUnit).flatten ++ text.toList ++ ['\n'] := by
  simp [line]

@[simp] theorem indentUnit_empty (unit : String) : (empty unit).indentUnit = unit.toList := rfl

@[simp] theorem indentUnit_indent (level : Nat) (buffer : Buffer) :
    (indent level buffer).indentUnit = buffer.indentUnit := rfl

@[simp] theorem indentUnit_newline (buffer : Buffer) :
    (newline buffer).indentUnit = buffer.indentUnit := rfl

@[simp] theorem indentUnit_line (level : Nat) (text : String) (buffer : Buffer) :
    (line level text buffer).indentUnit = buffer.indentUnit := rfl

@[simp] theorem indentUnit_write (text : String) (buffer : Buffer) :
    (write text buffer).indentUnit = buffer.indentUnit := by
  unfold write writeChars
  generalize text.toList = chars
  induction chars generalizing buffer with
  | nil => rfl
  | cons c chars ih =>
      rw [List.foldl_cons, ih]
      split <;> rfl

@[simp] theorem indentUnit_writeLine (text : String) (buffer : Buffer) :
    (writeLine text buffer).indentUnit = buffer.indentUnit :=
  indentUnit_write text buffer

/-- A written text is pushed line by line. -/
theorem write_of_splitOn {text first : String} {rest : List String}
    (hlines : text.toList.splitOn '\n' = first.toList :: rest.map String.toList)
    (buffer : Buffer) :
    write text buffer =
      rest.foldl (fun buffer part => push part (newline buffer)) (push first buffer) := by
  unfold write
  generalize text.toList = chars at hlines
  induction chars generalizing first rest buffer with
  | nil =>
      obtain ⟨hfirst, hrest⟩ := List.cons.inj ((List.splitOn_nil '\n').symm.trans hlines)
      rw [List.map_eq_nil_iff.1 hrest.symm]
      simp [writeChars, push, ← hfirst]
  | cons c chars ih =>
      rw [List.splitOn_cons_eq_if_modifyHead] at hlines
      by_cases hc : c = '\n'
      · rw [if_pos (by simpa using hc)] at hlines
        obtain ⟨hfirst, hrest⟩ := List.cons.inj hlines
        cases rest with
        | nil => exact absurd hrest (List.splitOn_ne_nil '\n' chars)
        | cons part parts =>
            have hpushed : push first buffer = buffer := by simp [push, ← hfirst]
            rw [hpushed, List.foldl_cons, ← ih (newline buffer) hrest]
            simp [writeChars, hc]
      · rw [if_neg (by simpa using hc)] at hlines
        obtain ⟨line, lines, hsplit⟩ :=
          List.exists_cons_of_ne_nil (List.splitOn_ne_nil '\n' chars)
        rw [hsplit, List.modifyHead_cons] at hlines
        obtain ⟨hfirst, hrest⟩ := List.cons.inj hlines
        have hwritten := @ih (String.ofList line) rest
          { buffer with current := buffer.current ++ [c] } (by simp [hsplit, hrest])
        have hpushed : push first buffer =
            push (String.ofList line) { buffer with current := buffer.current ++ [c] } := by
          simp [push, ← hfirst]
        rw [hpushed, ← hwritten]
        simp [writeChars, hc]

/-- Writers that each add a text add their texts one after the other. -/
theorem foldl_adds {α : Type} {write : Buffer → α → Buffer} {added : α → List Char}
    {unit : List Char}
    (hwrite : ∀ buffer x, buffer.indentUnit = unit →
      (write buffer x).indentUnit = unit ∧ (write buffer x).text = buffer.text ++ added x)
    (xs : List α) (buffer : Buffer) (hindent : buffer.indentUnit = unit) :
    (xs.foldl write buffer).indentUnit = unit ∧
      (xs.foldl write buffer).text = buffer.text ++ xs.flatMap added := by
  induction xs generalizing buffer with
  | nil => exact ⟨hindent, by simp⟩
  | cons x xs ih =>
      obtain ⟨hunit, htext⟩ := hwrite buffer x hindent
      obtain ⟨hunits, htexts⟩ := ih _ hunit
      refine ⟨hunits, ?_⟩
      rw [List.foldl_cons, htexts, htext, List.flatMap_cons, List.append_assoc]

theorem intercalate_append_lineFeed {lines : List (List Char)} (hlines : lines ≠ []) :
    ['\n'].intercalate lines ++ ['\n'] = lines.flatMap (· ++ ['\n']) := by
  induction lines with
  | nil => exact absurd rfl hlines
  | cons first rest ih =>
      cases rest with
      | nil => simp
      | cons second rest =>
          rw [List.intercalate_cons_cons, List.flatMap_cons, ← ih (by simp)]
          simp

/-- A text without the line feed at its end, if there is one. -/
def withoutLastLineFeed (text : List Char) : List Char :=
  if text.getLast? = some '\n' then text.dropLast else text

theorem withoutLastLineFeed_append (text : List Char) :
    withoutLastLineFeed (text ++ ['\n']) = text := by
  rw [withoutLastLineFeed, if_pos List.getLast?_concat, List.dropLast_concat]

section Finishing

variable {buffer : Buffer}

theorem finish_eq (hcurrent : '\n' ∉ buffer.current) :
    buffer.finish.toList = withoutLastLineFeed buffer.text := by
  by_cases hempty : buffer.current = []
  · have hfinish : buffer.finish.toList = ['\n'].intercalate buffer.lines := by
      simp [finish, hempty]
    have htext : buffer.text = buffer.lines.flatMap (· ++ ['\n']) := by simp [text, hempty]
    rw [hfinish, htext]
    by_cases hlines : buffer.lines = []
    · rw [hlines]
      rfl
    · rw [← intercalate_append_lineFeed hlines, withoutLastLineFeed_append]
  · have hfinish : buffer.finish.toList =
        ['\n'].intercalate (buffer.lines ++ [buffer.current]) := by
      simp [finish, hempty]
    have htext : buffer.text ++ ['\n'] =
        ['\n'].intercalate (buffer.lines ++ [buffer.current]) ++ ['\n'] := by
      rw [intercalate_append_lineFeed (by simp)]
      simp [text]
    have hlast : buffer.text.getLast? ≠ some '\n' := by
      rw [text, List.getLast?_append, Option.or_of_isSome (by simp [hempty])]
      exact fun hlast => hcurrent (List.mem_of_getLast? hlast)
    rw [hfinish, ← List.append_cancel_right htext, withoutLastLineFeed, if_neg hlast]

/-- The last line of a finished buffer has no line feed. -/
theorem finish_line (level : Nat) (text : String) (buffer : Buffer) :
    (line level text buffer).finish.toList =
      buffer.text ++ (List.replicate level buffer.indentUnit).flatten ++ text.toList := by
  rw [finish_eq (by simp [line, newline]), text_line, withoutLastLineFeed_append]

theorem isEmpty_iff : buffer.isEmpty = true ↔ buffer.text = [] := by
  unfold isEmpty text
  cases buffer.lines <;> simp

end Finishing

/-- No line of a buffer, and nothing that goes into one unseen, has a line feed. -/
structure Lined (buffer : Buffer) : Prop where
  indentUnit : '\n' ∉ buffer.indentUnit
  lines : ∀ line ∈ buffer.lines, '\n' ∉ line
  current : '\n' ∉ buffer.current

namespace Lined

variable {buffer : Buffer}

theorem empty {unit : String} (hunit : '\n' ∉ unit.toList) : (empty unit).Lined :=
  ⟨hunit, fun _ hline => absurd hline List.not_mem_nil, List.not_mem_nil⟩

theorem push (hlined : buffer.Lined) {text : String} (htext : '\n' ∉ text.toList) :
    (push text buffer).Lined :=
  { hlined with current := by simp [Buffer.push, hlined.current, htext] }

theorem indent (hlined : buffer.Lined) (level : Nat) : (indent level buffer).Lined :=
  { hlined with current := by simp [Buffer.indent, hlined.current, hlined.indentUnit] }

theorem newline (hlined : buffer.Lined) : (newline buffer).Lined where
  indentUnit := hlined.indentUnit
  lines := by
    intro line hline
    rcases List.mem_append.1 hline with hline | hline
    · exact hlined.lines line hline
    · exact List.mem_singleton.1 hline ▸ hlined.current
  current := List.not_mem_nil

theorem line (hlined : buffer.Lined) (level : Nat) {text : String} (htext : '\n' ∉ text.toList) :
    (line level text buffer).Lined :=
  ((hlined.indent level).push htext).newline

theorem write (hlined : buffer.Lined) (text : String) : (write text buffer).Lined := by
  unfold Buffer.write writeChars
  generalize text.toList = chars
  induction chars generalizing buffer with
  | nil => exact hlined
  | cons c chars ih =>
      rw [List.foldl_cons]
      apply ih
      split
      · exact hlined.newline
      · next hc => exact { hlined with current := by simp [hlined.current, Ne.symm hc] }

theorem length_eq (hlined : buffer.Lined) : buffer.length = buffer.text.count '\n' := by
  have hlines : ∀ lines : List (List Char), (∀ line ∈ lines, '\n' ∉ line) →
      (lines.flatMap (· ++ ['\n'])).count '\n' = lines.length := by
    intro lines hlines
    induction lines with
    | nil => rfl
    | cons first rest ih =>
        obtain ⟨hfirst, hrest⟩ := List.forall_mem_cons.1 hlines
        rw [List.flatMap_cons, List.count_append, List.count_append, ih hrest,
          List.count_eq_zero.2 hfirst, List.count_singleton_self, List.length_cons]
        omega
  rw [text, List.count_append, hlines _ hlined.lines, List.count_eq_zero.2 hlined.current]
  rfl

end Lined

/-- Something to be done to a buffer. -/
inductive Step where
  | push (text : String)
  | indent (level : Nat)
  | newline
  | line (level : Nat) (text : String)
  | blank
  | write (text : String)

namespace Step

def apply (buffer : Buffer) : Step → Buffer
  | push text => Buffer.push text buffer
  | indent level => Buffer.indent level buffer
  | newline => Buffer.newline buffer
  | line level text => Buffer.line level text buffer
  | blank => Buffer.newline buffer
  | write text => Buffer.write text buffer

/-- The text that a step adds, with `unit` for one level of indentation. -/
def added (unit : List Char) : Step → List Char
  | push text => text.toList
  | indent level => (List.replicate level unit).flatten
  | newline => ['\n']
  | line level text => (List.replicate level unit).flatten ++ text.toList ++ ['\n']
  | blank => ['\n']
  | write text => text.toList

/-- A pushed text and the text of a line stay on their line. -/
def IsInline : Step → Prop
  | push text => '\n' ∉ text.toList
  | line _ text => '\n' ∉ text.toList
  | _ => True

instance : DecidablePred IsInline
  | push text => inferInstanceAs (Decidable ('\n' ∉ text.toList))
  | line _ text => inferInstanceAs (Decidable ('\n' ∉ text.toList))
  | indent _ | newline | blank | write _ => inferInstanceAs (Decidable True)

theorem apply_adds (buffer : Buffer) (step : Step) {unit : List Char}
    (hunit : buffer.indentUnit = unit) :
    (apply buffer step).indentUnit = unit ∧
      (apply buffer step).text = buffer.text ++ step.added unit := by
  subst hunit
  cases step with
  | push text => exact ⟨rfl, text_push text buffer⟩
  | indent level => exact ⟨rfl, text_indent level buffer⟩
  | newline => exact ⟨rfl, text_newline buffer⟩
  | line level text => exact ⟨rfl, by simp [apply, added]⟩
  | blank => exact ⟨rfl, text_newline buffer⟩
  | write text => exact ⟨indentUnit_write text buffer, text_write text buffer⟩

theorem lined_apply {buffer : Buffer} (hlined : buffer.Lined) {step : Step}
    (hinline : step.IsInline) : (apply buffer step).Lined := by
  cases step with
  | push text => exact hlined.push hinline
  | indent level => exact hlined.indent level
  | newline => exact hlined.newline
  | line level text => exact hlined.line level hinline
  | blank => exact hlined.newline
  | write text => exact hlined.write text

end Step

/-- The buffer after some steps. -/
def run (unit : String) (steps : List Step) : Buffer :=
  steps.foldl Step.apply (empty unit)

theorem text_run (unit : String) (steps : List Step) :
    (run unit steps).text = steps.flatMap (Step.added unit.toList) :=
  (foldl_adds (fun buffer step hunit => Step.apply_adds buffer step hunit) steps (empty unit)
    rfl).2

theorem lined_run {unit : String} (hunit : '\n' ∉ unit.toList) {steps : List Step}
    (hinline : ∀ step ∈ steps, step.IsInline) : (run unit steps).Lined := by
  unfold run
  have hlined := Lined.empty hunit
  generalize empty unit = buffer at hlined
  induction steps generalizing buffer with
  | nil => exact hlined
  | cons step steps ih =>
      obtain ⟨hstep, hsteps⟩ := List.forall_mem_cons.1 hinline
      exact ih hsteps _ (Step.lined_apply hlined hstep)

theorem foldl_write (pieces : List String) (buffer : Buffer) :
    (pieces.map Step.write).foldl Step.apply buffer = write (String.join pieces) buffer := by
  induction pieces generalizing buffer with
  | nil => rfl
  | cons piece pieces ih =>
      rw [List.map_cons, List.foldl_cons, ih, String.join_cons]
      simp only [Step.apply, write, writeChars, String.toList_append, List.foldl_append]

/-- After any steps a buffer finishes with everything that they added, but for a line feed at
the end; it counts the line feeds, it is empty when nothing was added, and a text may be written
in pieces. -/
theorem finish_run (unit : String) (hunit : '\n' ∉ unit.toList) (steps : List Step)
    (hinline : ∀ step ∈ steps, step.IsInline) :
    (run unit steps).finish.toList =
        withoutLastLineFeed (steps.flatMap (Step.added unit.toList)) ∧
      (run unit steps).length = (steps.flatMap (Step.added unit.toList)).count '\n' ∧
      ((run unit steps).isEmpty = true ↔ ∀ step ∈ steps, step.added unit.toList = []) ∧
      ∀ before pieces after, steps = before ++ Step.write (String.join pieces) :: after →
        run unit (before ++ pieces.map Step.write ++ after) = run unit steps := by
  have hlined := lined_run hunit hinline
  refine ⟨?_, ?_, ?_, ?_⟩
  · rw [finish_eq hlined.current, text_run]
  · rw [hlined.length_eq, text_run]
  · rw [isEmpty_iff, text_run, List.flatMap_eq_nil_iff]
  · rintro before pieces after rfl
    simp only [run, List.foldl_append, List.foldl_cons, foldl_write]
    rfl

def everyStep : List Step :=
  [.indent 1, .write "a\n\nb", .push "c", .newline, .line 2 "d", .write "", .blank]

theorem finish_run_every_step : '\n' ∉ "\t".toList ∧ (∀ step ∈ everyStep, step.IsInline) ∧
    (run "\t" everyStep).finish.toList = "\ta\n\nbc\n\t\td\n".toList ∧
    (run "\t" everyStep).length = 5 ∧ (run "\t" everyStep).isEmpty = false ∧
    run "\t" [.indent 1, .write "a", .write "\n\n", .write "", .write "b", .push "c", .newline,
      .line 2 "d", .write "", .blank] = run "\t" everyStep := by
  have hunit : '\n' ∉ "\t".toList := by decide
  have hinline : ∀ step ∈ everyStep, step.IsInline := by decide
  obtain ⟨hfinish, hlength, hempty, hpieces⟩ := finish_run "\t" hunit everyStep hinline
  refine ⟨hunit, hinline, hfinish.trans (by decide), hlength.trans (by decide), ?_,
    hpieces [.indent 1] ["a", "\n\n", "", "b"] _ rfl⟩
  rw [Bool.eq_false_iff, Ne, hempty]
  decide

end FieldBridge.Code.Buffer
