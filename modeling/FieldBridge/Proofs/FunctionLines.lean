import FieldBridge.Code.Function
import FieldBridge.Proofs.BufferedText

/-!
# The lines of a mapping function

Whatever is written into a buffer stands in its text, line feeds included.  So the text of a
generated function is the join of its lines: a header, the declaration of the target, an empty
line, a block of assignments, the return, and a closing brace.  The block has one line for each
field mapping; without field mappings it has one for each field that both structs have, and is
left out when there is none.
-/

namespace FieldBridge.Code

section Lines

variable (options : Options) (source target : StructDescriptor)

/-- Whether the field `name` of a struct is an inline struct. -/
def hasInlineField (struct : StructDescriptor) (name : String) : Bool :=
  (struct.field? name).any (·.isInlineStruct)

/-- What a field mapping assigns.  Inline structs go through a function that is named for the
two fields. -/
def expression (mapping : FieldMapping) : String :=
  let value := options.sourceVar ++ "." ++ mapping.sourceField
  match mapping.transformer with
  | some transformer => transformer.callName ++ "(" ++ value ++ ")"
  | none =>
    if hasInlineField source mapping.sourceField && hasInlineField target mapping.targetField then
      "Map" ++ mapping.sourceField ++ "To" ++ mapping.targetField ++ "(" ++ value ++ ")"
    else value

def assignmentLine (written value : String) : String :=
  options.indent ++ options.targetVar ++ "." ++ written ++ " = " ++ value

/-- The names of the target's fields that the source has too. -/
def sharedNames : List String :=
  (target.fields.filter fun field =>
    field.name ≠ "" ∧ field.name ∈ source.fields.map (·.name)).map (·.name)

/-- Lines under a comment, with an empty line behind them. -/
def block (comment : String) (lines : List String) : List String :=
  (options.indent ++ comment) :: lines ++ [""]

def assignmentLines (mappings : List FieldMapping) : List String :=
  if mappings ≠ [] then
    block options "// Field mappings"
      (mappings.map fun mapping =>
        assignmentLine options mapping.targetField (expression options source target mapping))
  else if sharedNames source target ≠ [] then
    block options "// Auto-mapped fields with matching names"
      ((sharedNames source target).map fun name =>
        assignmentLine options name (options.sourceVar ++ "." ++ name))
  else []

/-- The lines in front of the closing brace. -/
def openLines (name : String) (mappings : List FieldMapping) : List String :=
  ["func " ++ name ++ "(" ++ options.sourceVar ++ " " ++ source.name ++ ") " ++ target.name ++
      " \x7b",
    options.indent ++ "var " ++ options.targetVar ++ " " ++ target.name,
    ""] ++
  assignmentLines options source target mappings ++
  [options.indent ++ "return " ++ options.targetVar]

def functionLines (name : String) (mappings : List FieldMapping) : List String :=
  openLines options source target name mappings ++ ["\x7d"]

end Lines

/-- An inline type is no identifier, because it has a brace. -/
theorem isIdentifier_eq_false_of_isInlineStruct {field : FieldDescriptor}
    (hinline : field.isInlineStruct = true) : isIdentifier field.type.toList = false := by
  have hbrace : '\x7b' ∈ field.type.toList := by
    simp only [FieldDescriptor.isInlineStruct, Bool.or_eq_true, List.isPrefixOf_iff_prefix]
      at hinline
    rcases hinline with hprefix | hprefix
    · exact hprefix.subset (by decide)
    · exact hprefix.subset (by decide)
  rw [Bool.eq_false_iff]
  intro hidentifier
  have hcontinues := continuesWord_of_isIdentifier hidentifier _ hbrace
  exact absurd hcontinues (by decide +kernel)

theorem name_of_field? {struct : StructDescriptor} {name : String} {field : FieldDescriptor}
    (hfield : struct.field? name = some field) : field.name = name := by
  simpa using List.find?_some hfield

theorem inlineFunctionName_eq {source target : FieldDescriptor}
    (hsource : source.isInlineStruct = true) (htarget : target.isInlineStruct = true) :
    inlineFunctionName source target = "Map" ++ source.name ++ "To" ++ target.name := by
  simp [inlineFunctionName, isIdentifier_eq_false_of_isInlineStruct hsource,
    isIdentifier_eq_false_of_isInlineStruct htarget]

theorem assignedValue_eq_expression (options : Options) (source target : StructDescriptor)
    (mapping : FieldMapping) :
    assignedValue options source target mapping = expression options source target mapping := by
  unfold assignedValue expression hasInlineField
  cases mapping.transformer with
  | some transformer => rfl
  | none =>
      cases hsource : source.field? mapping.sourceField with
      | none => simp
      | some sourceField =>
          cases htarget : target.field? mapping.targetField with
          | none => simp
          | some targetField =>
              by_cases hinline : sourceField.isInlineStruct = true ∧
                targetField.isInlineStruct = true
              · simp [hinline, inlineFunctionName_eq hinline.1 hinline.2, name_of_field? hsource,
                  name_of_field? htarget]
              · simp [hinline]

theorem hasField_iff {struct : StructDescriptor} {name : String} :
    struct.hasField name = true ↔ name ∈ struct.fields.map (·.name) := by
  simp [StructDescriptor.hasField, StructDescriptor.field?]

theorem commonFields_eq (source target : StructDescriptor) :
    commonFields source target = sharedNames source target := by
  unfold commonFields sharedNames
  rw [List.filter_map]
  congr 2
  funext field
  simp only [Function.comp_apply, Bool.decide_and, ← hasField_iff, Bool.decide_eq_true]

/-- Lines as they stand in a text, each with the line feed behind it. -/
def lineText (lines : List String) : List Char :=
  lines.flatMap fun line => line.toList ++ ['\n']

theorem toList_intercalate_append_singleton (lines : List String) (last : String) :
    ("\n".intercalate (lines ++ [last])).toList = lineText lines ++ last.toList := by
  induction lines with
  | nil => simp [lineText]
  | cons line lines ih =>
      rw [List.cons_append, String.intercalate_cons_of_ne_nil (by simp), String.toList_append, ih]
      simp [lineText]

section Writing

variable (options : Options) (source target : StructDescriptor)

/-- A writer adds a line, when it adds the line's text and keeps the indentation. -/
def AddsLine {α : Type} (write : Buffer → α → Buffer) (line : α → String) : Prop :=
  ∀ buffer x, buffer.indentUnit = options.indent.toList →
    (write buffer x).indentUnit = options.indent.toList ∧
      (write buffer x).text = buffer.text ++ ((line x).toList ++ ['\n'])

theorem addsLine_writeAssignment : AddsLine options (writeAssignment options source target)
    fun mapping =>
      assignmentLine options mapping.targetField (expression options source target mapping) := by
  intro buffer mapping hindent
  simp [writeAssignment, assignedValue_eq_expression, assignmentLine, hindent]

theorem addsLine_writeCommon : AddsLine options (writeCommon options) fun name =>
    assignmentLine options name (options.sourceVar ++ "." ++ name) := by
  intro buffer name hindent
  simp [writeCommon, assignmentLine, hindent]

variable {options} in
theorem AddsLine.text_block {α : Type} {write : Buffer → α → Buffer} {line : α → String}
    (hadds : AddsLine options write line) (comment : String) (xs : List α) {buffer : Buffer}
    (hindent : buffer.indentUnit = options.indent.toList) :
    (xs.foldl write (buffer.line 1 comment)).newline.indentUnit = options.indent.toList ∧
      (xs.foldl write (buffer.line 1 comment)).newline.text =
        buffer.text ++ lineText (block options comment (xs.map line)) := by
  obtain ⟨hunit, htext⟩ := Buffer.foldl_adds hadds xs (buffer.line 1 comment)
    (by rw [Buffer.indentUnit_line, hindent])
  rw [Buffer.indentUnit_newline, Buffer.text_newline, hunit, htext, Buffer.text_line, hindent]
  simp [lineText, block, List.flatMap_map]

theorem lines_writeAssignments (mappings : List FieldMapping) (buffer : Buffer)
    (hindent : buffer.indentUnit = options.indent.toList) :
    (writeAssignments options source target mappings buffer).indentUnit = options.indent.toList ∧
      (writeAssignments options source target mappings buffer).text =
        buffer.text ++ lineText (assignmentLines options source target mappings) := by
  unfold writeAssignments assignmentLines
  by_cases hmappings : mappings = []
  · rw [if_neg (by simp [hmappings]), if_neg (by simp [hmappings]), commonFields_eq]
    cases hshared : sharedNames source target with
    | nil => simp [hindent, lineText]
    | cons name names =>
        rw [if_pos (by simp)]
        exact (addsLine_writeCommon options).text_block _ _ hindent
  · rw [if_pos hmappings, if_pos hmappings]
    exact (addsLine_writeAssignment options source target).text_block _ _ hindent

theorem functionText_eq (name : String) (mappings : List FieldMapping) :
    functionText name options source target mappings =
      "\n".intercalate (functionLines options source target name mappings) := by
  apply String.toList_inj.1
  rw [functionLines, toList_intercalate_append_singleton]
  unfold functionText
  dsimp only
  rw [Buffer.finish_line, Buffer.text_writeLine, Buffer.text_indent, Buffer.indentUnit_writeLine,
    Buffer.indentUnit_indent,
    (lines_writeAssignments options source target mappings _ (by simp)).1,
    (lines_writeAssignments options source target mappings _ (by simp)).2]
  simp [openLines, lineText]

end Writing

/-- Between structs with names a function is generated, and its text is the join of its lines. -/
theorem generate_lines (source target : StructDescriptor) (hsource : source.name ≠ "")
    (htarget : target.name ≠ "") (mappings : List FieldMapping)
    (transformers : List Transformer) (options : Options) :
    (generate ⟨some source, some target, mappings⟩ transformers options).errors = [] ∧
    (generate ⟨some source, some target, mappings⟩ transformers options).code =
      "\n".intercalate (functionLines options source target
        (options.functionName.getD ("Map" ++ source.name ++ "To" ++ target.name)) mappings) ∧
    (generate ⟨some source, some target, mappings⟩ transformers options).code.toList.getLast? =
      some '\x7d' := by
  have hemit : ∀ name, emit name options source target mappings =
      .ok ("\n".intercalate (functionLines options source target name mappings)) := by
    intro name
    rw [emit, if_neg hsource, if_neg htarget, functionText_eq]
  have hunit : generate ⟨some source, some target, mappings⟩ transformers options =
      ⟨options.functionName.getD ("Map" ++ source.name ++ "To" ++ target.name),
        "\n".intercalate (functionLines options source target
          (options.functionName.getD ("Map" ++ source.name ++ "To" ++ target.name)) mappings),
        ImportSet.detect transformers, []⟩ := by
    simp only [generate, hemit]
  simp only [hunit, true_and]
  rw [functionLines, toList_intercalate_append_singleton]
  simp

def visitor : StructDescriptor where
  id := "a"
  name := "Visitor"
  fields := [.ofType "Age" "string", .ofType "Home" "struct \x7b...\x7d"]

def guest : StructDescriptor where
  id := "b"
  name := "Guest"
  fields := [.ofType "Home" "struct \x7b...\x7d", .ofType "Age" "int", .ofType "Room" "int"]

def toNumber : Transformer where
  id := "t"
  name := "String to Int"
  code := "func parse(s string) int \x7b return 0 \x7d"

theorem generate_lines_every_assignment :
    (generate ⟨some visitor, some guest, [⟨"Home", "Home", none⟩, ⟨"Age", "Age", some toNumber⟩,
        ⟨"unknown", "Room", none⟩]⟩ [] { indent := "\t" }).code =
      "\n".intercalate ["func MapVisitorToGuest(src Visitor) Guest \x7b", "\tvar target Guest", "",
        "\t// Field mappings", "\ttarget.Home = MapHomeToHome(src.Home)",
        "\ttarget.Age = parse(src.Age)", "\ttarget.Room = src.unknown", "", "\treturn target",
        "\x7d"] ∧
    (generate ⟨some visitor, some guest, []⟩ [] { indent := "\t" }).code =
      "\n".intercalate ["func MapVisitorToGuest(src Visitor) Guest \x7b", "\tvar target Guest", "",
        "\t// Auto-mapped fields with matching names", "\ttarget.Home = src.Home",
        "\ttarget.Age = src.Age", "", "\treturn target", "\x7d"] := by
  have hlines := fun mappings =>
    (generate_lines visitor guest (by decide) (by decide) mappings [] { indent := "\t" }).2.1
  exact ⟨(hlines _).trans (by decide +kernel), (hlines _).trans (by decide +kernel)⟩

end FieldBridge.Code
