import FieldBridge.Declaration.Check
import FieldBridge.Proofs.WrittenTypes

/-!
# Written entries

The entries of a struct, one a line, with the lexemes that they are cut into and the
fields that they stand for.
-/

namespace FieldBridge

/-- What a line of a struct declares. -/
inductive FieldEntry where
  | plain (first : Identifier) (others : List Identifier) (type : TypeExpr)
      (tag : Option RawTag)
  | embedded (isPointer : Bool) (package : Option Identifier) (name : Identifier)
      (tag : Option RawTag)
  | inline (first : Identifier) (others : List Identifier) (entries : List FieldEntry)
      (tag : Option RawTag)

namespace FieldEntry

def typeWord : List Char := ['t', 'y', 'p', 'e']

def structWord : List Char := ['s', 't', 'r', 'u', 'c', 't']

def renderNames (first : Identifier) (others : List Identifier) : List Char :=
  first.text ++ others.flatMap fun name => ',' :: ' ' :: name.text

def lexsOfOthers (others : List Identifier) : List Lexeme :=
  others.flatMap fun name => [.symbol ',', .blank ' ', .word name.text]

def lexsOfNames (first : Identifier) (others : List Identifier) : List Lexeme :=
  .word first.text :: lexsOfOthers others

def renderTag : Option RawTag → List Char
  | none => []
  | some tag => ' ' :: '\x60' :: (tag.text ++ ['\x60'])

def lexsOfTag : Option RawTag → List Lexeme
  | none => []
  | some tag => [.blank ' ', .rawString tag.text true]

/-- The type that is embedded under a name. -/
def embeddedType (isPointer : Bool) (package : Option Identifier) (name : Identifier) :
    TypeExpr :=
  let named := match package with
    | none => .name name
    | some package => .qualified package name
  if isPointer then .pointer named else named

mutual

def render : FieldEntry → List Char
  | plain first others type tag =>
      renderNames first others ++ ' ' :: (type.render ++ (renderTag tag ++ ['\n']))
  | embedded isPointer package name tag =>
      (embeddedType isPointer package name).render ++ (renderTag tag ++ ['\n'])
  | inline first others entries tag =>
      renderNames first others ++ ' ' :: (structWord ++ ' ' :: '{' :: '\n' ::
        (renderAll entries ++ '}' :: (renderTag tag ++ ['\n'])))

def renderAll : List FieldEntry → List Char
  | [] => []
  | entry :: entries => entry.render ++ renderAll entries

end

mutual

def lexs : FieldEntry → List Lexeme
  | plain first others type tag =>
      lexsOfNames first others ++ .blank ' ' :: (type.lexs ++ (lexsOfTag tag ++ [.lineFeed]))
  | embedded isPointer package name tag =>
      (embeddedType isPointer package name).lexs ++ (lexsOfTag tag ++ [.lineFeed])
  | inline first others entries tag =>
      lexsOfNames first others ++ .blank ' ' :: .word structWord :: .blank ' ' :: .symbol '{' ::
        .lineFeed :: (lexsOfAll entries ++ .symbol '}' :: (lexsOfTag tag ++ [.lineFeed]))

def lexsOfAll : List FieldEntry → List Lexeme
  | [] => []
  | entry :: entries => entry.lexs ++ lexsOfAll entries

end

/-- A field of a written type.  Its flags tell how the type begins. -/
def typedField (type : TypeExpr) (name : Identifier) : FieldDescriptor where
  name := String.ofList name.text
  type := String.ofList type.render
  isPointer := type.isPointer
  isSlice := type.isSlice
  isMap := type.isMap

/-- A field that is an inline struct, whose own fields are not told. -/
def inlineField (name : Identifier) : FieldDescriptor where
  name := String.ofList name.text
  type := "struct \x7b...\x7d"

def tagged (tag : Option RawTag) (field : FieldDescriptor) : FieldDescriptor :=
  match tag with
  | none => field
  | some tag => field.withTag (String.ofList tag.text)

/-- The fields that an entry declares: one for every name of the entry itself. -/
def fields : FieldEntry → List FieldDescriptor
  | plain first others type tag =>
      (first :: others).map fun name => tagged tag (typedField type name)
  | embedded isPointer package name tag =>
      [tagged tag (typedField (embeddedType isPointer package name) name)]
  | inline first others _ tag =>
      (first :: others).map fun name => tagged tag (inlineField name)

end FieldEntry

theorem lexemes_cons_lineFeed (rest : List Char) :
    lexemes ('\n' :: rest) = .lineFeed :: lexemes rest := by
  have hcut : Lexeme.cut '\n' rest = (.lineFeed, rest) := rfl
  rw [lexemes, hcut]

theorem RawTag.lexemes_append (tag : RawTag) (rest : List Char) :
    lexemes ('\x60' :: (tag.text ++ '\x60' :: rest)) =
      .rawString tag.text true :: lexemes rest := by
  have hraw : ∀ text : List Char, '\x60' ∉ text →
      Lexeme.cutRawString (text ++ '\x60' :: rest) = ⟨text, true, rest⟩ := by
    intro text htext
    induction text with
    | nil => rfl
    | cons c text ih =>
        simp only [List.mem_cons, not_or] at htext
        rw [List.cons_append, Lexeme.cutRawString, if_neg (Ne.symm htext.1), ih htext.2]
        rfl
  have hcut : ∀ text, Lexeme.cut '\x60' text =
      (.rawString (Lexeme.cutRawString text).body (Lexeme.cutRawString text).closed,
        (Lexeme.cutRawString text).rest) := fun _ => rfl
  rw [lexemes, hcut, hraw tag.text tag.noBackquote]

namespace FieldEntry

theorem lexemes_renderNames (first : Identifier) (others : List Identifier) {rest : List Char}
    (hrest : Breaks rest) :
    lexemes (renderNames first others ++ rest) = lexsOfNames first others ++ lexemes rest := by
  have hothers : Breaks (others.flatMap (fun name => ',' :: ' ' :: name.text) ++ rest) := by
    cases others with
    | nil => exact hrest
    | cons => exact breaks_of_mem (by decide) _
  rw [renderNames, lexsOfNames, List.append_assoc, first.lexemes_append hothers, List.cons_append]
  clear hothers
  congr 1
  unfold lexsOfOthers
  induction others with
  | nil => rfl
  | cons name others ih =>
      have hothers : Breaks (others.flatMap (fun name => ',' :: ' ' :: name.text) ++ rest) := by
        cases others with
        | nil => exact hrest
        | cons => exact breaks_of_mem (by decide) _
      simp only [List.flatMap_cons, List.cons_append, List.append_assoc, List.nil_append]
      rw [lexemes_cons_symbol (fun _ => rfl), lexemes_cons_blank, name.lexemes_append hothers, ih]

theorem lexemes_renderTag (tag : Option RawTag) (rest : List Char) :
    lexemes (renderTag tag ++ '\n' :: rest) = lexsOfTag tag ++ .lineFeed :: lexemes rest := by
  cases tag with
  | none => exact lexemes_cons_lineFeed rest
  | some tag =>
      simp only [renderTag, lexsOfTag, List.cons_append, List.append_assoc, List.nil_append]
      rw [lexemes_cons_blank, tag.lexemes_append, lexemes_cons_lineFeed]

theorem breaks_renderTag (tag : Option RawTag) (rest : List Char) :
    Breaks (renderTag tag ++ '\n' :: rest) := by
  cases tag with
  | none => exact breaks_of_mem (by decide) rest
  | some tag => exact breaks_of_mem (by decide) _

mutual

theorem lexemes_render : (entry : FieldEntry) → (rest : List Char) →
    lexemes (entry.render ++ rest) = entry.lexs ++ lexemes rest
  | plain first others type tag, rest => by
      simp only [render, lexs, List.append_assoc, List.cons_append, List.nil_append]
      rw [lexemes_renderNames first others (breaks_of_mem (by decide) _), lexemes_cons_blank,
        type.lexemes_render (breaks_renderTag tag rest), lexemes_renderTag]
  | embedded isPointer package name tag, rest => by
      simp only [render, lexs, List.append_assoc, List.cons_append, List.nil_append]
      rw [TypeExpr.lexemes_render _ (breaks_renderTag tag rest), lexemes_renderTag]
  | inline first others entries tag, rest => by
      simp only [render, lexs, List.append_assoc, List.cons_append, List.nil_append]
      rw [lexemes_renderNames first others (breaks_of_mem (by decide) _), lexemes_cons_blank,
        lexemes_keyword (by decide +kernel) (breaks_of_mem (by decide) _), lexemes_cons_blank,
        lexemes_cons_symbol (fun _ => rfl), lexemes_cons_lineFeed, lexemes_renderAll,
        lexemes_cons_symbol (fun _ => rfl), lexemes_renderTag]

theorem lexemes_renderAll : (entries : List FieldEntry) → (rest : List Char) →
    lexemes (renderAll entries ++ rest) = lexsOfAll entries ++ lexemes rest
  | [], rest => rfl
  | entry :: entries, rest => by
      rw [renderAll, lexsOfAll, List.append_assoc, lexemes_render entry, lexemes_renderAll entries,
        List.append_assoc]

end

end FieldEntry

end FieldBridge
