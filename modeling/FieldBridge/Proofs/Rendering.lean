import FieldBridge.Descriptor
import FieldBridge.Identifier
import FieldBridge.Proofs.Lexing
import Mathlib.Data.List.TakeWhile

/-!
# Structs as they are written

A struct is written one entry a line, with single blanks.  An entry gives names a type,
embeds a type under its own name, or gives names an inline struct with entries of its
own.  Beside the text of each form stand the lexemes that the text is cut into.
-/

namespace FieldBridge

structure Identifier where
  text : List Char
  isIdentifier : isIdentifier text = true

/-- The length of an array type: a constant or a number. -/
structure ArrayLength where
  text : List Char
  isLength : isIdentifier text = true ∨
    ∃ c rest, text = c :: rest ∧ c.isDigit = true ∧ rest.all Lexeme.continuesNumber = true

/-- What stands between the backquotes of a tag. -/
structure RawTag where
  text : List Char
  noBackquote : '\x60' ∉ text

/-- The types that a field may be given. -/
inductive TypeExpr where
  | name (name : Identifier)
  | qualified (package name : Identifier)
  | pointer (type : TypeExpr)
  | slice (type : TypeExpr)
  | array (length : ArrayLength) (type : TypeExpr)
  | map (key value : TypeExpr)
  | chan (type : TypeExpr)
  | func (arguments : List TypeExpr) (result : TypeExpr)
  | interface

namespace TypeExpr

def mapWord : List Char := ['m', 'a', 'p']

def chanWord : List Char := ['c', 'h', 'a', 'n']

def funcWord : List Char := ['f', 'u', 'n', 'c']

def interfaceWord : List Char := ['i', 'n', 't', 'e', 'r', 'f', 'a', 'c', 'e']

mutual

def render : TypeExpr → List Char
  | name identifier => identifier.text
  | qualified package identifier => package.text ++ '.' :: identifier.text
  | pointer type => '*' :: type.render
  | slice type => '[' :: ']' :: type.render
  | array length type => '[' :: (length.text ++ ']' :: type.render)
  | map key value => mapWord ++ '[' :: (key.render ++ ']' :: value.render)
  | chan type => chanWord ++ ' ' :: type.render
  | func arguments result =>
      funcWord ++ '(' :: (renderArguments arguments ++ ')' :: ' ' :: result.render)
  | interface => interfaceWord ++ ['\x7b', '\x7d']

def renderArguments : List TypeExpr → List Char
  | [] => []
  | type :: types => type.render ++ renderFurther types

/-- Arguments behind the first one, each after a comma. -/
def renderFurther : List TypeExpr → List Char
  | [] => []
  | type :: types => ',' :: ' ' :: (type.render ++ renderFurther types)

end

mutual

def lexs : TypeExpr → List Lexeme
  | name identifier => [.word identifier.text]
  | qualified package identifier => [.word package.text, .symbol '.', .word identifier.text]
  | pointer type => .symbol '*' :: type.lexs
  | slice type => .symbol '[' :: .symbol ']' :: type.lexs
  | array length type => .symbol '[' :: (lexemes length.text ++ .symbol ']' :: type.lexs)
  | map key value => .word mapWord :: .symbol '[' :: (key.lexs ++ .symbol ']' :: value.lexs)
  | chan type => .word chanWord :: .blank ' ' :: type.lexs
  | func arguments result =>
      .word funcWord :: .symbol '(' ::
        (lexsOfArguments arguments ++ .symbol ')' :: .blank ' ' :: result.lexs)
  | interface => [.word interfaceWord, .symbol '\x7b', .symbol '\x7d']

def lexsOfArguments : List TypeExpr → List Lexeme
  | [] => []
  | type :: types => type.lexs ++ lexsOfFurther types

def lexsOfFurther : List TypeExpr → List Lexeme
  | [] => []
  | type :: types => .symbol ',' :: .blank ' ' :: (type.lexs ++ lexsOfFurther types)

end

/-- Whether a type is written with a leading star, as a slice, or as a map. -/
def isPointer : TypeExpr → Bool
  | pointer _ => true
  | _ => false

def isSlice : TypeExpr → Bool
  | slice _ => true
  | _ => false

def isMap : TypeExpr → Bool
  | map _ _ => true
  | _ => false

end TypeExpr

/-- No word goes on into the text. -/
def Breaks (text : List Char) : Prop :=
  text.head?.all (!Unicode.continuesWord ·) = true

/-- The symbols and blanks that a struct is written with next to a word. -/
def breaks : List Char :=
  ['.', '[', ']', '\x7b', '\x7d', '(', ')', ',', ' ', '\n', '\x60']

theorem breaks_of_mem {c : Char} (hc : c ∈ breaks) (text : List Char) : Breaks (c :: text) := by
  have hbreaks : breaks.all (!Unicode.continuesWord ·) = true := by decide +kernel
  simpa [Breaks] using List.all_eq_true.1 hbreaks c hc

theorem lexemes_of_isIdentifier {text : List Char} (hword : isIdentifier text = true) :
    lexemes text = [.word text] := by
  cases text with
  | nil => cases hword
  | cons c rest =>
      simp only [isIdentifier, Bool.and_eq_true, List.all_eq_true] at hword
      obtain ⟨hstart, hrest⟩ := hword
      have hblank := Unicode.isWhiteSpace_of_startsWord hstart
      have hne : ∀ d, Unicode.startsWord d = false → c ≠ d := by
        rintro d hd rfl
        rw [hd] at hstart
        cases hstart
      have hcut : Lexeme.cut c rest =
          (.word (c :: rest.takeWhile Unicode.continuesWord),
            rest.dropWhile Unicode.continuesWord) := by
        unfold Lexeme.cut
        rw [if_neg (hne '\n' (by decide +kernel)), if_neg (by simp [hblank]),
          if_neg (hne '\x60' (by decide +kernel)), if_neg (hne '\x22' (by decide +kernel)),
          if_pos hstart]
      rw [lexemes, hcut, List.takeWhile_eq_self_iff.2 hrest, List.dropWhile_eq_nil_iff.2 hrest,
        lexemes]

theorem exists_digit {c : Char} (hdigit : c.isDigit = true) :
    ∃ digit ∈ List.range 10, c = Char.ofNat (48 + digit) := by
  have hbounds : 48 ≤ c.toNat ∧ c.toNat ≤ 57 := by
    simpa [Char.isDigit, UInt32.le_iff_toNat_le] using hdigit
  refine ⟨c.toNat - 48, List.mem_range.2 (by omega), ?_⟩
  rw [Nat.add_sub_cancel' hbounds.1, Char.ofNat_toNat]

theorem lexemes_of_isDigit {c : Char} {rest : List Char} (hdigit : c.isDigit = true)
    (hrest : rest.all Lexeme.continuesNumber = true) :
    lexemes (c :: rest) = [.number (c :: rest)] := by
  have hdigits : ∀ digit ∈ List.range 10, Char.ofNat (48 + digit) ≠ '\n' ∧
      Unicode.isWhiteSpace (Char.ofNat (48 + digit)) = false ∧
      Char.ofNat (48 + digit) ≠ '\x60' ∧ Char.ofNat (48 + digit) ≠ '\x22' ∧
      Unicode.startsWord (Char.ofNat (48 + digit)) = false := by
    decide +kernel
  obtain ⟨digit, hmem, hc⟩ := exists_digit hdigit
  obtain ⟨hline, hblank, hraw, hquoted, hword⟩ := hc ▸ hdigits digit hmem
  have hcut : Lexeme.cut c rest = (.number (c :: rest.takeWhile Lexeme.continuesNumber),
      rest.dropWhile Lexeme.continuesNumber) := by
    unfold Lexeme.cut
    rw [if_neg hline, if_neg (by simp [hblank]), if_neg hraw, if_neg hquoted,
      if_neg (by simp [hword]), if_pos hdigit]
  rw [List.all_eq_true] at hrest
  rw [lexemes, hcut, List.takeWhile_eq_self_iff.2 hrest, List.dropWhile_eq_nil_iff.2 hrest,
    lexemes]

theorem ArrayLength.exists_lexeme (length : ArrayLength) :
    ∃ lexeme, lexemes length.text = [lexeme] ∧
      ((∃ name, lexeme.kind? = some (.ident name)) ∨
        ∃ digits, lexeme.kind? = some (.number digits)) ∧
      ∀ text, lexeme.endsBefore (']' :: text) = true := by
  rcases length.isLength with hword | ⟨c, rest, htext, hdigit, hrest⟩
  · refine ⟨_, lexemes_of_isIdentifier hword, .inl ⟨_, rfl⟩, ?_⟩
    exact fun text => @breaks_of_mem ']' (by decide) text
  · rw [htext]
    exact ⟨_, lexemes_of_isDigit hdigit hrest, .inr ⟨_, rfl⟩, fun _ => rfl⟩

theorem Identifier.exists_head (identifier : Identifier) :
    ∃ c rest, identifier.text = c :: rest ∧ '*' ≠ c ∧ '[' ≠ c ∧ ']' ≠ c := by
  have hword := continuesWord_of_isIdentifier identifier.isIdentifier
  cases htext : identifier.text with
  | nil =>
      have hidentifier := identifier.isIdentifier
      rw [htext] at hidentifier
      cases hidentifier
  | cons c rest =>
      have hc := hword c (by rw [htext]; exact List.mem_cons_self)
      have hne : ∀ d, Unicode.continuesWord d = false → d ≠ c := by
        rintro d hd rfl
        rw [hd] at hc
        cases hc
      exact ⟨c, rest, rfl, hne '*' (by decide +kernel), hne '[' (by decide +kernel),
        hne ']' (by decide +kernel)⟩

theorem ArrayLength.exists_head (length : ArrayLength) :
    ∃ c rest, length.text = c :: rest ∧ ']' ≠ c := by
  rcases length.isLength with hword | ⟨c, rest, htext, hdigit, _⟩
  · obtain ⟨c, rest, htext, _, _, hsquare⟩ := Identifier.exists_head ⟨length.text, hword⟩
    exact ⟨c, rest, htext, hsquare⟩
  · refine ⟨c, rest, htext, ?_⟩
    rintro rfl
    cases hdigit

theorem lexemes_append_of_singleton {text rest : List Char} {lexeme : Lexeme}
    (htext : lexemes text = [lexeme]) (hends : lexeme.endsBefore rest = true) :
    lexemes (text ++ rest) = lexeme :: lexemes rest := by
  rw [lexemes_append, htext, List.singleton_append]
  intro other hlast
  rw [htext] at hlast
  obtain rfl : lexeme = other := Option.some.inj hlast
  exact hends

theorem Identifier.lexemes_append (identifier : Identifier) {rest : List Char}
    (hrest : Breaks rest) :
    lexemes (identifier.text ++ rest) = .word identifier.text :: lexemes rest :=
  lexemes_append_of_singleton (lexemes_of_isIdentifier identifier.isIdentifier)
    hrest

theorem lexemes_cons_symbol {c : Char} (hcut : ∀ rest, Lexeme.cut c rest = (.symbol c, rest))
    (rest : List Char) : lexemes (c :: rest) = .symbol c :: lexemes rest := by
  rw [lexemes, hcut]

theorem lexemes_cons_blank (rest : List Char) :
    lexemes (' ' :: rest) = .blank ' ' :: lexemes rest := by
  have hcut : Lexeme.cut ' ' rest = (.blank ' ', rest) := rfl
  rw [lexemes, hcut]

theorem lexemes_keyword {text rest : List Char} (hword : isIdentifier text = true)
    (hrest : Breaks rest) : lexemes (text ++ rest) = .word text :: lexemes rest :=
  lexemes_append_of_singleton (lexemes_of_isIdentifier hword) hrest

namespace TypeExpr

mutual

theorem lexemes_render : (type : TypeExpr) → {rest : List Char} → Breaks rest →
    lexemes (type.render ++ rest) = type.lexs ++ lexemes rest
  | name identifier, rest, hrest => by
      simp only [render, lexs, List.cons_append, List.nil_append]
      rw [identifier.lexemes_append hrest]
  | qualified package identifier, rest, hrest => by
      simp only [render, lexs, List.append_assoc, List.cons_append, List.nil_append]
      rw [package.lexemes_append (breaks_of_mem (by decide) _),
        lexemes_cons_symbol (fun _ => rfl), identifier.lexemes_append hrest]
  | pointer type, rest, hrest => by
      simp only [render, lexs, List.cons_append]
      rw [lexemes_cons_symbol (fun _ => rfl), lexemes_render type hrest]
  | slice type, rest, hrest => by
      simp only [render, lexs, List.cons_append]
      rw [lexemes_cons_symbol (fun _ => rfl), lexemes_cons_symbol (fun _ => rfl),
        lexemes_render type hrest]
  | array length type, rest, hrest => by
      obtain ⟨lexeme, hlength, _, hends⟩ := length.exists_lexeme
      simp only [render, lexs, List.append_assoc, List.cons_append, hlength, List.nil_append]
      rw [lexemes_cons_symbol (fun _ => rfl), lexemes_append_of_singleton hlength
        (hends _), lexemes_cons_symbol (fun _ => rfl),
        lexemes_render type hrest]
  | map key value, rest, hrest => by
      simp only [render, lexs, List.append_assoc, List.cons_append]
      rw [lexemes_keyword (by decide +kernel) (breaks_of_mem (by decide) _),
        lexemes_cons_symbol (fun _ => rfl), lexemes_render key (breaks_of_mem (by decide) _),
        lexemes_cons_symbol (fun _ => rfl), lexemes_render value hrest]
  | chan type, rest, hrest => by
      simp only [render, lexs, List.append_assoc, List.cons_append]
      rw [lexemes_keyword (by decide +kernel) (breaks_of_mem (by decide) _), lexemes_cons_blank,
        lexemes_render type hrest]
  | func arguments result, rest, hrest => by
      simp only [render, lexs, List.append_assoc, List.cons_append]
      rw [lexemes_keyword (by decide +kernel) (breaks_of_mem (by decide) _),
        lexemes_cons_symbol (fun _ => rfl),
        lexemes_renderArguments arguments (breaks_of_mem (by decide) _),
        lexemes_cons_symbol (fun _ => rfl), lexemes_cons_blank, lexemes_render result hrest]
  | interface, rest, hrest => by
      simp only [render, lexs, List.append_assoc, List.cons_append, List.nil_append]
      rw [lexemes_keyword (by decide +kernel) (breaks_of_mem (by decide) _),
        lexemes_cons_symbol (fun _ => rfl), lexemes_cons_symbol (fun _ => rfl)]

theorem lexemes_renderArguments : (types : List TypeExpr) → {rest : List Char} → Breaks rest →
    lexemes (renderArguments types ++ rest) = lexsOfArguments types ++ lexemes rest
  | [], rest, hrest => rfl
  | type :: types, rest, hrest => by
      have hfurther : Breaks (renderFurther types ++ rest) := by
        cases types with
        | nil => exact hrest
        | cons => exact breaks_of_mem (by decide) _
      rw [renderArguments, lexsOfArguments, List.append_assoc, lexemes_render type hfurther,
        lexemes_renderFurther types hrest, List.append_assoc]

theorem lexemes_renderFurther : (types : List TypeExpr) → {rest : List Char} → Breaks rest →
    lexemes (renderFurther types ++ rest) = lexsOfFurther types ++ lexemes rest
  | [], rest, hrest => rfl
  | type :: types, rest, hrest => by
      have hfurther : Breaks (renderFurther types ++ rest) := by
        cases types with
        | nil => exact hrest
        | cons => exact breaks_of_mem (by decide) _
      simp only [renderFurther, lexsOfFurther, List.append_assoc, List.cons_append]
      rw [lexemes_cons_symbol (fun _ => rfl), lexemes_cons_blank, lexemes_render type hfurther,
        lexemes_renderFurther types hrest]

end

end TypeExpr

end FieldBridge
