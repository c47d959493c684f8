import FieldBridge.Proofs.Tiling

/-!
# Strings of either style

A value without a backquote can be written as a raw string, and as an interpreted one in
which backslashes, quotation marks, line feeds and tabs are escaped.  Both are read back as
the value, and where one of them stands as a lexeme in a text the other one can.
-/

namespace FieldBridge

namespace Lexeme

def escapeChar (c : Char) : List Char :=
  if c = '\\' then ['\\', '\\']
  else if c = '\x22' then ['\\', '\x22']
  else if c = '\n' then ['\\', 'n']
  else if c = '\t' then ['\\', 't']
  else [c]

/-- What stands between the quotation marks of an interpreted string with a given value. -/
def escape (value : List Char) : List Char :=
  value.flatMap escapeChar

/-- The value between backquotes. -/
def rawLiteral (value : List Char) : List Char :=
  '\x60' :: value ++ ['\x60']

/-- The escaped value between quotation marks. -/
def quotedLiteral (value : List Char) : List Char :=
  '\x22' :: escape value ++ ['\x22']

theorem text_rawString (value : List Char) : (rawString value true).text = rawLiteral value := rfl

theorem text_quotedString (value : List Char) :
    (quotedString (escape value) true).text = quotedLiteral value := rfl

theorem unescape_cons {c : Char} (hc : c ≠ '\\') (rest : List Char) :
    unescape (c :: rest) = c :: unescape rest := by
  conv_lhs => unfold unescape
  split <;> simp_all

theorem cutQuotedString_cons {c : Char} (hescape : c ≠ '\\') (hmark : c ≠ '\x22')
    (hline : c ≠ '\n') (rest : List Char) :
    cutQuotedString (c :: rest) = (cutQuotedString rest).cons c := by
  conv_lhs => unfold cutQuotedString
  split <;> simp_all

/-- A character is either escaped by a letter that stands for it, or stands for itself. -/
theorem escapeChar_cases (c : Char) :
    (∃ letter, escapeChar c = ['\\', letter] ∧
      ∀ rest, unescape ('\\' :: letter :: rest) = c :: unescape rest) ∨
    (escapeChar c = [c] ∧ c ≠ '\\' ∧ c ≠ '\x22' ∧ c ≠ '\n') := by
  unfold escapeChar
  by_cases hescape : c = '\\'
  · exact .inl ⟨'\\', by simp [hescape], fun rest => by simp [hescape, unescape]⟩
  by_cases hmark : c = '\x22'
  · exact .inl ⟨'\x22', by simp [hmark], fun rest => by simp [hmark, unescape]⟩
  by_cases hline : c = '\n'
  · exact .inl ⟨'n', by simp [hline], fun rest => by simp [hline, unescape]⟩
  by_cases htab : c = '\t'
  · exact .inl ⟨'t', by simp [htab], fun rest => by simp [htab, unescape]⟩
  · exact .inr ⟨by simp [hescape, hmark, hline, htab], hescape, hmark, hline⟩

/-- Escaping is undone exactly. -/
theorem unescape_escape (value : List Char) : unescape (escape value) = value := by
  induction value with
  | nil => rfl
  | cons c value ih =>
      unfold escape at ih ⊢
      rw [List.flatMap_cons]
      rcases escapeChar_cases c with ⟨letter, hchar, hunescape⟩ | ⟨hchar, hescape, _⟩
      · rw [hchar, List.cons_append, List.singleton_append, hunescape, ih]
      · rw [hchar, List.singleton_append, unescape_cons hescape, ih]

/-- An escaped value ends at the first quotation mark behind it. -/
theorem cutQuotedString_escape (value rest : List Char) :
    cutQuotedString (escape value ++ '\x22' :: rest) = ⟨escape value, true, rest⟩ := by
  induction value with
  | nil => rfl
  | cons c value ih =>
      unfold escape at ih ⊢
      rw [List.flatMap_cons, List.append_assoc]
      rcases escapeChar_cases c with ⟨letter, hchar, _⟩ | ⟨hchar, hescape, hmark, hline⟩
      · rw [hchar, List.cons_append, List.singleton_append, cutQuotedString, ih]
        rfl
      · rw [hchar, List.singleton_append, cutQuotedString_cons hescape hmark hline, ih]
        rfl

theorem cutRawString_append_mark {value : List Char} (hvalue : '\x60' ∉ value)
    (rest : List Char) : cutRawString (value ++ '\x60' :: rest) = ⟨value, true, rest⟩ := by
  induction value with
  | nil => rfl
  | cons c value ih =>
      obtain ⟨hc, hmore⟩ := List.ne_and_not_mem_of_not_mem_cons hvalue
      rw [List.cons_append, cutRawString, if_neg (Ne.symm hc), ih hmore]
      rfl

/-- The characters that strings begin with. -/
def IsMark (c : Char) : Prop :=
  c = '\x60' ∨ c = '\x22'

/-- What stands before a string stays as it is when another string takes its place. -/
theorem endsBefore_of_cut {c mark mark' : Char} {rest more : List Char}
    (hcut : (cut c rest).2 = mark :: more) (hmark : IsMark mark) (hmark' : IsMark mark')
    (next : List Char) : (cut c rest).1.endsBefore (mark' :: next) = true := by
  have hline : mark ≠ '\n' := by rcases hmark with rfl | rfl <;> decide
  have hword : Unicode.continuesWord mark' = false := by
    rcases hmark' with rfl | rfl <;> decide +kernel
  have hnumber : continuesNumber mark' = false := by rcases hmark' with rfl | rfl <;> decide
  have hopens : opensComment (mark' :: next) = false := by
    rcases hmark' with rfl | rfl <;> rfl
  cases leads c with
  | lineFeed _ hleads => rw [hleads]; rfl
  | blank hleads => rw [hleads]; rfl
  | rawString hleads =>
      rw [hleads] at hcut ⊢
      by_contra hopen
      rw [rest_of_open_cutRawString (by simpa [endsBefore] using hopen)] at hcut
      cases hcut
  | quotedString hleads =>
      rw [hleads] at hcut ⊢
      by_contra hopen
      have hstops := rest_of_open_cutQuotedString (by simpa [endsBefore] using hopen)
      exact hline (hstops mark (by rw [show (cutQuotedString rest).rest = _ from hcut]; rfl))
  | word hleads => rw [hleads]; simp [endsBefore, hword]
  | number hleads => rw [hleads]; simp [endsBefore, hnumber]
  | symbol hleads hslash => rw [hleads]; simp [endsBefore, hslash]
  | slash hslash =>
      subst hslash
      rw [cut_slash] at hcut ⊢
      split at hcut
      · next tail =>
        have hstops := List.head?_dropWhile_not (fun c : Char => decide (c ≠ '\n')) tail
        rw [show tail.dropWhile _ = _ from hcut] at hstops
        simp [hline] at hstops
      · next tail =>
        by_contra hopen
        rw [show (cutBlockComment tail).rest = [] from
          rest_of_open_cutBlockComment (by simpa [endsBefore] using hopen)] at hcut
        cases hcut
      · simp [endsBefore, hopens]

/-- The lexemes that are strings with a given value. -/
inductive Spells (value : List Char) : Lexeme → Prop where
  | raw (plain : '\x60' ∉ value) : Spells value (.rawString value true)
  | quoted : Spells value (.quotedString (escape value) true)

theorem Spells.exists_cut {value : List Char} {lexeme : Lexeme} (hspells : Spells value lexeme) :
    ∃ mark tail, lexeme.text = mark :: tail ∧ IsMark mark ∧
      ∀ after, cut mark (tail ++ after) = (lexeme, after) := by
  have hraw : Unicode.isWhiteSpace '\x60' = false := by decide +kernel
  have hquoted : Unicode.isWhiteSpace '\x22' = false := by decide +kernel
  cases hspells with
  | raw hplain =>
      refine ⟨'\x60', value ++ ['\x60'], rfl, .inl rfl, fun after => ?_⟩
      rw [List.append_assoc, List.singleton_append]
      unfold cut
      rw [if_neg (by decide), if_neg (by simp [hraw]), if_pos rfl, cutRawString_append_mark hplain]
  | quoted =>
      refine ⟨'\x22', escape value ++ ['\x22'], rfl, .inr rfl, fun after => ?_⟩
      rw [List.append_assoc, List.singleton_append]
      unfold cut
      rw [if_neg (by decide), if_neg (by simp [hquoted]), if_neg (by decide), if_pos rfl,
        cutQuotedString_escape]

theorem Spells.lexemes_append {value : List Char} {lexeme : Lexeme}
    (hspells : Spells value lexeme) (after : List Char) :
    lexemes (lexeme.text ++ after) = lexeme :: lexemes after := by
  obtain ⟨mark, tail, htext, _, hcut⟩ := hspells.exists_cut
  rw [htext, List.cons_append, lexemes, hcut]

end Lexeme

/-- Lexemes before a string stay the same when another string takes its place. -/
theorem lexemes_before_mark {lexs others : List Lexeme} {mark mark' : Char} {more : List Char}
    (hwhole : lexemes (lexs.flatMap Lexeme.text ++ mark :: more) = lexs ++ others)
    (hmark : Lexeme.IsMark mark) (hmark' : Lexeme.IsMark mark') (next : List Char) :
    lexemes (lexs.flatMap Lexeme.text ++ mark' :: next) = lexs ++ lexemes (mark' :: next) := by
  have hleft := (lexemes_of_append hwhole rfl).1
  rw [lexemes_append, hleft]
  intro last hlast
  rw [hleft] at hlast
  obtain ⟨init, rfl⟩ := List.getLast?_eq_some_iff.1 hlast
  rw [List.flatMap_append, List.append_assoc, List.append_assoc] at hwhole
  have hlastWhole := (lexemes_of_append hwhole rfl).2
  rw [List.flatMap_singleton, List.singleton_append] at hlastWhole
  have hmem : last ∈ lexemes ((init ++ [last]).flatMap Lexeme.text) := by
    rw [hleft]
    exact List.mem_append_right init List.mem_cons_self
  cases htext : last.text with
  | nil => exact absurd htext (text_ne_nil_of_mem_lexemes last hmem)
  | cons c tail =>
      rw [htext, List.cons_append, lexemes] at hlastWhole
      obtain ⟨rfl, _⟩ := List.cons.inj hlastWhole
      have hcut := Lexeme.text_cut c (tail ++ mark :: more)
      rw [htext, List.cons_append] at hcut
      exact Lexeme.endsBefore_of_cut (List.append_cancel_left (List.cons.inj hcut).2) hmark hmark'
        next

/-- Where a string stands in a text, another one with the same value can. -/
theorem lexemes_exchange {value before after : List Char} {lexeme other : Lexeme}
    (hspells : lexeme.Spells value) (hother : other.Spells value) {left right : List Lexeme}
    (hlexs : lexemes (before ++ lexeme.text ++ after) = left ++ lexeme :: right)
    (hleft : left.flatMap Lexeme.text = before) :
    lexemes (before ++ other.text ++ after) = left ++ other :: right := by
  subst hleft
  rw [List.append_assoc] at hlexs ⊢
  have hbehind := (lexemes_of_append hlexs rfl).2
  rw [hspells.lexemes_append] at hbehind
  have hafter := hother.lexemes_append after
  obtain ⟨mark, tail, htext, hmark, _⟩ := hspells.exists_cut
  obtain ⟨mark', tail', htext', hmark', _⟩ := hother.exists_cut
  rw [htext, List.cons_append] at hlexs
  rw [htext', List.cons_append] at hafter ⊢
  rw [lexemes_before_mark hlexs hmark hmark', hafter, (List.cons.inj hbehind).2]

end FieldBridge
