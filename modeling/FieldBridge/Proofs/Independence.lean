import FieldBridge.Proofs.Standalone

/-!
# Declarations side by side

Texts that stand alone may be joined by line feeds.  Each of them then declares what it
declares alone, with the same findings about it: neither the texts before it nor the
texts behind it have a part in that.
-/

namespace FieldBridge

namespace Span

theorem text?_shift {span other : Span} {before text after part : List Char}
    (htext : span.text? text = some part)
    (hstart : other.start.byte = Text.byteLength before + span.start.byte)
    (hstop : other.stop.byte = Text.byteLength before + span.stop.byte) :
    other.text? (before ++ text ++ after) = some part := by
  rw [Span.text?, hstart, hstop]
  exact Text.slice?_shift htext before after

end Span

namespace StructDescriptor

open Declaration

/-- What a descriptor says, without its id and without the places of its findings. -/
def content (descriptor : StructDescriptor) : StructDescriptor :=
  { descriptor with
    id := ""
    diagnostics := [] }

theorem content_ofDeclaration {moved : Nat → Nat → Prop} {declaration other : Declaration}
    (hsame : declaration.Same moved other) (id id' sourceText : String) :
    (ofDeclaration id' sourceText other).content =
      (ofDeclaration id sourceText declaration).content := by
  have hunplaced := congrArg content (ofDeclaration_unplaced hsame "" sourceText)
  exact hunplaced

/-- What is said of a declaration in a source. -/
def contentIn (source : List Char) (declaration : Declaration) : StructDescriptor :=
  (ofDeclaration "" (declarationText source declaration) declaration).content

theorem content_readMany (source : String) (supply : IdSupply) :
    (readMany source supply).1.map content =
      (Declaration.all source.toList).map (contentIn source.toList) :=
  map_ofDeclarations (fun _ _ => rfl) supply _

/-- A declaration is described by the same text wherever its own text stands. -/
theorem contentIn_append {text before after : List Char} {declaration other : Declaration}
    (hmem : declaration ∈ Declaration.all text)
    (hsame : SameClosed (Token.ShiftedBy Position.start.byte (Position.start.after before).byte)
      declaration other) :
    contentIn (before ++ text ++ after) other = contentIn text declaration := by
  obtain ⟨hdeclaration, hgrouped, hclosed⟩ := hsame
  obtain ⟨_, _, _, hsome, _⟩ := first?_declarationText hmem
  obtain ⟨part, hpart⟩ := Option.isSome_iff_exists.1 hsome
  have hshift : ∀ {byte byte' : Nat}, Token.ShiftedBy Position.start.byte
      (Position.start.after before).byte byte byte' → byte' = Text.byteLength before + byte := by
    intro byte byte' hmoved
    unfold Token.ShiftedBy at hmoved
    rw [Position.after_byte] at hmoved
    omega
  have htext : declarationText (before ++ text ++ after) other =
      declarationText text declaration := by
    rw [declarationText, declarationText, hpart, hgrouped, Span.text?_shift hpart
      (hshift hdeclaration.start_moved) (hshift hdeclaration.stop_moved)]
  rw [contentIn, htext, content_ofDeclaration hdeclaration]
  rfl

theorem map_contentIn_append {text before after : List Char} {found others : List Declaration}
    (hsame : List.Forall₂ (SameClosed (Token.ShiftedBy Position.start.byte
      (Position.start.after before).byte)) found others)
    (hmem : ∀ declaration ∈ found, declaration ∈ Declaration.all text) :
    others.map (contentIn (before ++ text ++ after)) = found.map (contentIn text) := by
  induction hsame with
  | nil => rfl
  | cons hsame _ ih =>
      rw [List.map_cons, List.map_cons, contentIn_append (hmem _ List.mem_cons_self) hsame,
        ih fun declaration hdeclaration => hmem declaration (List.mem_cons_of_mem _ hdeclaration)]

end StructDescriptor

namespace Declaration

/-- A text that may be put among others: its tokens stand alone, and no comment and no
string runs on behind it. -/
def StandsAlone (text : List Char) : Prop :=
  Standalone (Token.scan text) ∧ ∀ lexeme ∈ lexemes text, lexeme.isTerminated = true

open StructDescriptor in
/-- Behind a text that stands alone a search goes on as if the text were not there. -/
theorem StandsAlone.map_allFrom {text : List Char} (htext : StandsAlone text)
    {lexs : List Lexeme} (hlexs : ∀ lexeme, lexs.head? = some lexeme → lexeme = .lineFeed)
    (before after : List Char) (finish : Position) :
    (allFrom finish .file (Token.place (Position.start.after before)
        (lexemes text ++ lexs))).map (contentIn (before ++ text ++ after)) =
      (all text).map (contentIn text) ++
        (allFrom finish .file (Token.place (Position.start.after (before ++ text)) lexs)).map
          (contentIn (before ++ text ++ after)) := by
  have hplace : Token.place (Position.start.after before) (lexemes text ++ lexs) =
      Token.place (Position.start.after before) (lexemes text) ++
        Token.place (Position.start.after (before ++ text)) lexs := by
    rw [Token.place_append, flatMap_text_lexemes, Position.after_append]
  have hright : ∀ token,
      (Token.place (Position.start.after (before ++ text)) lexs).head? = some token →
        token.isWord "struct" = false := by
    cases lexs with
    | nil => simp [Token.place]
    | cons lexeme lexs =>
        obtain rfl := hlexs lexeme rfl
        intro token hhead
        obtain rfl := Option.some.inj hhead
        rfl
  have hall : Alike (Token.ShiftedBy Position.start.byte (Position.start.after before).byte) []
      (Token.place (Position.start.after (before ++ text)) lexs) (Token.scan text ++ [])
      (Token.place (Position.start.after before) (lexemes text ++ lexs)) := by
    rw [hplace]
    exact Token.alike_place (Nat.add_comm _ _) .none (lexemes text) [] _
  obtain ⟨found, found', hfound, hfound', hsame⟩ := htext.1.allFrom (by simp) hright
    (by
      rw [List.append_nil]
      exact Token.place_ne_eof .start (lexemes text))
    (Token.place_ne_eof _ _) hall (Position.start.after text) finish
  rw [List.append_nil, allFrom_nil, List.append_nil] at hfound
  have hmem : ∀ declaration ∈ found, declaration ∈ all text := by
    intro declaration hdeclaration
    rwa [all, hfound]
  rw [hfound', List.map_append, map_contentIn_append hsame hmem, all, hfound]

open StructDescriptor in
theorem map_allFrom_intercalate (texts : List (List Char))
    (htexts : ∀ text ∈ texts, StandsAlone text) (before : List Char) (finish : Position) :
    (allFrom finish .file (Token.place (Position.start.after before)
        (lexemes (['\n'].intercalate texts)))).map
        (contentIn (before ++ ['\n'].intercalate texts)) =
      texts.flatMap fun text => (all text).map (contentIn text) := by
  induction texts generalizing before with
  | nil =>
      rw [List.intercalate_nil, lexemes, Token.place, allFrom_nil]
      rfl
  | cons text texts ih =>
      have htext := htexts text List.mem_cons_self
      have hrest := ih fun other hother => htexts other (List.mem_cons_of_mem text hother)
      cases texts with
      | nil =>
          have halone := @StandsAlone.map_allFrom text htext [] (by simp) before [] finish
          simp only [List.append_nil, Token.place, allFrom_nil, List.map_nil] at halone
          rw [List.intercalate_singleton, halone, List.flatMap_cons, List.flatMap_nil,
            List.append_nil]
      | cons next texts =>
          generalize hjoined : ['\n'].intercalate (next :: texts) = joined at hrest
          have hwhole : ['\n'].intercalate (text :: next :: texts) = text ++ '\n' :: joined := by
            rw [List.intercalate_cons_cons, hjoined, List.append_assoc]
            rfl
          have hskip : allFrom finish .file
              (Token.place (Position.start.after (before ++ text)) (.lineFeed :: lexemes joined)) =
              allFrom finish .file (Token.place (Position.start.after (before ++ text ++ ['\n']))
                (lexemes joined)) := by
            rw [Token.place_cons_some rfl, Position.after_append _ (before ++ text)]
            exact allFrom_congr (next?_file_skip rfl)
          have hsplit : before ++ text ++ '\n' :: joined = before ++ text ++ ['\n'] ++ joined := by
            simp
          have hfirst := @StandsAlone.map_allFrom text htext (.lineFeed :: lexemes joined) (by simp)
            before ('\n' :: joined) finish
          rw [hskip, hsplit, hrest] at hfirst
          rw [hwhole, lexemes_append_lineFeed htext.2, ← List.append_assoc, hsplit, hfirst]
          rfl

end Declaration

namespace StructDescriptor

open Declaration

/-- Texts that stand alone, joined by line feeds, declare what each of them declares. -/
theorem readMany_intercalate (texts : List String)
    (htexts : ∀ text ∈ texts, StandsAlone text.toList) (supply : IdSupply)
    (supplies : String → IdSupply) :
    (readMany ("\n".intercalate texts) supply).1.map content =
      texts.flatMap fun text => (readMany text (supplies text)).1.map content := by
  have hjoined := map_allFrom_intercalate (texts.map String.toList)
    (by
      intro text htext
      obtain ⟨source, hsource, rfl⟩ := List.mem_map.1 htext
      exact htexts source hsource) []
    (Position.start.after ("\n".intercalate texts).toList)
  have hsource : ("\n".intercalate texts).toList =
      ['\n'].intercalate (texts.map String.toList) := by
    rw [String.toList_intercalate]
    rfl
  have halone : ∀ text ∈ texts, (readMany text (supplies text)).1.map content =
      (Declaration.all text.toList).map (contentIn text.toList) :=
    fun text _ => content_readMany text (supplies text)
  rw [← hsource, List.nil_append, List.flatMap_map] at hjoined
  rw [content_readMany, List.flatMap_congr halone, ← hjoined]
  rfl

theorem readMany_intercalate_struct_group_other :
    (readMany ("\n".intercalate ["type A struct\x7b\x7d", "type (B struct\x7b\x7d)", "type C int"])
        .sequential).1.map content =
      ["type A struct\x7b\x7d", "type (B struct\x7b\x7d)", "type C int"].flatMap fun text =>
        (readMany text .sequential).1.map content := by
  have hstruct : Token.scan "type A struct\x7b\x7d".toList =
      ([] ++ ⟨.ident "type", "type", ⟨⟨0, 0, 0⟩, ⟨4, 0, 4⟩⟩⟩ :: ([] ++
        ⟨.ident "A", "A", ⟨⟨5, 0, 5⟩, ⟨6, 0, 6⟩⟩⟩ ::
        ⟨.ident "struct", "struct", ⟨⟨7, 0, 7⟩, ⟨13, 0, 13⟩⟩⟩ :: ([] ++
        [⟨.punct '{', "\x7b", ⟨⟨13, 0, 13⟩, ⟨14, 0, 14⟩⟩⟩]))) ++
        ([] ++ ⟨.punct '}', "\x7d", ⟨⟨14, 0, 14⟩, ⟨15, 0, 15⟩⟩⟩ :: []) := by
    cbv
  have hgroup : Token.scan "type (B struct\x7b\x7d)".toList =
      ([] ++ ⟨.ident "type", "type", ⟨⟨0, 0, 0⟩, ⟨4, 0, 4⟩⟩⟩ :: ([] ++
        [⟨.punct '(', "(", ⟨⟨5, 0, 5⟩, ⟨6, 0, 6⟩⟩⟩])) ++
        ([⟨.ident "B", "B", ⟨⟨6, 0, 6⟩, ⟨7, 0, 7⟩⟩⟩,
          ⟨.ident "struct", "struct", ⟨⟨8, 0, 8⟩, ⟨14, 0, 14⟩⟩⟩,
          ⟨.punct '{', "\x7b", ⟨⟨14, 0, 14⟩, ⟨15, 0, 15⟩⟩⟩,
          ⟨.punct '}', "\x7d", ⟨⟨15, 0, 15⟩, ⟨16, 0, 16⟩⟩⟩] ++
        ⟨.punct ')', ")", ⟨⟨16, 0, 16⟩, ⟨17, 0, 17⟩⟩⟩ :: []) := by
    cbv
  have hother : Token.scan "type C int".toList =
      [] ++ ⟨.ident "type", "type", ⟨⟨0, 0, 0⟩, ⟨4, 0, 4⟩⟩⟩ :: ([] ++
        ⟨.ident "C", "C", ⟨⟨5, 0, 5⟩, ⟨6, 0, 6⟩⟩⟩ ::
        [⟨.ident "int", "int", ⟨⟨7, 0, 7⟩, ⟨10, 0, 10⟩⟩⟩]) := by
    cbv
  apply readMany_intercalate _ _ .sequential fun _ => .sequential
  intro text htext
  simp only [List.mem_cons, List.not_mem_nil, or_false] at htext
  rcases htext with rfl | rfl | rfl
  · constructor
    · rw [hstruct]
      refine .struct ⟨_, _, _, _, "A", _, _, _, rfl, ?_, ?_, ?_, rfl, ?_, ?_, ?_, ?_⟩ ?_ ?_ ?_
      all_goals decide
    · apply List.all_eq_true.1
      cbv
  · constructor
    · rw [hgroup]
      refine .group ⟨_, _, _, _, rfl, ?_, ?_, ?_, ?_⟩ ?_ ?_ ?_
      all_goals decide
    · apply List.all_eq_true.1
      cbv
  · constructor
    · rw [hother]
      refine .other ⟨_, _, _, _, "C", _, rfl, ?_, ?_, ?_, rfl, ?_, ?_, ?_⟩
      all_goals decide
    · apply List.all_eq_true.1
      cbv

end StructDescriptor

end FieldBridge
