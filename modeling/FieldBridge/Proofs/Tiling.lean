import FieldBridge.Proofs.Placement
import Mathlib.Data.List.Induction
import Mathlib.Data.List.TakeWhile

/-!
# Tokens tile their source

The tokens of a source cover it one after the other.  Between them stand only blanks and
comments, all on one line, and their positions count bytes, lines and columns as the text
before them has them.  The tiling is built along the cutting of lexemes: a lexeme that makes
no token joins the gap in front of the next token.
-/

namespace FieldBridge

namespace Position

/-- The position behind a text: its bytes, its line feeds, and the characters behind the last
line feed. -/
def behind (text : List Char) : Position where
  byte := Text.byteLength text
  line := text.count '\n'
  col := (text.reverse.takeWhile (· ≠ '\n')).length

theorem behind_append_singleton (text : List Char) (c : Char) :
    behind (text ++ [c]) = (behind text).advance c := by
  by_cases hc : c = '\n'
  · subst hc
    simp [behind, advance, Text.byteLength]
  · simp [behind, advance, Text.byteLength, hc]

theorem after_start_eq (text : List Char) : start.after text = behind text := by
  induction text using List.reverseRecOn with
  | nil => rfl
  | append_singleton text c ih => rw [after_append, ih, behind_append_singleton]; rfl

end Position

theorem Span.text?_behind (front slice back : List Char) :
    Span.text? ⟨Position.behind front, Position.behind (front ++ slice)⟩
      (front ++ (slice ++ back)) = some slice := by
  rw [← List.append_assoc]
  apply Span.text?_of_append
  · rw [Position.after_start_eq]
  · rw [← Position.after_start_eq, ← Position.after_start_eq, Position.after_append]

/-- A blank that is no line feed, or a comment without one, in front of what is `after` it.
Only at the end of a source a block comment may stay open. -/
inductive Skipped : List Char → List Char → Prop where
  | blank {c : Char} {after : List Char} (blank : Unicode.isWhiteSpace c = true)
      (line : c ≠ '\n') : Skipped [c] after
  | lineComment {body after : List Char} (line : '\n' ∉ body)
      (ends : ∀ c, after.head? = some c → c = '\n') : Skipped ('/' :: '/' :: body) after
  | blockComment {body after : List Char} (line : '\n' ∉ body) (first : ¬ ['*', '/'] <:+: body) :
      Skipped ('/' :: '*' :: body ++ ['*', '/']) after
  | openComment {body : List Char} (line : '\n' ∉ body) (never : ¬ ['*', '/'] <:+: body) :
      Skipped ('/' :: '*' :: body) []

/-- Blanks and comments, one after the other. -/
inductive Gap : List Char → List Char → Prop where
  | nil (after : List Char) : Gap [] after
  | cons {piece gap after : List Char} (skipped : Skipped piece (gap ++ after))
      (more : Gap gap after) : Gap (piece ++ gap) after

/-- What a token of a kind is written as, in front of what is `after` it. -/
def Token.Kind.Spells (slice after : List Char) : Token.Kind → Prop
  | .ident name => slice = name.toList
  | .number digits => slice = digits.toList
  | .punct c => slice = [c]
  | .raw value => '\x60' ∉ value.toList ∧
      (slice = '\x60' :: value.toList ++ ['\x60'] ∨ slice = '\x60' :: value.toList ∧ after = [])
  | .quoted value => ∃ body, value.toList = Lexeme.unescape body ∧
      (slice = '\x22' :: body ++ ['\x22'] ∨
        slice = '\x22' :: body ∧ ∀ c, after.head? = some c → c = '\n')
  | .newline => slice = ['\n'] ∨
      '\n' ∈ slice ∧ ∃ body, ¬ ['*', '/'] <:+: body ∧
        (slice = '/' :: '*' :: body ++ ['*', '/'] ∨ slice = '/' :: '*' :: body ∧ after = [])
  | .eof => slice = [] ∧ after = []

/-- The tokens tile `rest`, behind the text `before`. -/
inductive Tiles : List Char → List Char → List Token → Prop where
  | finish {before gap : List Char} (skipped : Gap gap []) :
      Tiles before gap [Token.finish (Position.behind (before ++ gap))]
  | token {before gap slice rest : List Char} {kind : Token.Kind} {tokens : List Token}
      (skipped : Gap gap (slice ++ rest)) (filled : slice ≠ []) (kind_ne : kind ≠ .eof)
      (spells : kind.Spells slice rest) (more : Tiles (before ++ gap ++ slice) rest tokens) :
      Tiles before (gap ++ (slice ++ rest))
        (⟨kind, String.ofList slice, Position.behind (before ++ gap),
          Position.behind (before ++ gap ++ slice)⟩ :: tokens)

namespace Lexeme

theorem not_mem_body_cutRawString (text : List Char) : '\x60' ∉ (cutRawString text).body := by
  fun_induction cutRawString text with
  | case1 => simp
  | case2 rest => simp
  | case3 c rest hc ih => simpa [Cut.cons, eq_comm] using ⟨hc, ih⟩

theorem rest_of_open_cutRawString {text : List Char} (hopen : (cutRawString text).closed = false) :
    (cutRawString text).rest = [] := by
  fun_induction cutRawString text with
  | case1 => rfl
  | case2 rest => cases hopen
  | case3 c rest hc ih => exact ih hopen

theorem rest_of_open_cutBlockComment {text : List Char}
    (hopen : (cutBlockComment text).closed = false) : (cutBlockComment text).rest = [] := by
  fun_induction cutBlockComment text with
  | case1 => rfl
  | case2 rest => cases hopen
  | case3 c rest _ ih => exact ih hopen

theorem rest_of_open_cutQuotedString {text : List Char}
    (hopen : (cutQuotedString text).closed = false) :
    ∀ c, (cutQuotedString text).rest.head? = some c → c = '\n' := by
  fun_induction cutQuotedString text with
  | case1 => simp
  | case2 c rest ih => exact ih hopen
  | case3 rest => cases hopen
  | case4 rest => simp
  | case5 c rest _ _ _ ih => exact ih hopen

/-- A block comment ends at the first mark that can end it. -/
theorem not_infix_body_cutBlockComment (text : List Char) :
    ¬ ['*', '/'] <:+: (cutBlockComment text).body := by
  fun_induction cutBlockComment text with
  | case1 => simp
  | case2 rest => simp
  | case3 c rest hopen ih =>
      have hwhole := whole_cutBlockComment rest
      rw [Cut.whole] at hwhole
      intro hinfix
      rcases List.infix_cons_iff.1 hinfix with ⟨more, hmore⟩ | hinfix
      · obtain ⟨rfl, hbody⟩ := List.cons.inj hmore
        rw [← hbody] at hwhole
        exact hopen _ rfl hwhole.symm
      · exact ih hinfix

theorem cut_lineComment (more : List Char) : cut '/' ('/' :: more) =
    (.lineComment (more.takeWhile (· ≠ '\n')), more.dropWhile (· ≠ '\n')) :=
  cut_slash _

theorem cut_blockComment (more : List Char) : cut '/' ('*' :: more) =
    (.blockComment (cutBlockComment more).body (cutBlockComment more).closed,
      (cutBlockComment more).rest) :=
  cut_slash _

theorem skipped_cut_slash {rest : List Char} (hkind : (cut '/' rest).1.kind? = none) :
    Skipped (cut '/' rest).1.text (cut '/' rest).2 := by
  cases hopens : opensComment rest with
  | false =>
      rw [cut_slash_symbol hopens] at hkind
      cases hkind
  | true =>
      obtain ⟨more, rfl | rfl⟩ := opensComment_eq_true hopens
      · rw [cut_lineComment]
        refine .lineComment ?_ ?_
        · intro hline
          simpa using List.mem_takeWhile_imp hline
        · intro c hhead
          have hnot := List.head?_dropWhile_not (· ≠ '\n') more
          rw [hhead] at hnot
          simpa using hnot
      · rw [cut_blockComment] at hkind ⊢
        have hline : '\n' ∉ (cutBlockComment more).body := by
          intro hline
          simp [kind?, hline] at hkind
        have hfirst := not_infix_body_cutBlockComment more
        cases hclosed : (cutBlockComment more).closed with
        | true =>
            simp only [text, if_pos]
            exact .blockComment hline hfirst
        | false =>
            simpa [text, rest_of_open_cutBlockComment hclosed] using
              Skipped.openComment hline hfirst

theorem spells_cut_slash {rest : List Char} {kind : Token.Kind}
    (hkind : (cut '/' rest).1.kind? = some kind) :
    kind.Spells (cut '/' rest).1.text (cut '/' rest).2 := by
  cases hopens : opensComment rest with
  | false =>
      rw [cut_slash_symbol hopens] at hkind ⊢
      obtain rfl := Option.some.inj hkind
      rfl
  | true =>
      obtain ⟨more, rfl | rfl⟩ := opensComment_eq_true hopens
      · rw [cut_lineComment] at hkind
        cases hkind
      · rw [cut_blockComment] at hkind ⊢
        by_cases hline : '\n' ∈ (cutBlockComment more).body
        · obtain rfl : .newline = kind := by simpa [kind?, hline] using hkind
          refine Or.inr ⟨by simp [text, hline], _, not_infix_body_cutBlockComment more, ?_⟩
          cases hclosed : (cutBlockComment more).closed with
          | true => simp [text]
          | false => simp [text, rest_of_open_cutBlockComment hclosed]
        · simp [kind?, hline] at hkind

theorem isWhiteSpace_of_cut {c d : Char} {rest : List Char}
    (hcut : (cut c rest).1 = .blank d) : Unicode.isWhiteSpace d = true ∧ d ≠ '\n' := by
  unfold cut at hcut
  by_cases hline : c = '\n'
  · rw [if_pos hline] at hcut
    cases hcut
  rw [if_neg hline] at hcut
  by_cases hblank : Unicode.isWhiteSpace c = true
  · rw [if_pos hblank] at hcut
    cases hcut
    exact ⟨hblank, hline⟩
  rw [if_neg hblank] at hcut
  repeat' split at hcut
  all_goals cases hcut

/-- A lexeme that makes no token is a blank or a comment on one line. -/
theorem skipped_cut {c : Char} {rest : List Char} (hkind : (cut c rest).1.kind? = none) :
    Skipped (cut c rest).1.text (cut c rest).2 := by
  cases leads c with
  | blank hcut =>
      obtain ⟨hblank, hline⟩ := isWhiteSpace_of_cut (congrArg Prod.fst (hcut rest))
      rw [hcut]
      exact .blank hblank hline
  | slash hslash =>
      subst hslash
      exact skipped_cut_slash hkind
  | _ => simp_all [kind?]

/-- A lexeme that makes a token is what the token is written as. -/
theorem spells_cut {c : Char} {rest : List Char} {kind : Token.Kind}
    (hkind : (cut c rest).1.kind? = some kind) :
    kind.Spells (cut c rest).1.text (cut c rest).2 := by
  cases leads c with
  | lineFeed _ hcut =>
      rw [hcut] at hkind ⊢
      obtain rfl := Option.some.inj hkind
      exact Or.inl rfl
  | blank hcut =>
      rw [hcut] at hkind
      cases hkind
  | rawString hcut =>
      rw [hcut] at hkind ⊢
      obtain rfl := Option.some.inj hkind
      simp only [Token.Kind.Spells, String.toList_ofList, text]
      refine ⟨not_mem_body_cutRawString rest, ?_⟩
      cases hclosed : (cutRawString rest).closed with
      | true => simp
      | false => simp [rest_of_open_cutRawString hclosed]
  | quotedString hcut =>
      rw [hcut] at hkind ⊢
      obtain rfl := Option.some.inj hkind
      refine ⟨(cutQuotedString rest).body, String.toList_ofList, ?_⟩
      cases hclosed : (cutQuotedString rest).closed with
      | true => simp [text]
      | false => exact Or.inr ⟨by simp [text], rest_of_open_cutQuotedString hclosed⟩
  | word hcut =>
      rw [hcut] at hkind ⊢
      obtain rfl := Option.some.inj hkind
      exact String.toList_ofList.symm
  | number hcut =>
      rw [hcut] at hkind ⊢
      obtain rfl := Option.some.inj hkind
      exact String.toList_ofList.symm
  | symbol hcut _ =>
      rw [hcut] at hkind ⊢
      obtain rfl := Option.some.inj hkind
      rfl
  | slash hslash =>
      subst hslash
      exact spells_cut_slash hkind

end Lexeme

theorem Tiles.skip {before piece rest : List Char} {tokens : List Token}
    (hskipped : Skipped piece rest) (htiles : Tiles (before ++ piece) rest tokens) :
    Tiles before (piece ++ rest) tokens := by
  cases htiles with
  | finish hgap =>
      rw [List.append_assoc]
      exact .finish (.cons (by rwa [List.append_nil]) hgap)
  | @token _ gap slice rest kind tokens hgap hfilled hkind hspells hmore =>
      rw [List.append_assoc before piece gap] at hmore ⊢
      rw [← List.append_assoc piece gap]
      exact .token (.cons hskipped hgap) hfilled hkind hspells hmore

/-- The induction is on the cutting of the text.  A lexeme that makes no token becomes the
first piece of the gap behind it. -/
theorem tiles_place (before text : List Char) :
    Tiles before text (Token.place (Position.behind before) (lexemes text) ++
      [Token.finish (Position.behind (before ++ text))]) := by
  have hafter : ∀ front piece : List Char,
      (Position.behind front).after piece = Position.behind (front ++ piece) := by
    intro front piece
    rw [← Position.after_start_eq, ← Position.after_append, Position.after_start_eq]
  fun_induction lexemes text generalizing before with
  | case1 => exact .finish (.nil [])
  | case2 c rest ih =>
      have hcut := Lexeme.text_cut c rest
      have hmore := ih (before ++ (Lexeme.cut c rest).1.text)
      rw [List.append_assoc, hcut] at hmore
      cases hkind : (Lexeme.cut c rest).1.kind? with
      | none =>
          rw [Token.place_cons_none hkind, hafter]
          have htiles := hmore.skip (Lexeme.skipped_cut hkind)
          rwa [hcut] at htiles
      | some kind =>
          rw [Token.place_cons_some hkind, hafter]
          have hne : kind ≠ .eof := fun heof =>
            Token.kind?_ne_eof _ (hkind.trans (congrArg some heof))
          have htiles := @Tiles.token before [] _ _ _ _ (.nil _) (Lexeme.text_cut_ne_nil c rest) hne
            (Lexeme.spells_cut hkind) (by rwa [List.append_nil])
          rwa [hcut, List.nil_append, List.append_nil] at htiles

theorem tiles_stream (source : List Char) : Tiles [] source (Token.stream source) := by
  have hplace := tiles_place [] source
  rw [List.nil_append, ← Position.after_start_eq source] at hplace
  exact hplace

theorem Skipped.lineFeed_not_mem {piece after : List Char} (hskipped : Skipped piece after) :
    '\n' ∉ piece := by
  cases hskipped with
  | blank _ hline => simpa using hline.symm
  | lineComment hline _ => simpa using hline
  | blockComment hline _ => simpa using hline
  | openComment hline _ => simpa using hline

theorem Gap.lineFeed_not_mem {gap after : List Char} (hgap : Gap gap after) : '\n' ∉ gap := by
  induction hgap with
  | nil => simp
  | cons hskipped _ ih => simpa using ⟨hskipped.lineFeed_not_mem, ih⟩

/-- A token that stands behind `before` and a gap. -/
def Token.Follows (token : Token) (source before : List Char) : Prop :=
  ∃ gap after, source = before ++ (gap ++ after) ∧ '\n' ∉ gap ∧ Gap gap after ∧
    token.span.start = Position.behind (before ++ gap)

/-- A token whose span is that of a slice of the source, which is written as its kind says. -/
def Token.Covers (token : Token) (source : List Char) : Prop :=
  ∃ before slice after, source = before ++ (slice ++ after) ∧
    token.span = ⟨Position.behind before, Position.behind (before ++ slice)⟩ ∧
    (slice = [] ↔ token.kind = .eof) ∧ token.kind.Spells slice after

/-- Tokens that cover a source in order, with nothing but gaps between them. -/
structure Tiling (source : List Char) (tokens : List Token) : Prop where
  ends : ∃ front, tokens = front ++ [Token.finish (Position.behind source)] ∧
    ∀ token ∈ front, token.kind ≠ .eof
  covers : ∀ token ∈ tokens, token.Covers source
  filled : ∀ token ∈ tokens, token.kind ≠ .eof → token.span.start.byte < token.span.stop.byte
  ordered : tokens.Pairwise fun first second => first.span.stop.byte ≤ second.span.start.byte
  first : ∀ token, tokens.head? = some token → token.Follows source []
  next : ∀ front token other back, tokens = front ++ token :: other :: back →
    ∃ before, token.span.stop = Position.behind before ∧ other.Follows source before

namespace Tiles

variable {before rest : List Char} {tokens : List Token}

theorem ends (htiles : Tiles before rest tokens) :
    ∃ front, tokens = front ++ [Token.finish (Position.behind (before ++ rest))] ∧
      ∀ token ∈ front, token.kind ≠ .eof := by
  induction htiles with
  | finish => exact ⟨[], rfl, by simp⟩
  | @token before gap slice rest kind tokens _ _ hkind _ _ ih =>
      obtain ⟨front, rfl, hfront⟩ := ih
      rw [← List.cons_append, ← List.append_assoc before gap, ← List.append_assoc (before ++ gap)]
      exact ⟨_ :: front, rfl, List.forall_mem_cons.2 ⟨hkind, hfront⟩⟩

theorem covers (htiles : Tiles before rest tokens) :
    ∀ token ∈ tokens, token.Covers (before ++ rest) := by
  induction htiles with
  | @finish before gap _ =>
      rw [List.forall_mem_singleton]
      exact ⟨before ++ gap, [], [], by simp, by simp [Token.finish, Span.point],
        by simp [Token.finish], by simp [Token.finish, Token.Kind.Spells]⟩
  | @token before gap slice rest kind tokens _ hfilled hkind hspells _ ih =>
      rw [List.forall_mem_cons]
      constructor
      · exact ⟨before ++ gap, slice, rest, by simp, rfl, by simp [hfilled, hkind], hspells⟩
      · simpa using ih

/-- The text of a token is the slice that its span covers. -/
theorem text?_span (htiles : Tiles before rest tokens) :
    ∀ token ∈ tokens, token.span.text? (before ++ rest) = some token.text.toList := by
  induction htiles with
  | @finish before gap _ =>
      rw [List.forall_mem_singleton]
      simpa [Token.finish, Span.point] using Span.text?_behind (before ++ gap) [] []
  | @token before gap slice rest kind tokens _ _ _ _ _ ih =>
      rw [List.forall_mem_cons]
      constructor
      · simpa using Span.text?_behind (before ++ gap) slice rest
      · simpa using ih

theorem head_follows (htiles : Tiles before rest tokens) :
    ∀ token, tokens.head? = some token → token.Follows (before ++ rest) before := by
  cases htiles with
  | finish hgap =>
      intro token htoken
      obtain rfl := Option.some.inj htoken
      exact ⟨rest, [], by simp, hgap.lineFeed_not_mem, hgap, rfl⟩
  | token hgap _ _ _ _ =>
      intro token htoken
      obtain rfl := Option.some.inj htoken
      exact ⟨_, _, rfl, hgap.lineFeed_not_mem, hgap, rfl⟩

theorem next_follows (htiles : Tiles before rest tokens) :
    ∀ front token other back, tokens = front ++ token :: other :: back →
      ∃ passed, token.span.stop = Position.behind passed ∧
        other.Follows (before ++ rest) passed := by
  induction htiles with
  | finish => simp [List.singleton_eq_append_iff]
  | @token before gap slice rest kind tokens _ _ _ _ hmore ih =>
      intro front token other back hsplit
      cases front with
      | nil =>
          obtain ⟨rfl, rfl⟩ := List.cons.inj hsplit
          refine ⟨before ++ gap ++ slice, rfl, ?_⟩
          simpa using hmore.head_follows other rfl
      | cons first front =>
          obtain ⟨rfl, rfl⟩ := List.cons.inj hsplit
          simpa using ih front token other back rfl

theorem byte_le_behind (before slice : List Char) :
    (Position.behind before).byte ≤ (Position.behind (before ++ slice)).byte := by
  simp [Position.behind]

theorem ordered (htiles : Tiles before rest tokens) :
    (∀ token ∈ tokens, (Position.behind before).byte ≤ token.span.start.byte) ∧
      tokens.Pairwise fun first second => first.span.stop.byte ≤ second.span.start.byte := by
  induction htiles with
  | @finish before gap _ =>
      exact ⟨List.forall_mem_singleton.2 (byte_le_behind before gap), List.pairwise_singleton _ _⟩
  | @token before gap slice rest kind tokens _ _ _ _ _ ih =>
      obtain ⟨hbound, hpairs⟩ := ih
      refine ⟨?_, List.pairwise_cons.2 ⟨hbound, hpairs⟩⟩
      rw [List.forall_mem_cons]
      refine ⟨byte_le_behind before gap, fun token htoken => ?_⟩
      have hle := byte_le_behind before (gap ++ slice)
      rw [← List.append_assoc] at hle
      exact Nat.le_trans hle (hbound token htoken)

end Tiles

theorem Token.Covers.start_lt_stop {token : Token} {source : List Char}
    (hcovers : token.Covers source) (hkind : token.kind ≠ .eof) :
    token.span.start.byte < token.span.stop.byte := by
  obtain ⟨before, slice, after, _, hspan, hempty, _⟩ := hcovers
  obtain ⟨c, slice, rfl⟩ := List.exists_cons_of_ne_nil (mt hempty.1 hkind)
  have hsize := c.utf8Size_pos
  rw [hspan]
  simp only [Position.behind, Text.byteLength_append, Text.byteLength_cons]
  omega

/-- The tokens of every source tile it. -/
theorem tiling_stream (source : List Char) : Tiling source (Token.stream source) := by
  have htiles := tiles_stream source
  exact {
    ends := htiles.ends
    covers := htiles.covers
    filled := fun token htoken hkind => (htiles.covers token htoken).start_lt_stop hkind
    ordered := htiles.ordered.2
    first := htiles.head_follows
    next := htiles.next_follows }

end FieldBridge
