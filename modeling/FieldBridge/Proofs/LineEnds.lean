import FieldBridge.Proofs.Layout
import FieldBridge.Proofs.Tiling

/-!
# Line ends and the strings that take them

A line feed of a source is a token of its own, unless a string or a block comment takes it.
An interpreted string stops in front of a line feed, except behind a backslash, where the line
feed is the escaped character.  So the line feeds outside raw strings and comments are the
tokens of line feeds exactly when no interpreted string has such an escape.
-/

namespace FieldBridge

namespace Text

/-- The bytes at which the line feeds of a text stand, when it begins at `byte`. -/
def lineFeedsFrom : Nat → List Char → List Nat
  | _, [] => []
  | byte, c :: text =>
    if c = '\n' then byte :: lineFeedsFrom (byte + c.utf8Size) text
    else lineFeedsFrom (byte + c.utf8Size) text

def lineFeeds (text : List Char) : List Nat :=
  lineFeedsFrom 0 text

theorem lineFeedsFrom_append (byte : Nat) (left right : List Char) :
    lineFeedsFrom byte (left ++ right) =
      lineFeedsFrom byte left ++ lineFeedsFrom (byte + byteLength left) right := by
  induction left generalizing byte with
  | nil => rfl
  | cons c left ih =>
      rw [List.cons_append, lineFeedsFrom, lineFeedsFrom, ih, byteLength_cons, Nat.add_assoc]
      split <;> rfl

theorem lineFeedsFrom_eq_nil_iff {byte : Nat} {text : List Char} :
    lineFeedsFrom byte text = [] ↔ '\n' ∉ text := by
  induction text generalizing byte with
  | nil => simp [lineFeedsFrom]
  | cons c text ih =>
      rw [lineFeedsFrom, List.mem_cons, not_or]
      by_cases hc : c = '\n'
      · simp [hc]
      · rw [if_neg hc, ih]
        exact ⟨fun hmore => ⟨Ne.symm hc, hmore⟩, And.right⟩

theorem bounds_of_mem_lineFeedsFrom {byte feed : Nat} {text : List Char}
    (hfeed : feed ∈ lineFeedsFrom byte text) : byte ≤ feed ∧ feed < byte + byteLength text := by
  induction text generalizing byte with
  | nil => cases hfeed
  | cons c text ih =>
      have hsize := c.utf8Size_pos
      have hmore : feed ∈ lineFeedsFrom (byte + c.utf8Size) text →
          byte ≤ feed ∧ feed < byte + byteLength (c :: text) := by
        intro hmem
        obtain ⟨hle, hlt⟩ := ih hmem
        rw [byteLength_cons]
        omega
      rw [lineFeedsFrom] at hfeed
      split at hfeed
      · rcases List.mem_cons.1 hfeed with rfl | hmem
        · rw [byteLength_cons]
          omega
        · exact hmore hmem
      · exact hmore hfeed

end Text

namespace Lexeme

/-- The lexemes that can have a line feed in their text. -/
def canBreak : Lexeme → Bool
  | lineFeed => true
  | blockComment _ _ => true
  | rawString _ _ => true
  | quotedString _ _ => true
  | _ => false

/-- A block comment over several lines. -/
def isLongComment : Lexeme → Bool
  | blockComment body _ => '\n' ∈ body
  | _ => false

theorem lineFeed_not_mem_takeWhile {p : Char → Bool} (hp : p '\n' = false) (text : List Char) :
    '\n' ∉ text.takeWhile p := by
  intro hmem
  have hfeed := List.mem_takeWhile_imp hmem
  rw [hp] at hfeed
  cases hfeed

theorem canBreak_cut {c : Char} {rest : List Char} (hfeed : '\n' ∈ (cut c rest).1.text) :
    (cut c rest).1.canBreak = true := by
  have hline : c = '\n' → (cut c rest).1 = .lineFeed := by
    rintro rfl
    rfl
  cases leads c with
  | lineFeed _ hcut => rw [hcut]; rfl
  | rawString hcut => rw [hcut]; rfl
  | quotedString hcut => rw [hcut]; rfl
  | blank hcut =>
      rw [hcut] at hfeed hline
      cases hline (by simpa [text, eq_comm] using hfeed)
  | symbol hcut _ =>
      rw [hcut] at hfeed hline
      cases hline (by simpa [text, eq_comm] using hfeed)
  | word hcut =>
      rw [hcut] at hfeed hline
      rcases List.mem_cons.1 hfeed with heq | hmem
      · cases hline heq.symm
      · exact absurd hmem (lineFeed_not_mem_takeWhile (by decide +kernel) rest)
  | number hcut =>
      rw [hcut] at hfeed hline
      rcases List.mem_cons.1 hfeed with heq | hmem
      · cases hline heq.symm
      · exact absurd hmem (lineFeed_not_mem_takeWhile (by decide) rest)
  | slash hslash =>
      subst hslash
      cases hopens : opensComment rest with
      | false =>
          rw [cut_slash_symbol hopens] at hfeed
          simp [text] at hfeed
      | true =>
          obtain ⟨more, rfl | rfl⟩ := opensComment_eq_true hopens
          · rw [cut_lineComment] at hfeed
            have hmem : '\n' ∈ more.takeWhile (· ≠ '\n') := by simpa [text] using hfeed
            exact absurd hmem (lineFeed_not_mem_takeWhile (by decide) more)
          · rw [cut_blockComment]
            rfl

/-- What stands between the quotation marks of an interpreted string.  A backslash takes any
character along, also a line feed. -/
inductive Interpreted : List Char → Prop where
  | nil : Interpreted []
  | plain {c : Char} {body : List Char} (escape : c ≠ '\\') (mark : c ≠ '\x22') (line : c ≠ '\n')
      (more : Interpreted body) : Interpreted (c :: body)
  | escaped {body : List Char} (c : Char) (more : Interpreted body) :
      Interpreted ('\\' :: c :: body)

/-- An interpreted string in front of what is `after` it.  One that is not closed stops in front
of a line feed or at the end. -/
inductive Quotation : List Char → List Char → Prop where
  | closed {body : List Char} (after : List Char) (inside : Interpreted body) :
      Quotation ('\x22' :: body ++ ['\x22']) after
  | stopped {body after : List Char} (inside : Interpreted body)
      (stops : ∀ c, after.head? = some c → c = '\n') : Quotation ('\x22' :: body) after
  | ended {body : List Char} (inside : Interpreted body) :
      Quotation ('\x22' :: body ++ ['\\']) []

theorem interpreted_cutQuotedString (text : List Char) :
    Interpreted (cutQuotedString text).body ∨
      ∃ body, Interpreted body ∧ (cutQuotedString text).body = body ++ ['\\'] ∧
        (cutQuotedString text).closed = false ∧ (cutQuotedString text).rest = [] := by
  fun_induction cutQuotedString text with
  | case1 => exact .inl .nil
  | case2 c rest ih =>
      rcases ih with hbody | ⟨body, hbody, heq, hopen, hrest⟩
      · exact .inl (.escaped c hbody)
      · exact .inr ⟨'\\' :: c :: body, .escaped c hbody, by simp [Cut.cons, heq], hopen, hrest⟩
  | case3 rest => exact .inl .nil
  | case4 rest => exact .inl .nil
  | case5 c rest hescape hmark hline ih =>
      -- a backslash that takes no character along is the last of the source
      by_cases hc : c = '\\'
      · subst hc
        cases rest with
        | nil => exact .inr ⟨[], .nil, rfl, rfl, rfl⟩
        | cons d rest => exact absurd rfl (hescape d rest rfl)
      · rcases ih with hbody | ⟨body, hbody, heq, hopen, hrest⟩
        · exact .inl (.plain hc hmark hline hbody)
        · exact .inr ⟨c :: body, .plain hc hmark hline hbody, by simp [Cut.cons, heq], hopen, hrest⟩

theorem quotation_cutQuotedString (text : List Char) :
    Quotation (quotedString (cutQuotedString text).body (cutQuotedString text).closed).text
      (cutQuotedString text).rest := by
  rw [Lexeme.text]
  rcases interpreted_cutQuotedString text with hbody | ⟨body, hbody, heq, hopen, hrest⟩
  · cases hclosed : (cutQuotedString text).closed with
    | true => exact .closed _ hbody
    | false => simpa using Quotation.stopped hbody (rest_of_open_cutQuotedString hclosed)
  · rw [hopen, heq, hrest]
    simpa using Quotation.ended hbody

theorem quotation_cut {c : Char} {rest body : List Char} {closed : Bool}
    (hcut : (cut c rest).1 = .quotedString body closed) :
    Quotation (cut c rest).1.text (cut c rest).2 := by
  cases leads c with
  | quotedString hleads =>
      rw [hleads]
      exact quotation_cutQuotedString rest
  | slash hslash =>
      subst hslash
      rw [cut_slash] at hcut
      split at hcut <;> cases hcut
  | _ => simp_all

/-- The line feeds of an interpreted string are escaped. -/
theorem Interpreted.lineFeed_iff {body : List Char} (hbody : Interpreted body) :
    '\n' ∈ body ↔ ['\\', '\n'] <:+: body := by
  refine ⟨fun hfeed => ?_, fun hwithin => hwithin.subset (by simp)⟩
  induction hbody with
  | nil => cases hfeed
  | plain _ _ hline _ ih =>
      rcases List.mem_cons.1 hfeed with heq | hmem
      · exact absurd heq.symm hline
      · exact (ih hmem).trans (List.suffix_cons _ _).isInfix
  | @escaped body c _ ih =>
      rcases List.mem_cons.1 hfeed with heq | hmem
      · cases heq
      rcases List.mem_cons.1 hmem with rfl | hmem
      · exact (List.prefix_append ['\\', '\n'] body).isInfix
      · exact (ih hmem).trans (List.suffix_append ['\\', c] body).isInfix

theorem Quotation.lineFeed_iff {slice after : List Char} (hquotation : Quotation slice after) :
    '\n' ∈ slice ↔ ['\\', '\n'] <:+: slice := by
  refine ⟨fun hfeed => ?_, fun hwithin => hwithin.subset (by simp)⟩
  have hinside : ∀ {body : List Char} (first last : List Char), Interpreted body →
      '\n' ∈ body → ['\\', '\n'] <:+: first ++ body ++ last := fun first last hbody hmem =>
    (hbody.lineFeed_iff.1 hmem).trans ⟨first, last, rfl⟩
  cases hquotation with
  | closed _ hbody => exact hinside ['\x22'] ['\x22'] hbody (by simpa using hfeed)
  | stopped hbody _ => simpa using hinside ['\x22'] [] hbody (by simpa using hfeed)
  | ended hbody => exact hinside ['\x22'] ['\\'] hbody (by simpa using hfeed)

end Lexeme

/-- A lexeme of a text is cut from it in front of those behind it. -/
theorem exists_cut {source : List Char} {left right : List Lexeme} {lexeme : Lexeme}
    (hlexs : lexemes source = left ++ lexeme :: right) :
    ∃ c rest, Lexeme.cut c rest = (lexeme, right.flatMap Lexeme.text) := by
  have hsource := flatMap_text_lexemes source
  rw [hlexs, List.flatMap_append, List.flatMap_cons] at hsource
  rw [← hsource] at hlexs
  have hbehind := (lexemes_of_append hlexs rfl).2
  cases hrest : lexeme.text ++ right.flatMap Lexeme.text with
  | nil =>
      rw [hrest, lexemes] at hbehind
      cases hbehind
  | cons c rest =>
      rw [hrest, lexemes] at hbehind
      obtain ⟨hcut, _⟩ := List.cons.inj hbehind
      have hafter := Lexeme.text_cut c rest
      rw [hcut, ← hrest] at hafter
      exact ⟨c, rest, Prod.ext hcut (List.append_cancel_left hafter)⟩

theorem canBreak_of_mem_lexemes {source : List Char} {lexeme : Lexeme}
    (hmem : lexeme ∈ lexemes source) (hfeed : '\n' ∈ lexeme.text) : lexeme.canBreak = true := by
  obtain ⟨left, right, hlexs⟩ := List.append_of_mem hmem
  obtain ⟨c, rest, hcut⟩ := exists_cut hlexs
  have hfirst : (Lexeme.cut c rest).1 = lexeme := congrArg Prod.fst hcut
  rw [← hfirst] at hfeed ⊢
  exact Lexeme.canBreak_cut hfeed

namespace Token

/-- An interpreted string. -/
def isQuoted (token : Token) : Bool :=
  match token.kind with
  | .quoted _ => true
  | _ => false

/-- A raw string. -/
def isRaw (token : Token) : Bool :=
  match token.kind with
  | .raw _ => true
  | _ => false

/-- A line end that is a line feed. -/
def isLineFeed (token : Token) : Bool :=
  token.kind = .newline && token.text.toList = ['\n']

/-- A line end that a block comment makes. -/
def isComment (token : Token) : Bool :=
  token.kind = .newline && ['/', '*'].isPrefixOf token.text.toList

/-- A raw string or a comment, which hide the line feeds in them. -/
def isVerbatim (token : Token) : Bool :=
  token.isRaw || token.isComment

def takesLineFeeds (token : Token) : Bool :=
  token.isVerbatim || token.isQuoted

def covers (token : Token) (byte : Nat) : Bool :=
  token.span.start.byte ≤ byte && byte < token.span.stop.byte

/-- The kinds of tokens that take line feeds of a source. -/
theorem takes_lineFeed {source : List Char} {token : Token} (hmem : token ∈ stream source)
    (hfeed : '\n' ∈ token.text.toList) :
    token.isLineFeed = true ∨ token.isComment = true ∨ token.isRaw = true ∨
      token.isQuoted = true := by
  rcases List.mem_append.1 hmem with hscan | hfinish
  · obtain ⟨lexeme, hlexeme, hkind, htext⟩ := exists_lexeme_of_mem_place hscan
    rw [htext, String.toList_ofList] at hfeed
    have hbreaks := canBreak_of_mem_lexemes hlexeme hfeed
    cases lexeme with
    | lineFeed =>
        left
        simp [isLineFeed, htext, ← Option.some.inj hkind, Lexeme.text]
    | blockComment body closed =>
        right; left
        have hnewline : token.kind = .newline := by
          rw [Lexeme.kind?] at hkind
          split at hkind
          · exact (Option.some.inj hkind).symm
          · cases hkind
        simp [isComment, htext, hnewline, Lexeme.text]
    | rawString => right; right; left; simp [isRaw, ← Option.some.inj hkind]
    | quotedString => right; right; right; simp [isQuoted, ← Option.some.inj hkind]
    | _ => cases hbreaks
  · obtain rfl := List.mem_singleton.1 hfinish
    simp [finish] at hfeed

theorem isComment_of_lexeme {lexeme : Lexeme} {token : Token}
    (hkind : lexeme.kind? = some token.kind) (htext : token.text = String.ofList lexeme.text) :
    token.isComment = lexeme.isLongComment := by
  cases lexeme with
  | lineFeed => simp [isComment, htext, Lexeme.text, Lexeme.isLongComment, List.isPrefixOf]
  | blockComment body closed =>
      by_cases hline : '\n' ∈ body
      · simp [Lexeme.kind?, hline] at hkind
        simp [isComment, htext, Lexeme.text, Lexeme.isLongComment, hline, ← hkind]
      · simp [Lexeme.kind?, hline] at hkind
  | blank => cases hkind
  | lineComment => cases hkind
  | _ => simp [isComment, ← Option.some.inj hkind, Lexeme.isLongComment]

theorem isLineFeed_of_newline {source : List Char} {token : Token} (hmem : token ∈ stream source)
    (hnewline : token.kind = .newline) : token.isLineFeed = !token.isComment := by
  rcases List.mem_append.1 hmem with hscan | hfinish
  · obtain ⟨lexeme, _, hkind, htext⟩ := exists_lexeme_of_mem_place hscan
    rw [hnewline] at hkind
    cases lexeme with
    | lineFeed =>
        simp [isLineFeed, isComment, hnewline, htext, Lexeme.text, List.isPrefixOf]
    | blockComment body closed => simp [isLineFeed, isComment, hnewline, htext, Lexeme.text]
    | blank => cases hkind
    | lineComment => cases hkind
    | _ => simp [Lexeme.kind?] at hkind
  · obtain rfl := List.mem_singleton.1 hfinish
    cases hnewline

theorem isLongComment_of_kind?_eq_none {lexeme : Lexeme} (hkind : lexeme.kind? = none) :
    lexeme.isLongComment = false := by
  cases lexeme with
  | blockComment body closed =>
      by_cases hline : '\n' ∈ body
      · simp [Lexeme.kind?, hline] at hkind
      · simp [Lexeme.isLongComment, hline]
  | _ => rfl

theorem comments_place (position : Position) (lexs : List Lexeme) :
    ((place position lexs).filter (·.isComment)).map (·.text.toList) =
      (lexs.filter (·.isLongComment)).map Lexeme.text := by
  induction lexs generalizing position with
  | nil => rfl
  | cons lexeme lexs ih =>
      cases hkind : lexeme.kind? with
      | none =>
          rw [place_cons_none hkind, ih, List.filter_cons_of_neg]
          simp [isLongComment_of_kind?_eq_none hkind]
      | some kind =>
          have hcomment := @isComment_of_lexeme lexeme
            ⟨kind, String.ofList lexeme.text, ⟨position, position.after lexeme.text⟩⟩ hkind rfl
          rw [place_cons_some hkind, List.filter_cons, List.filter_cons, hcomment]
          split
          · simp [ih]
          · exact ih _

/-- An interpreted string of a source, as it is written there. -/
def Quotes (token : Token) (source : List Char) : Prop :=
  ∃ before slice after, source = before ++ (slice ++ after) ∧
    token.span = ⟨Position.behind before, Position.behind (before ++ slice)⟩ ∧
    token.text.toList = slice ∧ Lexeme.Quotation slice after

theorem quotedString_of_isQuoted {lexeme : Lexeme} {token : Token}
    (hkind : lexeme.kind? = some token.kind) (hquoted : token.isQuoted = true) :
    ∃ body closed, lexeme = .quotedString body closed := by
  rw [isQuoted] at hquoted
  split at hquoted
  · next value hvalue =>
    rw [hvalue] at hkind
    cases lexeme with
    | quotedString body closed => exact ⟨body, closed, rfl⟩
    | blockComment body closed =>
        rw [Lexeme.kind?] at hkind
        split at hkind <;> cases hkind
    | _ => cases hkind
  · cases hquoted

theorem quotes_of_isQuoted {source : List Char} {token : Token} (hmem : token ∈ stream source)
    (hquoted : token.isQuoted = true) : token.Quotes source := by
  rcases List.mem_append.1 hmem with hscan | hfinish
  · obtain ⟨front, back, hsplit⟩ := List.append_of_mem hscan
    obtain ⟨left, lexeme, right, hlexs, _, hkind, hstart, hstop, _⟩ :=
      place_eq_append_cons hsplit
    obtain ⟨body, closed, rfl⟩ := quotedString_of_isQuoted hkind hquoted
    obtain ⟨c, rest, hcut⟩ := exists_cut hlexs
    have hsource := flatMap_text_lexemes source
    rw [hlexs, List.flatMap_append, List.flatMap_cons] at hsource
    have hspan : token.span.text? source = some (Lexeme.quotedString body closed).text := by
      rw [← hsource, ← List.append_assoc]
      exact Span.text?_of_append hstart hstop
    have htext := (tiles_stream source).text?_span token hmem
    rw [List.nil_append, hspan, Option.some_inj] at htext
    refine ⟨_, _, _, hsource.symm, ?_, htext.symm, ?_⟩
    · rw [← Position.after_start_eq, ← Position.after_start_eq, Position.after_append, ← hstart,
        ← hstop]
    · have hquotation := Lexeme.quotation_cut (congrArg Prod.fst hcut)
      rwa [hcut] at hquotation
  · obtain rfl := List.mem_singleton.1 hfinish
    simp [finish, isQuoted] at hquoted

end Token

namespace Tiles

variable {before rest : List Char} {tokens : List Token}

theorem stop_line (htiles : Tiles before rest tokens) :
    ∀ token ∈ tokens,
      token.span.stop.line = token.span.start.line + token.text.toList.count '\n' := by
  induction htiles with
  | finish => simp [Token.finish, Span.point]
  | token _ _ _ _ _ ih =>
      rw [List.forall_mem_cons]
      refine ⟨?_, ih⟩
      simp [Position.behind, Nat.add_assoc]

/-- The line feeds that no token with a property covers, when the first token covers its `own`
and none of those `behind` it. -/
theorem filter_uncovered_cons (hides : Token → Bool) {first : Token} {own behind : List Nat}
    (hown : ∀ feed ∈ own, first.covers feed = true)
    (hothers : ∀ feed ∈ own, ∀ token ∈ tokens, token.covers feed = false)
    (hbehind : ∀ feed ∈ behind, first.covers feed = false) :
    (own ++ behind).filter
        (fun feed => !(first :: tokens).any fun token => hides token && token.covers feed) =
      (if hides first then [] else own) ++
        behind.filter fun feed => !tokens.any fun token => hides token && token.covers feed := by
  have hownAny : ∀ feed ∈ own,
      (!(first :: tokens).any fun token => hides token && token.covers feed) = !hides first := by
    intro feed hfeed
    have hnone : tokens.any (fun token => hides token && token.covers feed) = false := by
      rw [List.any_eq_false]
      intro token htoken
      simp [hothers feed hfeed token htoken]
    rw [List.any_cons, hnone, hown feed hfeed, Bool.and_true, Bool.or_false]
  have hbehindAny : ∀ feed ∈ behind,
      (!(first :: tokens).any fun token => hides token && token.covers feed) =
        !tokens.any fun token => hides token && token.covers feed := by
    intro feed hfeed
    rw [List.any_cons, hbehind feed hfeed, Bool.and_false, Bool.false_or]
  rw [List.filter_append, List.filter_congr hownAny, List.filter_congr hbehindAny]
  cases hides first <;> simp

/-- The line feeds that no token with a property covers are those of the other tokens.  The
induction is on the tiling: gaps have no line feeds, those of the first token stand before the
next one begins, and all others behind its end. -/
theorem lineFeeds_uncovered (hides : Token → Bool) (htiles : Tiles before rest tokens) :
    (Text.lineFeedsFrom (Text.byteLength before) rest).filter
        (fun feed => !tokens.any fun token => hides token && token.covers feed) =
      (tokens.filter (!hides ·)).flatMap fun token =>
        Text.lineFeedsFrom token.span.start.byte token.text.toList := by
  induction htiles with
  | @finish before gap hgap =>
      rw [Text.lineFeedsFrom_eq_nil_iff.2 hgap.lineFeed_not_mem]
      cases hides (Token.finish (Position.behind (before ++ gap))) <;>
        simp [List.filter_cons, Token.finish, Text.lineFeedsFrom, *]
  | @token before gap slice rest kind tokens hgap _ _ _ hmore ih =>
      have hstop : (Position.behind (before ++ gap ++ slice)).byte =
        Text.byteLength (before ++ gap) + Text.byteLength slice := Text.byteLength_append _ _
      rw [Text.lineFeedsFrom_append, Text.lineFeedsFrom_eq_nil_iff.2 hgap.lineFeed_not_mem,
        List.nil_append, ← Text.byteLength_append, Text.lineFeedsFrom_append,
        filter_uncovered_cons, ← Text.byteLength_append, ih, List.filter_cons]
      · split <;> simp_all [Position.behind]
      · intro feed hfeed
        have hbounds := Text.bounds_of_mem_lineFeedsFrom hfeed
        simp only [Token.covers, Bool.and_eq_true, decide_eq_true_eq]
        exact ⟨hbounds.1, hstop ▸ hbounds.2⟩
      · intro feed hfeed token htoken
        have hbounds := Text.bounds_of_mem_lineFeedsFrom hfeed
        have hle := hmore.ordered.1 token htoken
        simp only [Token.covers, Bool.and_eq_false_iff, decide_eq_false_iff_not]
        omega
      · intro feed hfeed
        have hbounds := Text.bounds_of_mem_lineFeedsFrom hfeed
        simp only [Token.covers, Bool.and_eq_false_iff, decide_eq_false_iff_not]
        omega

end Tiles

namespace Token

/-- The line feeds of a token, from the byte at which it stands. -/
def lineFeeds (token : Token) : List Nat :=
  Text.lineFeedsFrom token.span.start.byte token.text.toList

/-- What a token does with line feeds.  Only the first kind leaves its own to the line ends. -/
inductive Feeds (token : Token) : Prop where
  | lineFeed (own : token.isLineFeed = true) (verbatim : token.isVerbatim = false)
      (quoted : token.isQuoted = false)
  | verbatim (own : token.isLineFeed = false) (verbatim : token.isVerbatim = true)
      (quoted : token.isQuoted = false)
  | quoted (own : token.isLineFeed = false) (verbatim : token.isVerbatim = false)
      (quoted : token.isQuoted = true)
  | free (own : token.isLineFeed = false) (verbatim : token.isVerbatim = false)
      (quoted : token.isQuoted = false) (free : token.lineFeeds = [])

theorem feeds_of_mem {source : List Char} {token : Token} (hmem : token ∈ stream source) :
    token.Feeds := by
  by_cases hown : token.isLineFeed = true
  · have hnewline : token.kind = .newline ∧ token.text.toList = ['\n'] := by
      simpa [isLineFeed] using hown
    refine .lineFeed hown ?_ ?_
    · simp [isVerbatim, isRaw, isComment, hnewline.1, hnewline.2, List.isPrefixOf]
    · simp [isQuoted, hnewline.1]
  rw [Bool.not_eq_true] at hown
  by_cases hquoted : token.isQuoted = true
  · refine .quoted hown ?_ hquoted
    rw [isQuoted] at hquoted
    split at hquoted
    · next value hkind => simp [isVerbatim, isRaw, isComment, hkind]
    · cases hquoted
  rw [Bool.not_eq_true] at hquoted
  by_cases hverbatim : token.isVerbatim = true
  · exact .verbatim hown hverbatim hquoted
  rw [Bool.not_eq_true] at hverbatim
  refine .free hown hverbatim hquoted (Text.lineFeedsFrom_eq_nil_iff.2 fun hfeed => ?_)
  rw [isVerbatim, Bool.or_eq_false_iff] at hverbatim
  rcases takes_lineFeed hmem hfeed with h | h | h | h <;> simp_all

theorem lineFeeds_of_isLineFeed {token : Token} (hown : token.isLineFeed = true) :
    token.lineFeeds = [token.span.start.byte] := by
  have htext : token.text.toList = ['\n'] := by simp_all [isLineFeed]
  rw [lineFeeds, htext]
  rfl

/-- Where the other tokens are hidden or free of line feeds, the line ends have them all. -/
theorem lineFeeds_unhidden {tokens : List Token} {hides : Token → Bool}
    (hown : ∀ token ∈ tokens, token.isLineFeed = true → hides token = false)
    (hfree : ∀ token ∈ tokens, token.isLineFeed = false → hides token = false →
      token.lineFeeds = []) :
    (tokens.filter (!hides ·)).flatMap lineFeeds =
      (tokens.filter (·.isLineFeed)).map (·.span.start.byte) := by
  induction tokens with
  | nil => rfl
  | cons token tokens ih =>
      have hmore := ih (fun other hother => hown other (List.mem_cons_of_mem token hother))
        fun other hother => hfree other (List.mem_cons_of_mem token hother)
      cases hfeed : token.isLineFeed with
      | true =>
          simp [hown token List.mem_cons_self hfeed, hfeed, lineFeeds_of_isLineFeed hfeed, hmore]
      | false =>
          cases hhides : hides token with
          | true => simp [hfeed, hhides, hmore]
          | false => simp [hfeed, hhides, hfree token List.mem_cons_self hfeed hhides, hmore]

/-- Outside raw strings and comments stand the line ends and what interpreted strings take. -/
theorem length_lineFeeds_outside {tokens : List Token} (hfeeds : ∀ token ∈ tokens, token.Feeds) :
    ((tokens.filter (!·.isVerbatim)).flatMap lineFeeds).length =
      (tokens.filter (·.isLineFeed)).length +
        ((tokens.filter (·.isQuoted)).flatMap lineFeeds).length := by
  induction tokens with
  | nil => rfl
  | cons token tokens ih =>
      obtain ⟨hfirst, hmore⟩ := List.forall_mem_cons.1 hfeeds
      have hlength := ih hmore
      cases hfirst with
      | lineFeed hown hverbatim hquoted =>
          simp only [List.filter_cons, hown, hverbatim, hquoted, lineFeeds_of_isLineFeed hown,
            List.flatMap_cons, List.length_append, List.length_cons, List.length_nil,
            Bool.not_false, if_true, Bool.false_eq_true, if_false]
          omega
      | verbatim hown hverbatim hquoted =>
          simpa [List.filter_cons, hown, hverbatim, hquoted] using hlength
      | quoted hown hverbatim hquoted =>
          simp only [List.filter_cons, hown, hverbatim, hquoted, List.flatMap_cons,
            List.length_append, Bool.not_false, if_true, Bool.false_eq_true, if_false]
          omega
      | free hown hverbatim hquoted hfree =>
          simpa [List.filter_cons, hown, hverbatim, hquoted, hfree] using hlength

theorem lineFeeds_outside_iff {tokens : List Token} (hfeeds : ∀ token ∈ tokens, token.Feeds) :
    (tokens.filter (!·.isVerbatim)).flatMap lineFeeds =
        (tokens.filter (·.isLineFeed)).map (·.span.start.byte) ↔
      ∀ token ∈ tokens, token.isQuoted = true → token.lineFeeds = [] := by
  constructor
  · -- the line ends alone are as many as all these line feeds, so the strings add none
    intro hequal token htoken hquoted
    have hlength := congrArg List.length hequal
    rw [length_lineFeeds_outside hfeeds, List.length_map, Nat.add_eq_left,
      List.length_eq_zero_iff, List.flatMap_eq_nil_iff] at hlength
    exact hlength token (List.mem_filter.2 ⟨htoken, hquoted⟩)
  · intro hquotedFree
    apply lineFeeds_unhidden
    · intro token htoken hown
      cases hfeeds token htoken <;> simp_all
    · intro token htoken hown hverbatim
      cases hfeeds token htoken with
      | quoted _ _ hquoted => exact hquotedFree token htoken hquoted
      | free _ _ _ hfree => exact hfree
      | _ => simp_all

theorem one_line_iff {source : List Char} {token : Token} (hmem : token ∈ stream source) :
    token.span.start.line = token.span.stop.line ↔ token.lineFeeds = [] := by
  rw [(tiles_stream source).stop_line token hmem, Nat.left_eq_add, List.count_eq_zero, lineFeeds,
    Text.lineFeedsFrom_eq_nil_iff]

end Token

/-- How the line feeds of a source are shared out among its tokens. -/
structure LineEnds (source : List Char) (tokens : List Token) : Prop where
  /-- An interpreted string that is not closed stops in front of a line feed or at the end. -/
  stops : ∀ token ∈ tokens, token.isQuoted = true → token.Quotes source
  /-- An interpreted string leaves its line only behind a backslash. -/
  stays : ∀ token ∈ tokens, token.isQuoted = true →
    (token.span.start.line = token.span.stop.line ↔ ¬ ['\\', '\n'] <:+: token.text.toList)
  /-- A line end is either a line feed or a comment. -/
  newlines : ∀ token ∈ tokens, token.kind = .newline → token.isLineFeed = !token.isComment
  /-- The comments are the block comments with line feeds, in order. -/
  comments : (tokens.filter (·.isComment)).map (·.text.toList) =
    ((lexemes source).filter (·.isLongComment)).map Lexeme.text
  /-- The others stand where the line feeds are that no string or comment takes. -/
  lineFeeds : (tokens.filter (·.isLineFeed)).map (·.span.start.byte) =
    (Text.lineFeeds source).filter fun feed =>
      !tokens.any fun token => token.takesLineFeeds && token.covers feed
  /-- These are all line feeds outside raw strings and comments if and only if every interpreted
  string stays on its line. -/
  outside : (tokens.filter (·.isLineFeed)).map (·.span.start.byte) =
      ((Text.lineFeeds source).filter fun feed =>
        !tokens.any fun token => token.isVerbatim && token.covers feed) ↔
    ∀ token ∈ tokens, token.isQuoted = true → token.span.start.line = token.span.stop.line

theorem lineEnds_stream (source : List Char) : LineEnds source (Token.stream source) := by
  have hfeeds : ∀ token ∈ Token.stream source, token.Feeds := fun token => Token.feeds_of_mem
  have htiles := tiles_stream source
  constructor
  case stops => exact fun token => Token.quotes_of_isQuoted
  case stays =>
    intro token htoken hquoted
    obtain ⟨before, slice, after, _, _, htext, hquotation⟩ :=
      Token.quotes_of_isQuoted htoken hquoted
    rw [Token.one_line_iff htoken, Token.lineFeeds, Text.lineFeedsFrom_eq_nil_iff, htext,
      hquotation.lineFeed_iff]
  case newlines => exact fun token => Token.isLineFeed_of_newline
  case comments =>
    rw [Token.stream, List.filter_append, List.map_append, Token.scan, Token.comments_place]
    simp [Token.finish, Token.isComment]
  case lineFeeds =>
    have hothers := htiles.lineFeeds_uncovered Token.takesLineFeeds
    refine (hothers.trans (Token.lineFeeds_unhidden ?_ ?_)).symm
    · intro token htoken hown
      cases hfeeds token htoken <;> simp_all [Token.takesLineFeeds]
    · intro token htoken hown hhides
      rw [Token.takesLineFeeds, Bool.or_eq_false_iff] at hhides
      cases hfeeds token htoken with
      | free _ _ _ hfree => exact hfree
      | _ => simp_all
  case outside =>
    have hothers : (Text.lineFeeds source).filter _ = _ :=
      htiles.lineFeeds_uncovered Token.isVerbatim
    rw [hothers, eq_comm]
    refine (Token.lineFeeds_outside_iff hfeeds).trans ?_
    exact forall₂_congr fun token htoken => imp_congr_right fun _ =>
      (Token.one_line_iff htoken).symm

/-- An escaped line feed takes a string on to the next line. -/
theorem not_one_line_escaped_lineFeed :
    ¬ ∀ token ∈ Token.stream ['\x22', 'a', '\\', '\n', 'b'], token.isQuoted = true →
      token.span.start.line = token.span.stop.line := by
  decide +kernel

end FieldBridge
