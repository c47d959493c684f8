import FieldBridge.Proofs.Rereading
import FieldBridge.Proofs.Tiling

/-!
# The regions of declarations

Whatever is cut out of a source is cut out at the spans of tokens: a type is made of the
characters of its tokens, and a declaration stands between its first token and its last.  So
no cut goes wrong, and since a search goes on behind the declaration that it found, no two
declarations share a region.
-/

namespace FieldBridge

namespace Text

/-- Whether a byte offset stands between two characters of a text, or at one of its ends. -/
def IsBoundary (offset : Nat) (text : List Char) : Prop :=
  ∃ before after, text = before ++ after ∧ byteLength before = offset

end Text

namespace Span

/-- A span that can be cut out of a source. -/
structure IsRange (span : Span) (source : List Char) : Prop where
  ordered : span.start.byte ≤ span.stop.byte
  within : span.stop.byte ≤ Text.byteLength source
  start_boundary : Text.IsBoundary span.start.byte source
  stop_boundary : Text.IsBoundary span.stop.byte source

theorem isRange_of_text? {span : Span} {source part : List Char}
    (htext : span.text? source = some part) : span.IsRange source := by
  obtain ⟨before, after, rfl, hbefore, hstop⟩ := Text.slice?_eq_some htext
  refine ⟨by omega, ?_, ⟨before, part ++ after, List.append_assoc _ _ _, hbefore⟩,
    ⟨before ++ part, after, rfl, by rw [Text.byteLength_append, hstop]⟩⟩
  rw [Text.byteLength_append, Text.byteLength_append, hstop]
  exact Nat.le_add_right _ _

end Span

namespace Token

theorem mem_stream {source : List Char} {token : Token} (htoken : token ∈ scan source) :
    token ∈ stream source :=
  List.mem_append_left _ htoken

theorem text?_of_mem_scan {source : List Char} {token : Token} (htoken : token ∈ scan source) :
    token.span.text? source = some token.text.toList :=
  (tiles_stream source).text?_span token (mem_stream htoken)

theorem start_lt_stop {source : List Char} {token : Token} (htoken : token ∈ scan source) :
    token.span.start.byte < token.span.stop.byte :=
  ((tiles_stream source).covers token (mem_stream htoken)).start_lt_stop
    (scan_ne_eof List.suffix_rfl token htoken)

theorem scan_pairwise (source : List Char) :
    (scan source).Pairwise fun first second => first.span.stop.byte ≤ second.span.start.byte :=
  (List.pairwise_append.1 (tiles_stream source).ordered.2).1

end Token

namespace Declaration

/-- The tokens whose characters make up the type at the start of `tokens`. -/
def typePieces (tokens : List Token) : List Token :=
  (splitType 0 tokens).1.filter fun token => token.kind ≠ .newline

/-- Tokens as one line of text, each cut out of a source at its span, unless one of them
cannot be cut out. -/
def cutFrom? (source : List Char) (last : Option Nat) : List Token → Option String
  | [] => some ""
  | token :: rest =>
    if token.kind = .newline then cutFrom? source last rest
    else
      let gap := if last.any (· < token.span.start.byte) then " " else ""
      (token.span.text? source).bind fun part =>
        (cutFrom? source (some token.span.stop.byte) rest).map fun more =>
          gap ++ String.ofList part ++ more

theorem cutFrom?_eq {source : List Char} {tokens : List Token}
    (htexts : ∀ token ∈ tokens, token.span.text? source = some token.text.toList)
    (last : Option Nat) : cutFrom? source last tokens = some (joinFrom last tokens) := by
  induction tokens generalizing last with
  | nil => rfl
  | cons token rest ih =>
      obtain ⟨htoken, hrest⟩ := List.forall_mem_cons.1 htexts
      rw [cutFrom?, joinFrom]
      split
      · exact ih hrest last
      · simp [htoken, ih hrest]

/-- Where a declaration stands: from its start to a token of it, with everything that it
leaves behind that token; or to the end of the text, of which it leaves nothing. -/
theorem typeSpec?_span {start : Span} {grouped : Bool} {finish : Position}
    {spec rest : List Token} {declaration : Declaration}
    (heof : ∀ token ∈ spec, token.kind ≠ .eof)
    (hspec : typeSpec? start grouped finish spec = some (declaration, rest)) :
    (∃ front last behind, spec = front ++ last :: behind ∧ rest <:+ behind ∧
      declaration.span = ⟨start.start, last.span.stop⟩ ∧
        (declaration.failure = none → last.isPunct '}' = true)) ∨
      declaration.span = ⟨start.start, finish⟩ ∧ rest = [] ∧ declaration.failure ≠ none := by
  obtain ⟨front, word, after, name, nameSpan, hsplit, _, _, hbody, _⟩ := typeSpec?_struct hspec
  obtain ⟨gap, hgap⟩ := skipNewlines_suffix after
  by_cases hclosed : (body name nameSpan start word.span grouped finish after).1.IsClosed
  · left
    rcases body_extent hclosed with ⟨brace, inner, close, behind, hskip, _, hclose, hextent⟩ | hnone
    · obtain ⟨rfl, rfl⟩ := Prod.mk.inj (hbody.trans hextent)
      refine ⟨front ++ word :: (gap ++ brace :: inner), close, rest, ?_, List.suffix_rfl, rfl,
        fun _ => hclose⟩
      rw [hsplit, ← hgap, hskip]
      simp
    · rw [body_of_noBody hnone] at hbody
      obtain ⟨rfl, rfl⟩ := Prod.mk.inj hbody
      exact ⟨front, word, after, hsplit, skipNewlines_suffix after, rfl, fun hfailure =>
        nomatch hfailure⟩
  · right
    obtain ⟨brace, inner, hskip, hbrace, hopen, hextent⟩ := body_open hclosed
    have hinner : ∀ token ∈ inner, token.kind ≠ .eof := by
      intro token htoken
      apply heof
      rw [hsplit, ← hgap, hskip]
      simp [htoken]
    have hrest : (body name nameSpan start word.span grouped finish after).2 = [] := by
      rw [body, hskip]
      dsimp only
      rw [if_pos hbrace, hopen]
      exact rest_eq_nil_of_open hinner hopen
    have hdeclaration : declaration = _ := (congrArg Prod.fst hbody).trans hextent
    rw [hdeclaration]
    exact ⟨rfl, (congrArg Prod.snd hbody).trans hrest, by simp⟩

/-- A declaration begins where its span does. -/
theorem typeSpec?_start {start : Span} {grouped : Bool} {finish : Position}
    {spec rest : List Token} {declaration : Declaration}
    (heof : ∀ token ∈ spec, token.kind ≠ .eof)
    (hspec : typeSpec? start grouped finish spec = some (declaration, rest)) :
    declaration.span.start = start.start := by
  rcases typeSpec?_span heof hspec with ⟨_, _, _, _, _, hspan, _⟩ | ⟨hspan, _⟩
  · rw [hspan]
  · rw [hspan]

/-- One step of a search: the declaration that is found begins at a token, and what is
searched next stands behind it. -/
theorem next?_region {finish : Position} {scope scope' : Scope} {tokens rest : List Token}
    {declaration : Declaration} (heof : ∀ token ∈ tokens, token.kind ≠ .eof)
    (hordered : tokens.Pairwise fun first second => first.span.stop.byte ≤ second.span.start.byte)
    (hnext : next? finish scope tokens = some (declaration, scope', rest)) :
    (∃ token ∈ tokens, token.span.start = declaration.span.start) ∧
      ∀ token ∈ rest, declaration.span.stop.byte ≤ token.span.start.byte := by
  obtain ⟨before, spec, start, rfl, _, hfound, _⟩ := next?_at hnext
  have hspecEof : ∀ token ∈ spec, token.kind ≠ .eof := fun token htoken =>
    heof token (List.mem_append_right before htoken)
  constructor
  · obtain ⟨front, lead, token, tail, rfl, hlead, hspan, _⟩ := hfound.exists_lead
    refine ⟨token, ?_, by rw [typeSpec?_start hspecEof hfound.spec_eq, hspan]⟩
    rw [List.append_assoc, hlead]
    exact List.mem_append_right front List.mem_cons_self
  · intro token htoken
    rcases typeSpec?_span hspecEof hfound.spec_eq with
      ⟨front, last, behind, rfl, hrest, hspan, _⟩ | ⟨_, rfl, _⟩
    · rw [hspan]
      have hbehind := (List.pairwise_append.1 (List.pairwise_append.1 hordered).2.1).2.1
      exact (List.pairwise_cons.1 hbehind).1 token (hrest.subset htoken)
    · cases htoken

/-- A whole search: every declaration ends before the next one begins. -/
theorem allFrom_pairwise {finish : Position} {scope : Scope} {tokens : List Token}
    (heof : ∀ token ∈ tokens, token.kind ≠ .eof)
    (hordered : tokens.Pairwise
      fun first second => first.span.stop.byte ≤ second.span.start.byte) :
    (allFrom finish scope tokens).Pairwise
      fun first second => first.span.stop.byte ≤ second.span.start.byte := by
  fun_induction allFrom finish scope tokens with
  | case1 => exact .nil
  | case2 scope tokens found after rest hnext ih =>
      have hsuffix := next?_suffix hnext
      have hrestEof : ∀ token ∈ rest, token.kind ≠ .eof := fun token htoken =>
        heof token (hsuffix.subset htoken)
      have hrestOrdered := hordered.sublist hsuffix.sublist
      refine List.pairwise_cons.2 ⟨fun other hother => ?_, ih hrestEof hrestOrdered⟩
      obtain ⟨front, tail, _, _, _, rfl, hagain⟩ := exists_next?_of_mem_allFrom hother
      have htail : tail <:+ front ++ tail := List.suffix_append front tail
      obtain ⟨⟨token, htoken, hstart⟩, _⟩ := next?_region
        (fun token htoken => hrestEof token (htail.subset htoken))
        (hrestOrdered.sublist htail.sublist) hagain
      rw [← hstart]
      exact (next?_region heof hordered hnext).2 token (htail.subset htoken)

/-- The region of a declaration: from its word `type`, or the first token of a member of a
group, to the closing brace of its field list when nothing is wrong with its structure. -/
structure HasRegion (source : List Char) (declaration : Declaration) : Prop where
  range : declaration.span.IsRange source
  filled : declaration.span.start.byte < declaration.span.stop.byte
  starts : ∃ before first after rest, Token.scan source = before ++ first :: after ∧
    declaration.span.start = first.span.start ∧
      if declaration.grouped then
        typeSpec? first.span true (Position.start.after source) (first :: after) =
          some (declaration, rest)
      else
        first.isWord "type" = true ∧
          typeSpec? first.span false (Position.start.after source) (skipNewlines after) =
            some (declaration, rest)
  ends : declaration.failure = none → ∃ last ∈ Token.scan source, last.isPunct '}' = true ∧
    declaration.span.stop = last.span.stop

section Region

variable {source : List Char} {before spec rest : List Token} {start : Span}
  {declaration : Declaration} {scope : Scope}

theorem FoundAt.starts (hscan : Token.scan source = before ++ spec)
    (hfound : FoundAt (Position.start.after source) before spec start declaration scope rest) :
    ∃ before first after rest, Token.scan source = before ++ first :: after ∧
      first.span = start ∧
        if declaration.grouped then
          typeSpec? first.span true (Position.start.after source) (first :: after) =
            some (declaration, rest)
        else
          first.isWord "type" = true ∧
            typeSpec? first.span false (Position.start.after source) (skipNewlines after) =
              some (declaration, rest) := by
  have hgrouped := typeSpec?_grouped hfound.spec_eq
  obtain ⟨head, tail, hspec, hhead, _⟩ := typeSpec?_suffix hfound.spec_eq
  cases scope with
  | file =>
      obtain ⟨front, word, gap, rfl, hword, rfl, hgap⟩ := hfound.start_file rfl
      refine ⟨front, word, gap ++ spec, rest, by rw [hscan, List.append_assoc]; rfl, rfl, ?_⟩
      rw [if_neg (by rw [hgrouped]; decide), hspec,
        skipNewlines_gap hgap (kind_ne_newline_of_name? hhead), ← hspec]
      exact ⟨hword, hfound.spec_eq⟩
  | group =>
      have hstart : head.span = start := by simpa [hspec] using hfound.start_group rfl
      refine ⟨before, head, tail, rest, by rw [hscan, hspec], hstart, ?_⟩
      rw [if_pos (by rw [hgrouped]; decide), hstart, ← hspec]
      exact hfound.spec_eq

/-- A declaration goes at least to the end of the token that it begins with. -/
theorem FoundAt.filled (hscan : Token.scan source = before ++ spec)
    (hfound : FoundAt (Position.start.after source) before spec start declaration scope rest) :
    declaration.span.start.byte < declaration.span.stop.byte := by
  obtain ⟨front, lead, token, tail, rfl, hlead, hspan, _⟩ := hfound.exists_lead
  rw [List.append_assoc] at hscan
  have heof : ∀ token ∈ spec, token.kind ≠ .eof := Token.scan_ne_eof
    (hscan ▸ (List.suffix_append lead spec).trans (List.suffix_append front _))
  have hordered := Token.scan_pairwise source
  have htoken : token ∈ Token.scan source := by
    rw [hscan, hlead]
    simp
  have hlt := Token.start_lt_stop htoken
  rw [typeSpec?_start heof hfound.spec_eq, ← hspan]
  rcases typeSpec?_span heof hfound.spec_eq with
    ⟨among, last, behind, rfl, _, hextent, _⟩ | ⟨hextent, _⟩
  · rw [hextent]
    rw [hscan, hlead] at hordered
    have hlast : last ∈ token :: tail := by
      rw [← hlead]
      simp
    rcases List.mem_cons.1 hlast with rfl | hlast
    · exact hlt
    · have hle := (List.pairwise_cons.1 (List.pairwise_append.1 hordered).2.1).1 last hlast
      have hltLast := @Token.start_lt_stop source last (by rw [hscan, hlead]; simp [hlast])
      dsimp only
      omega
  · have hwithin := (Span.isRange_of_text? (Token.text?_of_mem_scan htoken)).within
    rw [hextent]
    dsimp only
    rw [Position.after_byte, Position.start]
    omega

theorem FoundAt.ends (hscan : Token.scan source = before ++ spec)
    (hfound : FoundAt (Position.start.after source) before spec start declaration scope rest)
    (hfailure : declaration.failure = none) :
    ∃ last ∈ Token.scan source, last.isPunct '}' = true ∧
      declaration.span.stop = last.span.stop := by
  have heof : ∀ token ∈ spec, token.kind ≠ .eof :=
    Token.scan_ne_eof (hscan ▸ List.suffix_append before spec)
  rcases typeSpec?_span heof hfound.spec_eq with
    ⟨among, last, behind, rfl, _, hextent, hclose⟩ | ⟨_, _, hfailed⟩
  · exact ⟨last, by rw [hscan]; simp, hclose hfailure, by rw [hextent]⟩
  · exact absurd hfailure hfailed

end Region

theorem hasRegion_of_mem_all {source : List Char} {declaration : Declaration}
    (hmem : declaration ∈ all source) : HasRegion source declaration := by
  obtain ⟨before, spec, start, scope, rest, hscan, hfound⟩ := exists_foundAt_of_mem_all hmem
  have heof : ∀ token ∈ spec, token.kind ≠ .eof :=
    Token.scan_ne_eof (hscan ▸ List.suffix_append before spec)
  obtain ⟨_, _, _, htext, _⟩ := first?_declarationText hmem
  obtain ⟨part, hpart⟩ := Option.isSome_iff_exists.1 htext
  obtain ⟨front, first, after, rest, hsplit, hspan, hreads⟩ := hfound.starts hscan
  exact {
    range := Span.isRange_of_text? hpart
    filled := hfound.filled hscan
    starts := ⟨front, first, after, rest, hsplit,
      by rw [typeSpec?_start heof hfound.spec_eq, hspan], hreads⟩
    ends := hfound.ends hscan }

/-- Wherever a type is read, each of its pieces can be cut out of the source, and the cuts
make up its text.  Every declaration can be cut out of the source, from its first token to its
closing brace, and each stands behind the one before it. -/
theorem regions_of_all (source : List Char) :
    (∀ tokens, tokens <:+ Token.scan source →
      (∀ token ∈ typePieces tokens, token.span.IsRange source) ∧
        cutFrom? source none (splitType 0 tokens).1 = some (typeText tokens).1) ∧
      (∀ declaration ∈ all source, HasRegion source declaration) ∧
        (all source).Pairwise
          fun first second => first.span.stop.byte ≤ second.span.start.byte := by
  refine ⟨fun tokens hsuffix => ?_, fun declaration => hasRegion_of_mem_all,
    allFrom_pairwise (Token.scan_ne_eof List.suffix_rfl) (Token.scan_pairwise source)⟩
  have htexts : ∀ token ∈ (splitType 0 tokens).1,
      token.span.text? source = some token.text.toList := by
    intro token htoken
    apply Token.text?_of_mem_scan
    apply hsuffix.subset
    rw [← splitType_append 0 tokens]
    exact List.mem_append_left _ htoken
  constructor
  · intro token htoken
    exact Span.isRange_of_text? (htexts token (List.mem_filter.1 htoken).1)
  · exact cutFrom?_eq htexts none

end Declaration

end FieldBridge
