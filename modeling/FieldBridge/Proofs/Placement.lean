import FieldBridge.Proofs.Lexing
import FieldBridge.Proofs.Likeness

/-!
# Tokens and the text they stand for

Tokens are placed one after the other, so any consecutive ones of them stand for a
slice of the source.  Read on its own the slice makes alike tokens: of the same kinds
and texts, at places that differ by a constant.
-/

namespace FieldBridge

namespace Token

theorem place_cons_some {lexeme : Lexeme} {kind : Kind} (hkind : lexeme.kind? = some kind)
    (position : Position) (lexs : List Lexeme) :
    place position (lexeme :: lexs) =
      ⟨kind, String.ofList lexeme.text, ⟨position, position.after lexeme.text⟩⟩ ::
        place (position.after lexeme.text) lexs := by
  rw [place]
  simp only [hkind]

theorem place_cons_none {lexeme : Lexeme} (hkind : lexeme.kind? = none)
    (position : Position) (lexs : List Lexeme) :
    place position (lexeme :: lexs) = place (position.after lexeme.text) lexs := by
  rw [place]
  simp only [hkind]

theorem place_append (position : Position) (left right : List Lexeme) :
    place position (left ++ right) =
      place position left ++ place (position.after (left.flatMap Lexeme.text)) right := by
  induction left generalizing position with
  | nil => rfl
  | cons lexeme left ih =>
      rw [List.cons_append, List.flatMap_cons, Position.after_append]
      cases hkind : lexeme.kind? with
      | none => rw [place_cons_none hkind, place_cons_none hkind, ih]
      | some kind => rw [place_cons_some hkind, place_cons_some hkind, ih, List.cons_append]

theorem kind?_ne_eof (lexeme : Lexeme) : lexeme.kind? ≠ some .eof := by
  cases lexeme with
  | blockComment body closed =>
      rw [Lexeme.kind?]
      split <;> simp
  | _ => simp [Lexeme.kind?]

theorem place_ne_eof (position : Position) (lexs : List Lexeme) :
    ∀ token ∈ place position lexs, token.kind ≠ .eof := by
  induction lexs generalizing position with
  | nil => simp [place]
  | cons lexeme lexs ih =>
      cases hkind : lexeme.kind? with
      | none =>
          rw [place_cons_none hkind]
          exact ih _
      | some kind =>
          rw [place_cons_some hkind]
          intro token htoken
          rcases List.mem_cons.1 htoken with rfl | htoken
          · exact fun heof => kind?_ne_eof lexeme (hkind.trans (congrArg some heof))
          · exact ih _ token htoken

theorem scan_ne_eof {source : List Char} {tokens : List Token} (hsuffix : tokens <:+ scan source) :
    ∀ token ∈ tokens, token.kind ≠ .eof := by
  intro token htoken
  exact place_ne_eof .start (lexemes source) token (hsuffix.subset htoken)

theorem map_kind_place (position : Position) (lexs : List Lexeme) :
    (place position lexs).map kind = lexs.filterMap Lexeme.kind? := by
  induction lexs generalizing position with
  | nil => rfl
  | cons lexeme lexs ih =>
      cases hkind : lexeme.kind? with
      | none => rw [place_cons_none hkind, ih, List.filterMap_cons_none hkind]
      | some kind =>
          rw [place_cons_some hkind, List.map_cons, ih, List.filterMap_cons_some hkind]

/-- A text has tokens of the same kinds wherever it is placed. -/
theorem map_kind_place_lexemes (position : Position) (text : List Char) :
    (place position (lexemes text)).map Token.kind = (scan text).map Token.kind := by
  rw [scan, map_kind_place, map_kind_place]

/-- A token comes from one lexeme, which the others stand around. -/
theorem place_eq_append_cons {position : Position} {lexs : List Lexeme} {before after : List Token}
    {token : Token} (hplace : place position lexs = before ++ token :: after) :
    ∃ left lexeme right, lexs = left ++ lexeme :: right ∧ place position left = before ∧
      lexeme.kind? = some token.kind ∧
      token.span.start = position.after (left.flatMap Lexeme.text) ∧
      token.span.stop = token.span.start.after lexeme.text ∧
      place token.span.stop right = after := by
  induction lexs generalizing position before with
  | nil => simp [place] at hplace
  | cons lexeme lexs ih =>
      cases hkind : lexeme.kind? with
      | none =>
          rw [place_cons_none hkind] at hplace
          obtain ⟨left, found, right, rfl, hleft, hfound, hstart, hstop, hright⟩ := ih hplace
          refine ⟨lexeme :: left, found, right, rfl, ?_, hfound, ?_, hstop, hright⟩
          · rw [place_cons_none hkind, hleft]
          · rw [hstart, List.flatMap_cons, Position.after_append]
      | some kind =>
          rw [place_cons_some hkind] at hplace
          cases before with
          | nil =>
              obtain ⟨rfl, rfl⟩ := List.cons.inj hplace
              exact ⟨[], lexeme, lexs, rfl, rfl, hkind, rfl, rfl, rfl⟩
          | cons first before =>
              obtain ⟨rfl, hmore⟩ := List.cons.inj hplace
              obtain ⟨left, found, right, rfl, hleft, hfound, hstart, hstop, hright⟩ := ih hmore
              refine ⟨lexeme :: left, found, right, rfl, ?_, hfound, ?_, hstop, hright⟩
              · rw [place_cons_some hkind, hleft]
              · rw [hstart, List.flatMap_cons, Position.after_append]


/-- Byte offsets of the same place, counted from starts at `base` and at `base'`. -/
def ShiftedBy (base base' : Nat) (byte byte' : Nat) : Prop :=
  byte + base' = byte' + base

theorem shiftedBy_after {base base' : Nat} {position position' : Position}
    (hshift : ShiftedBy base base' position.byte position'.byte) (text : List Char) :
    ShiftedBy base base' (position.after text).byte (position'.after text).byte := by
  unfold ShiftedBy at hshift ⊢
  rw [Position.after_byte, Position.after_byte]
  omega

open Declaration in
/-- Lexemes that are placed anew make alike tokens, whatever is placed behind them. -/
theorem alike_place {base base' : Nat} {position position' : Position}
    (hshift : ShiftedBy base base' position.byte position'.byte) {last last' : Option Nat}
    (hlast : Option.Rel (ShiftedBy base base') last last') (lexs : List Lexeme)
    (leftEnd rightEnd : List Token) :
    AlikeFrom (ShiftedBy base base') leftEnd rightEnd last last'
      (place position lexs ++ leftEnd) (place position' lexs ++ rightEnd) := by
  induction lexs generalizing position position' last last' with
  | nil => exact .done last last'
  | cons lexeme lexs ih =>
      have hstop := shiftedBy_after hshift lexeme.text
      cases hkind : lexeme.kind? with
      | none =>
          rw [place_cons_none hkind, place_cons_none hkind]
          exact ih hstop hlast
      | some kind =>
          rw [place_cons_some hkind, place_cons_some hkind, List.cons_append, List.cons_append]
          refine .cons ?_ ?_ (ih hstop ?_)
          · refine ⟨rfl, fun _ => rfl, hshift, hstop, ?_⟩
            exact fun heof => kind?_ne_eof lexeme (hkind.trans (congrArg some heof))
          · intro _
            cases hlast with
            | none => rfl
            | some hbyte =>
                unfold ShiftedBy at hbyte hshift
                simp only [Option.any_some, decide_eq_decide]
                omega
          · unfold lastByte
            dsimp only
            split
            · exact hlast
            · exact .some hstop

/-- No two tokens of a text begin at one place. -/
theorem place_pairwise (position : Position) (lexs : List Lexeme)
    (htexts : ∀ lexeme ∈ lexs, lexeme.text ≠ []) :
    (∀ token ∈ place position lexs, position.byte ≤ token.span.start.byte) ∧
      (place position lexs).Pairwise fun first second =>
        first.span.start.byte < second.span.start.byte := by
  induction lexs generalizing position with
  | nil => simp [place]
  | cons lexeme lexs ih =>
      obtain ⟨hle, hpairs⟩ := ih (position.after lexeme.text)
        fun other hother => htexts other (List.mem_cons_of_mem lexeme hother)
      have hlt : position.byte < (position.after lexeme.text).byte := by
        have hne := htexts lexeme List.mem_cons_self
        cases htext : lexeme.text with
        | nil => exact absurd htext hne
        | cons c text =>
            have hsize : 0 < c.utf8Size := c.utf8Size_pos
            rw [Position.after_byte, Text.byteLength_cons]
            omega
      cases hkind : lexeme.kind? with
      | none =>
          rw [place_cons_none hkind]
          exact ⟨fun token htoken => Nat.le_trans (Nat.le_of_lt hlt) (hle token htoken), hpairs⟩
      | some kind =>
          rw [place_cons_some hkind]
          refine ⟨?_, List.pairwise_cons.2 ⟨?_, hpairs⟩⟩
          · intro token htoken
            rcases List.mem_cons.1 htoken with rfl | htoken
            · exact Nat.le_refl _
            · exact Nat.le_trans (Nat.le_of_lt hlt) (hle token htoken)
          · exact fun token htoken => Nat.lt_of_lt_of_le hlt (hle token htoken)

end Token

theorem text_ne_nil_of_mem_lexemes {text : List Char} :
    ∀ lexeme ∈ lexemes text, lexeme.text ≠ [] := by
  fun_induction lexemes text with
  | case1 => simp
  | case2 c rest ih =>
      intro lexeme hlexeme
      rcases List.mem_cons.1 hlexeme with rfl | hlexeme
      · exact Lexeme.text_cut_ne_nil c rest
      · exact ih lexeme hlexeme

/-- Where a list is split at two of its members, they are the same one or each stands on
its side of the other. -/
theorem append_cons_cases {α : Type} {front front' rest rest' : List α} {x x' : α}
    (heq : front ++ x :: rest = front' ++ x' :: rest') :
    (front = front' ∧ x = x' ∧ rest = rest') ∨ (x ∈ front' ∧ x' ∈ rest) ∨
      (x' ∈ front ∧ x ∈ rest') := by
  rcases List.append_eq_append_iff.1 heq with ⟨more, hmore, hrest⟩ | ⟨more, hmore, hrest⟩
  · cases more with
    | nil =>
        obtain ⟨rfl, rfl⟩ := List.cons.inj hrest
        exact .inl ⟨by simpa using hmore.symm, rfl, rfl⟩
    | cons y more =>
        obtain ⟨rfl, rfl⟩ := List.cons.inj hrest
        exact .inr (.inl ⟨by simp [hmore], by simp⟩)
  · cases more with
    | nil =>
        obtain ⟨rfl, rfl⟩ := List.cons.inj hrest
        exact .inl ⟨by simpa using hmore, rfl, rfl⟩
    | cons y more =>
        obtain ⟨rfl, rfl⟩ := List.cons.inj hrest
        exact .inr (.inr ⟨by simp [hmore], by simp⟩)

namespace Token

/-- The tokens of a text are told apart by where they begin. -/
theorem eq_of_start_eq {source : List Char} {before before' after after' : List Token}
    {token token' : Token} (hscan : scan source = before ++ token :: after)
    (hscan' : scan source = before' ++ token' :: after')
    (hstart : token.span.start.byte = token'.span.start.byte) :
    before = before' ∧ token = token' ∧ after = after' := by
  obtain ⟨_, hpairs⟩ := place_pairwise .start (lexemes source) text_ne_nil_of_mem_lexemes
  change (scan source).Pairwise _ at hpairs
  rcases append_cons_cases (hscan.symm.trans hscan') with hsame | ⟨_, hafter⟩ | ⟨_, hafter⟩
  · exact hsame
  · rw [hscan, List.pairwise_append] at hpairs
    have hlt := (List.pairwise_cons.1 hpairs.2.1).1 token' hafter
    omega
  · rw [hscan', List.pairwise_append] at hpairs
    have hlt := (List.pairwise_cons.1 hpairs.2.1).1 token hafter
    omega

/-- Consecutive tokens stand for a slice of the source, whose lexemes they come from. -/
theorem exists_slice {source : List Char} {before among after : List Token} {first last : Token}
    (hscan : scan source = before ++ among ++ after) (hfirst : among.head? = some first)
    (hlast : among.getLast? = some last) :
    ∃ front text back, source = front ++ text ++ back ∧
      first.span.start = Position.start.after front ∧
      last.span.stop = first.span.start.after text ∧
      place first.span.start (lexemes text) = among ∧
      (∃ lexeme, (lexemes text).head? = some lexeme ∧ lexeme.kind? = some first.kind) ∧
      ∃ lexeme, (lexemes text).getLast? = some lexeme ∧ lexeme.kind? = some last.kind := by
  obtain ⟨mid, rfl⟩ := List.head?_eq_some_iff.1 hfirst
  obtain ⟨init, hinit⟩ := List.getLast?_eq_some_iff.1 hlast
  have hfromFirst : scan source = before ++ first :: (mid ++ after) := by
    rw [hscan, List.append_assoc, List.cons_append]
  obtain ⟨left, lexeme, right, hlexs, hleft, hkind, hstart, _, _⟩ :=
    place_eq_append_cons hfromFirst
  have hplace : place first.span.start (lexeme :: right) = init ++ last :: after := by
    rw [scan, hlexs, place_append, hleft, ← hstart] at hscan
    rw [List.append_assoc] at hscan
    rw [List.append_cancel_left hscan, hinit, List.append_assoc, List.singleton_append]
  obtain ⟨lexs, ending, rest, hright, hlexsPlace, hendKind, hendStart, hendStop, hrest⟩ :=
    place_eq_append_cons hplace
  obtain ⟨hsource, htext⟩ := lexemes_of_middle
    (by rw [hlexs, hright, List.append_assoc, List.singleton_append] :
      lexemes source = left ++ ((lexs ++ [ending]) ++ rest))
  refine ⟨_, _, _, hsource, hstart, ?_, ?_, ?_, ?_⟩
  · rw [hendStop, hendStart, List.flatMap_append, Position.after_append]
    simp
  · rw [htext]
    have hsplit : place first.span.start ((lexs ++ [ending]) ++ rest) =
        (first :: mid) ++ after := by
      rw [List.append_assoc, List.singleton_append, ← hright, hplace, hinit, List.append_assoc,
        List.singleton_append]
    have hstop : first.span.start.after ((lexs ++ [ending]).flatMap Lexeme.text) =
        last.span.stop := by
      rw [hendStop, hendStart, List.flatMap_append, Position.after_append]
      simp
    rw [place_append, hstop, hrest] at hsplit
    exact List.append_cancel_right hsplit
  · rw [htext]
    cases lexs with
    | nil =>
        obtain ⟨rfl, _⟩ := List.cons.inj hright
        exact ⟨lexeme, rfl, hkind⟩
    | cons head lexs =>
        obtain ⟨rfl, _⟩ := List.cons.inj hright
        exact ⟨lexeme, rfl, hkind⟩
  · rw [htext]
    exact ⟨ending, by simp, hendKind⟩

end Token

namespace Span

/-- A span between the ends of a slice covers the slice. -/
theorem text?_of_append {span : Span} {before text after : List Char}
    (hstart : span.start = Position.start.after before)
    (hstop : span.stop = span.start.after text) :
    span.text? (before ++ text ++ after) = some text := by
  have hbefore : span.start.byte = Text.byteLength before := by
    rw [hstart, Position.after_byte, Position.start, Nat.zero_add]
  have hafter : span.stop.byte = Text.byteLength before + Text.byteLength text := by
    rw [hstop, Position.after_byte, hbefore]
  rw [Span.text?, hbefore, hafter, Text.slice?_append]

end Span

end FieldBridge
