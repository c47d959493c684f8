import FieldBridge.Proofs.Rereading

/-!
# Layout

Where tokens stand matters to the reading of declarations in one way only: in the text of
a type a blank stands between tokens that do not touch.  So texts are read the same when
their tokens are written the same and the same neighbours touch.  This is the case when
one text is the other with its blanks, its comments and its line ends exchanged.
-/

namespace FieldBridge

theorem Position.byte_lt_after (position : Position) {text : List Char} (htext : text ≠ []) :
    position.byte < (position.after text).byte := by
  cases text with
  | nil => exact absurd rfl htext
  | cons c text =>
      have hsize : 0 < c.utf8Size := c.utf8Size_pos
      rw [Position.after_byte, Text.byteLength_cons]
      omega

theorem lexemes_text_of_mem {source : List Char} {lexeme : Lexeme}
    (hmem : lexeme ∈ lexemes source) : lexemes lexeme.text = [lexeme] := by
  obtain ⟨left, right, hsplit⟩ := List.append_of_mem hmem
  have hmiddle : lexemes source = left ++ ([lexeme] ++ right) := hsplit
  simpa using (lexemes_of_middle hmiddle).2

namespace Token

/-- Tokens that are written the same: two line ends, however they are written, or two
other tokens of one text. -/
structure SameWriting (token other : Token) : Prop where
  newline_iff : other.kind = .newline ↔ token.kind = .newline
  text_eq : token.kind ≠ .newline → other.text = token.text

/-- For each two neighbours, whether they touch, unless one of them is a line end. -/
def joints : List Token → List (Option Bool)
  | first :: second :: rest =>
    (if first.kind = .newline ∨ second.kind = .newline then none
      else some (first.span.stop.byte = second.span.start.byte)) :: joints (second :: rest)
  | _ => []

/-- Tokens that are written the same, and of which the same neighbours touch. -/
structure SameLayout (tokens others : List Token) : Prop where
  written : List.Forall₂ SameWriting tokens others
  joints_eq : joints others = joints tokens

theorem exists_lexeme_of_mem_place {position : Position} {lexs : List Lexeme} {token : Token}
    (hmem : token ∈ place position lexs) :
    ∃ lexeme ∈ lexs, lexeme.kind? = some token.kind ∧
      token.text = String.ofList lexeme.text := by
  induction lexs generalizing position with
  | nil => simp [place] at hmem
  | cons first lexs ih =>
      cases hkind : first.kind? with
      | none =>
          rw [place_cons_none hkind] at hmem
          obtain ⟨lexeme, hlexeme, htoken⟩ := ih hmem
          exact ⟨lexeme, List.mem_cons_of_mem first hlexeme, htoken⟩
      | some kind =>
          rw [place_cons_some hkind, List.mem_cons] at hmem
          rcases hmem with rfl | hmem
          · exact ⟨first, List.mem_cons_self, hkind, rfl⟩
          · obtain ⟨lexeme, hlexeme, htoken⟩ := ih hmem
            exact ⟨lexeme, List.mem_cons_of_mem first hlexeme, htoken⟩

/-- The text of a token decides its kind: cut on its own it is the same lexeme again. -/
theorem SameWriting.kind_eq {source source' : List Char} {token other : Token}
    (hsame : SameWriting token other) (htoken : token ∈ scan source)
    (hother : other ∈ scan source') : other.kind = token.kind := by
  by_cases hnewline : token.kind = .newline
  · rw [hnewline, hsame.newline_iff.2 hnewline]
  · obtain ⟨lexeme, hlexeme, hkind, htext⟩ := exists_lexeme_of_mem_place htoken
    obtain ⟨lexeme', hlexeme', hkind', htext'⟩ := exists_lexeme_of_mem_place hother
    have htexts : lexeme'.text = lexeme.text := by
      rw [← String.ofList_inj, ← htext, ← htext', hsame.text_eq hnewline]
    have hcut := lexemes_text_of_mem hlexeme'
    rw [htexts, lexemes_text_of_mem hlexeme] at hcut
    obtain rfl : lexeme = lexeme' := by simpa using hcut
    rw [hkind] at hkind'
    exact (Option.some.inj hkind').symm

/-- Tokens that stand one behind the other from a byte on, and of which none is empty. -/
def InOrder : Nat → List Token → Prop
  | _, [] => True
  | byte, token :: rest =>
    byte ≤ token.span.start.byte ∧ token.span.start.byte < token.span.stop.byte ∧
      InOrder token.span.stop.byte rest

theorem InOrder.mono {byte byte' : Nat} {tokens : List Token} (horder : InOrder byte tokens)
    (hle : byte' ≤ byte) : InOrder byte' tokens := by
  cases tokens with
  | nil => trivial
  | cons token rest => exact ⟨Nat.le_trans hle horder.1, horder.2⟩

theorem place_inOrder (position : Position) {lexs : List Lexeme}
    (htexts : ∀ lexeme ∈ lexs, lexeme.text ≠ []) :
    InOrder position.byte (place position lexs) := by
  induction lexs generalizing position with
  | nil => trivial
  | cons lexeme lexs ih =>
      have hlt := position.byte_lt_after (htexts lexeme List.mem_cons_self)
      have hrest := ih (position.after lexeme.text) fun other hother =>
        htexts other (List.mem_cons_of_mem lexeme hother)
      cases hkind : lexeme.kind? with
      | none =>
          rw [place_cons_none hkind]
          exact hrest.mono (Nat.le_of_lt hlt)
      | some kind =>
          rw [place_cons_some hkind]
          exact ⟨Nat.le_refl _, hlt, hrest⟩

theorem scan_inOrder (source : List Char) : InOrder 0 (scan source) :=
  place_inOrder .start text_ne_nil_of_mem_lexemes

theorem joints_tail {token other : Token} {tokens others : List Token}
    (hlength : tokens.length = others.length)
    (hjoints : joints (other :: others) = joints (token :: tokens)) :
    joints others = joints tokens := by
  cases tokens with
  | nil =>
      obtain rfl := List.length_eq_zero_iff.1 hlength.symm
      rfl
  | cons second tokens =>
      cases others with
      | nil => simp at hlength
      | cons second' others => exact (List.cons.inj hjoints).2

end Token

namespace Declaration

open Token

/-- Behind tokens of which the same neighbours touch, the next tokens are apart from the
last ones on both sides or on neither.  A line end between two tokens keeps them apart,
so nothing is asked of how it stands. -/
theorem apart_next {token other next next' : Token} {tokens others : List Token}
    {last last' : Option Nat} {byte byte' : Nat} (hsame : SameToken anywhere token other)
    (horder : InOrder byte (token :: next :: tokens))
    (horder' : InOrder byte' (other :: next' :: others))
    (hjoints : joints (other :: next' :: others) = joints (token :: next :: tokens))
    (hlast : Option.Rel (fun stop stop' => stop ≤ byte ∧ stop' ≤ byte') last last')
    (hnext : SameToken anywhere next next') (hline : next.kind ≠ .newline) :
    (lastByte last' other).any (· < next'.span.start.byte) =
      (lastByte last token).any (· < next.span.start.byte) := by
  obtain ⟨hle, hlt, hbehind, -⟩ := horder
  obtain ⟨hle', hlt', hbehind', -⟩ := horder'
  unfold lastByte
  rw [hsame.kind_eq]
  by_cases hnewline : token.kind = .newline
  · simp only [if_pos hnewline]
    cases hlast with
    | none => rfl
    | some hstops =>
        simp only [Option.any_some, decide_eq_decide]
        omega
  · have hjoint := (List.cons.inj hjoints).1
    simp only [hsame.kind_eq, hnext.kind_eq, hnewline, hline, or_self, if_false,
      Option.some.injEq, decide_eq_decide] at hjoint
    simp only [if_neg hnewline, Option.any_some, decide_eq_decide]
    omega

/-- Tokens in order of which the same neighbours touch are alike. -/
theorem alike_of_joints {tokens others : List Token} {last last' : Option Nat} {byte byte' : Nat}
    (hsame : List.Forall₂ (SameToken anywhere) tokens others)
    (hjoints : joints others = joints tokens) (horder : InOrder byte tokens)
    (horder' : InOrder byte' others)
    (hlast : Option.Rel (fun stop stop' => stop ≤ byte ∧ stop' ≤ byte') last last')
    (hgap : ∀ token ∈ tokens.head?, ∀ other ∈ others.head?, token.kind ≠ .newline →
      last'.any (· < other.span.start.byte) = last.any (· < token.span.start.byte)) :
    AlikeFrom anywhere [] [] last last' tokens others := by
  induction hsame generalizing last last' byte byte' with
  | nil => exact .done last last'
  | @cons token other tokens others same hrest ih =>
      refine .cons same (hgap token rfl other rfl) ?_
      apply ih (joints_tail hrest.length_eq hjoints) horder.2.2 horder'.2.2
      · unfold lastByte
        rw [same.kind_eq]
        split
        · obtain ⟨hle, hlt, -⟩ := horder
          obtain ⟨hle', hlt', -⟩ := horder'
          cases hlast with
          | none => exact .none
          | some hstops => exact .some (by omega)
        · exact .some ⟨Nat.le_refl _, Nat.le_refl _⟩
      · intro next hnext next' hnext' hline
        cases hrest with
        | nil => cases hnext
        | cons same' _ =>
            obtain rfl := Option.some.inj hnext
            obtain rfl := Option.some.inj hnext'
            exact apart_next same horder horder' hjoints hlast same' hline

theorem forall₂_sameToken {source source' : List Char} {tokens others : List Token}
    (hwritten : List.Forall₂ SameWriting tokens others)
    (htokens : ∀ token ∈ tokens, token ∈ scan source)
    (hothers : ∀ other ∈ others, other ∈ scan source') :
    List.Forall₂ (SameToken anywhere) tokens others := by
  induction hwritten with
  | nil => exact .nil
  | @cons token other tokens others written _ ih =>
      have htoken := htokens token List.mem_cons_self
      have hkind := written.kind_eq htoken (hothers other List.mem_cons_self)
      constructor
      · exact ⟨hkind, written.text_eq, trivial, trivial,
          scan_ne_eof List.suffix_rfl token htoken⟩
      · exact ih (fun token htoken => htokens token (List.mem_cons_of_mem _ htoken))
          fun other hother => hothers other (List.mem_cons_of_mem _ hother)

theorem alike_of_sameLayout {source other : List Char}
    (hlayout : SameLayout (scan source) (scan other)) :
    Alike anywhere [] [] (scan source) (scan other) := by
  apply alike_of_joints (forall₂_sameToken hlayout.written (fun _ => id) fun _ => id)
    hlayout.joints_eq (scan_inOrder source) (scan_inOrder other) .none
  intros
  rfl

end Declaration

namespace Lexeme

/-- Blanks, and comments that end no line. -/
def IsGap (gap : List Lexeme) : Prop :=
  ∀ lexeme ∈ gap, lexeme.kind? = none

/-- Lexemes that differ in layout alone: some space is exchanged for other space, and a
line end, with the space around it, for another one. -/
inductive Relaid : List Lexeme → List Lexeme → Prop where
  | done {gap gap' : List Lexeme} (space : IsGap gap) (space' : IsGap gap') : Relaid gap gap'
  | keep (lexeme : Lexeme) {left right : List Lexeme} (rest : Relaid left right) :
      Relaid (lexeme :: left) (lexeme :: right)
  | spacing {gap gap' left right : List Lexeme} (space : IsGap gap) (space' : IsGap gap')
      (some : gap ≠ []) (some' : gap' ≠ []) (rest : Relaid left right) :
      Relaid (gap ++ left) (gap' ++ right)
  | lineEnd {before before' after after' left right : List Lexeme} {ending ending' : Lexeme}
      (space : IsGap before ∧ IsGap after) (space' : IsGap before' ∧ IsGap after')
      (ends : ending.kind? = some .newline) (ends' : ending'.kind? = some .newline)
      (rest : Relaid left right) :
      Relaid (before ++ ending :: (after ++ left)) (before' ++ ending' :: (after' ++ right))

theorem text_ne_nil_of_kind? {lexeme : Lexeme}
    (hkind : lexeme.kind? = none ∨ lexeme.kind? = some .newline) : lexeme.text ≠ [] := by
  cases lexeme <;> simp_all [kind?, text]

theorem flatMap_text_ne_nil {gap : List Lexeme} (hgap : IsGap gap) (hsome : gap ≠ []) :
    gap.flatMap text ≠ [] := by
  cases gap with
  | nil => exact absurd rfl hsome
  | cons lexeme gap =>
      have htext := text_ne_nil_of_kind? (Or.inl (hgap lexeme List.mem_cons_self))
      simp [htext]

theorem place_gap {gap : List Lexeme} (hgap : IsGap gap) (position : Position)
    (lexs : List Lexeme) :
    Token.place position (gap ++ lexs) =
      Token.place (position.after (gap.flatMap text)) lexs := by
  induction gap generalizing position with
  | nil => rfl
  | cons lexeme gap ih =>
      rw [List.cons_append, Token.place_cons_none (hgap lexeme List.mem_cons_self),
        ih fun other hother => hgap other (List.mem_cons_of_mem lexeme hother),
        List.flatMap_cons, Position.after_append]

end Lexeme

namespace Declaration

open Lexeme

/-- The bytes at which the last tokens ended: at or before two places, and before both of
them or neither. -/
def Behind (here here' stop stop' : Nat) : Prop :=
  stop ≤ here ∧ stop' ≤ here' ∧ (stop < here ↔ stop' < here')

theorem Behind.advance {here here' there there' : Nat} {last last' : Option Nat}
    (hlast : Option.Rel (Behind here here') last last') (hlt : here < there)
    (hlt' : here' < there') : Option.Rel (Behind there there') last last' := by
  cases hlast with
  | none => exact .none
  | some hbehind =>
      obtain ⟨hle, hle', -⟩ := hbehind
      exact .some ⟨by omega, by omega, by omega⟩

theorem Behind.apart {here here' : Nat} {last last' : Option Nat}
    (hlast : Option.Rel (Behind here here') last last') :
    last'.any (· < here') = last.any (· < here) := by
  cases hlast with
  | none => rfl
  | some hbehind =>
      simp only [Option.any_some, decide_eq_decide]
      exact hbehind.2.2.symm

/-- Space before the next tokens, on either side. -/
theorem Behind.skip {position position' : Position} {last last' : Option Nat}
    {text text' : List Char} (hlast : Option.Rel (Behind position.byte position'.byte) last last')
    (htext : text ≠ []) (htext' : text' ≠ []) :
    Option.Rel (Behind (position.after text).byte (position'.after text').byte) last last' :=
  Behind.advance hlast (position.byte_lt_after htext) (position'.byte_lt_after htext')

/-- One lexeme on both sides. -/
theorem alike_keep {lexeme : Lexeme} {left right : List Lexeme} {position position' : Position}
    {last last' : Option Nat} (hlast : Option.Rel (Behind position.byte position'.byte) last last')
    (hrest : ∀ {position position' : Position} {last last' : Option Nat},
      Option.Rel (Behind position.byte position'.byte) last last' →
        AlikeFrom anywhere [] [] last last' (Token.place position left)
          (Token.place position' right)) :
    AlikeFrom anywhere [] [] last last' (Token.place position (lexeme :: left))
      (Token.place position' (lexeme :: right)) := by
  cases hkind : lexeme.kind? with
  | none =>
      have htext := text_ne_nil_of_kind? (Or.inl hkind)
      rw [Token.place_cons_none hkind, Token.place_cons_none hkind]
      exact hrest (Behind.skip hlast htext htext)
  | some kind =>
      rw [Token.place_cons_some hkind, Token.place_cons_some hkind]
      constructor
      · exact ⟨rfl, fun _ => rfl, trivial, trivial,
          fun heof => Token.kind?_ne_eof lexeme (hkind.trans (congrArg some heof))⟩
      · exact fun _ => Behind.apart hlast
      · apply hrest
        unfold lastByte
        dsimp only
        split
        · next hnewline =>
          have htext := text_ne_nil_of_kind? (Or.inr (hnewline ▸ hkind))
          exact Behind.skip hlast htext htext
        · exact .some ⟨Nat.le_refl _, Nat.le_refl _, by simp⟩

/-- The same behind a line end, where the last tokens end before both places. -/
theorem Behind.of_lt {position position' : Position} {last last' : Option Nat}
    (hlast : Option.Rel (fun stop stop' => stop < position.byte ∧ stop' < position'.byte)
      last last') (text text' : List Char) :
    Option.Rel (Behind (position.after text).byte (position'.after text').byte) last last' := by
  cases hlast with
  | none => exact .none
  | some hstops =>
      rw [Position.after_byte, Position.after_byte]
      exact .some ⟨by omega, by omega, by omega⟩

/-- A line end on both sides.  What the last tokens touch does not matter any more. -/
theorem alike_lineEnd {ending ending' : Lexeme} (hending : ending.kind? = some .newline)
    (hending' : ending'.kind? = some .newline) {left right : List Lexeme}
    {position position' : Position} {last last' : Option Nat}
    (hlast : Option.Rel (fun stop stop' => stop ≤ position.byte ∧ stop' ≤ position'.byte)
      last last')
    (hrest : ∀ {position position' : Position} {last last' : Option Nat},
      Option.Rel (fun stop stop' => stop < position.byte ∧ stop' < position'.byte) last last' →
        AlikeFrom anywhere [] [] last last' (Token.place position left)
          (Token.place position' right)) :
    AlikeFrom anywhere [] [] last last' (Token.place position (ending :: left))
      (Token.place position' (ending' :: right)) := by
  have hlt := position.byte_lt_after (text_ne_nil_of_kind? (Or.inr hending))
  have hlt' := position'.byte_lt_after (text_ne_nil_of_kind? (Or.inr hending'))
  rw [Token.place_cons_some hending, Token.place_cons_some hending']
  constructor
  · exact ⟨rfl, fun hkind => absurd rfl hkind, trivial, trivial, by simp⟩
  · exact fun hkind => absurd rfl hkind
  · apply hrest
    cases hlast with
    | none => exact .none
    | some hstops => exact .some ⟨by omega, by omega⟩

/-- Lexemes that differ in layout alone make alike tokens. -/
theorem alike_of_relaid {lexs lexs' : List Lexeme} (hrelaid : Relaid lexs lexs')
    {position position' : Position} {last last' : Option Nat}
    (hlast : Option.Rel (Behind position.byte position'.byte) last last') :
    AlikeFrom anywhere [] [] last last' (Token.place position lexs)
      (Token.place position' lexs') := by
  induction hrelaid generalizing position position' last last' with
  | @done gap gap' space space' =>
      have hgap := place_gap space position []
      have hgap' := place_gap space' position' []
      rw [List.append_nil] at hgap hgap'
      rw [hgap, hgap']
      exact .done last last'
  | keep lexeme _ ih => exact alike_keep hlast ih
  | spacing space space' some some' _ ih =>
      rw [place_gap space, place_gap space']
      apply ih
      exact Behind.skip hlast (flatMap_text_ne_nil space some) (flatMap_text_ne_nil space' some')
  | lineEnd space space' ends ends' _ ih =>
      rw [place_gap space.1, place_gap space'.1]
      apply alike_lineEnd ends ends'
      · rw [Position.after_byte, Position.after_byte]
        cases hlast with
        | none => exact .none
        | some hbehind =>
            obtain ⟨hle, hle', -⟩ := hbehind
            exact .some ⟨by omega, by omega⟩
      · intro position position' last last' hlast
        rw [place_gap space.2, place_gap space'.2]
        exact ih (Behind.of_lt hlast _ _)

/-- Texts that differ in layout alone: in the space they begin with, and in their lexemes
behind it. -/
def SameButLayout (source other : List Char) : Prop :=
  ∃ gap gap' left right, lexemes source = gap ++ left ∧ lexemes other = gap' ++ right ∧
    IsGap gap ∧ IsGap gap' ∧ Relaid left right

theorem alike_of_sameButLayout {source other : List Char} (hlayout : SameButLayout source other) :
    Alike anywhere [] [] (Token.scan source) (Token.scan other) := by
  obtain ⟨gap, gap', left, right, hsource, hother, hgap, hgap', hrelaid⟩ := hlayout
  rw [Token.scan, Token.scan, hsource, hother, place_gap hgap, place_gap hgap']
  exact alike_of_relaid hrelaid .none

/-- The declaration without the places in it. -/
def unplaced (declaration : Declaration) : Declaration :=
  { declaration with
    nameSpan := Span.point .start
    fields := declaration.fields.map Field.unplaced
    span := Span.point .start
    failure := declaration.failure.map Diagnostic.unplaced
    notes := declaration.notes.map Diagnostic.unplaced }

theorem Same.unplaced_eq {moved : Nat → Nat → Prop} {declaration other : Declaration}
    (hsame : declaration.Same moved other) (hgrouped : other.grouped = declaration.grouped) :
    other.unplaced = declaration.unplaced := by
  unfold unplaced
  rw [hsame.name_eq, hsame.fields_eq, hgrouped, hsame.failure_eq, hsame.notes_eq]

end Declaration

namespace StructDescriptor

open Declaration

/-- Descriptors are made of one declaration after the other, so what is seen of them
agrees when it agrees for each. -/
theorem ofDeclarations_congr {α : Type} {view : StructDescriptor → α} {source other : List Char}
    {declarations others : List Declaration}
    (hview : List.Forall₂ (fun declaration again => ∀ id,
      view (ofDeclaration id (declarationText other again) again) =
        view (ofDeclaration id (declarationText source declaration) declaration))
      declarations others) (supply : IdSupply) :
    (ofDeclarations other supply others).1.map view =
        (ofDeclarations source supply declarations).1.map view ∧
      (ofDeclarations other supply others).2 = (ofDeclarations source supply declarations).2 := by
  induction hview generalizing supply with
  | nil => exact ⟨rfl, rfl⟩
  | cons hfirst _ ih =>
      obtain ⟨hmore, hsupply⟩ := ih (supply.next "struct").2
      simp only [ofDeclarations, List.map_cons]
      exact ⟨by rw [hfirst, hmore], hsupply⟩

/-- The descriptor without its source text and without the places of its findings. -/
def withoutText (descriptor : StructDescriptor) : StructDescriptor :=
  { descriptor.unplaced with sourceText := "" }

theorem withoutText_ofDeclaration {moved : Nat → Nat → Prop} {declaration other : Declaration}
    (hsame : declaration.Same moved other) (id text text' : String) :
    (ofDeclaration id text' other).withoutText = (ofDeclaration id text declaration).withoutText := by
  have hunplaced := ofDeclaration_unplaced hsame id text
  exact congrArg (fun descriptor : StructDescriptor => { descriptor with sourceText := "" })
    hunplaced

/-- Texts that declare the same and are read the same, apart from where it stands and from
the source texts. -/
def SameReading (source other : String) : Prop :=
  (Declaration.all other.toList).map Declaration.unplaced =
      (Declaration.all source.toList).map Declaration.unplaced ∧
    ∀ supply, (readMany other supply).1.map withoutText =
        (readMany source supply).1.map withoutText ∧
      (readMany other supply).2 = (readMany source supply).2

theorem SameReading.symm {source other : String} (hreading : SameReading source other) :
    SameReading other source :=
  ⟨hreading.1.symm, fun supply => ⟨(hreading.2 supply).1.symm, (hreading.2 supply).2.symm⟩⟩

theorem sameReading_of_forall₂ {source other : String}
    (hall : List.Forall₂ (fun declaration again => declaration.Same anywhere again ∧
        again.grouped = declaration.grouped)
      (Declaration.all source.toList) (Declaration.all other.toList)) :
    SameReading source other := by
  constructor
  · rw [← List.forall₂_eq_eq_eq, List.forall₂_map_left_iff, List.forall₂_map_right_iff]
    exact hall.flip.imp fun _ _ hsame => hsame.1.unplaced_eq hsame.2
  · apply ofDeclarations_congr
    exact hall.imp fun _ _ hsame id => withoutText_ofDeclaration hsame.1 id _ _

theorem withoutText_read {source other : String}
    (hall : List.Forall₂ (fun declaration again => declaration.Same anywhere again ∧
        again.grouped = declaration.grouped)
      (Declaration.all source.toList) (Declaration.all other.toList)) (id : String) :
    (read id other).withoutText = (read id source).withoutText := by
  unfold read
  rw [← head?_all, ← head?_all]
  generalize Declaration.all source.toList = declarations at hall
  generalize Declaration.all other.toList = others at hall
  cases hall with
  | nil => rfl
  | cons hsame _ => exact withoutText_ofDeclaration hsame.1 id _ _

theorem sameReading_of_alike {source other : String}
    (halike : Alike anywhere [] [] (Token.scan source.toList) (Token.scan other.toList)) :
    SameReading source other :=
  sameReading_of_forall₂ (alike_allFrom _ (Nat.le_refl _) .file trivial halike)

/-- Texts are read the same when their tokens are written the same and the same
neighbours touch, and when they differ in blanks, comments and line ends alone. -/
theorem sameReading_of_layout :
    (∀ source other : String,
      Token.SameLayout (Token.scan source.toList) (Token.scan other.toList) →
        SameReading source other) ∧
    ∀ source other : String, SameButLayout source.toList other.toList →
      SameReading source other := by
  constructor
  · intro source other hlayout
    exact sameReading_of_alike (alike_of_sameLayout hlayout)
  · intro source other hlayout
    exact sameReading_of_alike (alike_of_sameButLayout hlayout)

theorem sameReading_of_layout_comment_carriage_return :
    SameReading "type A struct\x7b B  int\r\n\x7d" "type  A struct\x7b\tB int /*x*/\n\x7d" ∧
      SameReading "type A struct\x7b B  int\r\n\x7d" "type A struct\x7b B int // x\n\x7d" := by
  constructor
  · apply sameReading_of_layout.1
    have hscan : Token.scan "type A struct\x7b B  int\r\n\x7d".toList =
        [⟨.ident "type", "type", ⟨⟨0, 0, 0⟩, ⟨4, 0, 4⟩⟩⟩, ⟨.ident "A", "A", ⟨⟨5, 0, 5⟩, ⟨6, 0, 6⟩⟩⟩,
          ⟨.ident "struct", "struct", ⟨⟨7, 0, 7⟩, ⟨13, 0, 13⟩⟩⟩,
          ⟨.punct '{', "\x7b", ⟨⟨13, 0, 13⟩, ⟨14, 0, 14⟩⟩⟩, ⟨.ident "B", "B", ⟨⟨15, 0, 15⟩, ⟨16, 0, 16⟩⟩⟩,
          ⟨.ident "int", "int", ⟨⟨18, 0, 18⟩, ⟨21, 0, 21⟩⟩⟩, ⟨.newline, "\n", ⟨⟨22, 0, 22⟩, ⟨23, 1, 0⟩⟩⟩,
          ⟨.punct '}', "\x7d", ⟨⟨23, 1, 0⟩, ⟨24, 1, 1⟩⟩⟩] := by
      cbv
    have hscan' : Token.scan "type  A struct\x7b\tB int /*x*/\n\x7d".toList =
        [⟨.ident "type", "type", ⟨⟨0, 0, 0⟩, ⟨4, 0, 4⟩⟩⟩, ⟨.ident "A", "A", ⟨⟨6, 0, 6⟩, ⟨7, 0, 7⟩⟩⟩,
          ⟨.ident "struct", "struct", ⟨⟨8, 0, 8⟩, ⟨14, 0, 14⟩⟩⟩,
          ⟨.punct '{', "\x7b", ⟨⟨14, 0, 14⟩, ⟨15, 0, 15⟩⟩⟩, ⟨.ident "B", "B", ⟨⟨16, 0, 16⟩, ⟨17, 0, 17⟩⟩⟩,
          ⟨.ident "int", "int", ⟨⟨18, 0, 18⟩, ⟨21, 0, 21⟩⟩⟩, ⟨.newline, "\n", ⟨⟨27, 0, 27⟩, ⟨28, 1, 0⟩⟩⟩,
          ⟨.punct '}', "\x7d", ⟨⟨28, 1, 0⟩, ⟨29, 1, 1⟩⟩⟩] := by
      cbv
    rw [hscan, hscan']
    constructor
    · repeat' constructor
      all_goals simp
    · decide
  · have hlexs : lexemes "type A struct\x7b B  int\r\n\x7d".toList =
        [.word "type".toList, .blank ' ', .word ['A'], .blank ' ', .word "struct".toList,
          .symbol '{', .blank ' ', .word ['B'], .blank ' ', .blank ' ', .word "int".toList,
          .blank '\r', .lineFeed, .symbol '}'] := by
      cbv
    have hlexs' : lexemes "type A struct\x7b B int // x\n\x7d".toList =
        [.word "type".toList, .blank ' ', .word ['A'], .blank ' ', .word "struct".toList,
          .symbol '{', .blank ' ', .word ['B'], .blank ' ', .word "int".toList,
          .blank ' ', .lineComment [' ', 'x'], .lineFeed, .symbol '}'] := by
      cbv
    apply sameReading_of_layout.2
    rw [SameButLayout, hlexs, hlexs']
    refine ⟨[], [], _, _, rfl, rfl, by simp [Lexeme.IsGap], by simp [Lexeme.IsGap], ?_⟩
    iterate 8 apply Lexeme.Relaid.keep
    apply @Lexeme.Relaid.spacing [.blank ' ', .blank ' '] [.blank ' '] _ _ _ _ (by simp) (by simp)
    · apply Lexeme.Relaid.keep
      apply @Lexeme.Relaid.lineEnd [.blank '\r'] [.blank ' ', .lineComment [' ', 'x']] [] []
        _ _ _ _ _ _ rfl rfl
      · apply Lexeme.Relaid.keep
        apply Lexeme.Relaid.done
        all_goals simp [Lexeme.IsGap]
      all_goals simp [Lexeme.IsGap, Lexeme.kind?]
    all_goals simp [Lexeme.IsGap, Lexeme.kind?]

end StructDescriptor

end FieldBridge
