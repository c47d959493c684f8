import FieldBridge.Declaration.Search
import FieldBridge.Proofs.Closing

/-!
# Reading alike tokens

Two token lists are alike up to their ends when they agree in kind and text, and in
which neighbours touch, as far as these ends.  Where the tokens stand is left open,
except for a relation `moved` between byte offsets that the user chooses.  Every
reader that leaves at least the end of one list reads the same from the other and
leaves alike tokens again.  Both independence of what follows a declaration and
independence of what precedes it are instances.
-/

namespace FieldBridge

/-- The finding without its places. -/
def Diagnostic.unplaced (diagnostic : Diagnostic) : Diagnostic :=
  { diagnostic with
    span := Span.point .start
    related := diagnostic.related.map fun _ => Span.point .start }

/-- The field without its place. -/
def Declaration.Field.unplaced (field : Declaration.Field) : Declaration.Field :=
  { field with span := Span.point .start }

namespace Declaration

/-- Tokens of one kind and text, at places that are related. -/
structure SameToken (moved : Nat → Nat → Prop) (token other : Token) : Prop where
  kind_eq : other.kind = token.kind
  text_eq : token.kind ≠ .newline → other.text = token.text
  start_moved : moved token.span.start.byte other.span.start.byte
  stop_moved : moved token.span.stop.byte other.span.stop.byte
  kind_ne : token.kind ≠ .eof

/-- Where the last token before the next one ended, line ends apart. -/
def lastByte (last : Option Nat) (token : Token) : Option Nat :=
  if token.kind = .newline then last else some token.span.stop.byte

/-- Lists that are alike up to their ends, after tokens that ended at given bytes. -/
inductive AlikeFrom (moved : Nat → Nat → Prop) (leftEnd rightEnd : List Token) :
    Option Nat → Option Nat → List Token → List Token → Prop where
  | done (last last' : Option Nat) : AlikeFrom moved leftEnd rightEnd last last' leftEnd rightEnd
  | cons {last last' : Option Nat} {token other : Token} {left right : List Token}
      (same : SameToken moved token other)
      (gap : token.kind ≠ .newline → last'.any (· < other.span.start.byte) =
        last.any (· < token.span.start.byte))
      (rest : AlikeFrom moved leftEnd rightEnd (lastByte last token) (lastByte last' other)
        left right) :
      AlikeFrom moved leftEnd rightEnd last last' (token :: left) (other :: right)

abbrev Alike (moved : Nat → Nat → Prop) (leftEnd rightEnd left right : List Token) : Prop :=
  AlikeFrom moved leftEnd rightEnd none none left right

/-- Ends that begin with the same token, which is no point, or that are both empty.
Readers look no further than one token ahead, except behind a point. -/
inductive SameHead (moved : Nat → Nat → Prop) : List Token → List Token → Prop where
  | nil : SameHead moved [] []
  | cons {token other : Token} {left right : List Token} (same : SameToken moved token other)
      (point : token.isPunct '.' = false) : SameHead moved (token :: left) (other :: right)

namespace SameToken

variable {moved : Nat → Nat → Prop} {token other : Token}

theorem isPunct_eq (hsame : SameToken moved token other) (c : Char) :
    other.isPunct c = token.isPunct c := by
  rw [Token.isPunct, hsame.kind_eq, Token.isPunct]

theorem isWord_eq (hsame : SameToken moved token other) (name : String) :
    other.isWord name = token.isWord name := by
  rw [Token.isWord, hsame.kind_eq, Token.isWord]

theorem name?_eq (hsame : SameToken moved token other) : other.name? = token.name? := by
  rw [Token.name?, hsame.kind_eq, Token.name?]

theorem string?_eq (hsame : SameToken moved token other) : other.string? = token.string? := by
  rw [Token.string?, hsame.kind_eq, Token.string?]

theorem endsField_eq (hsame : SameToken moved token other) :
    other.endsField = token.endsField := by
  rw [Token.endsField, hsame.kind_eq, Token.endsField]

theorem isSeparator_eq (hsame : SameToken moved token other) :
    other.isSeparator = token.isSeparator := by
  rw [Token.isSeparator, hsame.kind_eq, hsame.isPunct_eq, Token.isSeparator]

theorem nest_eq (hsame : SameToken moved token other) (depth : Nat) :
    nest depth other = nest depth token := by
  rw [Declaration.nest_eq, Declaration.nest_eq, Token.bracket, hsame.kind_eq, Token.bracket]

end SameToken

variable {moved : Nat → Nat → Prop} {leftEnd rightEnd left right : List Token}
  {last last' : Option Nat}

theorem AlikeFrom.weaken (halike : AlikeFrom moved leftEnd rightEnd last last' left right) :
    Alike moved leftEnd rightEnd left right := by
  induction halike with
  | done => exact .done none none
  | @cons last last' token other left right same gap rest ih =>
      refine .cons same (fun _ => rfl) ?_
      unfold lastByte at rest ⊢
      rw [same.kind_eq] at rest ⊢
      split at rest
      · next hnewline => simpa [hnewline] using ih
      · next hnewline => simpa [hnewline] using rest

theorem AlikeFrom.length_le (halike : AlikeFrom moved leftEnd rightEnd last last' left right) :
    leftEnd.length ≤ left.length := by
  induction halike with
  | done => exact Nat.le_refl _
  | cons _ _ _ ih => exact Nat.le_succ_of_le ih

theorem AlikeFrom.eq_of_length_le
    (halike : AlikeFrom moved leftEnd rightEnd last last' left right)
    (hlength : left.length ≤ leftEnd.length) : left = leftEnd ∧ right = rightEnd := by
  cases halike with
  | done => exact ⟨rfl, rfl⟩
  | cons _ _ rest =>
      have hle := rest.length_le
      simp only [List.length_cons] at hlength
      omega

theorem AlikeFrom.nil_inv (hends : SameHead moved leftEnd rightEnd)
    (halike : AlikeFrom moved leftEnd rightEnd last last' [] right) : right = [] := by
  cases halike with
  | done =>
      cases hends with
      | nil => rfl

theorem AlikeFrom.head_inv {token : Token} {tokens : List Token}
    (hends : SameHead moved leftEnd rightEnd)
    (halike : AlikeFrom moved leftEnd rightEnd last last' (token :: tokens) right) :
    ∃ other others, right = other :: others ∧ SameToken moved token other := by
  cases halike with
  | done =>
      cases hends with
      | cons same _ => exact ⟨_, _, rfl, same⟩
  | cons same _ _ => exact ⟨_, _, rfl, same⟩

theorem AlikeFrom.cons_inv {token : Token} {tokens : List Token}
    (halike : AlikeFrom moved leftEnd rightEnd last last' (token :: tokens) right)
    (hreach : leftEnd.length ≤ tokens.length) :
    ∃ other others, right = other :: others ∧ SameToken moved token other ∧
      (token.kind ≠ .newline → last'.any (· < other.span.start.byte) =
        last.any (· < token.span.start.byte)) ∧
      AlikeFrom moved leftEnd rightEnd (lastByte last token) (lastByte last' other)
        tokens others := by
  cases halike with
  | done => simp only [List.length_cons] at hreach; omega
  | cons same gap rest => exact ⟨_, _, rfl, same, gap, rest⟩

theorem Alike.cons_inv {token : Token} {tokens : List Token}
    (halike : Alike moved leftEnd rightEnd (token :: tokens) right)
    (hreach : leftEnd.length ≤ tokens.length) :
    ∃ other others, right = other :: others ∧ SameToken moved token other ∧
      Alike moved leftEnd rightEnd tokens others := by
  obtain ⟨other, others, hright, hsame, _, hrest⟩ := AlikeFrom.cons_inv halike hreach
  exact ⟨other, others, hright, hsame, hrest.weaken⟩

theorem AlikeFrom.tail {token other : Token} {tokens others : List Token}
    (halike : AlikeFrom moved leftEnd rightEnd last last' (token :: tokens) (other :: others))
    (hreach : leftEnd.length ≤ tokens.length) :
    Alike moved leftEnd rightEnd tokens others := by
  cases halike with
  | done => simp only [List.length_cons] at hreach; omega
  | cons _ _ rest => exact rest.weaken

theorem alike_skipNewlines (hends : SameHead moved leftEnd rightEnd)
    (halike : Alike moved leftEnd rightEnd left right)
    (hreach : leftEnd.length ≤ (skipNewlines left).length) :
    Alike moved leftEnd rightEnd (skipNewlines left) (skipNewlines right) := by
  induction left generalizing right with
  | nil =>
      obtain rfl := halike.nil_inv hends
      exact halike
  | cons token tokens ih =>
      unfold skipNewlines at hreach ih ⊢
      by_cases hnewline : token.kind = .newline
      · rw [List.dropWhile_cons_of_pos (by simpa)] at hreach ⊢
        obtain ⟨other, others, rfl, hsame, hrest⟩ :=
          halike.cons_inv (Nat.le_trans hreach (List.dropWhile_suffix _).length_le)
        rw [List.dropWhile_cons_of_pos (by simpa [hsame.kind_eq])]
        exact ih hrest hreach
      · rw [List.dropWhile_cons_of_neg (by simpa)] at hreach ⊢
        obtain ⟨other, others, rfl, hsame⟩ := halike.head_inv hends
        rw [List.dropWhile_cons_of_neg (by simpa [hsame.kind_eq])]
        exact halike

theorem alike_skipLine (hends : SameHead moved leftEnd rightEnd) (closer : Char) (depth : Nat)
    (halike : Alike moved leftEnd rightEnd left right)
    (hreach : leftEnd.length ≤ (skipLine closer depth left).length) :
    Alike moved leftEnd rightEnd (skipLine closer depth left) (skipLine closer depth right) := by
  fun_induction skipLine closer depth left generalizing right with
  | case1 =>
      obtain rfl := halike.nil_inv hends
      exact halike
  | case2 depth token rest hseparator =>
      obtain ⟨other, others, rfl, hsame, hrest⟩ := halike.cons_inv hreach
      rw [skipLine, if_pos (by rwa [hsame.isSeparator_eq])]
      exact hrest
  | case3 depth token rest hseparator hcloses =>
      obtain ⟨other, others, rfl, hsame⟩ := halike.head_inv hends
      rw [skipLine, if_neg (by rwa [hsame.isSeparator_eq]),
        if_pos (by rwa [hsame.isPunct_eq])]
      exact halike
  | case4 depth token rest hseparator hcloses ih =>
      obtain ⟨other, others, rfl, hsame, hrest⟩ :=
        halike.cons_inv (Nat.le_trans hreach (skipLine_suffix _ _ _).length_le)
      rw [skipLine, if_neg (by rwa [hsame.isSeparator_eq]),
        if_neg (by rwa [hsame.isPunct_eq]), hsame.nest_eq]
      exact ih hrest hreach

theorem alike_splitType (hends : SameHead moved leftEnd rightEnd) (depth : Nat)
    (halike : AlikeFrom moved leftEnd rightEnd last last' left right)
    (hreach : leftEnd.length ≤ (splitType depth left).2.length) :
    joinFrom last' (splitType depth right).1 = joinFrom last (splitType depth left).1 ∧
      Alike moved leftEnd rightEnd (splitType depth left).2 (splitType depth right).2 := by
  induction left generalizing depth right last last' with
  | nil =>
      obtain rfl := halike.nil_inv hends
      exact ⟨rfl, halike.weaken⟩
  | cons token tokens ih =>
      rw [splitType] at hreach ⊢
      by_cases hstop : depth = 0 ∧ token.endsField = true
      · rw [if_pos hstop]
        obtain ⟨other, others, rfl, hsame⟩ := halike.head_inv hends
        rw [splitType, if_pos (by rwa [hsame.endsField_eq])]
        exact ⟨rfl, halike.weaken⟩
      · rw [if_neg hstop] at hreach ⊢
        have hsuffix : (splitType (nest depth token) tokens).2 <:+ tokens :=
          ⟨_, splitType_append _ tokens⟩
        obtain ⟨other, others, rfl, hsame, hgap, hrest⟩ :=
          halike.cons_inv (Nat.le_trans hreach hsuffix.length_le)
        obtain ⟨hjoin, hleft⟩ := ih _ hrest hreach
        rw [splitType, if_neg (by rwa [hsame.endsField_eq]), hsame.nest_eq]
        refine ⟨?_, hleft⟩
        dsimp only
        rw [joinFrom, joinFrom, hsame.kind_eq]
        by_cases hnewline : token.kind = .newline
        · simpa [lastByte, hsame.kind_eq, hnewline] using hjoin
        · rw [if_neg hnewline, if_neg hnewline, hgap hnewline, hsame.text_eq hnewline]
          simp only [lastByte, hsame.kind_eq, if_neg hnewline] at hjoin
          rw [hjoin]

theorem alike_typeText (hends : SameHead moved leftEnd rightEnd)
    (halike : Alike moved leftEnd rightEnd left right)
    (hreach : leftEnd.length ≤ (typeText left).2.length) :
    (typeText right).1 = (typeText left).1 ∧
      Alike moved leftEnd rightEnd (typeText left).2 (typeText right).2 :=
  alike_splitType hends 0 halike hreach

theorem selectors_of_not_point {first : Token} (hpoint : first.isPunct '.' = false)
    (tokens : List Token) : selectors (first :: tokens) = ([], first :: tokens) := by
  cases tokens with
  | nil => simp [selectors]
  | cons second tokens => simp [selectors, hpoint]

theorem selectors_of_not_name {second : Token} (hname : second.name? = none)
    (first : Token) (tokens : List Token) :
    selectors (first :: second :: tokens) = ([], first :: second :: tokens) := by
  simp [selectors, hname]

theorem selectors_of_name {first second : Token} {name : String}
    (hpoint : first.isPunct '.' = true) (hname : second.name? = some name)
    (tokens : List Token) :
    selectors (first :: second :: tokens) =
      (name :: (selectors tokens).1, (selectors tokens).2) := by
  rw [selectors]
  simp [hpoint, hname]

/-- A point is never the token at which alike lists end. -/
theorem AlikeFrom.point_inv {first : Token} {tokens : List Token}
    (hends : SameHead moved leftEnd rightEnd) (hpoint : first.isPunct '.' = true)
    (halike : Alike moved leftEnd rightEnd (first :: tokens) right) :
    ∃ other others, right = other :: others ∧ SameToken moved first other ∧
      Alike moved leftEnd rightEnd tokens others := by
  cases halike with
  | done =>
      cases hends with
      | cons same hother => simp [hother] at hpoint
  | cons same gap rest => exact ⟨_, _, rfl, same, rest.weaken⟩

theorem alike_selectors (hends : SameHead moved leftEnd rightEnd) (bound : Nat)
    (hbound : left.length ≤ bound) (halike : Alike moved leftEnd rightEnd left right)
    (hreach : leftEnd.length ≤ (selectors left).2.length) :
    (selectors right).1 = (selectors left).1 ∧
      Alike moved leftEnd rightEnd (selectors left).2 (selectors right).2 := by
  induction bound generalizing left right with
  | zero =>
      obtain rfl := List.length_eq_zero_iff.1 (Nat.le_zero.1 hbound)
      obtain rfl := halike.nil_inv hends
      exact ⟨rfl, halike⟩
  | succ bound ih =>
      cases left with
      | nil =>
          obtain rfl := halike.nil_inv hends
          exact ⟨rfl, halike⟩
      | cons first tokens =>
          cases hpoint : first.isPunct '.' with
          | false =>
              obtain ⟨other, others, rfl, hsame⟩ := halike.head_inv hends
              have hother : other.isPunct '.' = false := by rw [hsame.isPunct_eq, hpoint]
              rw [selectors_of_not_point hpoint, selectors_of_not_point hother]
              exact ⟨rfl, halike⟩
          | true =>
              obtain ⟨other, others, rfl, hsame, hrest⟩ := halike.point_inv hends hpoint
              have hother : other.isPunct '.' = true := by rw [hsame.isPunct_eq, hpoint]
              cases tokens with
              | nil =>
                  obtain rfl := hrest.nil_inv hends
                  exact ⟨by simp [selectors], by simpa [selectors] using halike⟩
              | cons second tokens =>
                  obtain ⟨word, others, rfl, hword⟩ := hrest.head_inv hends
                  cases hname : second.name? with
                  | none =>
                      have hnone : word.name? = none := by rw [hword.name?_eq, hname]
                      rw [selectors_of_not_name hname, selectors_of_not_name hnone]
                      exact ⟨rfl, halike⟩
                  | some name =>
                      have hsome : word.name? = some name := by rw [hword.name?_eq, hname]
                      rw [selectors_of_name hpoint hname] at hreach ⊢
                      rw [selectors_of_name hother hsome]
                      simp only [List.length_cons] at hbound
                      have hafter :=
                        hrest.tail (Nat.le_trans hreach (selectors_suffix tokens).length_le)
                      obtain ⟨hnames, hleft⟩ := ih (by omega) hafter hreach
                      exact ⟨by rw [hnames], hleft⟩

theorem alike_qualified (hends : SameHead moved leftEnd rightEnd) (first : String)
    (halike : Alike moved leftEnd rightEnd left right)
    (hreach : leftEnd.length ≤ (qualified first left).2.length) :
    (qualified first right).1 = (qualified first left).1 ∧
      Alike moved leftEnd rightEnd (qualified first left).2 (qualified first right).2 := by
  obtain ⟨hnames, hrest⟩ := alike_selectors hends left.length (Nat.le_refl _) halike hreach
  exact ⟨by simp only [qualified, hnames], hrest⟩

theorem alike_moreNames (hends : SameHead moved leftEnd rightEnd) (comma : Bool)
    (halike : Alike moved leftEnd rightEnd left right)
    (hreach : leftEnd.length ≤ (moreNames comma left).2.length) :
    (moreNames comma right).1.map Prod.fst = (moreNames comma left).1.map Prod.fst ∧
      Alike moved leftEnd rightEnd (moreNames comma left).2 (moreNames comma right).2 := by
  induction left generalizing comma right with
  | nil =>
      obtain rfl := halike.nil_inv hends
      exact ⟨rfl, halike⟩
  | cons token tokens ih =>
      obtain ⟨other, others, rfl, hsame⟩ := halike.head_inv hends
      have hsuffix := fun comma => (moreNames_suffix comma tokens).length_le
      rw [moreNames] at hreach ⊢
      rw [moreNames, hsame.kind_eq, hsame.name?_eq, hsame.isPunct_eq]
      cases comma with
      | true =>
          simp only [if_true] at hreach ⊢
          by_cases hnewline : token.kind = .newline
          · rw [if_pos hnewline] at hreach
            have hrest := halike.tail (Nat.le_trans hreach (hsuffix true))
            simpa only [if_pos hnewline] using ih true hrest hreach
          · rw [if_neg hnewline] at hreach
            simp only [if_neg hnewline]
            cases hname : token.name? with
            | none => exact ⟨rfl, halike⟩
            | some name =>
                simp only [hname] at hreach
                have hrest := halike.tail (Nat.le_trans hreach (hsuffix false))
                obtain ⟨hnames, hleft⟩ := ih false hrest hreach
                exact ⟨by simp [hnames], hleft⟩
      | false =>
          simp only [Bool.false_eq_true, if_false] at hreach ⊢
          by_cases hcomma : token.isPunct ',' = true
          · rw [if_pos hcomma] at hreach
            have hrest := halike.tail (Nat.le_trans hreach (hsuffix true))
            simpa only [if_pos hcomma] using ih true hrest hreach
          · simp only [if_neg hcomma]
            exact ⟨trivial, halike⟩

theorem alike_tag (hends : SameHead moved leftEnd rightEnd)
    (halike : Alike moved leftEnd rightEnd left right)
    (hreach : leftEnd.length ≤ (tag left).2.length) :
    (tag right).1 = (tag left).1 ∧
      Alike moved leftEnd rightEnd (tag left).2 (tag right).2 := by
  cases left with
  | nil =>
      obtain rfl := halike.nil_inv hends
      exact ⟨rfl, halike⟩
  | cons token tokens =>
      obtain ⟨other, others, rfl, hsame⟩ := halike.head_inv hends
      unfold tag at hreach ⊢
      dsimp only at hreach ⊢
      rw [hsame.string?_eq]
      cases hvalue : token.string? with
      | none => exact ⟨rfl, halike⟩
      | some value =>
          simp only [hvalue] at hreach
          have hrest := halike.tail hreach
          exact ⟨rfl, hrest⟩

/-- Heads with the same names and types that leave alike tokens. -/
inductive Head.Alike (moved : Nat → Nat → Prop) (leftEnd rightEnd : List Token) :
    Head → Head → Prop where
  | plain {names names' : List (String × Span)} (type : String) {left right : List Token}
      (hnames : names'.map Prod.fst = names.map Prod.fst)
      (rest : Declaration.Alike moved leftEnd rightEnd left right) :
      Head.Alike moved leftEnd rightEnd (.plain names type left) (.plain names' type right)
  | inline {names names' : List (String × Span)} (opening opening' : Span)
      {left right : List Token} (hnames : names'.map Prod.fst = names.map Prod.fst)
      (rest : Declaration.Alike moved leftEnd rightEnd left right) :
      Head.Alike moved leftEnd rightEnd (.inline names opening left)
        (.inline names' opening' right)

theorem alike_pointerHead (hends : SameHead moved leftEnd rightEnd) (span span' : Span)
    (halike : Alike moved leftEnd rightEnd left right)
    (hreach : leftEnd.length ≤ (pointerHead span left).rest.length) :
    (pointerHead span left).Alike moved leftEnd rightEnd (pointerHead span' right) := by
  cases left with
  | nil =>
      obtain rfl := halike.nil_inv hends
      exact .plain _ rfl halike
  | cons token tokens =>
      obtain ⟨other, others, rfl, hsame⟩ := halike.head_inv hends
      unfold pointerHead at hreach ⊢
      dsimp only at hreach ⊢
      rw [hsame.name?_eq]
      cases hname : token.name? with
      | none =>
          simp only [hname] at hreach
          obtain ⟨htext, hrest⟩ := alike_typeText hends halike hreach
          dsimp only
          rw [htext]
          exact .plain _ rfl hrest
      | some first =>
          simp only [hname, Head.rest] at hreach
          have htail := halike.tail (Nat.le_trans hreach (qualified_suffix first tokens).length_le)
          obtain ⟨hpath, hrest⟩ := alike_qualified hends first htail hreach
          dsimp only
          rw [hpath]
          exact .plain _ rfl hrest

theorem alike_isEmbedded (hends : SameHead moved leftEnd rightEnd)
    (halike : Alike moved leftEnd rightEnd left right) :
    isEmbedded right = isEmbedded left := by
  cases left with
  | nil => rw [halike.nil_inv hends]
  | cons token tokens =>
      obtain ⟨other, others, rfl, hsame⟩ := halike.head_inv hends
      simp only [isEmbedded, hsame.endsField_eq, hsame.isPunct_eq]

theorem inlineBody?_of_not_struct {word : Token} (hword : word.isWord "struct" = false)
    (tokens : List Token) : inlineBody? (word :: tokens) = none := by
  cases tokens with
  | nil => rfl
  | cons brace tokens => simp [inlineBody?, hword]

/-- An inline struct begins on both sides or on neither. -/
theorem alike_inlineBody? {names : List (String × Span)}
    (hends : SameHead moved leftEnd rightEnd)
    (halike : Alike moved leftEnd rightEnd left right)
    (hreach : leftEnd.length ≤ (typedHead names left).rest.length) :
    Option.Rel (fun body body' => Alike moved leftEnd rightEnd body.2 body'.2)
      (inlineBody? left) (inlineBody? right) := by
  cases left with
  | nil =>
      obtain rfl := halike.nil_inv hends
      exact .none
  | cons word tokens =>
      obtain ⟨other, others, rfl, hword⟩ := halike.head_inv hends
      cases hstruct : word.isWord "struct" with
      | false =>
          have hother : other.isWord "struct" = false := by rw [hword.isWord_eq, hstruct]
          rw [inlineBody?_of_not_struct hstruct, inlineBody?_of_not_struct hother]
          exact .none
      | true =>
          have hkind : word.kind = .ident "struct" := by simpa [Token.isWord] using hstruct
          have hsuffix := @typedHead_cons_suffix names word
            (by simp [Token.endsField, hkind]) tokens
          have htail := halike.tail (Nat.le_trans hreach hsuffix.length_le)
          cases tokens with
          | nil =>
              obtain rfl := htail.nil_inv hends
              exact .none
          | cons brace tokens =>
              obtain ⟨brace', others, rfl, hbrace⟩ := htail.head_inv hends
              have hother : other.isWord "struct" = true := by rw [hword.isWord_eq, hstruct]
              have hopens := hbrace.isPunct_eq '{'
              cases hopening : brace.isPunct '{' with
              | false => simp [inlineBody?, hopens, hopening]
              | true =>
                  have hleft : inlineBody? (word :: brace :: tokens) =
                      some (brace.span, tokens) := by simp [inlineBody?, hstruct, hopening]
                  simp only [typedHead, hleft, Head.rest] at hreach
                  rw [hleft]
                  simpa [inlineBody?, hother, hopens, hopening] using
                    Option.Rel.some (htail.tail hreach)

theorem alike_typedHead (hends : SameHead moved leftEnd rightEnd)
    {names names' : List (String × Span)} (hnames : names'.map Prod.fst = names.map Prod.fst)
    (halike : Alike moved leftEnd rightEnd left right)
    (hreach : leftEnd.length ≤ (typedHead names left).rest.length) :
    (typedHead names left).Alike moved leftEnd rightEnd (typedHead names' right) := by
  have hbody := alike_inlineBody? hends halike hreach
  unfold typedHead at hreach ⊢
  cases hleft : inlineBody? left with
  | none =>
      simp only [hleft] at hreach
      rw [hleft] at hbody
      cases hright : inlineBody? right with
      | none =>
          obtain ⟨htext, hrest⟩ := alike_typeText hends halike hreach
          dsimp only
          rw [htext]
          exact .plain _ hnames hrest
      | some body =>
          rw [hright] at hbody
          cases hbody
  | some body =>
      rw [hleft] at hbody
      cases hright : inlineBody? right with
      | none =>
          rw [hright] at hbody
          cases hbody
      | some body' =>
          rw [hright] at hbody
          cases hbody with
          | some hrest => exact .inline _ _ hnames hrest

theorem alike_namedHead (hends : SameHead moved leftEnd rightEnd) (name : String)
    (span span' : Span) (halike : Alike moved leftEnd rightEnd left right)
    (hreach : leftEnd.length ≤ (namedHead name span left).rest.length) :
    (namedHead name span left).Alike moved leftEnd rightEnd (namedHead name span' right) := by
  unfold namedHead at hreach ⊢
  rw [alike_isEmbedded hends halike]
  by_cases hembedded : isEmbedded left = true
  · rw [if_pos hembedded] at hreach
    simp only [if_pos hembedded]
    obtain ⟨hpath, hrest⟩ := alike_qualified hends name halike hreach
    rw [hpath]
    exact .plain _ rfl hrest
  · rw [if_neg hembedded] at hreach
    simp only [if_neg hembedded]
    obtain ⟨hnames, hrest⟩ := alike_moreNames hends false halike
      (Nat.le_trans hreach (typedHead_suffix _ _).length_le)
    exact alike_typedHead hends (by simp [hnames]) hrest hreach

theorem alike_head (hends : SameHead moved leftEnd rightEnd) {token other : Token}
    (halike : Alike moved leftEnd rightEnd (token :: left) (other :: right))
    (hlength : leftEnd.length ≤ left.length)
    (hreach : leftEnd.length ≤ (head token left).rest.length) :
    (head token left).Alike moved leftEnd rightEnd (head other right) := by
  obtain ⟨_, _, heq, hsame⟩ := halike.head_inv hends
  obtain ⟨rfl, rfl⟩ := List.cons.inj heq
  have htail := halike.tail hlength
  unfold head at hreach ⊢
  rw [hsame.kind_eq, hsame.isPunct_eq]
  split at hreach
  · exact alike_namedHead hends _ _ _ htail hreach
  · split at hreach
    · next hstar =>
      simp only [if_pos hstar]
      exact alike_pointerHead hends _ _ htail hreach
    · next hstar =>
      obtain ⟨htext, hrest⟩ := alike_typeText hends halike hreach
      simp only [if_neg hstar]
      rw [htext]
      exact .plain _ rfl hrest

end Declaration

end FieldBridge
