import FieldBridge.Declaration.Line

/-!
# Field lists

A field list is read line by line up to its closing brace.  The field list of an
inline struct is read by the same rules and then forgotten, except for what was
found in it.  Every line takes the token it begins with, so the list goes on from
fewer tokens than before; `fieldLine_suffix` says so, and the reading of a list
relies on nothing else to end.
-/

namespace FieldBridge.Declaration

theorem skipNewlines_suffix (tokens : List Token) : skipNewlines tokens <:+ tokens :=
  List.dropWhile_suffix _

theorem skipLine_suffix (closer : Char) (depth : Nat) (tokens : List Token) :
    skipLine closer depth tokens <:+ tokens := by
  fun_induction skipLine closer depth tokens with
  | case1 => exact List.suffix_rfl
  | case2 => exact List.suffix_cons _ _
  | case3 => exact List.suffix_rfl
  | case4 depth token rest _ _ ih => exact ih.trans (List.suffix_cons _ _)

theorem splitType_append (depth : Nat) (tokens : List Token) :
    (splitType depth tokens).1 ++ (splitType depth tokens).2 = tokens := by
  fun_induction splitType depth tokens with
  | case1 => rfl
  | case2 => rfl
  | case3 depth token rest _ split ih => rw [List.cons_append, ih]

theorem typeText_suffix (tokens : List Token) : (typeText tokens).2 <:+ tokens :=
  ⟨(splitType 0 tokens).1, splitType_append 0 tokens⟩

/-- A type takes its first token, unless that token ends the field. -/
theorem typeText_cons_suffix {token : Token} (hends : token.endsField = false)
    (rest : List Token) : (typeText (token :: rest)).2 <:+ rest := by
  have hsplit : (splitType 0 (token :: rest)).2 = (splitType (nest 0 token) rest).2 := by
    rw [splitType, if_neg (by simp [hends])]
  rw [typeText, hsplit]
  exact ⟨_, splitType_append (nest 0 token) rest⟩

theorem selectors_suffix (tokens : List Token) : (selectors tokens).2 <:+ tokens := by
  fun_induction selectors tokens with
  | case1 dot token rest name _ _ more ih =>
    exact ih.trans ((List.suffix_cons _ _).trans (List.suffix_cons _ _))
  | case2 => exact List.suffix_rfl
  | case3 => exact List.suffix_rfl

theorem qualified_suffix (first : String) (tokens : List Token) :
    (qualified first tokens).2 <:+ tokens :=
  selectors_suffix tokens

theorem moreNames_suffix (comma : Bool) (tokens : List Token) :
    (moreNames comma tokens).2 <:+ tokens := by
  fun_induction moreNames comma tokens with
  | case1 => exact List.suffix_rfl
  | case2 token rest _ ih => exact ih.trans (List.suffix_cons _ _)
  | case3 token rest _ name _ more ih => exact ih.trans (List.suffix_cons _ _)
  | case4 => exact List.suffix_rfl
  | case5 comma token rest _ _ ih => exact ih.trans (List.suffix_cons _ _)
  | case6 => exact List.suffix_rfl

theorem tag_suffix (tokens : List Token) : (tag tokens).2 <:+ tokens := by
  unfold tag
  split
  · exact List.suffix_rfl
  · split
    · exact List.suffix_cons _ _
    · exact List.suffix_rfl

def Head.rest : Head → List Token
  | plain _ _ rest => rest
  | inline _ _ rest => rest

theorem pointerHead_suffix (span : Span) (tokens : List Token) :
    (pointerHead span tokens).rest <:+ tokens := by
  unfold pointerHead
  split
  · next token rest =>
    split
    · exact (qualified_suffix _ rest).trans (List.suffix_cons _ _)
    · exact typeText_suffix (token :: rest)
  · exact List.suffix_rfl

theorem inlineBody?_eq_some {tokens rest : List Token} {opening : Span}
    (hbody : inlineBody? tokens = some (opening, rest)) :
    ∃ word brace, tokens = word :: brace :: rest ∧ word.isWord "struct" = true ∧
      brace.isPunct '{' = true ∧ brace.span = opening := by
  unfold inlineBody? at hbody
  split at hbody
  · next word brace tail =>
    split at hbody
    · next hinline =>
      cases hbody
      simp only [Bool.and_eq_true] at hinline
      exact ⟨word, brace, rfl, hinline.1, hinline.2, rfl⟩
    · cases hbody
  · cases hbody

theorem typedHead_suffix (names : List (String × Span)) (tokens : List Token) :
    (typedHead names tokens).rest <:+ tokens := by
  unfold typedHead
  split
  · next opening rest hbody =>
    obtain ⟨word, brace, rfl, _⟩ := inlineBody?_eq_some hbody
    exact (List.suffix_cons _ _).trans (List.suffix_cons _ _)
  · exact typeText_suffix tokens

theorem typedHead_cons_suffix (names : List (String × Span)) {token : Token}
    (hends : token.endsField = false) (rest : List Token) :
    (typedHead names (token :: rest)).rest <:+ rest := by
  unfold typedHead
  split
  · next opening tail hbody =>
    obtain ⟨word, brace, htokens, _⟩ := inlineBody?_eq_some hbody
    obtain ⟨rfl, rfl⟩ := List.cons.inj htokens
    exact List.suffix_cons brace tail
  · exact typeText_cons_suffix hends rest

theorem namedHead_suffix (name : String) (span : Span) (tokens : List Token) :
    (namedHead name span tokens).rest <:+ tokens := by
  unfold namedHead
  split
  · exact qualified_suffix name tokens
  · exact (typedHead_suffix _ _).trans (moreNames_suffix false tokens)

theorem head_suffix (token : Token) (rest : List Token) :
    (head token rest).rest <:+ token :: rest := by
  have hcons := List.suffix_cons token rest
  unfold head
  split
  · exact (namedHead_suffix _ _ rest).trans hcons
  · split
    · exact (pointerHead_suffix _ rest).trans hcons
    · exact typeText_suffix (token :: rest)

/-- The head of a line takes the token it begins with, unless that is a string,
which is left to be the tag. -/
theorem head_cons_suffix {token : Token} (hends : token.endsField = false)
    (rest : List Token) : (head token rest).rest <:+ rest := by
  unfold head
  split
  · exact namedHead_suffix _ _ rest
  · split
    · exact pointerHead_suffix _ rest
    · exact typeText_cons_suffix hends rest

/-- The head of an inline struct begins with a name, which it takes. -/
theorem inline_suffix {token : Token} {rest inner : List Token}
    {names : List (String × Span)} {opening : Span}
    (hinline : head token rest = .inline names opening inner) : inner <:+ rest := by
  unfold head at hinline
  split at hinline
  · next name _ =>
    have hnamed := namedHead_suffix name token.span rest
    rwa [hinline] at hnamed
  · split at hinline
    · unfold pointerHead at hinline
      split at hinline
      · split at hinline <;> cases hinline
      · cases hinline
    · cases hinline

theorem endLine_suffix (names : List (String × Span)) (type : String)
    (notes : List Diagnostic) (tokens : List Token) :
    (endLine names type notes tokens).rest <:+ (tag tokens).2 := by
  unfold endLine
  dsimp only
  split
  · exact List.nil_suffix
  · next token rest hrest =>
    rw [hrest]
    split
    · exact List.suffix_rfl
    · exact skipLine_suffix _ _ _

/-- The fields up to a closing brace, the findings made on the way, the place of
the brace unless the text ended first, and the tokens after it. -/
structure FieldList where
  fields : List Field
  notes : List Diagnostic
  close : Option Span
  rest : List Token

def inlineStruct : String :=
  "struct \x7b...\x7d"

/-- The finding that an inline struct was not closed, if it was not. -/
def inlineNotes (names : List (String × Span)) (opening : Span) : Option Span → List Diagnostic
  | some _ => []
  | none => [.unclosedInline ((names.head?.map Prod.fst).getD "") opening]

mutual

/-- The field list at the start of `tokens`, after its opening brace. -/
def fieldList (tokens : List Token) : FieldList :=
  match tokens with
  | [] => ⟨[], [], none, []⟩
  | token :: rest =>
    if token.isSeparator then fieldList rest
    else if token.isPunct '}' then ⟨[], [], some token.span, rest⟩
    else
      let line := fieldLine token rest
      if line.rest.length ≤ rest.length then
        let more := fieldList line.rest
        ⟨line.fields ++ more.fields, line.notes ++ more.notes, more.close, more.rest⟩
      else ⟨[], [], none, token :: rest⟩
termination_by (tokens.length, 1)
decreasing_by
  · exact Prod.Lex.left _ _ (Nat.lt_succ_self _)
  · exact Prod.Lex.right _ (Nat.lt_succ_self _)
  · next hshorter => exact Prod.Lex.left _ _ (Nat.lt_succ_of_le hshorter)

/-- The field line that begins with `token`. -/
def fieldLine (token : Token) (rest : List Token) : Line :=
  match _ : head token rest with
  | .plain names type rest => endLine names type [] rest
  | .inline names opening inner =>
    let nested := fieldList inner
    endLine names inlineStruct (nested.notes ++ inlineNotes names opening nested.close) nested.rest
termination_by (rest.length + 1, 0)
decreasing_by
  exact Prod.Lex.left _ _ (Nat.lt_succ_of_le (inline_suffix ‹_›).length_le)

end

theorem rest_suffix (bound : Nat) :
    (∀ tokens : List Token, tokens.length ≤ bound → (fieldList tokens).rest <:+ tokens) ∧
    (∀ (token : Token) (rest : List Token), rest.length + 1 ≤ bound →
      (fieldLine token rest).rest <:+ token :: rest) := by
  induction bound with
  | zero =>
    refine ⟨fun tokens htokens => ?_, fun _ rest hrest => by omega⟩
    obtain rfl := List.length_eq_zero_iff.1 (Nat.le_zero.1 htokens)
    simp [fieldList]
  | succ bound ih =>
    have hline : ∀ (token : Token) (rest : List Token), rest.length ≤ bound →
        (fieldLine token rest).rest <:+ token :: rest := by
      intro token rest hrest
      rw [fieldLine]
      split
      · next names type after hplain =>
        have hhead := head_suffix token rest
        rw [hplain] at hhead
        exact (endLine_suffix names type [] after).trans ((tag_suffix after).trans hhead)
      · next names opening inner hinline =>
        have hinner := inline_suffix hinline
        have hnested := ih.1 inner (Nat.le_trans hinner.length_le hrest)
        refine (endLine_suffix _ _ _ _).trans ((tag_suffix _).trans ?_)
        exact (hnested.trans hinner).trans (List.suffix_cons token rest)
    refine ⟨fun tokens htokens => ?_, fun token rest hrest => hline token rest (by omega)⟩
    cases tokens with
    | nil => simp [fieldList]
    | cons token rest =>
      simp only [List.length_cons] at htokens
      rw [fieldList]
      split
      · exact (ih.1 rest (by omega)).trans (List.suffix_cons token rest)
      · split
        · exact List.suffix_cons token rest
        · dsimp only
          split
          · exact (ih.1 _ (by omega)).trans (hline token rest (by omega))
          · exact List.suffix_rfl

theorem fieldList_suffix (tokens : List Token) : (fieldList tokens).rest <:+ tokens :=
  (rest_suffix tokens.length).1 tokens (Nat.le_refl _)

/-- A line that begins with a token other than the end of the text takes that token. -/
theorem fieldLine_suffix {token : Token}
    (htoken : token.endsField = false ∨ token.string?.isSome) (rest : List Token) :
    (fieldLine token rest).rest <:+ rest := by
  rw [fieldLine]
  split
  · next names type after hplain =>
    refine (endLine_suffix names type [] after).trans ?_
    rcases htoken with hends | hstring
    · have hhead := head_cons_suffix hends rest
      rw [hplain] at hhead
      exact (tag_suffix after).trans hhead
    · obtain ⟨value, hvalue⟩ := Option.isSome_iff_exists.1 hstring
      have hafter : after = token :: rest := by
        unfold Token.string? at hvalue
        unfold head at hplain
        split at hvalue <;> simp_all [Token.isPunct, typeText, splitType, Token.endsField]
      rw [hafter, tag]
      simp [hvalue]
  · next names opening inner hinline =>
    refine (endLine_suffix _ _ _ _).trans ((tag_suffix _).trans ?_)
    exact (fieldList_suffix inner).trans (inline_suffix hinline)

theorem fieldLine_of_plain {token : Token} {rest tokens : List Token}
    {names : List (String × Span)} {type : String}
    (hhead : head token rest = .plain names type tokens) :
    fieldLine token rest = endLine names type [] tokens := by
  rw [fieldLine]
  split
  · next hplain =>
    rw [hhead] at hplain
    cases hplain
    rfl
  · next hinline =>
    rw [hhead] at hinline
    cases hinline

theorem fieldLine_of_inline {token : Token} {rest inner : List Token}
    {names : List (String × Span)} {opening : Span}
    (hhead : head token rest = .inline names opening inner) :
    fieldLine token rest = endLine names inlineStruct
      ((fieldList inner).notes ++ inlineNotes names opening (fieldList inner).close)
      (fieldList inner).rest := by
  rw [fieldLine]
  split
  · next hplain =>
    rw [hhead] at hplain
    cases hplain
  · next hinline =>
    rw [hhead] at hinline
    cases hinline
    rfl

theorem fieldList_separator {token : Token} (hseparator : token.isSeparator = true)
    (rest : List Token) : fieldList (token :: rest) = fieldList rest := by
  rw [fieldList, if_pos hseparator]

theorem fieldList_close {token : Token} (hclose : token.isPunct '}' = true)
    (rest : List Token) : fieldList (token :: rest) = ⟨[], [], some token.span, rest⟩ := by
  have hseparator : ¬ token.isSeparator = true := by
    simp only [Token.isPunct, decide_eq_true_eq] at hclose
    simp [Token.isSeparator, Token.isPunct, hclose]
  rw [fieldList, if_neg hseparator, if_pos hclose]

end FieldBridge.Declaration
