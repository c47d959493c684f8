import FieldBridge.Proofs.LikeReading

/-!
# Inline structs are opaque

A field line that begins with names and an opening brace reads the field list of an
inline struct and keeps nothing of it.  Whatever stands before that line in the outer
field list is read the same for every such inner list, and so is whatever stands
behind it.
-/

namespace FieldBridge.Declaration

/-- Names behind the first one, each after a comma and perhaps line ends. -/
inductive FurtherNames : List Token → Prop where
  | nil : FurtherNames []
  | cons {comma name : Token} {gap names : List Token} (hcomma : comma.isPunct ',' = true)
      (hgap : ∀ token ∈ gap, token.kind = .newline) (hname : name.name?.isSome = true)
      (hnames : FurtherNames names) : FurtherNames (comma :: gap ++ name :: names)

/-- The names that a field line begins with. -/
def FieldNames (names : List Token) : Prop :=
  ∃ first more, names = first :: more ∧ first.name?.isSome = true ∧ FurtherNames more

/-- Tokens that end at a line of their own. -/
def EndsLine (tokens : List Token) : Prop :=
  tokens = [] ∨ ∃ init stop, tokens = init ++ [stop] ∧ stop.isSeparator = true

theorem kind_ne_newline_of_name? {token : Token} (hname : token.name?.isSome = true) :
    token.kind ≠ .newline := by
  intro hkind
  simp [Token.name?, hkind] at hname

theorem moreNames_gap {gap : List Token} (hgap : ∀ token ∈ gap, token.kind = .newline)
    (rest : List Token) : moreNames true (gap ++ rest) = moreNames true rest := by
  induction gap with
  | nil => rfl
  | cons token gap ih =>
      rw [List.cons_append, moreNames, if_pos rfl, if_pos (hgap token List.mem_cons_self)]
      exact ih fun other hother => hgap other (List.mem_cons_of_mem token hother)

theorem moreNames_name {token : Token} (hname : token.name?.isSome = true)
    (rest : List Token) : (moreNames true (token :: rest)).2 = (moreNames false rest).2 := by
  obtain ⟨name, hsome⟩ := Option.isSome_iff_exists.1 hname
  rw [moreNames, if_pos rfl, if_neg (kind_ne_newline_of_name? hname)]
  simp only [hsome]

theorem moreNames_further {more : List Token} (hmore : FurtherNames more) {first : Token}
    (hfirst : first.isPunct ',' = false) (rest : List Token) :
    (moreNames false (more ++ first :: rest)).2 = first :: rest := by
  induction hmore with
  | nil =>
      rw [List.nil_append, moreNames, if_neg (by simp), if_neg (by simp [hfirst])]
  | @cons comma name gap names hcomma hgap hname _ ih =>
      have hsplit : comma :: gap ++ name :: names ++ first :: rest =
          comma :: (gap ++ name :: (names ++ first :: rest)) := by simp
      rw [hsplit, moreNames, if_neg (by simp), if_pos hcomma, moreNames_gap hgap,
        moreNames_name hname, ih]

theorem isEmbedded_further {more : List Token} (hmore : FurtherNames more) {first : Token}
    (hfirst : first.name?.isSome = true) (rest : List Token) :
    isEmbedded (more ++ first :: rest) = false := by
  cases hmore with
  | nil =>
      obtain ⟨name, hname⟩ := Option.isSome_iff_exists.1 hfirst
      have hpoint := Token.isPunct_eq_false_of_name? hname '.'
      have hends : first.endsField = false := by
        simp [Token.endsField, Token.name?_eq_some_iff.1 hname]
      rw [List.nil_append, isEmbedded, hpoint, hends, Bool.or_false]
  | @cons comma name gap names hcomma =>
      have hkind : comma.kind = .punct ',' := by simpa [Token.isPunct] using hcomma
      simp [isEmbedded, Token.endsField, Token.isPunct, hkind]

theorem fieldLine_inline {token word brace : Token} {rest inner : List Token} {name : String}
    (hname : token.name? = some name) (hembedded : isEmbedded rest = false)
    (hnames : (moreNames false rest).2 = word :: brace :: inner)
    (hword : word.isWord "struct" = true) (hbrace : brace.isPunct '{' = true) :
    fieldLine token rest = endLine ((name, token.span) :: (moreNames false rest).1) inlineStruct
      ((fieldList inner).notes ++ inlineNotes ((name, token.span) :: (moreNames false rest).1)
        brace.span (fieldList inner).close) (fieldList inner).rest := by
  have hkind := Token.name?_eq_some_iff.1 hname
  have hhead : head token rest =
      .inline ((name, token.span) :: (moreNames false rest).1) brace.span inner := by
    simp [head, hkind, namedHead, hembedded, hnames, typedHead, inlineBody?, hword, hbrace]
  exact fieldLine_of_inline hhead

theorem fieldList_named {token : Token} {name : String} (hname : token.name? = some name)
    (rest : List Token) :
    fieldList (token :: rest) =
      ⟨(fieldLine token rest).fields ++ (fieldList (fieldLine token rest).rest).fields,
        (fieldLine token rest).notes ++ (fieldList (fieldLine token rest).rest).notes,
        (fieldList (fieldLine token rest).rest).close,
        (fieldList (fieldLine token rest).rest).rest⟩ := by
  apply fieldList_line
  · intro hkind
    simp [Token.name?, hkind] at hname
  · intro hstops
    rw [hstops.name?_eq_none] at hname
    cases hname

/-- What a line ends with does not depend on what was found before. -/
theorem endLine_notes_irrelevant (names : List (String × Span)) (type : String)
    (notes : List Diagnostic) (tokens : List Token) :
    (endLine names type notes tokens).fields = (endLine names type [] tokens).fields ∧
      (endLine names type notes tokens).rest = (endLine names type [] tokens).rest := by
  unfold endLine
  dsimp only
  split
  · exact ⟨rfl, rfl⟩
  · split <;> exact ⟨rfl, rfl⟩

/-- Whether the fields that are read of `tokens` are read of all tokens alike them. -/
def KeepsFields (moved : Nat → Nat → Prop) (leftEnd rightEnd tokens : List Token) : Prop :=
  ∀ others, Alike moved leftEnd rightEnd tokens others →
    (fieldList others).fields.map Field.unplaced = (fieldList tokens).fields.map Field.unplaced

theorem KeepsFields.separator {moved : Nat → Nat → Prop} {leftEnd rightEnd rest : List Token}
    (hrest : KeepsFields moved leftEnd rightEnd rest) (hends : SameHead moved leftEnd rightEnd)
    {token : Token} (hseparator : token.isSeparator = true)
    (hreach : leftEnd.length ≤ rest.length) :
    KeepsFields moved leftEnd rightEnd (token :: rest) := by
  intro right halike
  obtain ⟨other, others, rfl, hsame⟩ := halike.head_inv hends
  rw [fieldList_separator hseparator,
    fieldList_separator (by rwa [hsame.isSeparator_eq] : other.isSeparator = true)]
  exact hrest others (halike.tail hreach)

section Replacement

variable {moved moved' : Nat → Nat → Prop} {word word' brace brace' : Token}
  {inner inner' right : List Token}

/-- Two inline structs at the same place, behind which alike tokens follow. -/
structure Replaces (moved moved' : Nat → Nat → Prop) (word word' brace brace' : Token)
    (inner inner' : List Token) : Prop where
  word_same : SameToken moved word word'
  brace_same : SameToken moved brace brace'
  isWord : word.isWord "struct" = true
  isPunct : brace.isPunct '{' = true
  rest_alike : Alike moved' [] [] (fieldList inner).rest (fieldList inner').rest

theorem Replaces.sameHead (hreplaces : Replaces moved moved' word word' brace brace' inner inner') :
    SameHead moved (word :: brace :: inner) (word' :: brace' :: inner') :=
  .cons hreplaces.word_same
    (Token.isPunct_eq_false_of_name? (Token.name?_of_isWord hreplaces.isWord) '.')

/-- What is read behind the two inline structs is the same. -/
theorem Replaces.fields_endLine
    (hreplaces : Replaces moved moved' word word' brace brace' inner inner')
    {names names' : List (String × Span)} (hnames : names'.map Prod.fst = names.map Prod.fst)
    (notes notes' : List Diagnostic) :
    ((endLine names' inlineStruct notes' (fieldList inner').rest).fields ++
        (fieldList (endLine names' inlineStruct notes' (fieldList inner').rest).rest).fields).map
          Field.unplaced =
      ((endLine names inlineStruct notes (fieldList inner).rest).fields ++
        (fieldList (endLine names inlineStruct notes (fieldList inner).rest).rest).fields).map
          Field.unplaced := by
  obtain ⟨hread, hafter⟩ := @alike_endLine moved' [] [] _ _ .nil names names' hnames inlineStruct
    [] [] rfl hreplaces.rest_alike (Nat.zero_le _)
  obtain ⟨hmore, _⟩ := alike_fieldList .nil hafter (Nat.zero_le _)
  rw [(endLine_notes_irrelevant names _ notes _).1, (endLine_notes_irrelevant names _ notes _).2,
    (endLine_notes_irrelevant names' _ notes' _).1,
    (endLine_notes_irrelevant names' _ notes' _).2, List.map_append, List.map_append,
    hread.fields_eq, hmore.fields_eq]

/-- From the line of an inline struct on the fields do not depend on its field list. -/
theorem Replaces.keepsFields_line
    (hreplaces : Replaces moved moved' word word' brace brace' inner inner') {token : Token}
    {rest : List Token} (hname : token.name?.isSome = true) (hembedded : isEmbedded rest = false)
    (hnames : (moreNames false rest).2 = word :: brace :: inner) :
    KeepsFields moved (word :: brace :: inner) (word' :: brace' :: inner') (token :: rest) := by
  intro right halike
  have hends := hreplaces.sameHead
  have hreach := (moreNames_suffix false rest).length_le
  rw [hnames] at hreach
  obtain ⟨other, others, rfl, hsame⟩ := halike.head_inv hends
  have htail := halike.tail hreach
  obtain ⟨name, hname⟩ := Option.isSome_iff_exists.1 hname
  have hother : other.name? = some name := by rw [hsame.name?_eq, hname]
  obtain ⟨hmore, hrest⟩ := alike_moreNames hends false htail (Nat.le_of_eq (by rw [hnames]))
  rw [hnames] at hrest
  obtain ⟨_, hnames'⟩ := hrest.eq_of_length_le (Nat.le_refl _)
  have hembedded' : isEmbedded others = false := by
    rw [alike_isEmbedded hends htail, hembedded]
  have hline := fieldLine_inline hname hembedded hnames hreplaces.isWord hreplaces.isPunct
  have hline' := fieldLine_inline hother hembedded' hnames'
    (by rw [hreplaces.word_same.isWord_eq, hreplaces.isWord])
    (by rw [hreplaces.brace_same.isPunct_eq, hreplaces.isPunct])
  rw [fieldList_named hname, fieldList_named hother, hline, hline']
  exact hreplaces.fields_endLine (by simp [hmore]) _ _

/-- A line that crosses the separator before the names of an inline struct goes on to
its field list: only further names are read across a line end. -/
theorem inline_of_crossing {names tokens rest : List Token} {word : Token}
    (hnames : FieldNames names) (hword : word.name?.isSome = true)
    (hcross : (moreNames false rest).2 = (moreNames true (names ++ word :: tokens)).2)
    (hbefore : (names ++ word :: tokens).length < rest.length) :
    isEmbedded rest = false ∧ (moreNames false rest).2 = word :: tokens := by
  obtain ⟨first, more, rfl, hfirst, hmore⟩ := hnames
  obtain ⟨name, hname⟩ := Option.isSome_iff_exists.1 hword
  have hrest : (moreNames false rest).2 = word :: tokens := by
    rw [hcross, List.cons_append, moreNames_name hfirst,
      moreNames_further hmore (Token.isPunct_eq_false_of_name? hname ',')]
  refine ⟨?_, hrest⟩
  cases rest with
  | nil => simp at hbefore
  | cons token rest =>
      by_cases hcomma : token.isPunct ',' = true
      · have hkind : token.kind = .punct ',' := by simpa [Token.isPunct] using hcomma
        simp [isEmbedded, Token.endsField, Token.isPunct, hkind]
      · rw [moreNames, if_neg (by simp), if_neg hcomma] at hrest
        have hlength := congrArg List.length hrest
        simp only [List.length_append, List.length_cons] at hlength hbefore
        omega

section Before

variable (hreplaces : Replaces moved moved' word word' brace brace' inner inner')
  {names : List Token} (hnames : FieldNames names)

include hreplaces hnames

theorem keepsFields_first :
    KeepsFields moved (word :: brace :: inner) (word' :: brace' :: inner')
      (names ++ word :: brace :: inner) := by
  have hword := Token.name?_of_isWord hreplaces.isWord
  obtain ⟨first, more, rfl, hfirst, hmore⟩ := hnames
  rw [List.cons_append]
  exact hreplaces.keepsFields_line hfirst (isEmbedded_further hmore (by rw [hword]; rfl) _)
    (moreNames_further hmore (Token.isPunct_eq_false_of_name? hword ',') _)

omit hnames in
/-- A line in front of the inline struct keeps its fields, and what is behind it keeps them if
all that such a line can leave does. -/
theorem keepsFields_within {rest : List Token} {stop token : Token} (hstop : StopsLine stop)
    (hline : ¬ StopsLine token) (heof : ∀ token' ∈ token :: rest, token'.kind ≠ .eof)
    (hnested : NestedBefore stop (names ++ word :: brace :: inner) (token :: rest))
    (hwithin : ∀ name, token.name? = some name →
      NestedBefore stop (names ++ word :: brace :: inner) (moreNames false rest).2)
    (hagain : ∀ tokens, (NestedBefore stop (names ++ word :: brace :: inner) tokens ∨
      tokens = names ++ word :: brace :: inner) → tokens <:+ rest →
        KeepsFields moved (word :: brace :: inner) (word' :: brace' :: inner') tokens) :
    KeepsFields moved (word :: brace :: inner) (word' :: brace' :: inner') (token :: rest) := by
  intro right halike
  have hhead := hreplaces.sameHead
  obtain ⟨other, others, rfl, hsame⟩ := halike.head_inv hhead
  have heofToken := heof token List.mem_cons_self
  have hsuffix := @fieldLine_suffix_of_kind rest token heofToken hline
  obtain ⟨hleft, _⟩ := fieldLine_nested
    (fun close outer nested hsub hclose => fieldList_closes hclose
      fun token' htoken' => heof token' (List.mem_cons_of_mem token (hsub.subset htoken')))
    hstop hline hnested hwithin
  have hshape := hleft.imp_right And.right
  have hreach : (word :: brace :: inner).length ≤ (fieldLine token rest).rest.length := by
    rcases hshape with ⟨inside, hrest, _⟩ | hrest
    · rw [hrest]
      simp only [List.length_append, List.length_cons]
      omega
    · rw [hrest, List.length_append]
      omega
  obtain ⟨hread, hrest⟩ := alike_fieldLine hhead (fun inner inner' _ => alike_fieldList hhead)
    halike (Nat.le_trans hreach hsuffix.length_le) hreach
  rw [fieldList_line heofToken hline,
    fieldList_line (by rw [hsame.kind_eq]; exact heofToken) (by rwa [hsame.stopsLine_iff])]
  simp only [List.map_append]
  rw [hread.fields_eq, hagain _ hshape hsuffix _ hrest]

/-- The step from one line to the next.  The names of a line may go on across the separator in
front of the inline struct, and then it is the line of the inline struct itself. -/
theorem keepsFields_before {rest : List Token} {stop token : Token} (hstop : StopsLine stop)
    (hline : ¬ StopsLine token) (heof : ∀ token' ∈ token :: rest, token'.kind ≠ .eof)
    (hnested : NestedBefore stop (names ++ word :: brace :: inner) (token :: rest))
    (hagain : ∀ tokens, (NestedBefore stop (names ++ word :: brace :: inner) tokens ∨
      tokens = names ++ word :: brace :: inner) → tokens <:+ rest →
        KeepsFields moved (word :: brace :: inner) (word' :: brace' :: inner') tokens) :
    KeepsFields moved (word :: brace :: inner) (word' :: brace' :: inner') (token :: rest) := by
  by_cases hwithin : ∀ name, token.name? = some name →
      NestedBefore stop (names ++ word :: brace :: inner) (moreNames false rest).2
  · exact keepsFields_within hreplaces hstop hline heof hnested hwithin hagain
  · obtain ⟨name, hwithin⟩ := Classical.not_forall.1 hwithin
    obtain ⟨hname, hnot⟩ := Classical.not_imp.1 hwithin
    have hne : token ≠ stop := by
      rintro rfl
      exact hline hstop
    have htail := hnested.tail hne (Token.bracket_eq_plain_of_name hname)
    have hlonger : (names ++ word :: brace :: inner).length < rest.length := by
      obtain ⟨inside, rfl, _⟩ := htail
      simp only [List.length_append, List.length_cons]
      omega
    obtain ⟨_, hcross⟩ := (moreNames_nested hstop false htail).resolve_left hnot
    obtain ⟨hembedded, hmore⟩ := inline_of_crossing hnames
      (by rw [Token.name?_of_isWord hreplaces.isWord]; rfl) hcross hlonger
    exact hreplaces.keepsFields_line (by rw [hname]; rfl) hembedded hmore

/-- The fields of a list in which the names of an inline struct begin a line do not
depend on the field list of the struct. -/
theorem keepsFields_inline (bound : Nat) {front : List Token} (hbound : front.length ≤ bound)
    (hfront : WellNested front) (hends : EndsLine front)
    (heof : ∀ token ∈ front ++ (names ++ word :: brace :: inner), token.kind ≠ .eof) :
    KeepsFields moved (word :: brace :: inner) (word' :: brace' :: inner')
      (front ++ (names ++ word :: brace :: inner)) := by
  have hfirst := keepsFields_first hreplaces hnames
  induction bound generalizing front with
  | zero =>
      obtain rfl := List.length_eq_zero_iff.1 (Nat.le_zero.1 hbound)
      exact hfirst
  | succ bound ih =>
      rcases hends with rfl | ⟨init, stop, rfl, hstop⟩
      · exact hfirst
      have hlone : WellNested [stop] :=
        (wellNested_cons_plain (Token.bracket_eq_plain_of_isSeparator hstop)).2 rfl
      have hinit := hfront.of_append hlone
      simp only [List.length_append, List.length_cons, List.length_nil] at hbound
      -- what a line leaves is the lists behind `stop`, or it ends with `stop` again
      have hagain : ∀ tokens, (NestedBefore stop (names ++ word :: brace :: inner) tokens ∨
            tokens = names ++ word :: brace :: inner) →
          tokens <:+ (init ++ stop :: (names ++ word :: brace :: inner)).tail →
          KeepsFields moved (word :: brace :: inner) (word' :: brace' :: inner') tokens := by
        rintro tokens (⟨inside, rfl, hinside⟩ | rfl) hsuffix
        · have hlength := hsuffix.length_le
          have hsplit : inside ++ stop :: (names ++ word :: brace :: inner) =
              (inside ++ [stop]) ++ (names ++ word :: brace :: inner) := by simp
          simp only [List.length_append, List.length_cons, List.length_tail] at hlength
          rw [hsplit] at hsuffix ⊢
          refine ih ?_ (hinside.append hlone) (Or.inr ⟨inside, stop, rfl, hstop⟩) ?_
          · simp only [List.length_append, List.length_cons, List.length_nil]
            omega
          · intro token htoken
            apply heof
            rw [List.append_assoc, List.singleton_append]
            exact (List.tail_suffix _).subset (hsuffix.subset htoken)
        · exact hfirst
      rw [List.append_assoc, List.singleton_append] at heof ⊢
      cases init with
      | nil => exact hfirst.separator hreplaces.sameHead hstop (by rw [List.length_append]; omega)
      | cons token init =>
          rw [List.cons_append] at heof hagain ⊢
          by_cases hseparator : token.isSeparator = true
          · have htoken := Token.bracket_eq_plain_of_isSeparator hseparator
            have hrest := hagain _ (Or.inl ⟨init, rfl, (wellNested_cons_plain htoken).1 hinit⟩)
              List.suffix_rfl
            refine hrest.separator hreplaces.sameHead hseparator ?_
            simp only [List.length_append, List.length_cons]
            omega
          · have hbrace : ¬ token.isPunct '}' = true := fun hbrace =>
              hinit.bracket_ne_closing (Token.bracket_of_isPunct hbrace)
            exact keepsFields_before hreplaces hnames (Or.inl hstop)
              (by simp [StopsLine, hseparator, hbrace]) heof ⟨token :: init, rfl, hinit⟩ hagain

end Before

end Replacement

end FieldBridge.Declaration
