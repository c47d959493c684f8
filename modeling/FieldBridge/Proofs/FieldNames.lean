import FieldBridge.Proofs.Fieldless
import FieldBridge.Proofs.Layout

/-!
# Names in field lists

A name of a field is a word of the text, or it is missing and stands there as the empty
one.  Words are cut as identifiers, so no name is anything else.
-/

namespace FieldBridge

theorem Lexeme.isIdentifier_of_cut {c : Char} {rest name : List Char}
    (hcut : (Lexeme.cut c rest).1 = .word name) : isIdentifier name = true := by
  unfold Lexeme.cut at hcut
  repeat' split at hcut
  all_goals cases hcut
  next _ _ _ _ hstarts => simp [isIdentifier, hstarts]

theorem isIdentifier_of_mem_lexemes {text name : List Char}
    (hmem : Lexeme.word name ∈ lexemes text) : isIdentifier name = true := by
  fun_induction lexemes text with
  | case1 => cases hmem
  | case2 c rest ih =>
      rcases List.mem_cons.1 hmem with hword | hmem
      · exact Lexeme.isIdentifier_of_cut hword.symm
      · exact ih hmem

theorem Token.isIdentifier_of_mem_scan {source : List Char} {token : Token} {name : String}
    (hmem : token ∈ Token.scan source) (hname : token.name? = some name) :
    isIdentifier name.toList = true := by
  have hkind := Token.name?_eq_some_iff.1 hname
  obtain ⟨lexeme, hlexeme, hlexemeKind, _⟩ := exists_lexeme_of_mem_place hmem
  rw [hkind] at hlexemeKind
  unfold Lexeme.kind? at hlexemeKind
  split at hlexemeKind
  any_goals cases hlexemeKind
  · split at hlexemeKind <;> cases hlexemeKind
  · next word =>
    rw [String.toList_ofList]
    exact isIdentifier_of_mem_lexemes hlexeme

namespace Declaration

/-- Whether a name is missing or one of the words among `tokens`. -/
def NamedIn (tokens : List Token) (name : String) : Prop :=
  name = "" ∨ ∃ token ∈ tokens, token.name? = some name

section Names

variable {tokens rest : List Token} {token : Token}

theorem NamedIn.mono {name : String} (hnamed : NamedIn tokens name) (hsub : tokens ⊆ rest) :
    NamedIn rest name :=
  hnamed.imp_right fun ⟨token, htoken, hname⟩ => ⟨token, hsub htoken, hname⟩

theorem namedIn_selectors (tokens : List Token) :
    ∀ name ∈ (selectors tokens).1, NamedIn tokens name := by
  fun_induction selectors tokens with
  | case1 dot token rest name hname _ more ih =>
      intro other hother
      rcases List.mem_cons.1 hother with rfl | hother
      · exact .inr ⟨token, by simp, hname⟩
      · exact (ih other hother).mono (by simp)
  | case2 => simp
  | case3 => simp

/-- A qualified name goes by its last selector, or by its first word if it has none. -/
theorem namedIn_qualified (first : String) (tokens : List Token) :
    (qualified first tokens).1.1 = first ∨ NamedIn tokens (qualified first tokens).1.1 := by
  have hlast : (qualified first tokens).1.1 ∈ first :: (selectors tokens).1 := by
    simp only [qualified, List.getLastD_cons]
    exact List.getLastD_mem_cons
  exact (List.mem_cons.1 hlast).imp_right (namedIn_selectors tokens _)

theorem namedIn_moreNames (comma : Bool) (tokens : List Token) :
    ∀ name ∈ (moreNames comma tokens).1, NamedIn tokens name.1 := by
  fun_induction moreNames comma tokens with
  | case1 => simp
  | case2 token rest _ ih => exact fun name hname => (ih name hname).mono (by simp)
  | case3 token rest _ name hsome more ih =>
      intro other hother
      rcases List.mem_cons.1 hother with rfl | hother
      · exact .inr ⟨token, by simp, hsome⟩
      · exact (ih other hother).mono (by simp)
  | case4 => simp
  | case5 comma token rest _ _ ih => exact fun name hname => (ih name hname).mono (by simp)
  | case6 => simp

theorem namedIn_pointerHead (span : Span) (tokens : List Token) :
    ∀ name ∈ (pointerHead span tokens).names, NamedIn tokens name.1 := by
  have hempty : ∀ name ∈ [("", span)], NamedIn tokens name.1 := by simp [NamedIn]
  unfold pointerHead
  split
  · next token rest =>
    split
    · next first hfirst =>
      intro name hname
      obtain rfl := List.mem_singleton.1 hname
      rcases namedIn_qualified first rest with heq | hnamed
      · exact .inr ⟨token, by simp, by rw [hfirst, heq]⟩
      · exact hnamed.mono (by simp)
    · exact hempty
  · exact hempty

theorem namedIn_namedHead {name : String} (hname : token.name? = some name)
    (rest : List Token) :
    ∀ other ∈ (namedHead name token.span rest).names, NamedIn (token :: rest) other.1 := by
  have hfirst : NamedIn (token :: rest) name := .inr ⟨token, by simp, hname⟩
  intro other hother
  unfold namedHead at hother
  split at hother
  · obtain rfl := List.mem_singleton.1 hother
    rcases namedIn_qualified name rest with heq | hnamed
    · rwa [heq]
    · exact hnamed.mono (by simp)
  · dsimp only at hother
    rw [names_typedHead] at hother
    rcases List.mem_cons.1 hother with rfl | hother
    · exact hfirst
    · exact (namedIn_moreNames false rest other hother).mono (by simp)

theorem namedIn_head (token : Token) (rest : List Token) :
    ∀ name ∈ (head token rest).names, NamedIn (token :: rest) name.1 := by
  unfold head
  split
  · next name hkind => exact namedIn_namedHead (by simp [Token.name?, hkind]) rest
  · split
    · exact fun name hname => (namedIn_pointerHead token.span rest name hname).mono (by simp)
    · simp [Head.names, NamedIn]

theorem namedIn_fieldLine (token : Token) (rest : List Token) :
    ∀ field ∈ (fieldLine token rest).fields, NamedIn (token :: rest) field.name := by
  intro field hfield
  rw [fields_fieldLine] at hfield
  obtain ⟨name, hname, rfl⟩ := List.mem_map.1 hfield
  exact namedIn_head token rest name hname

theorem namedIn_fieldList (heof : ∀ token ∈ tokens, token.kind ≠ .eof) :
    ∀ field ∈ (fieldList tokens).fields, NamedIn tokens field.name := by
  intro field hfield
  refine mem_fields_induction (motive := fun tokens => NamedIn tokens field.name) ?_ ?_ ?_ heof
    hfield
  · exact fun token rest _ hnamed => hnamed.mono (List.subset_cons_self token rest)
  · exact fun token rest _ _ hline => namedIn_fieldLine token rest field hline
  · intro token rest hkinds hline hnamed
    have hsuffix := @fieldLine_suffix_of_kind rest token (hkinds token List.mem_cons_self) hline
    exact hnamed.mono (hsuffix.trans (List.suffix_cons token rest)).subset

end Names

/-- The text ends behind a line that holds an open inline struct. -/
theorem rest_of_open_inline {token : Token} {rest inner : List Token}
    {names : List (String × Span)} {opening : Span}
    (hhead : head token rest = .inline names opening inner)
    (heof : ∀ token ∈ rest, token.kind ≠ .eof) (hopen : (fieldList inner).close = none) :
    (fieldLine token rest).rest = [] := by
  have hinner := (inline_suffix hhead).subset
  have hnested := rest_eq_nil_of_open (fun other hother => heof other (hinner hother)) hopen
  rw [fieldLine_of_inline hhead, hnested]
  rfl

/-- Whether a finding is about an inline struct that is not closed. -/
def IsOpenInline (note : Diagnostic) : Prop :=
  ∃ owner span, note = .unclosedInline owner span

/-- What is found in a field list is text left on lines, or that an inline struct is not
closed, and then neither is the list. -/
theorem leftover_or_openInline {tokens : List Token}
    (heof : ∀ token ∈ tokens, token.kind ≠ .eof) :
    ∀ note ∈ (fieldList tokens).notes,
      IsLeftover note ∨ (fieldList tokens).close = none ∧ IsOpenInline note := by
  refine fieldList_induction (motive := fun tokens => ∀ note ∈ (fieldList tokens).notes,
    IsLeftover note ∨ (fieldList tokens).close = none ∧ IsOpenInline note) ?_ ?_ ?_ ?_ heof
  · simp [fieldList]
  · intro token rest hseparator ih
    rwa [fieldList_separator hseparator]
  · intro token rest hclose
    simp [fieldList_close hclose]
  · intro token rest hkinds hline ih
    have hkind := hkinds token List.mem_cons_self
    have hrestKinds : ∀ other ∈ rest, other.kind ≠ .eof := fun other hother =>
      hkinds other (List.mem_cons_of_mem token hother)
    rw [fieldList_line hkind hline]
    intro note hnote
    rcases List.mem_append.1 hnote with hnote | hnote
    · cases hhead : head token rest with
      | plain names type after =>
          rw [fieldLine_of_plain hhead] at hnote
          exact .inl ((mem_notes_endLine hnote).resolve_left List.not_mem_nil)
      | inline names opening inner =>
          rw [fieldLine_of_inline hhead] at hnote
          rcases mem_notes_endLine hnote with hnote | hleftover
          · cases hnested : (fieldList inner).close with
            | none =>
                dsimp only
                rw [rest_of_open_inline hhead hrestKinds hnested]
                rcases List.mem_append.1 hnote with hnote | hnote
                · exact (ih inner (inline_suffix hhead) note hnote).imp_right fun hopen =>
                    ⟨by simp [fieldList], hopen.2⟩
                · rw [hnested] at hnote
                  exact .inr ⟨by simp [fieldList], _, opening, List.mem_singleton.1 hnote⟩
            | some close =>
                rw [hnested, inlineNotes, List.append_nil] at hnote
                rcases ih inner (inline_suffix hhead) note hnote with hleftover | ⟨hopen, _⟩
                · exact .inl hleftover
                · rw [hnested] at hopen
                  cases hopen
          · exact .inl hleftover
    · exact ih _ (fieldLine_suffix_of_kind hkind hline) note hnote

/-- The name of a declaration and the names of its fields. -/
def names (declaration : Declaration) : List String :=
  declaration.name :: declaration.fields.map Field.name

theorem namedIn_body {tokens : List Token} (heof : ∀ token ∈ tokens, token.kind ≠ .eof)
    (name : String) (nameSpan start word : Span) (grouped : Bool) (finish : Position) :
    ∀ other ∈ (body name nameSpan start word grouped finish tokens).1.names,
      other = name ∨ NamedIn tokens other := by
  have hskip := (skipNewlines_suffix tokens).subset
  unfold body names
  split
  · simp
  · next brace inner hinner =>
    rw [hinner] at hskip
    have hinnerSub : inner ⊆ tokens := fun token htoken =>
      hskip (List.mem_cons_of_mem brace htoken)
    have hfields : ∀ other ∈ name :: (fieldList inner).fields.map Field.name,
        other = name ∨ NamedIn tokens other := by
      intro other hother
      refine (List.mem_cons.1 hother).imp_right fun hother => ?_
      obtain ⟨field, hfield, rfl⟩ := List.mem_map.1 hother
      exact (namedIn_fieldList (fun token htoken => heof token (hinnerSub htoken)) field
        hfield).mono hinnerSub
    split
    · dsimp only
      split <;> exact hfields
    · simp

theorem namedIn_typeSpec? {start : Span} {grouped : Bool} {finish : Position}
    {tokens rest : List Token} {declaration : Declaration}
    (heof : ∀ token ∈ tokens, token.kind ≠ .eof)
    (hspec : typeSpec? start grouped finish tokens = some (declaration, rest)) :
    ∀ name ∈ declaration.names, NamedIn tokens name := by
  intro name hname
  rcases typeSpec?_eq_some hspec with
    ⟨word, after, rfl, _, hfound⟩ | ⟨token, text, word, after, rfl, htext, _, _, hfound⟩
  · obtain rfl := congrArg Prod.fst hfound
    rcases namedIn_body (fun token htoken => heof token (by simp [htoken])) _ _ _ _ _ _ name
      hname with hempty | hnamed
    · exact .inl hempty
    · exact hnamed.mono (by simp)
  · obtain rfl := congrArg Prod.fst hfound
    rcases namedIn_body (fun token htoken => heof token (by simp [htoken])) _ _ _ _ _ _ name
      hname with rfl | hnamed
    · exact .inr ⟨token, by simp, htext⟩
    · exact hnamed.mono (by simp)

/-- No declaration of a text has a name, nor has one of its fields, that is neither missing
nor an identifier. -/
theorem isIdentifier_of_mem_all {source : List Char} {declaration : Declaration}
    (hmem : declaration ∈ all source) :
    ∀ name ∈ declaration.names, name ≠ "" → isIdentifier name.toList = true := by
  intro name hname hne
  obtain ⟨before, spec, start, scope, rest, hscan, hfound⟩ := exists_foundAt_of_mem_all hmem
  have hsuffix : spec <:+ Token.scan source := ⟨before, hscan.symm⟩
  have hnamed := namedIn_typeSpec? (Token.scan_ne_eof hsuffix) hfound.spec_eq name hname
  obtain ⟨token, htoken, hsome⟩ := hnamed.resolve_left hne
  exact Token.isIdentifier_of_mem_scan (hsuffix.subset htoken) hsome

end Declaration

end FieldBridge
