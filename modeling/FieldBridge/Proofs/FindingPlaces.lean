import FieldBridge.Proofs.Regions

/-!
# Where findings are placed

A finding is placed in the text that was parsed, at a token of it.  The descriptor keeps that
text without the white space around it.  So a finding stands in the kept text as far on as in
the parsed one, less the white space in front, unless it is about the end of the text or about
the lack of a declaration, and then it covers nothing.
-/

namespace FieldBridge

namespace Text

/-- The number of bytes of the white space that a text begins with. -/
def leadingBytes (text : List Char) : Nat :=
  byteLength (text.takeWhile Unicode.isWhiteSpace)

theorem exists_append_of_byteLength_le {front front' back back' : List Char}
    (happend : front ++ back = front' ++ back') (hle : byteLength front ≤ byteLength front') :
    ∃ more, front' = front ++ more ∧ back = more ++ back' := by
  rcases List.append_eq_append_iff.1 happend with ⟨more, hfront, hback⟩ | ⟨more, hfront, hback⟩
  · exact ⟨more, hfront, hback⟩
  · rw [hfront, byteLength_append] at hle
    cases more with
    | nil => exact ⟨[], by simpa using hfront.symm, by simpa using hback.symm⟩
    | cons c more =>
        have hsize := c.utf8Size_pos
        rw [byteLength_cons] at hle
        omega

theorem append_inj_of_byteLength {front front' back back' : List Char}
    (happend : front ++ back = front' ++ back') (hlength : byteLength front = byteLength front') :
    front = front' ∧ back = back' := by
  obtain ⟨more, rfl, hback⟩ := exists_append_of_byteLength_le happend (Nat.le_of_eq hlength)
  rw [byteLength_append] at hlength
  cases more with
  | nil => exact ⟨(List.append_nil front).symm, hback⟩
  | cons c more =>
      have hsize := c.utf8Size_pos
      rw [byteLength_cons] at hlength
      omega

/-- A slice within the middle of a text is a slice of the middle alone, less far on by what
stands in front of it. -/
theorem slice?_unshift {start stop : Nat} {before text after part : List Char}
    (hslice : slice? start stop (before ++ text ++ after) = some part)
    (hstart : byteLength before ≤ start) (hstop : stop ≤ byteLength before + byteLength text) :
    slice? (start - byteLength before) (stop - byteLength before) text = some part := by
  obtain ⟨front, back, htext, rfl, rfl⟩ := slice?_eq_some hslice
  rw [List.append_assoc, List.append_assoc] at htext
  obtain ⟨more, rfl, hmore⟩ := exists_append_of_byteLength_le htext hstart
  rw [byteLength_append] at hstop ⊢
  rw [← List.append_assoc] at hmore
  obtain ⟨last, rfl, -⟩ := exists_append_of_byteLength_le hmore.symm (by
    rw [byteLength_append]
    omega)
  have hwhole := slice?_append more part last
  rw [← hwhole]
  congr 1 <;> omega

end Text

theorem isString_of_whiteSpace {text : List Char}
    (hblank : ∀ c ∈ text, Unicode.isWhiteSpace c = true) :
    ∀ lexeme ∈ lexemes text, lexeme.isString = false := by
  intro lexeme hlexeme
  have hchars : ∀ c ∈ lexeme.text, Unicode.isWhiteSpace c = true := fun c hc =>
    hblank c (flatMap_text_lexemes text ▸ List.mem_flatMap.2 ⟨lexeme, hlexeme, hc⟩)
  cases lexeme with
  | rawString body closed => exact absurd (hchars '\x60' List.mem_cons_self) (by decide +kernel)
  | quotedString body closed => exact absurd (hchars '\x22' List.mem_cons_self) (by decide +kernel)
  | _ => rfl

namespace Token

/-- Whether a token is a word, a number or a symbol. -/
def IsSolid (token : Token) : Prop :=
  token.string? = none ∧ token.kind ≠ .newline ∧ token.kind ≠ .eof

theorem isSolid_of_name? {token : Token} (hname : token.name?.isSome = true) : token.IsSolid := by
  obtain ⟨name, hname⟩ := Option.isSome_iff_exists.1 hname
  simp [IsSolid, string?, name?_eq_some_iff.1 hname]

theorem isSolid_of_isPunct {token : Token} {c : Char} (hpunct : token.isPunct c = true) :
    token.IsSolid := by
  have hkind : token.kind = .punct c := by simpa [isPunct] using hpunct
  simp [IsSolid, string?, hkind]

theorem isSolid_of_endsField {token : Token} (hends : token.endsField = false) :
    token.IsSolid := by
  unfold IsSolid string?
  unfold endsField at hends
  cases hkind : token.kind <;> simp_all

theorem isSeparator_eq_false_of_endsField {token : Token} (hends : token.endsField = false) :
    token.isSeparator = false := by
  unfold endsField at hends
  cases hkind : token.kind <;> simp_all [isSeparator, isPunct]

theorem isSeparator_eq_false_of_isPunct {token : Token} {c : Char}
    (hpunct : token.isPunct c = true) (hc : c ≠ ';') : token.isSeparator = false := by
  have hkind : token.kind = .punct c := by simpa [isPunct] using hpunct
  simp [isSeparator, isPunct, hkind, hc]

theorem not_isSolid_of_mem_place {position : Position} {lexs : List Lexeme}
    (hinert : ∀ lexeme ∈ lexs, lexeme.isInert = true) {token : Token}
    (htoken : token ∈ place position lexs) : ¬ token.IsSolid := by
  rintro ⟨hstring, hnewline, _⟩
  obtain ⟨lexeme, hlexeme, hkind⟩ := Declaration.mem_kind_place.1 ⟨token, htoken, rfl⟩
  have hplain := hinert lexeme hlexeme
  unfold string? at hstring
  cases lexeme with
  | lineFeed => exact hnewline (Option.some.inj hkind).symm
  | blockComment body closed =>
      rw [Lexeme.kind?] at hkind
      split at hkind
      · exact hnewline (Option.some.inj hkind).symm
      · cases hkind
  | rawString body closed => simp [← Option.some.inj hkind] at hstring
  | quotedString body closed => simp [← Option.some.inj hkind] at hstring
  | blank | lineComment => cases hkind
  | word | number | symbol => cases hplain

/-- A token that is no separator stands behind the white space that its text begins with. -/
theorem leadingBytes_le_start {source : List Char} {token : Token} (htoken : token ∈ scan source)
    (hseparator : token.isSeparator = false) :
    Text.leadingBytes source ≤ token.span.start.byte := by
  have hblank : ∀ c ∈ source.takeWhile Unicode.isWhiteSpace, Unicode.isWhiteSpace c = true :=
    List.all_eq_true.1 List.all_takeWhile
  have hlexemes := Lexeme.lexemes_whiteSpace_append hblank (Text.trimStart source)
  rw [Text.trimStart_append] at hlexemes
  rw [scan, hlexemes, place_append, flatMap_text_lexemes] at htoken
  rcases List.mem_append.1 htoken with hfront | hbehind
  · have hseparates := Declaration.separators_place (Lexeme.lexemes_of_whiteSpace hblank)
      (isString_of_whiteSpace hblank) .start token hfront
    rw [hseparator] at hseparates
    cases hseparates
  · have hle := (place_pairwise _ _ text_ne_nil_of_mem_lexemes).1 token hbehind
    rwa [Position.after_byte, Position.start, Nat.zero_add] at hle

theorem stop_le_of_mem_place {position : Position} {lexs : List Lexeme} {token : Token}
    (htoken : token ∈ place position lexs) :
    token.span.stop.byte ≤ position.byte + Text.byteLength (lexs.flatMap Lexeme.text) := by
  obtain ⟨before, after, hsplit⟩ := List.append_of_mem htoken
  obtain ⟨left, lexeme, right, rfl, _, _, hstart, hstop, _⟩ := place_eq_append_cons hsplit
  rw [hstop, hstart, Position.after_byte, Position.after_byte, List.flatMap_append,
    List.flatMap_cons, Text.byteLength_append, Text.byteLength_append]
  omega

/-- A solid token ends before the white space that its text ends with. -/
theorem IsSolid.stop_le {source : List Char} {token : Token} (hsolid : token.IsSolid)
    (htoken : token ∈ scan source) :
    token.span.stop.byte ≤ Text.leadingBytes source + Text.byteLength (Text.trim source) := by
  have hblank : ∀ c ∈ source.takeWhile Unicode.isWhiteSpace, Unicode.isWhiteSpace c = true :=
    List.all_eq_true.1 List.all_takeWhile
  obtain ⟨after, hsource, hafter⟩ := Text.exists_takeWhile_append_trim source
  obtain ⟨lexs, ends, ends', htrim, hlonger, _, hinert, _⟩ :=
    lexemes_append_whiteSpace (Text.trim source) hafter
  have hlexemes : lexemes source =
      (lexemes (source.takeWhile Unicode.isWhiteSpace) ++ lexs) ++ ends' := by
    rw [List.append_assoc, ← hlonger, ← Lexeme.lexemes_whiteSpace_append hblank,
      ← List.append_assoc, ← hsource]
  have hlength := congrArg (fun lexs => Text.byteLength (lexs.flatMap Lexeme.text)) htrim
  simp only [flatMap_text_lexemes, List.flatMap_append, Text.byteLength_append] at hlength
  rw [scan, hlexemes, place_append] at htoken
  rcases List.mem_append.1 htoken with hfront | hbehind
  · have hle := stop_le_of_mem_place hfront
    rw [List.flatMap_append, flatMap_text_lexemes, Text.byteLength_append] at hle
    unfold Text.leadingBytes
    unfold Position.start at hle
    dsimp only at hle
    omega
  · exact absurd hsolid (not_isSolid_of_mem_place hinert hbehind)

end Token

namespace Span

/-- The span covers the same characters in a text and, moved back by `lead` bytes, in a text
that was cut out of it. -/
def Carries (span : Span) (source text : List Char) (lead : Nat) : Prop :=
  ∃ part, span.text? source = some part ∧ lead ≤ span.start.byte ∧
    Text.slice? (span.start.byte - lead) (span.stop.byte - lead) text = some part

theorem carries_trim {span : Span} {source part : List Char}
    (htext : span.text? source = some part) (hstart : Text.leadingBytes source ≤ span.start.byte)
    (hstop : span.stop.byte ≤ Text.leadingBytes source + Text.byteLength (Text.trim source)) :
    span.Carries source (Text.trim source) (Text.leadingBytes source) := by
  refine ⟨part, htext, hstart, ?_⟩
  obtain ⟨after, hsource, _⟩ := Text.exists_takeWhile_append_trim source
  rw [text?, hsource] at htext
  exact Text.slice?_unshift htext hstart hstop

theorem text?_point_after (before after : List Char) :
    (Span.point (Position.start.after before)).text? (before ++ after) = some [] := by
  have hslice := Text.slice?_append before [] after
  rw [Text.byteLength_nil, Nat.add_zero, List.append_nil] at hslice
  unfold point text?
  dsimp only
  rwa [Position.after_byte, Position.start, Nat.zero_add]

theorem text?_collapsed {span : Span} {source : List Char} (hrange : span.IsRange source) :
    span.collapsed.text? source = some [] := by
  obtain ⟨before, after, rfl, hbefore⟩ := hrange.start_boundary
  have hslice := Text.slice?_append before [] after
  rw [Text.byteLength_nil, Nat.add_zero, List.append_nil, hbefore] at hslice
  exact hslice

end Span

namespace Diagnostic

/-- The places that a finding is about. -/
def spans (diagnostic : Diagnostic) : List Span :=
  diagnostic.span :: diagnostic.related.toList

/-- A finding about a source stands in the text that was cut out of it, further in front by the
white space that was cut off.  The two findings that are about no character stand at the ends
of the source. -/
def KeptIn (diagnostic : Diagnostic) (source text : List Char) : Prop :=
  (∀ span ∈ diagnostic.spans, span.Carries source text (Text.leadingBytes source)) ∨
    diagnostic = .noDeclaration ∨
      ∃ opening, diagnostic = .unclosed (Span.point (Position.start.after source)) opening ∧
        opening.Carries source text (Text.leadingBytes source)

theorem KeptIn.exists_text? {diagnostic : Diagnostic} {source text : List Char}
    (hkept : diagnostic.KeptIn source text) :
    ∀ span ∈ diagnostic.spans, ∃ part, span.text? source = some part := by
  intro span hspan
  rcases hkept with hall | rfl | ⟨opening, rfl, hopening⟩
  · obtain ⟨part, htext, _⟩ := hall span hspan
    exact ⟨part, htext⟩
  · obtain rfl := List.mem_singleton.1 hspan
    exact ⟨[], Span.text?_point_after [] source⟩
  · rcases List.mem_cons.1 hspan with rfl | hrelated
    · refine ⟨[], ?_⟩
      have hpoint := Span.text?_point_after source []
      rwa [List.append_nil] at hpoint
    · obtain rfl := List.mem_singleton.1 hrelated
      obtain ⟨part, htext, _⟩ := hopening
      exact ⟨part, htext⟩

end Diagnostic

namespace Declaration

/-- A span of one of `tokens`, or its beginning, with a solid token there or behind it. -/
def Placed (tokens : List Token) (span : Span) : Prop :=
  ∃ token ∈ tokens, ∃ last ∈ tokens, token.isSeparator = false ∧ last.IsSolid ∧
    token.span.stop.byte ≤ last.span.stop.byte ∧
      (span = token.span ∨ span = token.span.collapsed)

theorem Placed.mono {tokens others : List Token} {span : Span} (hplaced : Placed tokens span)
    (hsub : tokens ⊆ others) : Placed others span := by
  obtain ⟨token, htoken, last, hlast, hspan⟩ := hplaced
  exact ⟨token, hsub htoken, last, hsub hlast, hspan⟩

theorem placed_of_isSolid {tokens : List Token} {token : Token} (htoken : token ∈ tokens)
    (hsolid : token.IsSolid) (hseparator : token.isSeparator = false) :
    Placed tokens token.span :=
  ⟨token, htoken, token, htoken, hseparator, hsolid, Nat.le_refl _, .inl rfl⟩

theorem placed_of_name? {tokens : List Token} {token : Token} {name : String}
    (htoken : token ∈ tokens) (hname : token.name? = some name) : Placed tokens token.span :=
  placed_of_isSolid htoken (Token.isSolid_of_name? (by rw [hname]; rfl))
    (Token.isSeparator_eq_false_of_name? hname)

theorem Placed.carries {source : List Char} {span : Span}
    (hplaced : Placed (Token.scan source) span) :
    span.Carries source (Text.trim source) (Text.leadingBytes source) := by
  obtain ⟨token, htoken, last, hlast, hseparator, hsolid, hle, hspan⟩ := hplaced
  have htext := Token.text?_of_mem_scan htoken
  have hstart := Token.leadingBytes_le_start htoken hseparator
  have hstop := hsolid.stop_le hlast
  have hlt := Token.start_lt_stop htoken
  rcases hspan with rfl | rfl
  · exact Span.carries_trim htext hstart (Nat.le_trans hle hstop)
  · refine Span.carries_trim (Span.text?_collapsed (Span.isRange_of_text? htext)) hstart ?_
    change token.span.start.byte ≤ _
    omega

/-- A token that a reader takes of `tokens` before it leaves `rest`. -/
def Taken (tokens rest : List Token) (token : Token) : Prop :=
  ∃ front, tokens = front ++ rest ∧ token ∈ front

section Taken

variable {tokens tokens' rest rest' : List Token} {token : Token}

theorem taken_head (hsuffix : rest' <:+ rest) : Taken (token :: rest) rest' token := by
  obtain ⟨front, rfl⟩ := hsuffix
  exact ⟨token :: front, rfl, List.mem_cons_self⟩

theorem Taken.leave (htaken : Taken tokens rest token) (hsuffix : rest' <:+ rest) :
    Taken tokens rest' token := by
  obtain ⟨front, rfl, htoken⟩ := htaken
  obtain ⟨gap, rfl⟩ := hsuffix
  exact ⟨front ++ gap, by rw [List.append_assoc], List.mem_append_left gap htoken⟩

theorem Taken.extend (htaken : Taken tokens rest token) (hsuffix : tokens <:+ tokens') :
    Taken tokens' rest token := by
  obtain ⟨front, rfl, htoken⟩ := htaken
  obtain ⟨gap, rfl⟩ := hsuffix
  exact ⟨gap ++ front, by rw [List.append_assoc], List.mem_append_right gap htoken⟩

theorem Taken.mem (htaken : Taken tokens rest token) : token ∈ tokens := by
  obtain ⟨front, rfl, htoken⟩ := htaken
  exact List.mem_append_left rest htoken

/-- The last token taken does not end before any other. -/
theorem Taken.stop_le {inner : List Token} {last : Token}
    (htaken : Taken (inner ++ last :: rest) rest token)
    (hpairs : (inner ++ last :: rest).Pairwise
      fun first second => first.span.stop.byte ≤ second.span.start.byte)
    (hlast : last.span.start.byte < last.span.stop.byte) :
    token.span.stop.byte ≤ last.span.stop.byte := by
  obtain ⟨front, heq, htoken⟩ := htaken
  rw [List.append_cons] at heq
  obtain rfl := List.append_cancel_right heq
  rcases List.mem_append.1 htoken with hinner | hsame
  · have hle := (List.pairwise_append.1 hpairs).2.2 token hinner last List.mem_cons_self
    omega
  · rw [List.mem_singleton.1 hsame]

theorem taken_moreNames (comma : Bool) (tokens : List Token) :
    ∀ name ∈ (moreNames comma tokens).1, ∃ token, Taken tokens (moreNames comma tokens).2 token ∧
      token.name? = some name.1 ∧ name.2 = token.span := by
  fun_induction moreNames comma tokens with
  | case1 => simp
  | case2 token rest _ ih =>
      intro name hname
      obtain ⟨found, htaken, hfound⟩ := ih name hname
      exact ⟨found, htaken.extend (List.suffix_cons token rest), hfound⟩
  | case3 token rest _ text hsome more ih =>
      intro name hname
      rcases List.mem_cons.1 hname with rfl | hname
      · exact ⟨token, taken_head (moreNames_suffix false rest), hsome, rfl⟩
      · obtain ⟨found, htaken, hfound⟩ := ih name hname
        exact ⟨found, htaken.extend (List.suffix_cons token rest), hfound⟩
  | case4 => simp
  | case5 comma token rest _ _ ih =>
      intro name hname
      obtain ⟨found, htaken, hfound⟩ := ih name hname
      exact ⟨found, htaken.extend (List.suffix_cons token rest), hfound⟩
  | case6 => simp

theorem span_pointerHead (span : Span) (tokens : List Token) :
    ∀ name ∈ (pointerHead span tokens).names, name.2 = span := by
  unfold pointerHead
  split
  · split <;> simp [Head.names]
  · simp [Head.names]

/-- A name stands where its line begins, or at a word that the line takes. -/
theorem taken_head_names (token : Token) (rest : List Token) :
    ∀ name ∈ (head token rest).names, name.2 = token.span ∨
      ∃ found, Taken rest (head token rest).rest found ∧ found.name? = some name.1 ∧
        name.2 = found.span := by
  intro name hname
  unfold head at hname ⊢
  split
  · next first hkind =>
    simp only [hkind] at hname
    unfold namedHead at hname ⊢
    split at hname
    · exact .inl (by simpa [Head.names] using congrArg Prod.snd (List.mem_singleton.1 hname))
    · next hembedded =>
      rw [if_neg hembedded]
      dsimp only at hname ⊢
      rw [names_typedHead] at hname
      rcases List.mem_cons.1 hname with rfl | hname
      · exact .inl rfl
      · obtain ⟨found, htaken, hfound⟩ := taken_moreNames false rest name hname
        exact .inr ⟨found, htaken.leave (typedHead_suffix _ _), hfound⟩
  · next hkind =>
    left
    split at hname
    · next first hname' => exact absurd hname' (hkind first)
    · split at hname
      · exact span_pointerHead token.span rest name hname
      · exact congrArg Prod.snd (List.mem_singleton.1 hname)

theorem Head.behind_suffix (head : Head) : head.behind <:+ head.rest := by
  cases head with
  | plain names type rest => exact List.suffix_rfl
  | inline names opening inner => exact fieldList_suffix inner

theorem fieldLine_suffix_tag (token : Token) (rest : List Token) :
    (fieldLine token rest).rest <:+ (tag (head token rest).behind).2 := by
  cases hform : head token rest with
  | plain names type after =>
      rw [fieldLine_of_plain hform]
      exact endLine_suffix names type [] after
  | inline names opening inner =>
      rw [fieldLine_of_inline hform]
      exact endLine_suffix _ _ _ _

theorem fieldLine_suffix_behind (token : Token) (rest : List Token) :
    (fieldLine token rest).rest <:+ (head token rest).behind :=
  (fieldLine_suffix_tag token rest).trans (tag_suffix _)

theorem fieldLine_suffix_head (token : Token) (rest : List Token) :
    (fieldLine token rest).rest <:+ (head token rest).rest :=
  (fieldLine_suffix_behind token rest).trans (head token rest).behind_suffix

theorem span_fieldLine (token : Token) (rest : List Token) :
    ∀ field ∈ (fieldLine token rest).fields,
      ∃ name ∈ (head token rest).names, field.span = name.2 := by
  intro field hfield
  rw [fields_fieldLine] at hfield
  obtain ⟨name, hname, rfl⟩ := List.mem_map.1 hfield
  exact ⟨name, hname, rfl⟩

/-- A field stands at a token that its field list takes. -/
theorem taken_fieldList (heof : ∀ token ∈ tokens, token.kind ≠ .eof) :
    ∀ field ∈ (fieldList tokens).fields, ∃ token, Taken tokens (fieldList tokens).rest token ∧
      token.isSeparator = false ∧ field.span = token.span := by
  intro field hfield
  refine mem_fields_induction (motive := fun tokens => ∃ token,
    Taken tokens (fieldList tokens).rest token ∧ token.isSeparator = false ∧
      field.span = token.span) ?_ ?_ ?_ heof hfield
  · rintro token rest hseparator ⟨found, htaken, hfound⟩
    rw [fieldList_separator hseparator]
    exact ⟨found, htaken.extend (List.suffix_cons token rest), hfound⟩
  · intro token rest hkinds hline hfield
    have hkind := hkinds token List.mem_cons_self
    have hmore := fieldList_suffix (fieldLine token rest).rest
    obtain ⟨name, hname, hspan⟩ := span_fieldLine token rest field hfield
    rw [fieldList_line hkind hline, hspan]
    rcases taken_head_names token rest name hname with hself | ⟨found, htaken, hword, hself⟩
    · refine ⟨token, taken_head (hmore.trans (fieldLine_suffix_of_kind hkind hline)), ?_, hself⟩
      simpa using fun hseparator => hline (Or.inl hseparator)
    · exact ⟨found, ((htaken.leave (fieldLine_suffix_head token rest)).leave hmore).extend
        (List.suffix_cons token rest), Token.isSeparator_eq_false_of_name? hword, hself⟩
  · rintro token rest hkinds hline ⟨found, htaken, hfound⟩
    have hkind := hkinds token List.mem_cons_self
    have hsuffix := @fieldLine_suffix_of_kind rest token hkind hline
    rw [fieldList_line hkind hline]
    exact ⟨found, htaken.extend (hsuffix.trans (List.suffix_cons token rest)), hfound⟩

/-- Whether a finding is only about one solid token among `tokens`. -/
def AtSolid (tokens : List Token) (note : Diagnostic) : Prop :=
  ∃ token ∈ tokens, token.IsSolid ∧ token.isSeparator = false ∧ note.spans = [token.span]

theorem AtSolid.mono {note : Diagnostic} (hnote : AtSolid tokens note) (hsub : tokens ⊆ tokens') :
    AtSolid tokens' note := by
  obtain ⟨token, htoken, hspans⟩ := hnote
  exact ⟨token, hsub htoken, hspans⟩

theorem AtSolid.placed {note : Diagnostic} (hnote : AtSolid tokens note) :
    ∀ span ∈ note.spans, Placed tokens span := by
  obtain ⟨token, htoken, hsolid, hseparator, hspans⟩ := hnote
  rw [hspans, List.forall_mem_singleton]
  exact placed_of_isSolid htoken hsolid hseparator

theorem atSolid_endLine {names : List (String × Span)} {type : String} {notes : List Diagnostic}
    {note : Diagnostic} (hnote : note ∈ (endLine names type notes tokens).notes) :
    note ∈ notes ∨ AtSolid tokens note := by
  have htag := (tag_suffix tokens).subset
  unfold endLine at hnote
  dsimp only at hnote
  split at hnote
  · exact .inl hnote
  · next token rest hrest =>
    rw [hrest] at htag
    split at hnote
    · exact .inl hnote
    · next hends =>
      refine (List.mem_append.1 hnote).imp_right fun hleftover => ?_
      rw [List.mem_singleton.1 hleftover]
      exact ⟨token, htag List.mem_cons_self, Token.isSolid_of_endsField (by simpa using hends),
        Token.isSeparator_eq_false_of_endsField (by simpa using hends), rfl⟩

theorem exists_opening {rest inner : List Token} {names : List (String × Span)} {opening : Span}
    (hhead : head token rest = .inline names opening inner) :
    ∃ brace ∈ rest, brace.isPunct '{' = true ∧ brace.span = opening := by
  have hnamed : ∀ (name : String) (span : Span), namedHead name span rest =
      .inline names opening inner → ∃ brace ∈ rest, brace.isPunct '{' = true ∧
        brace.span = opening := by
    intro name span hnamed
    unfold namedHead at hnamed
    split at hnamed
    · cases hnamed
    · unfold typedHead at hnamed
      dsimp only at hnamed
      split at hnamed
      · next found after hbody =>
        cases hnamed
        obtain ⟨word, brace, htokens, _, hbrace, hspan⟩ := inlineBody?_eq_some hbody
        have hsuffix := (moreNames_suffix false rest).subset
        rw [htokens] at hsuffix
        exact ⟨brace, hsuffix (by simp), hbrace, hspan⟩
      · cases hnamed
  unfold head at hhead
  split at hhead
  · exact hnamed _ _ hhead
  · split at hhead
    · unfold pointerHead at hhead
      split at hhead
      · split at hhead <;> cases hhead
      · cases hhead
    · cases hhead

/-- What is found while a field list is read is found at solid tokens of it. -/
theorem atSolid_fieldList (heof : ∀ token ∈ tokens, token.kind ≠ .eof) :
    ∀ note ∈ (fieldList tokens).notes, AtSolid tokens note := by
  refine fieldList_induction (motive := fun tokens => ∀ note ∈ (fieldList tokens).notes,
    AtSolid tokens note) ?_ ?_ ?_ ?_ heof
  · simp [fieldList]
  · intro token rest hseparator ih note hnote
    rw [fieldList_separator hseparator] at hnote
    exact (ih note hnote).mono (List.suffix_cons token rest).subset
  · intro token rest hclose
    simp [fieldList_close hclose]
  · intro token rest hkinds hline ih note hnote
    have hkind := hkinds token List.mem_cons_self
    have hsuffix := @fieldLine_suffix_of_kind rest token hkind hline
    have hcons := (List.suffix_cons token rest).subset
    rw [fieldList_line hkind hline] at hnote
    rcases List.mem_append.1 hnote with hnote | hnote
    · have hhead := head_suffix token rest
      cases hform : head token rest with
      | plain names type after =>
          rw [hform] at hhead
          rw [fieldLine_of_plain hform] at hnote
          exact ((atSolid_endLine hnote).resolve_left List.not_mem_nil).mono hhead.subset
      | inline names opening inner =>
          have hinner := inline_suffix hform
          rw [fieldLine_of_inline hform] at hnote
          rcases atSolid_endLine hnote with hnote | hleftover
          · rcases List.mem_append.1 hnote with hnote | hnote
            · exact (ih inner hinner note hnote).mono fun other hother =>
                hcons (hinner.subset hother)
            · unfold inlineNotes at hnote
              split at hnote
              · cases hnote
              · obtain ⟨brace, hbrace, hpunct, hspan⟩ := exists_opening hform
                rw [List.mem_singleton.1 hnote, ← hspan]
                exact ⟨brace, hcons hbrace, Token.isSolid_of_isPunct hpunct,
                  Token.isSeparator_eq_false_of_isPunct hpunct (by decide), rfl⟩
          · exact hleftover.mono fun other hother =>
              hcons (hinner.subset ((fieldList_suffix inner).subset hother))
    · exact (ih _ hsuffix note hnote).mono fun other hother => hcons (hsuffix.subset hother)

end Taken

section Checks

variable {before fields : List Field} {field : Field} {diagnostic : Diagnostic} {span : Span}

theorem spans_checkName {declaration : Declaration} (hfound : diagnostic ∈ checkName declaration) :
    diagnostic.spans = [declaration.nameSpan] := by
  unfold checkName at hfound
  split at hfound
  · rw [List.mem_singleton.1 hfound]
    rfl
  · split at hfound
    · cases hfound
    · rw [List.mem_singleton.1 hfound]
      rfl

/-- Only a name that is taken points at another field, the first one that has it. -/
theorem spans_checkFieldName (hfound : diagnostic ∈ checkFieldName before field) :
    diagnostic.spans = [field.span] ∨
      ∃ first ∈ before, diagnostic.spans = [field.span, first.span] := by
  unfold checkFieldName at hfound
  split at hfound
  · rw [List.mem_singleton.1 hfound]
    exact .inl rfl
  · split at hfound
    · rw [List.mem_singleton.1 hfound]
      exact .inl rfl
    · split at hfound
      · next first hfirst =>
          rw [List.mem_singleton.1 hfound]
          exact .inr ⟨first, List.mem_of_find?_eq_some hfirst, rfl⟩
      · cases hfound

theorem spans_checkField (hfound : diagnostic ∈ checkField before field)
    (hspan : span ∈ diagnostic.spans) : ∃ other ∈ before ++ [field], span = other.span := by
  unfold checkField at hfound
  rcases List.mem_append.1 hfound with hname | htype
  · rcases spans_checkFieldName hname with hspans | ⟨first, hfirst, hspans⟩
    · simp only [hspans, List.mem_singleton] at hspan
      exact ⟨field, by simp, hspan⟩
    · simp only [hspans, List.mem_cons, List.not_mem_nil, or_false] at hspan
      rcases hspan with hspan | hspan
      · exact ⟨field, by simp, hspan⟩
      · exact ⟨first, List.mem_append_left _ hfirst, hspan⟩
  · split at htype
    · rw [List.mem_singleton.1 htype] at hspan
      exact ⟨field, by simp, List.mem_singleton.1 hspan⟩
    · cases htype

theorem spans_checkFields (hfound : diagnostic ∈ checkFields before fields)
    (hspan : span ∈ diagnostic.spans) : ∃ field ∈ before ++ fields, span = field.span := by
  induction fields generalizing before with
  | nil => cases hfound
  | cons field fields ih =>
      rw [List.append_cons]
      rcases List.mem_append.1 hfound with hfield | hmore
      · obtain ⟨other, hother, hsame⟩ := spans_checkField hfield hspan
        exact ⟨other, List.mem_append_left fields hother, hsame⟩
      · exact ih hmore

/-- A finding of the checks is about the name of the declaration or about its fields. -/
theorem spans_check {declaration : Declaration} (hfound : diagnostic ∈ declaration.check)
    (hspan : span ∈ diagnostic.spans) :
    span = declaration.nameSpan ∨ ∃ field ∈ declaration.fields, span = field.span := by
  unfold check at hfound
  rcases List.mem_append.1 hfound with hhead | hfields
  · left
    rcases List.mem_append.1 hhead with hname | hempty
    · rw [spans_checkName hname] at hspan
      exact List.mem_singleton.1 hspan
    · split at hempty
      · rw [List.mem_singleton.1 hempty] at hspan
        exact List.mem_singleton.1 hspan
      · cases hempty
  · right
    exact spans_checkFields hfields hspan

end Checks

/-- Whether a finding is placed at tokens, apart from the end of the text that an open field
list runs into. -/
def IsPlaced (tokens : List Token) (finish : Position) (diagnostic : Diagnostic) : Prop :=
  (∀ span ∈ diagnostic.spans, Placed tokens span) ∨
    ∃ opening, diagnostic = .unclosed (Span.point finish) opening ∧ Placed tokens opening

section Body

variable {spec after : List Token} {name : String} {nameSpan start : Span} {word : Token}
  {grouped : Bool} {finish : Position}

/-- A field stands in front of the brace that closes its field list. -/
theorem placed_field {inner rest : List Token} {close : Token} {field : Field}
    (hlist : inner ++ close :: rest <:+ spec) (heof : ∀ token ∈ spec, token.kind ≠ .eof)
    (hpairs : spec.Pairwise fun first second => first.span.stop.byte ≤ second.span.start.byte)
    (hfilled : ∀ token ∈ spec, token.span.start.byte < token.span.stop.byte)
    (hclose : close.isPunct '}' = true)
    (hrest : (fieldList (inner ++ close :: rest)).rest = rest)
    (hfield : field ∈ (fieldList (inner ++ close :: rest)).fields) : Placed spec field.span := by
  obtain ⟨token, htaken, hseparator, htoken⟩ :=
    taken_fieldList (fun token htoken => heof token (hlist.subset htoken)) field hfield
  rw [hrest] at htaken
  have hcloseMem : close ∈ spec := hlist.subset (by simp)
  exact ⟨token, hlist.subset htaken.mem, close, hcloseMem, hseparator,
    Token.isSolid_of_isPunct hclose,
    htaken.stop_le (hpairs.sublist hlist.sublist) (hfilled close hcloseMem), .inl htoken⟩

/-- What is found about a declaration that is not open is placed at tokens of it: the checks
point at its name and its fields, and the other findings at what is left in its lines. -/
theorem isPlaced_body_closed (hsuffix : word :: after <:+ spec)
    (heof : ∀ token ∈ spec, token.kind ≠ .eof)
    (hpairs : spec.Pairwise fun first second => first.span.stop.byte ≤ second.span.start.byte)
    (hfilled : ∀ token ∈ spec, token.span.start.byte < token.span.stop.byte)
    (hword : word.isWord "struct" = true) (hname : Placed spec nameSpan)
    (hclosed : (body name nameSpan start word.span grouped finish after).1.IsClosed) :
    ∀ diagnostic ∈ (body name nameSpan start word.span grouped finish after).1.diagnostics,
      IsPlaced spec finish diagnostic := by
  intro diagnostic hdiagnostic
  left
  rw [diagnostics_eq] at hdiagnostic
  rcases body_extent hclosed with
    ⟨brace, inner, close, rest, hbody, hbrace, hclose, hextent⟩ | hnone
  · have hlist : inner ++ close :: rest <:+ spec :=
      ((List.suffix_cons brace _).trans (hbody ▸ skipNewlines_suffix after)).trans
        ((List.suffix_cons word after).trans hsuffix)
    have hrest : (fieldList (inner ++ close :: rest)).rest = rest := by
      obtain ⟨_, _, span, hskip, _, hspan⟩ :=
        body_of_failure_eq_none (congrArg (·.1.failure) hextent)
      obtain ⟨rfl, rfl⟩ := List.cons.inj (hbody.symm.trans hskip)
      exact congrArg Prod.snd ((body_closed _ _ _ _ _ _ hbody hbrace hspan).symm.trans hextent)
    rw [hextent] at hdiagnostic
    rcases List.mem_append.1 hdiagnostic with hcheck | hnote
    · intro span hspan
      rcases spans_check hcheck hspan with rfl | ⟨field, hfield, rfl⟩
      · exact hname
      · exact placed_field hlist heof hpairs hfilled hclose hrest hfield
    · exact ((atSolid_fieldList (fun token htoken => heof token (hlist.subset htoken)) diagnostic
        hnote).mono hlist.subset).placed
  · rw [body_of_noBody hnone] at hdiagnostic
    obtain rfl : diagnostic = .noBody word.span := by
      simpa [findings] using hdiagnostic
    exact List.forall_mem_singleton.2
      (placed_of_name? (hsuffix.subset List.mem_cons_self) (Token.name?_of_isWord hword))

/-- Everything found about a declaration is placed at tokens of it, given its name is. -/
theorem isPlaced_body (hsuffix : word :: after <:+ spec)
    (heof : ∀ token ∈ spec, token.kind ≠ .eof)
    (hpairs : spec.Pairwise fun first second => first.span.stop.byte ≤ second.span.start.byte)
    (hfilled : ∀ token ∈ spec, token.span.start.byte < token.span.stop.byte)
    (hword : word.isWord "struct" = true) (hname : Placed spec nameSpan) :
    ∀ diagnostic ∈ (body name nameSpan start word.span grouped finish after).1.diagnostics,
      IsPlaced spec finish diagnostic := by
  by_cases hclosed : (body name nameSpan start word.span grouped finish after).1.IsClosed
  · exact isPlaced_body_closed hsuffix heof hpairs hfilled hword hname hclosed
  · intro diagnostic hdiagnostic
    obtain ⟨brace, inner, hbody, hbrace, _, hextent⟩ := body_open hclosed
    have hskip : brace :: inner <:+ spec := (hbody ▸ skipNewlines_suffix after).trans
      ((List.suffix_cons word after).trans hsuffix)
    have hinner : inner <:+ spec := (List.suffix_cons brace inner).trans hskip
    rw [diagnostics_eq, hextent] at hdiagnostic
    rcases List.mem_append.1 hdiagnostic with hfailure | hnote
    · right
      refine ⟨brace.span, List.mem_singleton.1 hfailure, ?_⟩
      exact placed_of_isSolid (hskip.subset List.mem_cons_self) (Token.isSolid_of_isPunct hbrace)
        (Token.isSeparator_eq_false_of_isPunct hbrace (by decide))
    · left
      exact ((atSolid_fieldList (fun token htoken => heof token (hinner.subset htoken)) diagnostic
        hnote).mono hinner.subset).placed

end Body

theorem isPlaced_typeSpec? {start : Span} {grouped : Bool} {finish : Position}
    {spec rest : List Token} {declaration : Declaration}
    (heof : ∀ token ∈ spec, token.kind ≠ .eof)
    (hpairs : spec.Pairwise fun first second => first.span.stop.byte ≤ second.span.start.byte)
    (hfilled : ∀ token ∈ spec, token.span.start.byte < token.span.stop.byte)
    (hspec : typeSpec? start grouped finish spec = some (declaration, rest)) :
    ∀ diagnostic ∈ declaration.diagnostics, IsPlaced spec finish diagnostic := by
  rcases typeSpec?_eq_some hspec with
    ⟨word, after, rfl, hword, hfound⟩ | ⟨token, name, word, after, rfl, hname, _, hword, hfound⟩
  · obtain rfl := congrArg Prod.fst hfound
    have hsome : word.name? = some "struct" := Token.name?_of_isWord hword
    exact isPlaced_body List.suffix_rfl heof hpairs hfilled hword
      ⟨word, List.mem_cons_self, word, List.mem_cons_self,
        Token.isSeparator_eq_false_of_name? hsome, Token.isSolid_of_name? (by rw [hsome]; rfl),
        Nat.le_refl _, .inr rfl⟩
  · obtain rfl := congrArg Prod.fst hfound
    exact isPlaced_body (List.suffix_cons token _) heof hpairs hfilled hword
      (placed_of_name? List.mem_cons_self hname)

/-- Everything found about a declaration of a text is placed at tokens of the text. -/
theorem isPlaced_of_mem_all {source : List Char} {declaration : Declaration}
    (hmem : declaration ∈ all source) : ∀ diagnostic ∈ declaration.diagnostics,
      IsPlaced (Token.scan source) (Position.start.after source) diagnostic := by
  obtain ⟨before, spec, start, scope, rest, hscan, hfound⟩ := exists_foundAt_of_mem_all hmem
  have hsuffix : spec <:+ Token.scan source := ⟨before, hscan.symm⟩
  intro diagnostic hdiagnostic
  have hplaced := isPlaced_typeSpec? (Token.scan_ne_eof hsuffix)
    ((Token.scan_pairwise source).sublist hsuffix.sublist)
    (fun token htoken => Token.start_lt_stop (hsuffix.subset htoken)) hfound.spec_eq diagnostic
    hdiagnostic
  rcases hplaced with hspans | ⟨opening, hunclosed, hopening⟩
  · exact .inl fun span hspan => (hspans span hspan).mono hsuffix.subset
  · exact .inr ⟨opening, hunclosed, hopening.mono hsuffix.subset⟩

end Declaration

namespace StructDescriptor

open Declaration

/-- Where a finding about the struct that was read from `source` stands: in that text, and in
the text that the descriptor keeps. -/
structure Positions (source : String) (descriptor : StructDescriptor) (diagnostic : Diagnostic) :
    Prop where
  parsed : ∀ span ∈ diagnostic.spans, span.IsRange source.toList
  kept : diagnostic.KeptIn source.toList descriptor.sourceText.toList
  unmoved : Text.trim source.toList = source.toList → ∀ span ∈ diagnostic.spans,
    ∃ part, span.text? source.toList = some part ∧
      span.text? descriptor.sourceText.toList = some part

theorem sourceText_read (id source : String) :
    (read id source).sourceText = String.ofList (Text.trim source.toList) := by
  unfold read
  split <;> rfl

/-- Every finding about a struct that was read is positioned in the text that was parsed. -/
theorem positions_read (id source : String) :
    ∀ diagnostic ∈ (read id source).diagnostics, (read id source).Positions source diagnostic := by
  have hkeeps : (read id source).sourceText.toList = Text.trim source.toList := by
    rw [sourceText_read, String.toList_ofList]
  have hpositions : ∀ diagnostic : Diagnostic,
      diagnostic.KeptIn source.toList (Text.trim source.toList) →
        (read id source).Positions source diagnostic := by
    intro diagnostic hkept
    have htext := hkept.exists_text?
    refine ⟨fun span hspan => ?_, by rw [hkeeps]; exact hkept, fun htrim span hspan => ?_⟩
    · obtain ⟨part, hpart⟩ := htext span hspan
      exact Span.isRange_of_text? hpart
    · rw [hkeeps, htrim]
      obtain ⟨part, hpart⟩ := htext span hspan
      exact ⟨part, hpart, hpart⟩
  intro diagnostic hdiagnostic
  refine hpositions diagnostic ?_
  unfold read at hdiagnostic
  split at hdiagnostic
  · next declaration hfirst =>
      have hmem := List.mem_of_mem_head? (by rw [head?_all]; exact hfirst)
      rcases isPlaced_of_mem_all hmem diagnostic hdiagnostic with hspans | ⟨opening, rfl, hopening⟩
      · exact .inl fun span hspan => (hspans span hspan).carries
      · exact .inr (.inr ⟨opening, rfl, hopening.carries⟩)
  · exact .inr (.inl (List.mem_singleton.1 hdiagnostic))

theorem noBody_mem_read : .noBody ⟨⟨8, 0, 8⟩, ⟨14, 0, 14⟩⟩ ∈
    (read "s" " type A struct").diagnostics := by
  have hscan : Token.scan " type A struct".toList =
      [⟨.ident "type", "type", ⟨⟨1, 0, 1⟩, ⟨5, 0, 5⟩⟩⟩,
        ⟨.ident "A", "A", ⟨⟨6, 0, 6⟩, ⟨7, 0, 7⟩⟩⟩,
        ⟨.ident "struct", "struct", ⟨⟨8, 0, 8⟩, ⟨14, 0, 14⟩⟩⟩] := by
    cbv
  have hfirst : ∃ nameSpan span, first? " type A struct".toList =
      some ⟨"A", nameSpan, [], span, false, some (.noBody ⟨⟨8, 0, 8⟩, ⟨14, 0, 14⟩⟩), []⟩ := by
    rw [first?, hscan, next?_file_found rfl (typeSpec?_named rfl (by decide) rfl _ _ _ _)]
    exact ⟨_, _, rfl⟩
  obtain ⟨nameSpan, span, hfirst⟩ := hfirst
  unfold read
  rw [hfirst]
  exact List.mem_singleton.2 rfl

theorem positions_read_no_body :
    (read "s" " type A struct").Positions " type A struct"
      (.noBody ⟨⟨8, 0, 8⟩, ⟨14, 0, 14⟩⟩) :=
  positions_read "s" " type A struct" _ noBody_mem_read

/-- Behind a space, the text that is kept ends before the word that a body is missing after. -/
theorem not_within_sourceText_leading_space :
    ¬ ∀ diagnostic ∈ (read "s" " type A struct").diagnostics, ∃ part,
      diagnostic.span.text? " type A struct".toList = some part ∧
        diagnostic.span.text? (read "s" " type A struct").sourceText.toList = some part := by
  intro hwithin
  obtain ⟨part, -, hkept⟩ := hwithin _ noBody_mem_read
  rw [sourceText_read, String.toList_ofList] at hkept
  have hbound := (Span.isRange_of_text? hkept).within
  exact absurd hbound (by decide)

end StructDescriptor

end FieldBridge
