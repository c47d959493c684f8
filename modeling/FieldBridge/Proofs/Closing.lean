import FieldBridge.Declaration.Body
import FieldBridge.Proofs.Nesting

/-!
# Reading up to a closing brace

No reader of field lines matches braces on its own account.  What each of them
keeps is an invariant: if the tokens before a stop, which is a separator or the
closing brace of the field list, are well-nested, then the tokens that the reader
leaves are well-nested before the same stop.  From this a field list ends at its
own brace, whatever stands before it.
-/

namespace FieldBridge.Declaration

/-- The tokens go on to `stop` and `after`, and they are well-nested before `stop`. -/
def NestedBefore (stop : Token) (after tokens : List Token) : Prop :=
  ∃ inner, tokens = inner ++ stop :: after ∧ WellNested inner

/-- A field line goes no further than a separator or a closing brace. -/
def StopsLine (stop : Token) : Prop :=
  stop.isSeparator = true ∨ stop.isPunct '}' = true

variable {stop : Token} {after tokens rest : List Token}

theorem StopsLine.endsField (hstop : StopsLine stop) : stop.endsField = true := by
  simp only [StopsLine, Token.isSeparator, Token.isPunct, Bool.or_eq_true,
    decide_eq_true_eq] at hstop
  rcases hstop with (hkind | hkind) | hkind <;> simp [Token.endsField, hkind]

theorem StopsLine.name?_eq_none (hstop : StopsLine stop) : stop.name? = none := by
  simp only [StopsLine, Token.isSeparator, Token.isPunct, Bool.or_eq_true,
    decide_eq_true_eq] at hstop
  rcases hstop with (hkind | hkind) | hkind <;> simp [Token.name?, hkind]

theorem StopsLine.string?_eq_none (hstop : StopsLine stop) : stop.string? = none := by
  simp only [StopsLine, Token.isSeparator, Token.isPunct, Bool.or_eq_true,
    decide_eq_true_eq] at hstop
  rcases hstop with (hkind | hkind) | hkind <;> simp [Token.string?, hkind]

theorem StopsLine.isPunct_eq_false (hstop : StopsLine stop) {c : Char} (hc : c ≠ ';')
    (hbrace : c ≠ '}') : stop.isPunct c = false := by
  simp only [StopsLine, Token.isSeparator, Token.isPunct, Bool.or_eq_true,
    decide_eq_true_eq] at hstop
  rcases hstop with (hkind | hkind) | hkind <;>
    simp [Token.isPunct, hkind, hc.symm, hbrace.symm]

theorem NestedBefore.self (stop : Token) (after : List Token) :
    NestedBefore stop after (stop :: after) :=
  ⟨[], rfl, rfl⟩

/-- The first token is the stop itself, or it is one of the tokens before. -/
theorem NestedBefore.cons_cases {token : Token}
    (hnested : NestedBefore stop after (token :: rest)) :
    token = stop ∧ rest = after ∨
      ∃ inner, rest = inner ++ stop :: after ∧ WellNested (token :: inner) := by
  obtain ⟨inner, htokens, hinner⟩ := hnested
  cases inner with
  | nil => exact Or.inl (List.cons.inj htokens)
  | cons first inner =>
      obtain ⟨rfl, rfl⟩ := List.cons.inj htokens
      exact Or.inr ⟨inner, rfl, hinner⟩

theorem NestedBefore.cons_inv {token : Token}
    (hnested : NestedBefore stop after (token :: rest)) (hne : token ≠ stop) :
    ∃ inner, rest = inner ++ stop :: after ∧ WellNested (token :: inner) :=
  hnested.cons_cases.resolve_left fun heq => hne heq.1

theorem NestedBefore.tail {token : Token}
    (hnested : NestedBefore stop after (token :: rest)) (hne : token ≠ stop)
    (hplain : token.bracket = .plain) : NestedBefore stop after rest := by
  obtain ⟨inner, hrest, hinner⟩ := hnested.cons_inv hne
  exact ⟨inner, hrest, (wellNested_cons_plain hplain).1 hinner⟩

theorem splitType_nested (hstop : StopsLine stop) {stack : List Char} {inner : List Token}
    (hinner : closes stack inner = true) :
    NestedBefore stop after (splitType stack.length (inner ++ stop :: after)).2 := by
  induction inner generalizing stack with
  | nil =>
      obtain rfl : stack = [] := by simpa using hinner
      rw [List.nil_append, splitType, if_pos (by simp [hstop.endsField])]
      exact NestedBefore.self stop after
  | cons token inner ih =>
      rw [List.cons_append, splitType]
      by_cases hends : stack.length = 0 ∧ token.endsField = true
      · rw [if_pos hends]
        obtain rfl : stack = [] := List.length_eq_zero_iff.1 hends.1
        exact ⟨token :: inner, rfl, hinner⟩
      · obtain ⟨above, hlength, habove⟩ := closes_nest hinner
        rw [if_neg hends, ← hlength]
        exact ih habove

theorem typeText_nested (hstop : StopsLine stop) (hnested : NestedBefore stop after tokens) :
    NestedBefore stop after (typeText tokens).2 := by
  obtain ⟨inner, rfl, hinner⟩ := hnested
  exact @splitType_nested stop after hstop [] inner hinner

theorem skipLine_nested (hstop : StopsLine stop) {stack : List Char} {inner : List Token}
    (hinner : closes stack inner = true) :
    NestedBefore stop after (skipLine '}' stack.length (inner ++ stop :: after)) ∨
      stop.isSeparator = true ∧
        skipLine '}' stack.length (inner ++ stop :: after) = after := by
  induction inner generalizing stack with
  | nil =>
      obtain rfl : stack = [] := by simpa using hinner
      rw [List.nil_append, List.length_nil, skipLine]
      by_cases hseparator : stop.isSeparator = true
      · exact Or.inr ⟨hseparator, by simp [hseparator]⟩
      · have hbrace : stop.isPunct '}' = true := hstop.resolve_left hseparator
        left
        simpa [hseparator, hbrace] using NestedBefore.self stop after
  | cons token inner ih =>
      rw [List.cons_append, skipLine]
      by_cases hends : stack.length = 0 ∧ token.isSeparator = true
      · rw [if_pos hends]
        obtain rfl : stack = [] := List.length_eq_zero_iff.1 hends.1
        have hplain := Token.bracket_eq_plain_of_isSeparator hends.2
        exact Or.inl ⟨inner, rfl, (wellNested_cons_plain hplain).1 hinner⟩
      · rw [if_neg hends]
        by_cases hcloses : stack.length = 0 ∧ token.isPunct '}' = true
        · rw [if_pos hcloses]
          obtain rfl : stack = [] := List.length_eq_zero_iff.1 hcloses.1
          exact Or.inl ⟨token :: inner, rfl, hinner⟩
        · obtain ⟨above, hlength, habove⟩ := closes_nest hinner
          rw [if_neg hcloses, ← hlength]
          exact ih habove

theorem StopsLine.ne_of_name (hstop : StopsLine stop) {token : Token} {name : String}
    (hname : token.name? = some name) : token ≠ stop := by
  rintro rfl
  rw [hstop.name?_eq_none] at hname
  cases hname

theorem StopsLine.ne_of_isPunct (hstop : StopsLine stop) {token : Token} {c : Char}
    (hpunct : token.isPunct c = true) (hc : c ≠ ';') (hbrace : c ≠ '}') : token ≠ stop := by
  rintro rfl
  rw [hstop.isPunct_eq_false hc hbrace] at hpunct
  cases hpunct

theorem selectors_nested (hstop : StopsLine stop) (hnested : NestedBefore stop after tokens) :
    NestedBefore stop after (selectors tokens).2 := by
  fun_induction selectors tokens with
  | case1 dot token rest name hname hdot more ih =>
      have hplain : dot.bracket = .plain := by
        rw [Token.bracket_of_isPunct hdot]
        rfl
      have htail := hnested.tail (hstop.ne_of_isPunct hdot (by decide) (by decide)) hplain
      exact ih (htail.tail (hstop.ne_of_name hname) (Token.bracket_eq_plain_of_name hname))
  | case2 => exact hnested
  | case3 => exact hnested

/-- Names are read no further than the stop, unless this is a line end after a
comma.  Then the names go on behind it. -/
theorem moreNames_nested (hstop : StopsLine stop) (comma : Bool)
    (hnested : NestedBefore stop after tokens) :
    NestedBefore stop after (moreNames comma tokens).2 ∨
      stop.kind = .newline ∧ (moreNames comma tokens).2 = (moreNames true after).2 := by
  fun_induction moreNames comma tokens with
  | case1 => exact Or.inl hnested
  | case2 token rest hnewline ih =>
      rcases hnested.cons_cases with ⟨rfl, rfl⟩ | ⟨inner, hrest, hinner⟩
      · exact Or.inr ⟨hnewline, rfl⟩
      · have hplain : token.bracket = .plain :=
          Token.bracket_eq_plain_of_isSeparator (by simp [Token.isSeparator, hnewline])
        exact ih ⟨inner, hrest, (wellNested_cons_plain hplain).1 hinner⟩
  | case3 token rest _ name hname more ih =>
      exact ih (hnested.tail (hstop.ne_of_name hname) (Token.bracket_eq_plain_of_name hname))
  | case4 => exact Or.inl hnested
  | case5 comma token rest _ hcomma ih =>
      have hplain : token.bracket = .plain := by
        rw [Token.bracket_of_isPunct hcomma]
        rfl
      exact ih (hnested.tail (hstop.ne_of_isPunct hcomma (by decide) (by decide)) hplain)
  | case6 => exact Or.inl hnested

theorem tag_nested (hstop : StopsLine stop) (hnested : NestedBefore stop after tokens) :
    NestedBefore stop after (tag tokens).2 := by
  unfold tag
  split
  · exact hnested
  · next token rest =>
    split
    · next value hvalue =>
      have hne : token ≠ stop := by
        rintro rfl
        rw [hstop.string?_eq_none] at hvalue
        cases hvalue
      exact hnested.tail hne (Token.bracket_eq_plain_of_string hvalue)
    · exact hnested

/-- A head leaves tokens that are well-nested before the stop, and the field list of
an inline struct is well-nested too. -/
def Head.NestedBefore (stop : Token) (after : List Token) : Head → Prop
  | plain _ _ rest => Declaration.NestedBefore stop after rest
  | inline _ _ rest => ∃ close outer, close.isPunct '}' = true ∧
      Declaration.NestedBefore close outer rest ∧ Declaration.NestedBefore stop after outer

theorem pointerHead_nested (hstop : StopsLine stop) (span : Span)
    (hnested : NestedBefore stop after tokens) :
    (pointerHead span tokens).NestedBefore stop after := by
  unfold pointerHead
  split
  · next token rest =>
    split
    · next first hname =>
      exact selectors_nested hstop
        (hnested.tail (hstop.ne_of_name hname) (Token.bracket_eq_plain_of_name hname))
    · exact typeText_nested hstop hnested
  · exact hnested

theorem typedHead_nested (hstop : StopsLine stop) (names : List (String × Span))
    (hnested : NestedBefore stop after tokens) :
    (typedHead names tokens).NestedBefore stop after := by
  unfold typedHead
  split
  · next opening rest hbody =>
    obtain ⟨word, brace, rfl, hword, hbrace, _⟩ := inlineBody?_eq_some hbody
    have hname := Token.name?_of_isWord hword
    have hopening : brace.bracket = .opening '}' := Token.bracket_of_isPunct hbrace
    have htail := hnested.tail (hstop.ne_of_name hname) (Token.bracket_eq_plain_of_name hname)
    obtain ⟨inner, rfl, hinner⟩ :=
      htail.cons_inv (hstop.ne_of_isPunct hbrace (by decide) (by decide))
    obtain ⟨nested, close, outer, rfl, hnestedBody, hclose, houter⟩ := hinner.split hopening
    refine ⟨close, outer ++ stop :: after, Token.isPunct_of_bracket_closing hclose,
      ⟨nested, ?_, hnestedBody⟩, ⟨outer, rfl, houter⟩⟩
    rw [List.append_assoc, List.cons_append]
  · exact typeText_nested hstop hnested

theorem namedHead_nested (hstop : StopsLine stop) (name : String) (span : Span)
    (hnested : NestedBefore stop after tokens)
    (hnames : NestedBefore stop after (moreNames false tokens).2) :
    (namedHead name span tokens).NestedBefore stop after := by
  unfold namedHead
  split
  · exact selectors_nested hstop hnested
  · exact typedHead_nested hstop _ hnames

theorem endLine_nested (hstop : StopsLine stop) (names : List (String × Span))
    (type : String) (notes : List Diagnostic) (hnested : NestedBefore stop after tokens) :
    NestedBefore stop after (endLine names type notes tokens).rest ∨
      stop.isSeparator = true ∧ (endLine names type notes tokens).rest = after := by
  have htag := tag_nested hstop hnested
  unfold endLine
  dsimp only
  split
  · next hnil =>
    rw [hnil] at htag
    exact Or.inl htag
  · next token rest hrest =>
    rw [hrest] at htag
    split
    · exact Or.inl htag
    · obtain ⟨inner, htokens, hinner⟩ := htag
      rw [htokens]
      exact @skipLine_nested stop after hstop [] inner hinner

theorem head_nested (hstop : StopsLine stop) {token : Token}
    (hline : StopsLine token → False) (hnested : NestedBefore stop after (token :: rest))
    (hnames : ∀ name, token.name? = some name →
      NestedBefore stop after (moreNames false rest).2) :
    (head token rest).NestedBefore stop after := by
  have hne : token ≠ stop := by
    rintro rfl
    exact hline hstop
  unfold head
  split
  · next name hkind =>
    have hname : token.name? = some name := by simp [Token.name?, hkind]
    have htail := hnested.tail hne (Token.bracket_eq_plain_of_name hname)
    exact namedHead_nested hstop name token.span htail (hnames name hname)
  · split
    · next hstar =>
      have hplain : token.bracket = .plain := by
        rw [Token.bracket_of_isPunct hstar]
        rfl
      exact pointerHead_nested hstop token.span (hnested.tail hne hplain)
    · exact typeText_nested hstop hnested

/-- Whether a finding is about text left on a line. -/
def IsLeftover (note : Diagnostic) : Prop :=
  ∃ owner span, note = .leftover owner span

theorem mem_notes_endLine {names : List (String × Span)} {type : String}
    {notes : List Diagnostic} {note : Diagnostic}
    (hnote : note ∈ (endLine names type notes tokens).notes) : note ∈ notes ∨ IsLeftover note := by
  unfold endLine at hnote
  dsimp only at hnote
  split at hnote
  · exact .inl hnote
  · next token rest _ =>
    split at hnote
    · exact .inl hnote
    · exact (List.mem_append.1 hnote).imp_right fun hnote =>
        ⟨_, token.span, List.mem_singleton.1 hnote⟩

theorem endLine_notes {names : List (String × Span)} {type : String}
    {notes : List Diagnostic} (hnotes : ∀ note ∈ notes, IsLeftover note) :
    ∀ note ∈ (endLine names type notes tokens).notes, IsLeftover note :=
  fun note hnote => (mem_notes_endLine hnote).elim (hnotes note) id

/-- A field list that ends at `close`, with nothing found in it but text left on
lines. -/
structure FieldList.ClosesAt (list : FieldList) (close : Token) (after : List Token) :
    Prop where
  close_eq : list.close = some close.span
  rest_eq : list.rest = after
  leftover : ∀ note ∈ list.notes, IsLeftover note

/-- One line keeps the invariant, given that the field lists of inline structs end at
their braces. -/
theorem fieldLine_nested {token : Token}
    (hlists : ∀ close outer inner, inner <:+ rest → close.isPunct '}' = true →
      NestedBefore close outer inner → (fieldList inner).ClosesAt close outer)
    (hstop : StopsLine stop) (hline : ¬ StopsLine token)
    (hnested : NestedBefore stop after (token :: rest))
    (hnames : ∀ name, token.name? = some name →
      NestedBefore stop after (moreNames false rest).2) :
    (NestedBefore stop after (fieldLine token rest).rest ∨
      stop.isSeparator = true ∧ (fieldLine token rest).rest = after) ∧
      ∀ note ∈ (fieldLine token rest).notes, IsLeftover note := by
  have hhead := head_nested hstop hline hnested hnames
  cases hread : head token rest with
  | plain names type tail =>
      rw [hread] at hhead
      rw [fieldLine_of_plain hread]
      exact ⟨endLine_nested hstop names type [] hhead, endLine_notes (by simp)⟩
  | inline names opening inner =>
      rw [hread] at hhead
      obtain ⟨close, outer, hclose, hinner, houter⟩ := hhead
      have hlist := hlists close outer inner (inline_suffix hread) hclose hinner
      have hnotes : ∀ note ∈ (fieldList inner).notes ++
          inlineNotes names opening (fieldList inner).close, IsLeftover note := by
        rw [hlist.close_eq]
        simpa [inlineNotes] using hlist.leftover
      rw [← hlist.rest_eq] at houter
      rw [fieldLine_of_inline hread]
      exact ⟨endLine_nested hstop names inlineStruct _ houter, endLine_notes hnotes⟩

/-- A line takes the token it begins with. -/
theorem fieldLine_suffix_of_kind {token : Token} (heof : token.kind ≠ .eof)
    (hline : ¬ StopsLine token) : (fieldLine token rest).rest <:+ rest := by
  apply fieldLine_suffix
  simp only [StopsLine, Token.isSeparator, Token.isPunct, Bool.or_eq_true,
    decide_eq_true_eq, not_or] at hline
  unfold Token.endsField Token.string?
  cases hkind : token.kind <;> simp_all

theorem fieldList_line {token : Token} (heof : token.kind ≠ .eof) (hline : ¬ StopsLine token)
    (rest : List Token) :
    fieldList (token :: rest) =
      ⟨(fieldLine token rest).fields ++ (fieldList (fieldLine token rest).rest).fields,
        (fieldLine token rest).notes ++ (fieldList (fieldLine token rest).rest).notes,
        (fieldList (fieldLine token rest).rest).close,
        (fieldList (fieldLine token rest).rest).rest⟩ := by
  have hsuffix := @fieldLine_suffix_of_kind rest token heof hline
  simp only [StopsLine, not_or] at hline
  rw [fieldList, if_neg hline.1, if_neg hline.2]
  dsimp only
  rw [if_pos hsuffix.length_le]

/-- Induction over the lines of a field list: a line takes its first token, and what
follows it may be supposed of every list it can leave or hold. -/
theorem fieldList_induction {motive : List Token → Prop} (nil : motive [])
    (separator : ∀ token rest, token.isSeparator = true → motive rest → motive (token :: rest))
    (close : ∀ token rest, token.isPunct '}' = true → motive (token :: rest))
    (line : ∀ token rest, (∀ other ∈ token :: rest, other.kind ≠ .eof) → ¬ StopsLine token →
      (∀ tokens, tokens <:+ rest → motive tokens) → motive (token :: rest))
    {tokens : List Token} (heof : ∀ token ∈ tokens, token.kind ≠ .eof) : motive tokens := by
  induction hlength : tokens.length using Nat.strongRecOn generalizing tokens with
  | ind length ih =>
      cases tokens with
      | nil => exact nil
      | cons token rest =>
          have hrest : ∀ tokens, tokens <:+ rest → motive tokens := fun tokens hsuffix =>
            ih tokens.length (hlength ▸ Nat.lt_succ_of_le hsuffix.length_le)
              (fun other hother => heof other (List.mem_cons_of_mem token (hsuffix.subset hother)))
              rfl
          by_cases hstop : StopsLine token
          · rcases hstop with hseparator | hclose
            · exact separator token rest hseparator (hrest rest List.suffix_rfl)
            · exact close token rest hclose
          · exact line token rest heof hstop hrest

/-- Induction over the lines in front of the one that a field is read of. -/
theorem mem_fields_induction {field : Field} {motive : List Token → Prop}
    (separator : ∀ token rest, token.isSeparator = true → motive rest → motive (token :: rest))
    (line : ∀ token rest, (∀ other ∈ token :: rest, other.kind ≠ .eof) → ¬ StopsLine token →
      field ∈ (fieldLine token rest).fields → motive (token :: rest))
    (later : ∀ token rest, (∀ other ∈ token :: rest, other.kind ≠ .eof) → ¬ StopsLine token →
      motive (fieldLine token rest).rest → motive (token :: rest))
    {tokens : List Token} (heof : ∀ token ∈ tokens, token.kind ≠ .eof)
    (hfield : field ∈ (fieldList tokens).fields) : motive tokens := by
  refine fieldList_induction (motive := fun tokens => field ∈ (fieldList tokens).fields →
    motive tokens) ?_ ?_ ?_ ?_ heof hfield
  · simp [fieldList]
  · intro token rest hseparator ih hfield
    rw [fieldList_separator hseparator] at hfield
    exact separator token rest hseparator (ih hfield)
  · intro token rest hclose
    simp [fieldList_close hclose]
  · intro token rest hkinds hline ih hfield
    have hkind := hkinds token List.mem_cons_self
    rw [fieldList_line hkind hline] at hfield
    rcases List.mem_append.1 hfield with hfield | hfield
    · exact line token rest hkinds hline hfield
    · exact later token rest hkinds hline (ih _ (fieldLine_suffix_of_kind hkind hline) hfield)

/-- The line step: a line in front of the brace leaves it in front, and the inline struct that
the line may hold closes before. -/
theorem fieldList_line_closes {close token : Token} (hclose : close.isPunct '}' = true)
    (heof : token.kind ≠ .eof) (hline : ¬ StopsLine token)
    (hnested : NestedBefore close after (token :: rest))
    (hlists : ∀ close outer inner, inner <:+ rest → close.isPunct '}' = true →
      NestedBefore close outer inner → (fieldList inner).ClosesAt close outer) :
    (fieldList (token :: rest)).ClosesAt close after := by
  have hstop : StopsLine close := Or.inr hclose
  have hkind : close.kind = .punct '}' := by simpa [Token.isPunct] using hclose
  have hsuffix := @fieldLine_suffix_of_kind rest token heof hline
  have hnames : ∀ name, token.name? = some name →
      NestedBefore close after (moreNames false rest).2 := by
    intro name hname
    have htail := hnested.tail (hstop.ne_of_name hname) (Token.bracket_eq_plain_of_name hname)
    exact (moreNames_nested hstop false htail).resolve_right (by simp [hkind])
  obtain ⟨hleft, hnotes⟩ := fieldLine_nested hlists hstop hline hnested hnames
  have hagain := hleft.resolve_right (by simp [Token.isSeparator, Token.isPunct, hkind])
  have hmore := hlists close after _ hsuffix hclose hagain
  rw [fieldList_line heof hline]
  refine ⟨hmore.close_eq, hmore.rest_eq, ?_⟩
  intro note hnote
  rcases List.mem_append.1 hnote with hnote | hnote
  · exact hnotes note hnote
  · exact hmore.leftover note hnote

/-- A field list ends at the first brace before which its tokens are well-nested,
whatever these are. -/
theorem fieldList_closes {close : Token} (hclose : close.isPunct '}' = true)
    (heof : ∀ token ∈ tokens, token.kind ≠ .eof)
    (hnested : NestedBefore close after tokens) :
    (fieldList tokens).ClosesAt close after := by
  -- the brace is not fixed: the list of an inline struct ends at one of its own
  refine fieldList_induction (motive := fun tokens => ∀ close after, close.isPunct '}' = true →
    NestedBefore close after tokens → (fieldList tokens).ClosesAt close after) ?_ ?_ ?_ ?_ heof
      close after hclose hnested
  · rintro close after _ ⟨inner, htokens, _⟩
    simp at htokens
  · intro token rest hseparator ih close after hclose hnested
    have hne : token ≠ close := by
      rintro rfl
      simp_all [Token.isSeparator, Token.isPunct]
    rw [fieldList_separator hseparator]
    exact ih close after hclose
      (hnested.tail hne (Token.bracket_eq_plain_of_isSeparator hseparator))
  · intro token rest hbrace close after hclose hnested
    rcases hnested.cons_cases with ⟨rfl, rfl⟩ | ⟨inner, _, hinner⟩
    · rw [fieldList_close hclose]
      exact ⟨rfl, rfl, by simp⟩
    · exact absurd (Token.bracket_of_isPunct hbrace) hinner.bracket_ne_closing
  · intro token rest hkinds hline ih close after hclose hnested
    exact fieldList_line_closes hclose (hkinds token List.mem_cons_self) hline hnested
      fun close outer inner hinner => ih inner hinner close outer

end FieldBridge.Declaration
