import FieldBridge.Proofs.FindingPlaces
import FieldBridge.Proofs.Validity

/-!
# Spans of fields

A field that is declared with its name stands at that name, also when it shares its line with
other names.  A field without a name stands at the token that its line begins with.  So does an
embedded field, whatever its name is: it stands at the star of its pointer or at the first word
of its path, and it is named by the last word.  So the span of a field with a name covers that
name unless the field is an embedded pointer or is embedded by a path that begins otherwise.
-/

namespace FieldBridge

namespace Token

variable {source : List Char} {token : Token}

theorem text?_of_name? {name : String} (htoken : token ∈ scan source)
    (hname : token.name? = some name) : token.span.text? source = some name.toList := by
  obtain ⟨before, slice, after, rfl, hspan, _, hspells⟩ :=
    (tiles_stream source).covers token (mem_stream htoken)
  rw [name?_eq_some_iff.1 hname] at hspells
  rw [hspan, Span.text?_behind, show slice = name.toList from hspells]

theorem text?_of_isPunct {c : Char} (htoken : token ∈ scan source)
    (hpunct : token.isPunct c = true) : token.span.text? source = some [c] := by
  obtain ⟨before, slice, after, rfl, hspan, _, hspells⟩ :=
    (tiles_stream source).covers token (mem_stream htoken)
  rw [show token.kind = .punct c by simpa [isPunct] using hpunct] at hspells
  rw [hspan, Span.text?_behind, show slice = [c] from hspells]

end Token

namespace Declaration

/-- Whether a field line can begin at `first`, which stands behind `previous`: behind the
opening brace of the list, behind a line end or a semicolon, or at a string that follows the
tag of the line before. -/
def BeginsLine (previous first : Token) : Prop :=
  ¬ StopsLine first ∧ (previous.isPunct '{' = true ∨ previous.isSeparator = true ∨
    previous.string?.isSome = true ∧ first.string?.isSome = true)

/-- Whether no line is under way behind `previous`. -/
def Fresh (previous : Token) (tokens : List Token) : Prop :=
  ∀ first ∈ tokens.head?, ¬ StopsLine first → BeginsLine previous first

section Lines

variable {tokens rest lead : List Token} {token : Token}

theorem fresh_of_isSeparator {previous : Token} (hseparator : previous.isSeparator = true)
    (tokens : List Token) : Fresh previous tokens :=
  fun _ _ hline => ⟨hline, .inr (.inl hseparator)⟩

theorem exists_fresh_skipLine (depth : Nat) (hlead : lead ≠ []) :
    ∃ front previous, lead ++ tokens = front ++ previous :: skipLine '}' depth tokens ∧
      Fresh previous (skipLine '}' depth tokens) := by
  obtain ⟨front, previous, hsplit⟩ := List.eq_nil_or_concat' lead |>.resolve_left hlead
  fun_induction skipLine '}' depth tokens generalizing lead front previous with
  | case1 => exact ⟨front, previous, by simp [hsplit], by simp [Fresh]⟩
  | case2 depth token rest hends =>
      exact ⟨lead, token, rfl, fresh_of_isSeparator hends.2 rest⟩
  | case3 depth token rest _ hclose =>
      refine ⟨front, previous, by simp [hsplit], ?_⟩
      intro first hfirst hline
      obtain rfl := Option.some.inj hfirst
      exact absurd (.inr hclose.2) hline
  | case4 depth token rest _ _ ih =>
      obtain ⟨front', previous', hskip, hfresh⟩ := @ih (lead ++ [token]) (by simp) lead token rfl
      exact ⟨front', previous', by rw [← hskip]; simp, hfresh⟩

/-- Behind the place of a tag, only another tag leaves a string. -/
theorem exists_behind_tag (hlead : lead ≠ []) :
    ∃ front previous, lead ++ tokens = front ++ previous :: (tag tokens).2 ∧
      ∀ first ∈ (tag tokens).2.head?, first.string?.isSome = true →
        previous.string?.isSome = true := by
  obtain ⟨front, last, hlast⟩ := List.eq_nil_or_concat' lead |>.resolve_left hlead
  unfold tag
  split
  · exact ⟨front, last, by simp [hlast], by simp⟩
  · next token rest =>
    split
    · next value hvalue => exact ⟨lead, token, rfl, fun _ _ _ => by rw [hvalue]; rfl⟩
    · next hnone =>
      refine ⟨front, last, by simp [hlast], ?_⟩
      intro first hfirst hstring
      obtain rfl := Option.some.inj hfirst
      rw [hnone] at hstring
      cases hstring

theorem string?_of_endsField (hends : token.endsField = true) (hline : ¬ StopsLine token)
    (heof : token.kind ≠ .eof) : token.string?.isSome = true := by
  simp only [StopsLine, Token.isSeparator, Token.isPunct, Bool.or_eq_true,
    decide_eq_true_eq, not_or] at hline
  unfold Token.endsField at hends
  unfold Token.string?
  cases hkind : token.kind <;> simp_all

/-- A line ends before a token that ends every line, behind a separator, or behind its tag. -/
theorem exists_fresh_endLine (names : List (String × Span)) (type : String)
    (notes : List Diagnostic) (hlead : lead ≠ []) (heof : ∀ token ∈ tokens, token.kind ≠ .eof) :
    ∃ front previous, lead ++ tokens = front ++ previous :: (endLine names type notes tokens).rest ∧
      Fresh previous (endLine names type notes tokens).rest := by
  obtain ⟨front, previous, hsplit, hstring⟩ := @exists_behind_tag tokens lead hlead
  have htag := (tag_suffix tokens).subset
  unfold endLine
  dsimp only
  split
  · next hrest => exact ⟨front, previous, by rw [hsplit, hrest], by simp [Fresh]⟩
  · next token rest hrest =>
    rw [hrest] at hsplit hstring htag
    split
    · next hends =>
      refine ⟨front, previous, hsplit, ?_⟩
      intro first hfirst hline
      obtain rfl := Option.some.inj hfirst
      have hsome := string?_of_endsField hends hline (heof token (htag List.mem_cons_self))
      exact ⟨hline, .inr (.inr ⟨hstring token rfl hsome, hsome⟩)⟩
    · rw [hsplit, List.append_cons]
      exact exists_fresh_skipLine 0 (by simp)

theorem exists_fresh_fieldLine (previous : Token)
    (heof : ∀ other ∈ token :: rest, other.kind ≠ .eof) :
    ∃ front prior, previous :: token :: rest = front ++ prior :: (fieldLine token rest).rest ∧
      Fresh prior (fieldLine token rest).rest := by
  have hbehind : (head token rest).behind <:+ token :: rest :=
    (head token rest).behind_suffix.trans (head_suffix token rest)
  have hkinds : ∀ other ∈ (head token rest).behind, other.kind ≠ .eof := fun other hother =>
    heof other (hbehind.subset hother)
  obtain ⟨taken, htaken⟩ := hbehind
  rw [← htaken, ← List.cons_append]
  cases hhead : head token rest with
  | plain names type after =>
      rw [hhead] at hkinds
      rw [fieldLine_of_plain hhead]
      exact exists_fresh_endLine names type [] (List.cons_ne_nil _ _) hkinds
  | inline names opening inner =>
      rw [hhead] at hkinds
      rw [fieldLine_of_inline hhead]
      exact exists_fresh_endLine names inlineStruct _ (List.cons_ne_nil _ _) hkinds

/-- Every field is one of a line, which begins where no line is under way. -/
theorem exists_line_of_mem_fieldList (heof : ∀ token ∈ tokens, token.kind ≠ .eof) :
    ∀ previous, Fresh previous tokens → ∀ field ∈ (fieldList tokens).fields,
      ∃ before prior first rest, previous :: tokens = before ++ prior :: first :: rest ∧
        BeginsLine prior first ∧ field ∈ (fieldLine first rest).fields := by
  intro previous hfresh field hfield
  refine mem_fields_induction (motive := fun tokens => ∀ previous, Fresh previous tokens →
    ∃ before prior first rest, previous :: tokens = before ++ prior :: first :: rest ∧
      BeginsLine prior first ∧ field ∈ (fieldLine first rest).fields) ?_ ?_ ?_ heof hfield previous
      hfresh
  · intro token rest hseparator ih previous _
    obtain ⟨before, prior, first, behind, hsplit, hline⟩ :=
      ih token (fresh_of_isSeparator hseparator rest)
    exact ⟨previous :: before, prior, first, behind, by rw [hsplit, List.cons_append], hline⟩
  · intro token rest _ hline hfield previous hfresh
    exact ⟨[], previous, token, rest, rfl, hfresh token rfl hline, hfield⟩
  · intro token rest hkinds _ ih previous _
    obtain ⟨front, last, hlast, hnext⟩ := exists_fresh_fieldLine previous hkinds
    obtain ⟨before, prior, first, behind, hsplit, hbegins⟩ := ih last hnext
    exact ⟨front ++ before, prior, first, behind, by rw [hlast, hsplit, List.append_assoc],
      hbegins⟩

end Lines

/-- Where a field of the line `first :: rest` stands, by what the line begins with. -/
inductive Stands (source : List Char) (first : Token) (rest : List Token) (field : Field) :
    Prop where
  | nameless (nameless : field.name = "") (at_start : field.span = first.span)
  | named (isName : first.name?.isSome = true) (followed : isEmbedded rest = false)
      (covers : field.span.text? source = some field.name.toList)
  | embedded {word : String} {path : List String} (isName : first.name? = some word)
      (alone : isEmbedded rest = true) (type : field.type = ".".intercalate (word :: path))
      (last : (word :: path).getLast? = some field.name) (at_start : field.span = first.span)
      (covers : field.span.text? source = some word.toList)
  | pointer {word : String} {path : List String} (star : first.isPunct '*' = true)
      (type : field.type = "*" ++ ".".intercalate (word :: path))
      (last : (word :: path).getLast? = some field.name) (at_start : field.span = first.span)
      (covers : field.span.text? source = some ['*'])

section Forms

variable {source : List Char} {first : Token} {rest : List Token} {field : Field}

/-- A qualified name goes by the last word of its path. -/
theorem getLast?_path (first : String) (tokens : List Token) :
    (first :: (selectors tokens).1).getLast? = some (qualified first tokens).1.1 := by
  simp [qualified, List.getLast?_cons]

theorem head_nameless (hname : first.name? = none) (hstar : first.isPunct '*' = false) :
    (head first rest).names = [("", first.span)] := by
  unfold head
  split
  · next name hkind =>
    rw [Token.name?_eq_some_iff.2 hkind] at hname
    cases hname
  · rw [if_neg (by simp [hstar])]
    rfl

theorem stands_of_name {word : String} (hsuffix : first :: rest <:+ Token.scan source)
    (hword : first.name? = some word) (hfield : field ∈ (fieldLine first rest).fields) :
    Stands source first rest field := by
  have hfirst := Token.text?_of_name? (hsuffix.subset List.mem_cons_self) hword
  rw [fields_fieldLine, head_ident (Token.name?_eq_some_iff.1 hword)] at hfield
  obtain ⟨name, hname, rfl⟩ := List.mem_map.1 hfield
  cases hembedded : isEmbedded rest with
  | true =>
      rw [namedHead_embedded hembedded] at hname ⊢
      obtain rfl := List.mem_singleton.1 hname
      exact .embedded hword hembedded rfl (getLast?_path word rest) rfl hfirst
  | false =>
      refine .named (by rw [hword]; rfl) hembedded ?_
      rw [namedHead, if_neg (by simp [hembedded]), names_typedHead] at hname
      rcases List.mem_cons.1 hname with rfl | hname
      · exact hfirst
      · obtain ⟨found, htaken, hfound, hspan⟩ := taken_moreNames false rest name hname
        dsimp only
        rw [hspan]
        exact Token.text?_of_name? (hsuffix.subset (List.mem_cons_of_mem first htaken.mem)) hfound

theorem stands_of_star (hsuffix : first :: rest <:+ Token.scan source)
    (hstar : first.isPunct '*' = true) (hfield : field ∈ (fieldLine first rest).fields) :
    Stands source first rest field := by
  have hfirst := Token.text?_of_isPunct (hsuffix.subset List.mem_cons_self) hstar
  rw [fields_fieldLine, head_star hstar] at hfield
  obtain ⟨name, hname, rfl⟩ := List.mem_map.1 hfield
  unfold pointerHead at hname ⊢
  split at hname
  · next token tail =>
    split at hname
    · next word hword =>
      obtain rfl := List.mem_singleton.1 hname
      exact .pointer hstar rfl (getLast?_path word tail) rfl hfirst
    · obtain rfl := List.mem_singleton.1 hname
      exact .nameless rfl rfl
  · obtain rfl := List.mem_singleton.1 hname
    exact .nameless rfl rfl

/-- What a line begins with decides where its fields stand. -/
theorem stands_of_mem_fieldLine (hsuffix : first :: rest <:+ Token.scan source)
    (hfield : field ∈ (fieldLine first rest).fields) : Stands source first rest field := by
  cases hword : first.name? with
  | some word => exact stands_of_name hsuffix hword hfield
  | none =>
      cases hstar : first.isPunct '*' with
      | true => exact stands_of_star hsuffix hstar hfield
      | false =>
          rw [fields_fieldLine, head_nameless hword hstar] at hfield
          obtain ⟨name, hname, rfl⟩ := List.mem_map.1 hfield
          obtain rfl := List.mem_singleton.1 hname
          exact .nameless rfl rfl

theorem Stands.covers_iff (hstands : Stands source first rest field) (hname : field.name ≠ "")
    (hidentifier : isIdentifier field.name.toList = true) :
    field.span.text? source = some field.name.toList ↔ first.isPunct '*' = false ∧
      (isEmbedded rest = true → first.name? = some field.name) := by
  cases hstands with
  | nameless hnameless _ => exact absurd hnameless hname
  | named hword hfollowed hcovers =>
      obtain ⟨word, hword⟩ := Option.isSome_iff_exists.1 hword
      simp [hcovers, hfollowed, Token.isPunct_eq_false_of_name? hword]
  | @embedded word path hword halone _ _ _ hcovers =>
      simp [hcovers, halone, hword, Token.isPunct_eq_false_of_name? hword, String.toList_inj]
  | pointer hstar _ _ _ hcovers =>
      rw [hcovers, hstar]
      refine iff_of_false ?_ (by simp)
      intro hsame
      rw [← Option.some.inj hsame] at hidentifier
      exact absurd hidentifier (by decide)

end Forms

/-- A field and the line it is declared on: where the line begins, where the field stands, and
when its span covers its name. -/
structure IsSpanned (source : List Char) (field : Field) (previous first : Token)
    (rest : List Token) : Prop where
  begins : BeginsLine previous first
  line : field ∈ (fieldLine first rest).fields
  stands : Stands source first rest field
  covers_iff : field.name ≠ "" → (field.span.text? source = some field.name.toList ↔
    first.isPunct '*' = false ∧ (isEmbedded rest = true → first.name? = some field.name))

/-- Every field of every declaration stands at its own name, or at the token that its line
begins with when it is embedded or has no name. -/
theorem isSpanned_of_mem_all {source : List Char} {declaration : Declaration}
    (hmem : declaration ∈ all source) {field : Field} (hfield : field ∈ declaration.fields) :
    ∃ before previous first rest, Token.scan source = before ++ previous :: first :: rest ∧
      IsSpanned source field previous first rest := by
  obtain ⟨inside, ⟨front, header, opening, hscan, _, _, hopening⟩, hlist⟩ :=
    exists_opens_of_mem_fields hmem hfield
  have hinside : opening :: inside <:+ Token.scan source :=
    ⟨front ++ header, by rw [hscan, List.append_assoc]⟩
  have hfresh : Fresh opening inside := fun _ _ hline => ⟨hline, .inl hopening⟩
  obtain ⟨before, previous, first, rest, hsplit, hbegins, hline⟩ :=
    exists_line_of_mem_fieldList (Token.scan_ne_eof ((List.suffix_cons _ _).trans hinside))
      opening hfresh field hlist
  have hsource : Token.scan source = front ++ header ++ before ++ previous :: first :: rest := by
    rw [hscan, hsplit]
    simp
  have hstands := stands_of_mem_fieldLine
    ⟨front ++ header ++ before ++ [previous], by rw [hsource]; simp⟩ hline
  refine ⟨_, previous, first, rest, hsource, hbegins, hline, hstands, fun hname => ?_⟩
  exact hstands.covers_iff hname (isIdentifier_of_mem_fields hmem field hfield hname)

/-- A pointer, a type of a package, and two names for one type. -/
def embeddedAndNamed : List Char :=
  "type A struct\x7b*B;c.D\nE,F int\x7d".toList

theorem first?_embeddedAndNamed : first? embeddedAndNamed =
    some ⟨"A", ⟨⟨5, 0, 5⟩, ⟨6, 0, 6⟩⟩, [⟨"B", "*B", none, ⟨⟨14, 0, 14⟩, ⟨15, 0, 15⟩⟩⟩,
      ⟨"D", "c.D", none, ⟨⟨17, 0, 17⟩, ⟨18, 0, 18⟩⟩⟩,
      ⟨"E", "int", none, ⟨⟨21, 1, 0⟩, ⟨22, 1, 1⟩⟩⟩,
      ⟨"F", "int", none, ⟨⟨23, 1, 2⟩, ⟨24, 1, 3⟩⟩⟩], ⟨⟨0, 0, 0⟩, ⟨29, 1, 8⟩⟩, false, none,
      []⟩ := by
  cbv

theorem isSpanned_of_mem_all_second_name :
    ∃ declaration ∈ all embeddedAndNamed, ∃ field ∈ declaration.fields, field.name = "F" ∧
      ∃ before previous first rest,
        Token.scan embeddedAndNamed = before ++ previous :: first :: rest ∧
          IsSpanned embeddedAndNamed field previous first rest := by
  have hmem := mem_all_of_first? first?_embeddedAndNamed
  have hfield : (⟨"F", "int", none, ⟨⟨23, 1, 2⟩, ⟨24, 1, 3⟩⟩⟩ : Field) ∈
      [⟨"B", "*B", none, ⟨⟨14, 0, 14⟩, ⟨15, 0, 15⟩⟩⟩,
        ⟨"D", "c.D", none, ⟨⟨17, 0, 17⟩, ⟨18, 0, 18⟩⟩⟩,
        ⟨"E", "int", none, ⟨⟨21, 1, 0⟩, ⟨22, 1, 1⟩⟩⟩,
        ⟨"F", "int", none, ⟨⟨23, 1, 2⟩, ⟨24, 1, 3⟩⟩⟩] := by simp
  exact ⟨_, hmem, _, hfield, rfl, isSpanned_of_mem_all hmem hfield⟩

/-- An embedded pointer has a name, but stands at its star. -/
theorem not_covers_name_embedded :
    ¬ ∀ declaration ∈ all embeddedAndNamed, ∀ field ∈ declaration.fields, field.name ≠ "" →
      field.span.text? embeddedAndNamed = some field.name.toList := by
  intro hall
  have hmem := mem_all_of_first? first?_embeddedAndNamed
  have hcovers := hall _ hmem _ List.mem_cons_self (by simp)
  have hstar : Span.text? ⟨⟨14, 0, 14⟩, ⟨15, 0, 15⟩⟩ embeddedAndNamed = some ['*'] := by cbv
  exact absurd (hstar.symm.trans hcovers) (by decide)

end Declaration

end FieldBridge
