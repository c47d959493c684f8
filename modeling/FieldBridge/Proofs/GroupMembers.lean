import FieldBridge.Proofs.Independence
import FieldBridge.Proofs.Layout

/-!
# Members of a group

A group declares what its members declare one by one, each behind a word `type` of its
own.  The search inside the group and the search in the file pass over other things, and
they begin a declaration at different places; what they read of a member is the same.
-/

namespace FieldBridge

namespace Token

/-- The last token of a text ends where a front part of the text does, wherever the text
is placed. -/
theorem place_getLast? {text : List Char} {front : List Token} {close : Token}
    (hscan : scan text = front ++ [close]) :
    ∃ part trail, text = part ++ trail ∧ ∀ position, ∃ last,
      (place position (lexemes text)).getLast? = some last ∧
        last.span.stop = position.after part := by
  obtain ⟨left, lexeme, right, hlexs, _, hkind, _, _, hright⟩ := place_eq_append_cons hscan
  refine ⟨left.flatMap Lexeme.text ++ lexeme.text, right.flatMap Lexeme.text, ?_, ?_⟩
  · have htext := flatMap_text_lexemes text
    rw [hlexs, List.flatMap_append, List.flatMap_cons, ← List.append_assoc] at htext
    exact htext.symm
  · intro position
    have hgap : right.filterMap Lexeme.kind? = [] := by
      rw [← map_kind_place close.span.stop right, hright]
      rfl
    have hnone : ∀ position, place position right = [] := by
      intro position
      rw [← List.map_eq_nil_iff, map_kind_place, hgap]
    rw [hlexs, place_append, place_cons_some hkind, hnone, List.getLast?_concat,
      Position.after_append]
    exact ⟨_, rfl, rfl⟩

end Token

namespace Declaration

open Token

/-- The tokens of a struct, from its name to the brace that closes its field list. -/
def IsStruct (tokens : List Token) : Prop :=
  ∃ (name : Token) (text : String) (word : Token) (gap : List Token) (opening : Token)
      (inner : List Token) (close : Token),
    tokens = name :: word :: (gap ++ opening :: (inner ++ [close])) ∧
    name.name? = some text ∧ text ≠ "struct" ∧ word.isWord "struct" = true ∧
    (∀ token ∈ gap, token.kind = .newline) ∧ opening.isPunct '{' = true ∧
    WellNested inner ∧ close.isPunct '}' = true

/-- The tokens of anything else with a name, which is none of `reserved`.  Line ends and
semicolons stand inside brackets only. -/
def IsOther (reserved : List String) (tokens : List Token) : Prop :=
  ∃ (name : Token) (text : String) (rest : List Token), tokens = name :: rest ∧
    name.name? = some text ∧ text ∉ reserved ∧
    WellNested rest ∧ NoType rest ∧
    (∀ token, rest.head? = some token → token.isWord "struct" = false) ∧
    ∀ i (_ : i < rest.length), rest[i].isSeparator = true → ¬ WellNested (rest.take i)

/-- A member of a group.  It begins with its name, and no comment and no string runs on
behind it. -/
structure IsMember (reserved : List String) (text : List Char) : Prop where
  declares : IsStruct (scan text) ∨ IsOther reserved (scan text)
  begins : ∃ name rest, lexemes text = .word name :: rest
  terminated : ∀ lexeme ∈ lexemes text, lexeme.isTerminated = true

/-- The member on its own, behind a word `type`. -/
def typed (text : List Char) : List Char :=
  ['t', 'y', 'p', 'e', ' '] ++ text

/-- The members, each on a line of its own. -/
def memberLines (members : List (List Char)) : List Char :=
  members.flatMap fun member => member ++ ['\n']

/-- The lexemes of the members, each on a line of its own. -/
def memberLexemes (members : List (List Char)) : List Lexeme :=
  members.flatMap fun member => lexemes member ++ [Lexeme.lineFeed]

/-- The members as one group. -/
def asGroup (members : List (List Char)) : List Char :=
  ['t', 'y', 'p', 'e', ' ', '(', '\n'] ++ memberLines members ++ [')']

@[simp] theorem memberLines_cons (member : List Char) (members : List (List Char)) :
    memberLines (member :: members) = member ++ '\n' :: memberLines members := by
  simp [memberLines]

@[simp] theorem memberLexemes_cons (member : List Char) (members : List (List Char)) :
    memberLexemes (member :: members) =
      lexemes member ++ Lexeme.lineFeed :: memberLexemes members := by
  simp [memberLexemes]

theorem typed_eq (text : List Char) : typed text = "type ".toList ++ text := by
  simp [typed]

theorem IsStruct.congr {tokens others : List Token} (hstruct : IsStruct tokens)
    (hkinds : others.map Token.kind = tokens.map Token.kind) : IsStruct others := by
  obtain ⟨name, text, word, gap, opening, inner, close, rfl, hname, hne, hword, hgap, hopening,
    hinner, hclose⟩ := hstruct
  rw [List.map_cons, List.map_cons, List.map_append, List.map_cons, List.map_append,
    List.map_singleton] at hkinds
  obtain ⟨name', more, rfl, hnameKind, hmore⟩ := List.map_eq_cons_iff.1 hkinds
  obtain ⟨word', more, rfl, hwordKind, hmore⟩ := List.map_eq_cons_iff.1 hmore
  obtain ⟨gap', more, rfl, hgapKinds, hmore⟩ := List.map_eq_append_iff.1 hmore
  obtain ⟨opening', more, rfl, hopeningKind, hmore⟩ := List.map_eq_cons_iff.1 hmore
  obtain ⟨inner', more, rfl, hinnerKinds, hmore⟩ := List.map_eq_append_iff.1 hmore
  obtain ⟨close', rfl, hcloseKind⟩ := List.map_eq_singleton_iff.1 hmore
  refine ⟨name', text, word', gap', opening', inner', close', rfl, ?_, hne, ?_, ?_, ?_, ?_, ?_⟩
  · rwa [Token.name?, hnameKind]
  · rwa [Token.isWord, hwordKind]
  · exact forall_kind_congr (p := (· = .newline)) hgap hgapKinds
  · rwa [Token.isPunct, hopeningKind]
  · exact hinner.congr hinnerKinds
  · rwa [Token.isPunct, hcloseKind]

theorem IsOther.congr {reserved : List String} {tokens others : List Token}
    (hother : IsOther reserved tokens)
    (hkinds : others.map Token.kind = tokens.map Token.kind) : IsOther reserved others := by
  obtain ⟨name, text, rest, rfl, hname, hfree, hrest, hsilent, hnext, hinside⟩ := hother
  rw [List.map_cons] at hkinds
  obtain ⟨name', rest', rfl, hnameKind, hrestKinds⟩ := List.map_eq_cons_iff.1 hkinds
  refine ⟨name', text, rest', rfl, ?_, hfree, hrest.congr hrestKinds, hsilent.congr hrestKinds,
    ?_, ?_⟩
  · rwa [Token.name?, hnameKind]
  · exact head?_kind_congr (p := fun kind => decide (kind = .ident "struct") = false) hnext
      hrestKinds
  · intro i hi hseparator hnested
    have hlength : rest'.length = rest.length := by simpa using congrArg List.length hrestKinds
    have hkind := List.getElem_of_eq hrestKinds (by rwa [List.length_map])
    rw [List.getElem_map, List.getElem_map] at hkind
    apply hinside i (hlength ▸ hi)
    · rwa [Token.isSeparator, Token.isPunct, ← hkind]
    · exact hnested.congr (by rw [List.map_take, List.map_take, hrestKinds])

theorem IsStruct.typeSpec? {tokens after : List Token} (hstruct : IsStruct tokens)
    (heof : ∀ token ∈ tokens ++ after, token.kind ≠ .eof) (start : Span) (grouped : Bool)
    (finish : Position) :
    ∃ declaration close, Declaration.typeSpec? start grouped finish (tokens ++ after) =
        some (declaration, after) ∧ declaration.failure = none ∧
      tokens.getLast? = some close ∧ declaration.span = start.through close.span := by
  obtain ⟨name, text, word, gap, opening, inner, close, rfl, hname, hne, hword, hgap, hopening,
    hinner, hclose⟩ := hstruct
  have hsplit : name :: word :: (gap ++ opening :: (inner ++ [close])) ++ after =
      name :: word :: (gap ++ opening :: (inner ++ close :: after)) := by
    simp
  have hskip := skipNewlines_gap hgap (kind_ne_newline_of_isPunct hopening)
    (inner ++ close :: after)
  rw [hsplit] at heof ⊢
  have hinside : ∀ token ∈ inner ++ close :: after, token.kind ≠ .eof := by
    intro token htoken
    apply heof
    simp only [List.mem_append, List.mem_cons] at htoken ⊢
    tauto
  have hlist := fieldList_closes hclose hinside ⟨inner, rfl, hinner⟩
  rw [typeSpec?_named hname hne hword,
    body_closes text name.span start word.span grouped finish hskip hopening hlist]
  refine ⟨_, close, rfl, rfl, ?_, rfl⟩
  simp [List.getLast?_cons, List.getLast?_append]

/-- Wherever the text is placed, the struct it begins with is read like `base`, and its span
ends behind `part`. -/
def PlacedAs (text part : List Char) (base : Declaration) : Prop :=
  ∀ (position : Position) (start : Span) (grouped : Bool) (finish : Position)
    (after : List Token), (∀ token ∈ after, token.kind ≠ .eof) →
    ∃ declaration, Declaration.typeSpec? start grouped finish
        (place position (lexemes text) ++ after) = some (declaration, after) ∧
      base.Same anywhere declaration ∧ declaration.span = ⟨start.start, position.after part⟩

theorem IsStruct.placedAs {text : List Char} (hstruct : IsStruct (scan text)) :
    ∃ part trail base, text = part ++ trail ∧ PlacedAs text part base := by
  have hparts := hstruct
  obtain ⟨name, _, word, gap, opening, inner, close, hscan, _, _, _, _, _, _, hclose⟩ := hparts
  have hlast : scan text = (name :: word :: (gap ++ opening :: inner)) ++ [close] := by
    simp [hscan]
  obtain ⟨part, trail, htext, hplaces⟩ := place_getLast? hlast
  obtain ⟨base, _, hbase, hfailure, _⟩ := @IsStruct.typeSpec? _ [] hstruct
    (by simpa using scan_ne_eof List.suffix_rfl) (Span.point .start) false .start
  refine ⟨part, trail, base, htext, ?_⟩
  intro position start grouped finish after hafter
  have halike := alike_place (Nat.add_comm _ _ : ShiftedBy Position.start.byte position.byte
    Position.start.byte position.byte) .none (lexemes text) [] after
  have hleft : place .start (lexemes text) ++ [] =
      (name :: word :: (gap ++ opening :: inner)) ++ close :: ([] ++ []) := by
    rw [List.append_nil, List.append_nil]
    exact hlast
  rw [hleft] at halike
  obtain ⟨close', behind, hsame, hbehind, hanchored⟩ := AlikeFrom.anchor halike.anywhere
  obtain rfl := List.map_eq_nil_iff.1 hbehind
  rw [← hleft] at hanchored
  obtain ⟨again, hagain, hdeclaration⟩ := alike_typeSpec?_closing
    (SameHead.of_isPunct hsame hclose (by decide)) false grouped trivial hanchored hbase hfailure rfl
  refine ⟨again, hagain, hdeclaration, ?_⟩
  have hplaced : IsStruct (place position (lexemes text)) :=
    hstruct.congr (map_kind_place_lexemes position text)
  obtain ⟨same, last, hspec, _, hend, hspan⟩ := @IsStruct.typeSpec? _ after hplaced
    (by
      intro token htoken
      rcases List.mem_append.1 htoken with htoken | htoken
      · exact place_ne_eof position (lexemes text) token htoken
      · exact hafter token htoken) start grouped finish
  obtain ⟨last', hend', hstop⟩ := hplaces position
  rw [hend] at hend'
  obtain rfl := Option.some.inj hend'
  rw [hagain] at hspec
  obtain rfl := congrArg Prod.fst (Option.some.inj hspec)
  rw [hspan, Span.through, hstop]

/-- Outside brackets only a separator ends a line, so well-nested tokens are passed over to
the first separator behind them. -/
theorem skipLine_wellNested {stop : Token} (hstop : stop.isSeparator = true)
    {stack : List Char} {rest : List Token} (hrest : closes stack rest = true)
    (hinside : ∀ i (_ : i < rest.length), rest[i].isSeparator = true →
      ¬ closes stack (rest.take i) = true) (after : List Token) :
    skipLine ')' stack.length (rest ++ stop :: after) = after := by
  induction rest generalizing stack with
  | nil =>
      obtain rfl : stack = [] := by simpa using hrest
      simp [skipLine, hstop]
  | cons token rest ih =>
      obtain ⟨above, hlength, habove⟩ := closes_step hrest
      have hline : ¬ (stack.length = 0 ∧ token.isSeparator = true) := by
        intro hends
        apply hinside 0 (by simp) hends.2
        simp [List.length_eq_zero_iff.1 hends.1]
      have hcloser : ¬ (stack.length = 0 ∧ token.isPunct ')' = true) := by
        intro hends
        rw [List.length_eq_zero_iff.1 hends.1] at hrest
        exact WellNested.bracket_ne_closing hrest (Token.bracket_of_isPunct hends.2)
      rw [List.cons_append, skipLine, if_neg hline, if_neg hcloser, ← hlength]
      apply ih
      · rwa [habove] at hrest
      · intro i hi hseparator
        rw [← habove]
        exact hinside (i + 1) (by simpa using hi) hseparator

/-- In a group the search passes over a member that is no struct to the end of its line. -/
theorem IsOther.next?_group {reserved : List String} {tokens : List Token}
    (hother : IsOther reserved tokens) (hreserved : "struct" ∈ reserved) {stop : Token}
    (hstop : stop.kind = .newline) (finish : Position) (after : List Token) :
    next? finish .group (tokens ++ stop :: after) = next? finish .group (stop :: after) := by
  obtain ⟨name, text, rest, rfl, hname, hfree, hrest, _, hnext, hinside⟩ := hother
  have hne : text ≠ "struct" := fun heq => hfree (heq ▸ hreserved)
  have hseparator : stop.isSeparator = true := by simp [Token.isSeparator, hstop]
  have hhead : ∀ token, (rest ++ stop :: after).head? = some token →
      token.isWord "struct" = false := by
    intro token htoken
    cases rest with
    | nil =>
        obtain rfl := Option.some.inj htoken
        simp [Token.isWord, hstop]
    | cons first rest => exact hnext token htoken
  have hskip : skipLine ')' 0 (rest ++ stop :: after) = after :=
    skipLine_wellNested hseparator hrest hinside after
  rw [List.cons_append, next?_group_member hname
    (typeSpec?_eq_none_of_head? hname hne hhead name.span true finish), hskip,
    next?_group_skip (by simp [Token.name?, hstop]) (by simp [Token.isPunct, hstop])]

theorem IsOther.declaresOther {tokens : List Token} (hother : IsOther ["struct", "type"] tokens)
    {type : Token} (htype : type.isWord "type" = true) : DeclaresOther (type :: tokens) := by
  obtain ⟨name, text, rest, rfl, hname, hfree, _, hsilent, hnext, _⟩ := hother
  have hne : text ≠ "struct" ∧ text ≠ "type" := by simpa using hfree
  refine ⟨[], type, [], name, text, rest, rfl, by simp [NoType], htype, by simp, hname, hne.1, ?_,
    hnext⟩
  intro token htoken
  rcases List.mem_cons.1 htoken with rfl | htoken
  · simp [Token.isWord, Token.name?_eq_some_iff.1 hname, hne]
  · exact hsilent token htoken

theorem IsStruct.standalone {tokens : List Token} (hstruct : IsStruct tokens) {type : Token}
    (htype : type.isWord "type" = true) : Standalone (type :: tokens) := by
  obtain ⟨name, text, word, gap, opening, inner, close, rfl, hname, hne, hword, hgap, hopening,
    hinner, hclose⟩ := hstruct
  have hopens : OpensStruct ([] ++ type :: ([] ++ name :: word :: (gap ++ [opening]))) :=
    ⟨[], type, [], name, text, word, gap, opening, rfl, by simp [NoType], htype, by simp, hname,
      hne, hword, hgap, hopening⟩
  have hstandalone := Standalone.struct hopens hinner hclose (by simp [NoType] : NoType [])
  simpa using hstandalone

theorem IsMember.standsAlone {text : List Char} (hmember : IsMember ["struct", "type"] text) :
    StandsAlone (typed text) := by
  obtain ⟨hdeclares, _, hterminated⟩ := hmember
  have hkinds := map_kind_place_lexemes (Position.start.after "type ".toList) text
  constructor
  · rw [typed_eq, scan_type_append]
    rcases hdeclares with hstruct | hother
    · exact (hstruct.congr hkinds).standalone rfl
    · exact .other ((hother.congr hkinds).declaresOther rfl)
  · rw [typed_eq, lexemes_type_append]
    simpa [Lexeme.isTerminated] using hterminated

end Declaration

namespace StructDescriptor

open Declaration Token

theorem contentIn_of_same {base declaration : Declaration} (hsame : base.Same anywhere declaration)
    {source : List Char} {text : String} (htext : declarationText source declaration = text) :
    contentIn source declaration = (ofDeclaration "" text base).content := by
  rw [contentIn, htext, content_ofDeclaration hsame "" ""]

/-- A struct in a group is described by its text with the word `type` in front of it. -/
theorem next?_group_of_placedAs {text part trail : List Char} {base : Declaration}
    (hplaced : PlacedAs text part base) (htext : text = part ++ trail)
    (hbegins : ∃ name rest, lexemes text = .word name :: rest) (before after : List Char)
    (finish : Position) {rest : List Token} (hrest : ∀ token ∈ rest, token.kind ≠ .eof) :
    ∃ declaration, next? finish .group
        (place (Position.start.after before) (lexemes text) ++ rest) =
          some (declaration, .group, rest) ∧
      contentIn (before ++ text ++ after) declaration =
        (ofDeclaration "" ("type " ++ String.ofList part) base).content := by
  obtain ⟨name, lexs, hlexs⟩ := hbegins
  obtain ⟨declaration, hspec, hsame, hspan⟩ := hplaced (Position.start.after before)
    ⟨Position.start.after before, (Position.start.after before).after name⟩ true finish rest hrest
  refine ⟨declaration, ?_, contentIn_of_same hsame ?_⟩
  · rw [hlexs, place_cons_some rfl, List.cons_append] at hspec ⊢
    exact next?_group_found rfl hspec
  · have hsource : before ++ text ++ after = before ++ part ++ (trail ++ after) := by
      simp [htext]
    have hslice := @Span.text?_of_append declaration.span before part (trail ++ after)
      (by rw [hspan]) (by rw [hspan])
    rw [declarationText, typeSpec?_grouped hspec, hsource, hslice]
    rfl

/-- So it is behind a word `type` of its own, where it is all there is. -/
theorem map_all_typed_of_placedAs {text part trail : List Char} {base : Declaration}
    (hplaced : PlacedAs text part base) (htext : text = part ++ trail)
    (hbegins : ∃ name rest, lexemes text = .word name :: rest) :
    (Declaration.all (typed text)).map (contentIn (typed text)) =
      [(ofDeclaration "" ("type " ++ String.ofList part) base).content] := by
  obtain ⟨name, lexs, hlexs⟩ := hbegins
  obtain ⟨declaration, hspec, hsame, hspan⟩ := hplaced (Position.start.after "type ".toList)
    ⟨.start, Position.start.after "type".toList⟩ false (Position.start.after (typed text)) []
    (by simp)
  have hnext : next? (Position.start.after (typed text)) .file (scan (typed text)) =
      some (declaration, .file, []) := by
    rw [List.append_nil] at hspec
    rw [typed_eq, scan_type_append]
    apply next?_file_found rfl
    rw [hlexs, place_cons_some rfl] at hspec ⊢
    exact hspec
  have htyped : typed text = [] ++ ("type ".toList ++ part) ++ trail := by
    rw [typed_eq, htext, List.nil_append, List.append_assoc]
  have hslice := @Span.text?_of_append declaration.span [] ("type ".toList ++ part) trail
    (by rw [hspan]; rfl) (by rw [hspan, Position.after_append])
  have hcontent : declarationText (typed text) declaration = "type " ++ String.ofList part := by
    rw [declarationText, typeSpec?_grouped hspec, htyped, hslice, Option.getD_some,
      String.ofList_append]
    rfl
  rw [Declaration.all, allFrom_of_next?_eq_some hnext, allFrom_nil, List.map_singleton,
    contentIn_of_same hsame hcontent]

theorem all_typed_of_isOther {text : List Char}
    (hother : IsOther ["struct", "type"] (scan text)) : Declaration.all (typed text) = [] := by
  have hkinds := map_kind_place_lexemes (Position.start.after "type ".toList) text
  have hdeclares := @IsOther.declaresOther _ (hother.congr hkinds) ⟨.ident "type", "type",
    ⟨.start, Position.start.after "type".toList⟩⟩ rfl
  have hnext := @DeclaresOther.next? _ [] hdeclares (by simp) (Position.start.after (typed text))
  rw [List.append_nil, ← scan_type_append, ← typed_eq] at hnext
  exact (allFrom_congr hnext).trans (allFrom_nil _ _)

/-- What a member declares in a group and on its own, and where the search goes on. -/
theorem map_allFrom_member {text : List Char} (hmember : IsMember ["struct", "type"] text)
    (before after : List Char) (finish : Position) (lexs : List Lexeme) :
    (allFrom finish .group (place (Position.start.after before)
        (lexemes text ++ .lineFeed :: lexs))).map (contentIn (before ++ text ++ after)) =
      (Declaration.all (typed text)).map (contentIn (typed text)) ++
        (allFrom finish .group (place (Position.start.after (before ++ text ++ ['\n']))
          lexs)).map (contentIn (before ++ text ++ after)) := by
  have hplace : place (Position.start.after before) (lexemes text ++ .lineFeed :: lexs) =
      place (Position.start.after before) (lexemes text) ++
        place (Position.start.after (before ++ text)) (.lineFeed :: lexs) := by
    rw [place_append, flatMap_text_lexemes, Position.after_append]
  have hline : place (Position.start.after (before ++ text)) (.lineFeed :: lexs) =
      ⟨.newline, "\n", ⟨Position.start.after (before ++ text),
        Position.start.after (before ++ text ++ ['\n'])⟩⟩ ::
          place (Position.start.after (before ++ text ++ ['\n'])) lexs := by
    rw [place_cons_some rfl, Position.after_append _ (before ++ text)]
    rfl
  have hskip : next? finish .group
      (place (Position.start.after (before ++ text)) (.lineFeed :: lexs)) =
        next? finish .group (place (Position.start.after (before ++ text ++ ['\n'])) lexs) := by
    rw [hline, next?_group_skip rfl rfl]
  rcases hmember.declares with hstruct | hother
  · obtain ⟨part, trail, base, htext, hplaced⟩ := hstruct.placedAs
    obtain ⟨declaration, hnext, hcontent⟩ := next?_group_of_placedAs hplaced htext hmember.begins
      before after finish (place_ne_eof (Position.start.after (before ++ text)) (.lineFeed :: lexs))
    rw [hplace, allFrom_of_next?_eq_some hnext, allFrom_congr hskip, List.map_cons, hcontent,
      map_all_typed_of_placedAs hplaced htext hmember.begins]
    rfl
  · have hkinds := map_kind_place_lexemes (Position.start.after before) text
    have hnext := (hother.congr hkinds).next?_group (by simp)
      (rfl : (⟨.newline, "\n", ⟨Position.start.after (before ++ text),
        Position.start.after (before ++ text ++ ['\n'])⟩⟩ : Token).kind = .newline) finish
      (place (Position.start.after (before ++ text ++ ['\n'])) lexs)
    rw [← hline, ← hplace, hskip] at hnext
    rw [allFrom_congr hnext, all_typed_of_isOther hother]
    rfl

theorem lexemes_memberLines {members : List (List Char)}
    (hmembers : ∀ member ∈ members, IsMember ["struct", "type"] member) (rest : List Char) :
    lexemes (memberLines members ++ rest) = memberLexemes members ++ lexemes rest := by
  induction members with
  | nil => rfl
  | cons member members ih =>
      have hmember := (hmembers member List.mem_cons_self).terminated
      have hrest := ih fun other hother => hmembers other (List.mem_cons_of_mem member hother)
      rw [memberLines_cons, memberLexemes_cons, List.append_assoc, List.cons_append,
        lexemes_append_lineFeed hmember, hrest, List.append_assoc, List.cons_append]

theorem map_allFrom_members {members : List (List Char)}
    (hmembers : ∀ member ∈ members, IsMember ["struct", "type"] member)
    (before after : List Char) (finish : Position) (lexs : List Lexeme) :
    (allFrom finish .group (place (Position.start.after before)
        (memberLexemes members ++ lexs))).map
        (contentIn (before ++ memberLines members ++ after)) =
      (members.flatMap fun member =>
        (Declaration.all (typed member)).map (contentIn (typed member))) ++
        (allFrom finish .group (place (Position.start.after (before ++ memberLines members))
          lexs)).map (contentIn (before ++ memberLines members ++ after)) := by
  induction members generalizing before with
  | nil => simp [memberLines, memberLexemes]
  | cons member members ih =>
      have hfirst := map_allFrom_member (hmembers member List.mem_cons_self) before
        (['\n'] ++ memberLines members ++ after) finish (memberLexemes members ++ lexs)
      have hrest := ih (fun other hother => hmembers other (List.mem_cons_of_mem member hother))
        (before ++ member ++ ['\n'])
      have hlines : before ++ memberLines (member :: members) =
          before ++ member ++ ['\n'] ++ memberLines members := by
        simp
      have hsource : before ++ member ++ ['\n'] ++ memberLines members ++ after =
          before ++ member ++ (['\n'] ++ memberLines members ++ after) := by
        simp
      have hlexs : memberLexemes (member :: members) ++ lexs =
          lexemes member ++ .lineFeed :: (memberLexemes members ++ lexs) := by
        simp
      rw [hlexs, hlines, hsource, hfirst, ← hsource, hrest, List.flatMap_cons]
      simp only [List.append_assoc]

theorem scan_asGroup {members : List (List Char)}
    (hmembers : ∀ member ∈ members, IsMember ["struct", "type"] member) :
    scan (asGroup members) = place .start [.word "type".toList, .blank ' ', .symbol '(', .lineFeed] ++
      place (Position.start.after ['t', 'y', 'p', 'e', ' ', '(', '\n'])
        (memberLexemes members ++ [.symbol ')']) := by
  have hopening : lexemes ['t', 'y', 'p', 'e', ' ', '('] =
      [.word "type".toList, .blank ' ', .symbol '('] := by
    cbv
  have hclosing : lexemes [')'] = [.symbol ')'] := by cbv
  have hterminated : ∀ lexeme ∈ lexemes ['t', 'y', 'p', 'e', ' ', '('],
      lexeme.isTerminated = true := by
    rw [hopening]
    simp [Lexeme.isTerminated]
  have hsplit : asGroup members =
      ['t', 'y', 'p', 'e', ' ', '('] ++ '\n' :: (memberLines members ++ [')']) := by
    simp [asGroup]
  have hlexs : lexemes (asGroup members) =
      [.word "type".toList, .blank ' ', .symbol '(', .lineFeed] ++
        (memberLexemes members ++ [.symbol ')']) := by
    rw [hsplit, lexemes_append_lineFeed hterminated, lexemes_memberLines hmembers, hopening,
      hclosing]
    rfl
  have htext : ([.word "type".toList, .blank ' ', .symbol '(', .lineFeed] : List Lexeme).flatMap
      Lexeme.text = ['t', 'y', 'p', 'e', ' ', '(', '\n'] := by
    simp [Lexeme.text]
  rw [scan, hlexs, place_append, htext]

theorem content_asGroup {members : List (List Char)}
    (hmembers : ∀ member ∈ members, IsMember ["struct", "type"] member) :
    (Declaration.all (asGroup members)).map (contentIn (asGroup members)) =
      members.flatMap fun member =>
        (Declaration.all (typed member)).map (contentIn (typed member)) := by
  have hbehind : ∀ finish position, allFrom finish .group (place position [.symbol ')']) = [] := by
    intro finish position
    rw [place_cons_some rfl, allFrom_congr (next?_group_close rfl), place, allFrom_nil]
  have hinside := map_allFrom_members hmembers ['t', 'y', 'p', 'e', ' ', '(', '\n'] [')']
    (Position.start.after (asGroup members)) [.symbol ')']
  rw [hbehind, List.map_nil, List.append_nil] at hinside
  rw [← hinside, Declaration.all, scan_asGroup hmembers]
  apply congrArg (List.map (contentIn (asGroup members)))
  apply allFrom_congr
  -- behind the parenthesis the line ends, before the first member
  exact (next?_file_group rfl rfl rfl).trans (next?_group_skip rfl rfl)

/-- The descriptor without its findings. -/
def withoutFindings (descriptor : StructDescriptor) : StructDescriptor :=
  { descriptor with diagnostics := [] }

/-- Texts of which the same structs are read under the same ids, apart from the places of
the findings. -/
def SameStructs (source other : String) : Prop :=
  ∀ supply, (readMany other supply).1.map withoutFindings =
      (readMany source supply).1.map withoutFindings ∧
    (readMany other supply).2 = (readMany source supply).2

theorem sameStructs_of_content {source other : String}
    (hcontent : (Declaration.all other.toList).map (contentIn other.toList) =
      (Declaration.all source.toList).map (contentIn source.toList)) :
    SameStructs source other := by
  apply ofDeclarations_congr
  rw [← List.forall₂_eq_eq_eq, List.forall₂_map_left_iff, List.forall₂_map_right_iff] at hcontent
  refine hcontent.flip.imp fun declaration again hsame id => ?_
  exact congrArg (fun descriptor : StructDescriptor => { descriptor with id }) hsame

/-- A group says what its members say, each behind a word `type` on a line of its own. -/
theorem sameStructs_group (members : List String)
    (hmembers : ∀ member ∈ members, IsMember ["struct", "type"] member.toList) :
    SameStructs ("\n".intercalate (members.map ("type " ++ ·)))
      ("type (\n" ++ String.join (members.map (· ++ "\n")) ++ ")") := by
  have htexts : ∀ member ∈ members.map String.toList, IsMember ["struct", "type"] member := by
    intro text htext
    obtain ⟨member, hmember, rfl⟩ := List.mem_map.1 htext
    exact hmembers member hmember
  have hlines : (String.join (members.map (· ++ "\n"))).toList =
      memberLines (members.map String.toList) := by
    simp [memberLines, List.flatMap_map]
  have hgroup : ("type (\n" ++ String.join (members.map (· ++ "\n")) ++ ")").toList =
      asGroup (members.map String.toList) := by
    simp [asGroup, hlines]
  have htyped : (members.map ("type " ++ ·)).map String.toList =
      (members.map String.toList).map typed := by
    rw [List.map_map, List.map_map]
    apply List.map_congr_left
    intro member _
    simp [typed]
  have hseparate : ("\n".intercalate (members.map ("type " ++ ·))).toList =
      ['\n'].intercalate ((members.map String.toList).map typed) := by
    rw [String.toList_intercalate, htyped]
    rfl
  have halone := map_allFrom_intercalate ((members.map String.toList).map typed)
    (by
      intro text htext
      obtain ⟨member, hmember, rfl⟩ := List.mem_map.1 htext
      exact (htexts member hmember).standsAlone) []
    (Position.start.after (['\n'].intercalate ((members.map String.toList).map typed)))
  apply sameStructs_of_content
  rw [hgroup, hseparate, content_asGroup htexts, Declaration.all]
  rw [List.nil_append, List.flatMap_map] at halone
  exact halone.symm

theorem sameStructs_group_function_over_lines :
    SameStructs ("\n".intercalate (["A struct\x7b B int \x7d", "F func(\nint)"].map ("type " ++ ·)))
      ("type (\n" ++ String.join (["A struct\x7b B int \x7d", "F func(\nint)"].map (· ++ "\n")) ++
        ")") := by
  apply sameStructs_group
  intro member hmember
  simp only [List.mem_cons, List.not_mem_nil, or_false] at hmember
  rcases hmember with rfl | rfl
  · have hlexs : lexemes "A struct\x7b B int \x7d".toList =
        [.word ['A'], .blank ' ', .word "struct".toList, .symbol '{', .blank ' ', .word ['B'],
          .blank ' ', .word "int".toList, .blank ' ', .symbol '}'] := by
      cbv
    constructor
    · left
      rw [scan, hlexs]
      exact ⟨_, "A", _, [], _, [_, _], _, rfl, by decide, by decide, by decide, by decide,
        by decide, by decide, by decide⟩
    · exact ⟨_, _, hlexs⟩
    · rw [hlexs]
      decide
  · have hlexs : lexemes "F func(\nint)".toList =
        [.word ['F'], .blank ' ', .word "func".toList, .symbol '(', .lineFeed,
          .word "int".toList, .symbol ')'] := by
      cbv
    constructor
    · right
      rw [scan, hlexs]
      exact ⟨_, "F", _, rfl, by decide, by decide, by decide, by decide, by decide, by decide⟩
    · exact ⟨_, _, hlexs⟩
    · rw [hlexs]
      decide

/-- A name `type` in front of a member is one word `type` too many on its own: there it
hides behind the other. -/
theorem not_sameStructs_group_of_type :
    ¬ ∀ members : List String, (∀ member ∈ members, IsMember ["struct"] member.toList) →
      SameStructs ("\n".intercalate (members.map ("type " ++ ·)))
        ("type (\n" ++ String.join (members.map (· ++ "\n")) ++ ")") := by
  intro hall
  have hlexs : lexemes "type X struct\x7b A int \x7d".toList =
      [.word "type".toList, .blank ' ', .word ['X'], .blank ' ', .word "struct".toList,
        .symbol '{', .blank ' ', .word ['A'], .blank ' ', .word "int".toList, .blank ' ',
        .symbol '}'] := by
    cbv
  have hmember : IsMember ["struct"] "type X struct\x7b A int \x7d".toList := by
    constructor
    · right
      rw [scan, hlexs]
      exact ⟨_, "type", _, rfl, by decide, by decide, by decide, by decide, by decide, by decide⟩
    · exact ⟨_, _, hlexs⟩
    · rw [hlexs]
      decide
  have hsame := (hall ["type X struct\x7b A int \x7d"] (by simpa using hmember) .sequential).1
  have hgroup : next? (Position.start.after ("type (\n" ++ String.join
      (["type X struct\x7b A int \x7d"].map (· ++ "\n")) ++ ")").toList) .file
      (scan ("type (\n" ++ String.join
        (["type X struct\x7b A int \x7d"].map (· ++ "\n")) ++ ")").toList) = none := by
    cbv
  have halone : (first? ("\n".intercalate (["type X struct\x7b A int \x7d"].map
      ("type " ++ ·))).toList).isSome = true := by
    cbv
  rw [readMany, Declaration.all, allFrom_of_next?_eq_none hgroup, ofDeclarations, List.map_nil,
    eq_comm, List.map_eq_nil_iff] at hsame
  have hnone := content_readMany ("\n".intercalate (["type X struct\x7b A int \x7d"].map
    ("type " ++ ·))) .sequential
  rw [hsame, List.map_nil, eq_comm, List.map_eq_nil_iff] at hnone
  rw [← head?_all, hnone] at halone
  cases halone

end StructDescriptor

end FieldBridge
