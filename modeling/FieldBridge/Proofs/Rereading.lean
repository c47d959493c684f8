import FieldBridge.Proofs.Fieldless
import FieldBridge.Proofs.MatchingBrace

/-!
# Reading a source text again

The source text of a descriptor is the text of its declaration, or the trimmed text it
was read from.  Read again it gives the same descriptor apart from the places of its
findings: what surrounded the declaration, and where it stood, leaves no trace in it.
-/

namespace FieldBridge

namespace Declaration

/-- Any two byte offsets. -/
def anywhere (_ _ : Nat) : Prop :=
  True

theorem AlikeFrom.anywhere {moved : Nat → Nat → Prop} {leftEnd rightEnd left right : List Token}
    {last last' : Option Nat}
    (halike : AlikeFrom moved leftEnd rightEnd last last' left right) :
    AlikeFrom anywhere leftEnd rightEnd last last' left right := by
  induction halike with
  | done last last' => exact .done last last'
  | cons same gap _ ih =>
      exact .cons ⟨same.kind_eq, same.text_eq, trivial, trivial, same.kind_ne⟩ gap ih

/-- The declaration does not fail because its field list is open. -/
def IsClosed (declaration : Declaration) : Prop :=
  ∀ failure, declaration.failure = some failure → failure.kind ≠ .unclosedBody

/-- No field list begins at the start of `tokens`. -/
def NoBody (tokens : List Token) : Prop :=
  ∀ brace rest, skipNewlines tokens = brace :: rest → brace.isPunct '{' = false

theorem body_of_noBody {tokens : List Token} (hnone : NoBody tokens) (name : String)
    (nameSpan start word : Span) (grouped : Bool) (finish : Position) :
    body name nameSpan start word grouped finish tokens =
      (⟨name, nameSpan, [], start.through word, grouped, some (.noBody word), []⟩,
        skipNewlines tokens) := by
  unfold body
  cases hskip : skipNewlines tokens with
  | nil => rfl
  | cons brace rest =>
      dsimp only
      rw [if_neg (by simp [hnone brace rest hskip])]

/-- A declaration that is not open ends at its closing brace, unless it has no field
list. -/
theorem body_extent {name : String} {nameSpan start word : Span} {grouped : Bool}
    {finish : Position} {tokens : List Token}
    (hclosed : (body name nameSpan start word grouped finish tokens).1.IsClosed) :
    (∃ brace inner close rest, skipNewlines tokens = brace :: (inner ++ close :: rest) ∧
      brace.isPunct '{' = true ∧ close.isPunct '}' = true ∧
      body name nameSpan start word grouped finish tokens =
        (⟨name, nameSpan, (fieldList (inner ++ close :: rest)).fields,
          start.through close.span, grouped, none,
          (fieldList (inner ++ close :: rest)).notes⟩, rest)) ∨ NoBody tokens := by
  cases hskip : skipNewlines tokens with
  | nil =>
      right
      intro brace rest heq
      rw [hskip] at heq
      cases heq
  | cons brace inner =>
      by_cases hbrace : brace.isPunct '{' = true
      · left
        cases hclose : (fieldList inner).close with
        | none =>
            unfold body at hclosed
            simp only [hskip, if_pos hbrace, hclose] at hclosed
            exact absurd rfl (hclosed _ rfl)
        | some span =>
            obtain ⟨nested, close, hinner, hisClose, rfl⟩ := exists_close hclose
            refine ⟨brace, nested, close, (fieldList inner).rest, by rw [← hinner], hbrace,
              hisClose, ?_⟩
            rw [← hinner]
            exact body_closed _ _ _ _ _ _ hskip hbrace hclose
      · right
        intro first rest heq
        rw [hskip] at heq
        obtain ⟨rfl, rfl⟩ := List.cons.inj heq
        simpa using hbrace

theorem alike_noBody {leftEnd rightEnd left right : List Token}
    (hends : ∀ token ∈ rightEnd, token.isPunct '{' = false)
    (halike : Alike anywhere leftEnd rightEnd left right) (hnone : NoBody left) :
    NoBody right := by
  induction left generalizing right with
  | nil =>
      cases halike with
      | done =>
          intro brace rest hskip
          exact hends brace ((skipNewlines_suffix rightEnd).subset (hskip ▸ List.mem_cons_self))
  | cons token tokens ih =>
      cases halike with
      | done =>
          intro brace rest hskip
          exact hends brace ((skipNewlines_suffix rightEnd).subset (hskip ▸ List.mem_cons_self))
      | @cons _ _ _ other _ others same _ rest =>
          unfold NoBody skipNewlines at hnone ih ⊢
          by_cases hnewline : token.kind = .newline
          · rw [List.dropWhile_cons_of_pos (by simpa)] at hnone
            rw [List.dropWhile_cons_of_pos (by simpa [same.kind_eq])]
            exact ih rest.weaken hnone
          · rw [List.dropWhile_cons_of_neg (by simpa)] at hnone
            rw [List.dropWhile_cons_of_neg (by simpa [same.kind_eq])]
            rintro brace more heq
            obtain ⟨rfl, rfl⟩ := List.cons.inj heq
            rw [same.isPunct_eq]
            exact hnone token tokens rfl

/-- A declaration that is not open extends to its last token, and is read again from any
tokens that are alike as far as that token. -/
theorem exists_extent {start : Span} {grouped : Bool} {finish : Position} {spec rest : List Token}
    {declaration : Declaration}
    (hspec : typeSpec? start grouped finish spec = some (declaration, rest))
    (hclosed : declaration.IsClosed) :
    ∃ extent last behind, spec = extent ++ last :: behind ∧
      (last.isPunct '}' = true ∨ last.isWord "struct" = true) ∧
      declaration.span = ⟨start.start, last.span.stop⟩ ∧
      ∀ leftEnd rightEnd spec', Alike anywhere leftEnd rightEnd spec spec' →
        leftEnd.length ≤ behind.length → (∀ token ∈ rightEnd, token.isPunct '{' = false) →
        ∀ start' grouped' finish', ∃ other rest',
          typeSpec? start' grouped' finish' spec' = some (other, rest') ∧
            declaration.Same anywhere other := by
  obtain ⟨front, word, after, name, nameSpan, hsplit, hword, _, hfound, hreads⟩ :=
    typeSpec?_struct hspec
  have hdeclaration : declaration = _ := congrArg Prod.fst hfound
  rw [hdeclaration] at hclosed
  rcases body_extent hclosed with
    ⟨brace, inner, close, behind, hskip, hbrace, hclose, hbody⟩ | hnone
  · obtain ⟨gap, hgap⟩ := skipNewlines_suffix after
    obtain ⟨hdeclaration, hrest⟩ := Prod.mk.inj (hfound.trans hbody)
    refine ⟨front ++ word :: (gap ++ brace :: inner), close, behind, ?_, Or.inl hclose, ?_, ?_⟩
    · rw [hsplit, ← hgap, hskip]
      simp
    · rw [hdeclaration]
      rfl
    intro leftEnd rightEnd spec' halike hreach hends start' grouped' finish'
    have hspecClose : spec = (front ++ word :: (gap ++ brace :: inner)) ++ close :: behind := by
      rw [hsplit, ← hgap, hskip]
      simp
    have hanchored := halike
    rw [hspecClose] at hanchored
    obtain ⟨ending, hbefore, hbehind⟩ := hanchored.reanchor (Nat.le_succ_of_le hreach)
    obtain ⟨close', behind', rfl, hsame, _⟩ := hbehind.cons_inv hreach
    rw [← hspecClose] at hbefore
    obtain ⟨other, hother, hagain⟩ := alike_typeSpec?_closing
      (SameHead.of_isPunct hsame hclose (by decide)) grouped grouped'
      (trivial : anywhere start.start.byte start'.start.byte) hbefore hspec
      (by rw [hdeclaration]) (by rw [hrest])
    exact ⟨other, behind', hother, hagain⟩
  · refine ⟨front, word, after, hsplit, Or.inr hword,
      by rw [hdeclaration, body_of_noBody hnone]; rfl, ?_⟩
    intro leftEnd rightEnd spec' halike hreach hends start' grouped' finish'
    obtain ⟨nameSpan', word', rest', hrest, hagain⟩ := hreads _ _ _ _ halike hreach
    have hnone' := alike_noBody hends hrest hnone
    refine ⟨(body name nameSpan' start' word' grouped' finish' rest').1, _,
      hagain start' grouped' finish', ?_⟩
    rw [hdeclaration, body_of_noBody hnone, body_of_noBody hnone']
    exact ⟨rfl, rfl, rfl, rfl, trivial, trivial⟩

/-- What a declaration was read from begins and ends without white space. -/
def IsTrimmed (text : List Char) : Prop :=
  text ≠ [] ∧ (∀ c, text.head? = some c → Unicode.isWhiteSpace c = false) ∧
    ∀ c, text.getLast? = some c → Unicode.isWhiteSpace c = false

theorem head?_of_lexemes {text : List Char} {lexeme : Lexeme}
    (hhead : (lexemes text).head? = some lexeme) (hinert : lexeme.isInert = false) :
    ∃ c, text.head? = some c ∧ Unicode.isWhiteSpace c = false := by
  cases text with
  | nil => simp [lexemes] at hhead
  | cons c rest =>
      rw [lexemes] at hhead
      obtain rfl := Option.some.inj hhead
      refine ⟨c, rfl, ?_⟩
      cases hblank : Unicode.isWhiteSpace c with
      | false => rfl
      | true =>
          rw [(Lexeme.cut_of_isWhiteSpace hblank rest).1] at hinert
          cases hinert

theorem getLast?_of_lexemes {text : List Char} {lexeme : Lexeme} {c : Char}
    (hlast : (lexemes text).getLast? = some lexeme) (hc : lexeme.text.getLast? = some c) :
    text.getLast? = some c := by
  obtain ⟨init, hinit⟩ := List.getLast?_eq_some_iff.1 hlast
  rw [← flatMap_text_lexemes text, hinit, List.flatMap_append]
  simp [hc]

theorem isInert_eq_false_of_kind? {lexeme : Lexeme} {name : String}
    (hkind : lexeme.kind? = some (.ident name)) : lexeme.isInert = false := by
  cases lexeme with
  | blockComment body closed =>
      rw [Lexeme.kind?] at hkind
      split at hkind <;> cases hkind
  | word => rfl
  | _ => cases hkind

theorem getLast?_of_kind? {last : Lexeme} {token : Token} (hkind : last.kind? = some token.kind)
    (hends : token.isPunct '}' = true ∨ token.isWord "struct" = true) :
    ∃ c, last.text.getLast? = some c ∧ Unicode.isWhiteSpace c = false := by
  rcases hends with hpunct | hword
  · have htoken : token.kind = .punct '}' := by simpa [Token.isPunct] using hpunct
    rw [htoken] at hkind
    cases last with
    | symbol c =>
        obtain rfl : c = '}' := by simpa [Lexeme.kind?] using hkind
        exact ⟨'}', rfl, by decide +kernel⟩
    | blockComment body closed =>
        rw [Lexeme.kind?] at hkind
        split at hkind <;> cases hkind
    | _ => cases hkind
  · have htoken : token.kind = .ident "struct" := by simpa [Token.isWord] using hword
    rw [htoken] at hkind
    cases last with
    | word letters =>
        have hletters : letters = "struct".toList := by
          rw [Lexeme.kind?, Option.some.injEq, Token.Kind.ident.injEq] at hkind
          rw [← hkind, String.toList_ofList]
        exact ⟨'t', by rw [hletters]; rfl, by decide +kernel⟩
    | blockComment body closed =>
        rw [Lexeme.kind?] at hkind
        split at hkind <;> cases hkind
    | _ => cases hkind

theorem isTrimmed_of_lexemes {text : List Char} {first last : Lexeme} {token : Token}
    (hhead : (lexemes text).head? = some first) {name : String}
    (hfirst : first.kind? = some (.ident name))
    (hlast : (lexemes text).getLast? = some last) (hkind : last.kind? = some token.kind)
    (hends : token.isPunct '}' = true ∨ token.isWord "struct" = true) : IsTrimmed text := by
  obtain ⟨c, htext, hblank⟩ := head?_of_lexemes hhead (isInert_eq_false_of_kind? hfirst)
  obtain ⟨d, hd, hdBlank⟩ := getLast?_of_kind? hkind hends
  have hend := getLast?_of_lexemes hlast hd
  refine ⟨?_, ?_, ?_⟩
  · rintro rfl
    cases htext
  · intro e he
    rw [htext] at he
    obtain rfl := Option.some.inj he
    exact hblank
  · intro e he
    rw [hend] at he
    obtain rfl := Option.some.inj he
    exact hdBlank

theorem kind_ident_of_name? {token : Token} (hname : token.name?.isSome = true) :
    ∃ name, token.kind = .ident name :=
  (Option.isSome_iff_exists.1 hname).imp fun _ => Token.name?_eq_some_iff.1

/-- Placed anywhere, the lexemes of a text begin with `lead`, and behind it they read as the
declaration again. -/
def ReadsAgainFrom (text : List Char) (lead spec : List Token) (declaration : Declaration) : Prop :=
  ∀ position, ∃ spec', SameHead anywhere spec spec' ∧
    Alike anywhere spec spec' (lead ++ spec) (Token.place position (lexemes text)) ∧
    ∀ start' grouped' finish', ∃ other rest',
      typeSpec? start' grouped' finish' spec' = some (other, rest') ∧
        declaration.Same anywhere other

/-- The text of a declaration that is not open, from the token it begins with on. -/
theorem exists_text_closed {source : List Char} {passed lead spec tail rest : List Token}
    {token : Token} {start : Span} {grouped : Bool} {finish : Position}
    {declaration : Declaration} (hscan : Token.scan source = passed ++ (lead ++ spec))
    (hlead : lead ++ spec = token :: tail) (hname : token.name?.isSome = true)
    (hspan : token.span = start)
    (hspec : typeSpec? start grouped finish spec = some (declaration, rest))
    (hclosed : declaration.IsClosed) :
    ∃ text, declaration.span.text? source = some text ∧ IsTrimmed text ∧
      ReadsAgainFrom text lead spec declaration := by
  obtain ⟨extent, last, behind, rfl, hlast, hextent, hagain⟩ := exists_extent hspec hclosed
  have hamong : Token.scan source = passed ++ (lead ++ extent ++ [last]) ++ behind := by
    rw [hscan]
    simp
  have hfirst : (lead ++ extent ++ [last]).head? = some token := by
    have hhead := congrArg List.head? hlead
    cases hempty : lead ++ extent with
    | nil =>
        obtain ⟨rfl, rfl⟩ := List.append_eq_nil_iff.1 hempty
        simpa using hhead
    | cons first more =>
        rw [← List.append_assoc, hempty] at hhead
        simpa using hhead
  have hend : (lead ++ extent ++ [last]).getLast? = some last := by simp
  obtain ⟨front, text, back, rfl, hstart, hstop, hplace, ⟨first, hfirstHead, hfirstKind⟩,
    ⟨ending, hending, hendingKind⟩⟩ := Token.exists_slice hamong hfirst hend
  obtain ⟨name, hkind⟩ := kind_ident_of_name? hname
  refine ⟨text, ?_, isTrimmed_of_lexemes hfirstHead (hfirstKind.trans (congrArg some hkind))
    hending hendingKind hlast, fun position => ?_⟩
  · apply Span.text?_of_append
    · rw [hextent, ← hspan, hstart]
    · rw [hextent, ← hspan, hstop]
  · have halike := (Token.alike_place (Nat.add_comm token.span.start.byte position.byte)
      .none (lexemes text) behind []).anywhere
    rw [hplace, List.append_nil] at halike
    have hsplit : lead ++ extent ++ [last] ++ behind = lead ++ (extent ++ last :: behind) := by
      simp
    rw [hsplit] at halike
    obtain ⟨spec', hbefore, hspec'⟩ := halike.reanchor (by
      rw [List.length_append, List.length_cons]
      omega)
    exact ⟨spec', sameHead_spec hspec hspec' (by
      rw [List.length_append, List.length_cons]
      omega), hbefore, hagain behind [] spec' hspec' (Nat.le_refl _) (by simp)⟩

theorem body_open {name : String} {nameSpan start word : Span} {grouped : Bool}
    {finish : Position} {tokens : List Token}
    (hopen : ¬ (body name nameSpan start word grouped finish tokens).1.IsClosed) :
    ∃ brace inner, skipNewlines tokens = brace :: inner ∧ brace.isPunct '{' = true ∧
      (fieldList inner).close = none ∧
      (body name nameSpan start word grouped finish tokens).1 =
        ⟨name, nameSpan, (fieldList inner).fields, ⟨start.start, finish⟩, grouped,
          some (.unclosed (Span.point finish) brace.span), (fieldList inner).notes⟩ := by
  cases hskip : skipNewlines tokens with
  | nil =>
      rw [body, hskip] at hopen
      exact absurd (by simp [IsClosed, Diagnostic.noBody]) hopen
  | cons brace inner =>
      rw [body, hskip] at hopen
      dsimp only at hopen
      split at hopen
      · next hbrace =>
          cases hclose : (fieldList inner).close with
          | none =>
              refine ⟨brace, inner, rfl, hbrace, hclose, ?_⟩
              rw [body, hskip]
              dsimp only
              rw [if_pos hbrace, hclose]
              rfl
          | some close =>
              rw [hclose] at hopen
              exact absurd (by simp [IsClosed]) hopen
      · exact absurd (by simp [IsClosed, Diagnostic.noBody]) hopen

/-- An open declaration extends to the end of its source. -/
theorem span_of_open {start : Span} {grouped : Bool} {finish : Position} {spec rest : List Token}
    {declaration : Declaration}
    (hspec : typeSpec? start grouped finish spec = some (declaration, rest))
    (hopen : ¬ declaration.IsClosed) : declaration.span = ⟨start.start, finish⟩ := by
  obtain ⟨_, _, after, _, _, _, _, _, hfound, _⟩ := typeSpec?_struct hspec
  obtain rfl := congrArg Prod.fst hfound
  obtain ⟨brace, inner, _, _, _, hbody⟩ := body_open hopen
  rw [hbody]

theorem exists_text_open {source : List Char} {passed lead spec tail rest : List Token}
    {token : Token} {start : Span} {grouped : Bool} {declaration : Declaration}
    (hscan : Token.scan source = passed ++ (lead ++ spec))
    (hlead : lead ++ spec = token :: tail) (hspan : token.span = start)
    (hspec : typeSpec? start grouped (Position.start.after source) spec = some (declaration, rest))
    (hopen : ¬ declaration.IsClosed) :
    ∃ text, declaration.span.text? source = some text ∧
      ReadsAgainFrom text lead spec declaration := by
  have hspecEof : ∀ token ∈ spec, token.kind ≠ .eof :=
    Token.scan_ne_eof (hscan ▸ (List.suffix_append lead spec).trans (List.suffix_append passed _))
  rw [hlead] at hscan
  obtain ⟨left, lexeme, right, hlexs, hleft, _, hstart, _, _⟩ := Token.place_eq_append_cons hscan
  have hsource : source = left.flatMap Lexeme.text ++ (lexeme :: right).flatMap Lexeme.text := by
    rw [← flatMap_text_lexemes source, hlexs, List.flatMap_append]
  rw [Token.scan, hlexs, Token.place_append, hleft, ← hstart] at hscan
  have hplace := List.append_cancel_left hscan
  rw [hsource] at hlexs
  rw [← (lexemes_of_append hlexs rfl).2, ← hlead] at hplace
  refine ⟨(lexeme :: right).flatMap Lexeme.text, ?_, fun position => ?_⟩
  · have htext : declaration.span.text?
        (left.flatMap Lexeme.text ++ (lexeme :: right).flatMap Lexeme.text ++ []) = some _ :=
      Span.text?_of_append (by rw [span_of_open hspec hopen, ← hspan, hstart])
        (by rw [span_of_open hspec hopen, ← hspan, hstart, ← Position.after_append, ← hsource])
    rwa [List.append_nil, ← hsource] at htext
  · have halike := (Token.alike_place (Nat.add_comm token.span.start.byte position.byte) .none
      (lexemes ((lexeme :: right).flatMap Lexeme.text)) [] []).anywhere
    rw [hplace, List.append_nil, List.append_nil] at halike
    obtain ⟨spec', hbefore, hspec'⟩ := halike.reanchor (Nat.zero_le _)
    have hspecNil : spec ≠ [] := by
      rintro rfl
      cases hspec
    refine ⟨spec', sameHead_spec hspec hspec' (List.length_pos_iff.2 hspecNil), hbefore,
      fun start' grouped' finish' => ?_⟩
    obtain ⟨other, rest', hother, hsame, _⟩ : ∃ other rest',
        typeSpec? start' grouped' finish' spec' = some (other, rest') ∧
          declaration.Same anywhere other ∧ Alike anywhere [] [] rest rest' :=
      alike_typeSpec? .nil grouped grouped' hspecEof trivial (fun _ => trivial) hspec' hspec
        (Nat.zero_le _)
    exact ⟨other, rest', hother, hsame⟩

/-- The text of a declaration, from the token it begins with on. -/
theorem exists_text {source : List Char} {passed lead spec tail rest : List Token}
    {token : Token} {start : Span} {grouped : Bool} {declaration : Declaration}
    (hscan : Token.scan source = passed ++ (lead ++ spec))
    (hlead : lead ++ spec = token :: tail) (hname : token.name?.isSome = true)
    (hspan : token.span = start)
    (hspec : typeSpec? start grouped (Position.start.after source) spec =
      some (declaration, rest)) :
    ∃ text, declaration.span.text? source = some text ∧
      (declaration.IsClosed → IsTrimmed text) ∧ ReadsAgainFrom text lead spec declaration := by
  by_cases hclosed : declaration.IsClosed
  · obtain ⟨text, htext, htrimmed, hagain⟩ :=
      exists_text_closed hscan hlead hname hspan hspec hclosed
    exact ⟨text, htext, fun _ => htrimmed, hagain⟩
  · obtain ⟨text, htext, hagain⟩ := exists_text_open hscan hlead hspan hspec hclosed
    exact ⟨text, htext, fun h => absurd h hclosed, hagain⟩

theorem IsTrimmed.type_append {text : List Char} (htrimmed : IsTrimmed text) :
    IsTrimmed ("type ".toList ++ text) := by
  obtain ⟨hne, _, hlast⟩ := htrimmed
  refine ⟨by simp, ?_, ?_⟩
  · intro c hc
    obtain rfl : 't' = c := Option.some.inj hc
    decide +kernel
  · rwa [List.getLast?_append_of_ne_nil _ hne]

theorem lexemes_type_append (text : List Char) :
    lexemes ("type ".toList ++ text) = .word "type".toList :: .blank ' ' :: lexemes text := by
  have htype : lexemes "type ".toList = [.word "type".toList, .blank ' '] := by cbv
  rw [lexemes_append, htype]
  · rfl
  · rw [htype]
    rintro lexeme hlast
    obtain rfl : Lexeme.blank ' ' = lexeme := Option.some.inj hlast
    rfl

theorem scan_type_append (text : List Char) :
    Token.scan ("type ".toList ++ text) =
      ⟨.ident "type", "type", ⟨.start, Position.start.after "type".toList⟩⟩ ::
        Token.place (Position.start.after "type ".toList) (lexemes text) := by
  rw [Token.scan, lexemes_type_append]
  rfl

section Text

variable {source : List Char} {before spec rest : List Token} {start : Span}
  {declaration : Declaration}

/-- A declaration with its own word `type` is the first one in its text. -/
theorem FoundAt.first?_file (hscan : Token.scan source = before ++ spec)
    (hfound : FoundAt (Position.start.after source) before spec start declaration .file rest) :
    ∃ text other, declaration.span.text? source = some text ∧
      (declaration.IsClosed → IsTrimmed text) ∧ first? text = some other ∧
        declaration.Same anywhere other := by
  obtain ⟨front, word, gap, rfl, hword, hspan, hgap⟩ := hfound.start_file rfl
  rw [List.append_assoc] at hscan
  have hname : word.name?.isSome = true := by
    rw [Token.name?_of_isWord hword]
    rfl
  obtain ⟨text, htext, htrimmed, hagain⟩ :=
    exists_text hscan rfl hname hspan hfound.spec_eq
  obtain ⟨spec', hends, halike, hother⟩ := hagain .start
  rw [List.cons_append] at halike
  obtain ⟨word', others, hothers, hsame, htail⟩ := halike.cons_inv (by
    rw [List.length_append]
    omega)
  have hskip : skipNewlines (gap ++ spec) = spec := by
    obtain ⟨head, tail, hspec, hhead, _⟩ := typeSpec?_suffix hfound.spec_eq
    rw [hspec]
    exact skipNewlines_gap hgap (kind_ne_newline_of_name? hhead) tail
  have hskips := alike_skipNewlines hends htail (Nat.le_of_eq (by rw [hskip]))
  rw [hskip] at hskips
  obtain ⟨_, hspec'⟩ := hskips.eq_of_length_le (Nat.le_refl _)
  obtain ⟨other, rest', hother, hdeclaration⟩ :=
    hother word'.span false (Position.start.after text)
  rw [← hspec'] at hother
  refine ⟨text, other, htext, htrimmed, ?_, hdeclaration⟩
  rw [first?, Token.scan, hothers, next?_file_found (by rwa [hsame.isWord_eq]) hother]
  rfl

/-- A member of a group is the first declaration behind a word `type`. -/
theorem FoundAt.first?_group (hscan : Token.scan source = before ++ spec)
    (hfound : FoundAt (Position.start.after source) before spec start declaration .group rest) :
    ∃ text other, declaration.span.text? source = some text ∧
      (declaration.IsClosed → IsTrimmed text) ∧ first? ("type ".toList ++ text) = some other ∧
        declaration.Same anywhere other := by
  obtain ⟨head, tail, hspec, hhead, _⟩ := typeSpec?_suffix hfound.spec_eq
  have hspan : head.span = start := by simpa [hspec] using hfound.start_group rfl
  have hscan : Token.scan source = before ++ ([] ++ spec) := hscan
  obtain ⟨text, htext, htrimmed, hagain⟩ :=
    exists_text hscan hspec hhead hspan hfound.spec_eq
  obtain ⟨spec', hends, halike, hother⟩ := hagain (Position.start.after "type ".toList)
  obtain ⟨_, hplace⟩ := AlikeFrom.eq_of_length_le halike (Nat.le_refl _)
  have hskip : skipNewlines spec' = spec' := by
    rw [hspec] at hends
    cases hends with
    | @cons _ head' _ tail' hsame _ =>
        have hhead' : head'.name?.isSome = true := by rwa [hsame.name?_eq]
        exact @skipNewlines_gap [] (by simp) head' (kind_ne_newline_of_name? hhead') tail'
  obtain ⟨other, rest', hother, hdeclaration⟩ := hother
    ⟨.start, Position.start.after "type".toList⟩ false
    (Position.start.after ("type ".toList ++ text))
  refine ⟨text, other, htext, htrimmed, ?_, hdeclaration⟩
  rw [first?, scan_type_append, hplace, next?_file_found (by decide) (by rw [hskip, hother])]
  rfl

end Text

/-- A declaration is the first one in its own text, which for a member of a group gets
the word `type`. -/
theorem first?_declarationText {source : List Char} {declaration : Declaration}
    (hmem : declaration ∈ all source) :
    ∃ text other, StructDescriptor.declarationText source declaration = String.ofList text ∧
      (declaration.span.text? source).isSome = true ∧ (declaration.IsClosed → IsTrimmed text) ∧
      first? text = some other ∧ declaration.Same anywhere other := by
  obtain ⟨before, spec, start, scope, rest, hscan, hfound⟩ := exists_foundAt_of_mem_all hmem
  have hgrouped := typeSpec?_grouped hfound.spec_eq
  cases scope with
  | file =>
      obtain ⟨text, other, htext, htrimmed, hfirst, hsame⟩ := hfound.first?_file hscan
      refine ⟨text, other, ?_, by rw [htext]; rfl, htrimmed, hfirst, hsame⟩
      rw [StructDescriptor.declarationText, htext, hgrouped]
      rfl
  | group =>
      obtain ⟨text, other, htext, htrimmed, hfirst, hsame⟩ := hfound.first?_group hscan
      refine ⟨"type ".toList ++ text, other, ?_, by rw [htext]; rfl,
        fun hclosed => (htrimmed hclosed).type_append, hfirst, hsame⟩
      rw [StructDescriptor.declarationText, htext, hgrouped, String.ofList_append]
      rfl

/-- Whether a token is no word and no symbol. -/
def IsInert (token : Token) : Prop :=
  token.name? = none ∧ ∀ c, token.isPunct c = false

theorem isInert_place {lexs : List Lexeme} (hinert : ∀ lexeme ∈ lexs, lexeme.isInert = true)
    (position : Position) : ∀ token ∈ Token.place position lexs, IsInert token := by
  intro token htoken
  obtain ⟨before, after, hsplit⟩ := List.append_of_mem htoken
  obtain ⟨left, lexeme, right, rfl, _, hkind, _⟩ := Token.place_eq_append_cons hsplit
  have hlexeme := hinert lexeme (List.mem_append_right left List.mem_cons_self)
  cases lexeme with
  | blockComment body closed =>
      rw [Lexeme.kind?] at hkind
      split at hkind
      · have hnewline := (Option.some.inj hkind).symm
        exact ⟨by simp [Token.name?, hnewline], by simp [Token.isPunct, hnewline]⟩
      · cases hkind
  | lineFeed =>
      have hnewline := (Option.some.inj hkind).symm
      exact ⟨by simp [Token.name?, hnewline], by simp [Token.isPunct, hnewline]⟩
  | rawString body closed =>
      have hstring := (Option.some.inj hkind).symm
      exact ⟨by simp [Token.name?, hstring], by simp [Token.isPunct, hstring]⟩
  | quotedString body closed =>
      have hstring := (Option.some.inj hkind).symm
      exact ⟨by simp [Token.name?, hstring], by simp [Token.isPunct, hstring]⟩
  | blank => cases hkind
  | lineComment => cases hkind
  | word => cases hlexeme
  | number => cases hlexeme
  | symbol => cases hlexeme

theorem mem_kind_place {position : Position} {lexs : List Lexeme} {kind : Token.Kind} :
    (∃ token ∈ Token.place position lexs, token.kind = kind) ↔
      ∃ lexeme ∈ lexs, lexeme.kind? = some kind := by
  rw [← List.mem_map, Token.map_kind_place, List.mem_filterMap]

theorem isString_of_separators {position : Position} {lexs : List Lexeme}
    (hseparators : ∀ token ∈ Token.place position lexs, token.isSeparator = true) :
    ∀ lexeme ∈ lexs, lexeme.isString = false := by
  have hkind : ∀ kind, (∃ lexeme ∈ lexs, lexeme.kind? = some kind) →
      kind = .newline ∨ kind = .punct ';' := by
    intro kind hlexeme
    obtain ⟨token, htoken, rfl⟩ := mem_kind_place.2 hlexeme
    simpa [Token.isSeparator, Token.isPunct] using hseparators token htoken
  intro lexeme hlexeme
  cases lexeme with
  | rawString body closed => simpa using hkind _ ⟨_, hlexeme, rfl⟩
  | quotedString body closed => simpa using hkind _ ⟨_, hlexeme, rfl⟩
  | _ => rfl

theorem separators_place {lexs : List Lexeme} (hinert : ∀ lexeme ∈ lexs, lexeme.isInert = true)
    (hplain : ∀ lexeme ∈ lexs, lexeme.isString = false) (position : Position) :
    ∀ token ∈ Token.place position lexs, token.isSeparator = true := by
  intro token htoken
  obtain ⟨lexeme, hlexeme, hkind⟩ := mem_kind_place.1 ⟨token, htoken, rfl⟩
  have hnewline : token.kind = .newline := by
    have hinert := hinert lexeme hlexeme
    have hplain := hplain lexeme hlexeme
    cases lexeme with
    | blockComment body closed =>
        rw [Lexeme.kind?] at hkind
        split at hkind
        · exact (Option.some.inj hkind).symm
        · cases hkind
    | lineFeed => exact (Option.some.inj hkind).symm
    | rawString => cases hplain
    | quotedString => cases hplain
    | blank => cases hkind
    | lineComment => cases hkind
    | word => cases hinert
    | number => cases hinert
    | symbol => cases hinert
  simp [Token.isSeparator, hnewline]

theorem noType_of_inert {tokens : List Token} (hinert : ∀ token ∈ tokens, IsInert token) :
    NoType tokens := by
  intro token htoken
  have hname := (hinert token htoken).1
  cases hword : token.isWord "type" with
  | false => rfl
  | true =>
      rw [Token.name?_of_isWord hword] at hname
      cases hname

theorem AlikeFrom.suffix {moved : Nat → Nat → Prop} {leftEnd rightEnd left right : List Token}
    {last last' : Option Nat}
    (halike : AlikeFrom moved leftEnd rightEnd last last' left right) : leftEnd <:+ left := by
  induction halike with
  | done => exact List.suffix_rfl
  | cons _ _ _ ih => exact ih.trans (List.suffix_cons _ _)

/-- A token that is not among the last ones stands before all of them. -/
theorem length_le_of_not_mem {ending front behind : List Token} {token : Token}
    (hsuffix : ending <:+ front ++ token :: behind) (htoken : token ∉ ending) :
    ending.length ≤ behind.length := by
  refine Nat.le_of_not_lt fun hlonger => htoken ?_
  have hbehind : token :: behind <:+ front ++ token :: behind := List.suffix_append _ _
  exact (List.suffix_of_suffix_length_le hbehind hsuffix hlonger).subset List.mem_cons_self

/-- If the tokens of one end are all separators, so are those of the other. -/
def KeepsSeparators (leftEnd rightEnd : List Token) : Prop :=
  (∀ token ∈ leftEnd, token.isSeparator = true) → ∀ token ∈ rightEnd, token.isSeparator = true

theorem KeepsSeparators.alike {leftEnd rightEnd left right : List Token} {last last' : Option Nat}
    (hends : KeepsSeparators leftEnd rightEnd)
    (halike : AlikeFrom anywhere leftEnd rightEnd last last' left right)
    (hleft : ∀ token ∈ left, token.isSeparator = true) :
    ∀ token ∈ right, token.isSeparator = true := by
  induction halike with
  | done => exact hends hleft
  | cons same _ _ ih =>
      rw [List.forall_mem_cons] at hleft ⊢
      exact ⟨by rw [same.isSeparator_eq, hleft.1], ih hleft.2⟩

/-- An open declaration without fields is read from any tokens that end in separators when
its own do. -/
theorem alike_body_fieldless {leftEnd rightEnd left right : List Token} {name : String}
    {nameSpan nameSpan' start start' word word' : Span} {grouped grouped' : Bool}
    {finish finish' : Position} (hinert : ∀ token ∈ leftEnd, IsInert token)
    (hends : KeepsSeparators leftEnd rightEnd)
    (halike : Alike anywhere leftEnd rightEnd left right)
    (heof : ∀ token ∈ left, token.kind ≠ .eof)
    (hopen : ¬ (body name nameSpan start word grouped finish left).1.IsClosed)
    (hfields : (body name nameSpan start word grouped finish left).1.fields = []) :
    (body name nameSpan start word grouped finish left).1.Same anywhere
      (body name nameSpan' start' word' grouped' finish' right).1 := by
  obtain ⟨brace, inner, hskip, hbrace, hclose, hbody⟩ := body_open hopen
  obtain ⟨gap, hgap⟩ := skipNewlines_suffix left
  rw [hskip] at hgap
  have hbraceEnd : brace ∉ leftEnd := by
    intro hmem
    rw [(hinert brace hmem).2] at hbrace
    cases hbrace
  have hsuffix := AlikeFrom.suffix halike
  rw [← hgap] at hsuffix halike
  have hreach := length_le_of_not_mem hsuffix hbraceEnd
  obtain ⟨spec', hbefore, hspec'⟩ := halike.reanchor (Nat.le_succ_of_le hreach)
  obtain ⟨brace', inner', rfl, hsame, hinner⟩ := hspec'.cons_inv hreach
  have hskip' := alike_skipNewlines (SameHead.of_isPunct hsame hbrace (by decide)) hbefore
    (Nat.le_of_eq (by rw [hgap, hskip]))
  rw [hgap, hskip] at hskip'
  obtain ⟨_, hright⟩ := hskip'.eq_of_length_le (Nat.le_refl _)
  have hseparators := separators_of_fieldless (fun token htoken => heof token
    (hgap ▸ List.mem_append_right gap (List.mem_cons_of_mem brace htoken)))
    (by rwa [hbody] at hfields) hclose
  have hlist := fieldList_of_separators hseparators
  have hlist' := fieldList_of_separators (hends.alike hinner hseparators)
  have hbody' : (body name nameSpan' start' word' grouped' finish' right).1 =
      ⟨name, nameSpan', [], ⟨start'.start, finish'⟩, grouped',
        some (.unclosed (Span.point finish') brace'.span), []⟩ := by
    rw [body, hright]
    dsimp only
    rw [if_pos (by rwa [hsame.isPunct_eq]), hlist']
    rfl
  rw [hbody, hbody', hlist]
  exact ⟨rfl, rfl, rfl, rfl, trivial, trivial⟩

/-- What stands behind the last word and the last symbol of a text decides neither whether
a declaration is found nor what is read of it, unless it is open and has fields. -/
theorem alike_next?_of_inert {leftEnd rightEnd left right rest : List Token}
    {finish finish' : Position} {scope scope' : Scope} {declaration : Declaration}
    (hleft : ∀ token ∈ leftEnd, IsInert token) (hright : ∀ token ∈ rightEnd, IsInert token)
    (heof : ∀ token ∈ left, token.kind ≠ .eof)
    (halike : Alike anywhere leftEnd rightEnd left right)
    (hnext : next? finish scope left = some (declaration, scope', rest)) :
    ∃ other rest', next? finish' scope right = some (other, scope', rest') ∧
      (KeepsSeparators leftEnd rightEnd → declaration.IsClosed ∨ declaration.fields = [] →
        declaration.Same anywhere other) := by
  obtain ⟨before, spec, start, hfinds⟩ := next?_at hnext
  obtain rfl := hfinds.tokens_eq
  have hfound := hfinds.found.spec_eq
  obtain ⟨front, word, after, name, nameSpan, hsplit, hword, _, hbody, hreads⟩ :=
    typeSpec?_struct hfound
  have hnotMem : ∀ token : Token, token.isPunct '}' = true ∨ token.isWord "struct" = true →
      token ∉ leftEnd := by
    rintro token (hpunct | hword) htoken
    · rw [(hleft token htoken).2] at hpunct
      cases hpunct
    · have hname := Token.name?_of_isWord hword
      rw [(hleft token htoken).1] at hname
      cases hname
  have hbehind : ∀ {extent behind : List Token} {last : Token},
      (last.isPunct '}' = true ∨ last.isWord "struct" = true) →
      spec = extent ++ last :: behind → leftEnd.length ≤ behind.length := by
    intro extent behind last hlast hspec
    have hsuffix := AlikeFrom.suffix halike
    rw [hspec, ← List.append_assoc] at hsuffix
    exact length_le_of_not_mem hsuffix (hnotMem last hlast)
  have hreach := hbehind (Or.inr hword) hsplit
  obtain ⟨spec', hbefore, hspec⟩ := halike.reanchor (by
    rw [hsplit, List.length_append, List.length_cons]
    omega)
  obtain ⟨nameSpan', word', rest', hafter, hagain⟩ := hreads _ _ _ _ hspec hreach
  have hends := sameHead_spec hfound hspec (by
    rw [hsplit, List.length_append, List.length_cons]
    omega)
  suffices hkept : ∀ start', KeepsSeparators leftEnd rightEnd →
      declaration.IsClosed ∨ declaration.fields = [] → declaration.Same anywhere
        (body name nameSpan' start' word' (scope' = .group) finish' rest').1 by
    obtain ⟨other, rest', hnext', _, hsame⟩ := hfinds.exists_next? hbefore hends
      (p := fun other _ => KeepsSeparators leftEnd rightEnd →
        declaration.IsClosed ∨ declaration.fields = [] → declaration.Same anywhere other)
      fun start' _ => ⟨_, _, hagain start' (scope' = .group) finish', hkept start'⟩
    exact ⟨other, rest', hnext', hsame⟩
  intro start' hkeeps hwhole
  by_cases hclosed : declaration.IsClosed
  · obtain ⟨extent, last, behind, hextent, hlast, _, hsame⟩ := exists_extent hfound hclosed
    obtain ⟨other, rest'', hother', hdeclaration⟩ := hsame leftEnd rightEnd spec' hspec
      (hbehind hlast hextent) (fun token htoken => (hright token htoken).2 '{') start'
      (scope' = .group) finish'
    rw [hagain] at hother'
    rw [Option.some.inj hother']
    exact hdeclaration
  · have hfields := hwhole.resolve_left hclosed
    obtain rfl := congrArg Prod.fst hbody
    refine alike_body_fieldless hleft hkeeps hafter (fun token htoken => heof token ?_) hclosed
      hfields
    rw [hsplit]
    simp [htoken]

/-- The tokens of a text are alike those of the text without the white space around it, behind
those that a search passes over and up to those that it never comes to a declaration in. -/
theorem exists_alike_trim (source : List Char) :
    ∃ before tokens leftEnd rightEnd, Token.scan source = before ++ tokens ∧
      (∀ token ∈ before ++ leftEnd ++ rightEnd, IsInert token) ∧
      KeepsSeparators leftEnd rightEnd ∧
      Alike anywhere leftEnd rightEnd tokens (Token.scan (Text.trim source)) := by
  obtain ⟨before, after, hsource, hbefore, hafter⟩ := Text.exists_trim source
  obtain ⟨lexs, ends, ends', htrim, hlonger, hends, hends', hstrings⟩ :=
    lexemes_append_whiteSpace (Text.trim source) hafter
  have hscanTrim : Token.scan (Text.trim source) = Token.place .start lexs ++
      Token.place (Position.start.after (lexs.flatMap Lexeme.text)) ends := by
    rw [Token.scan, htrim, Token.place_append]
  refine ⟨Token.place .start (lexemes before), Token.place (Position.start.after before) lexs ++
      Token.place ((Position.start.after before).after (lexs.flatMap Lexeme.text)) ends',
    Token.place ((Position.start.after before).after (lexs.flatMap Lexeme.text)) ends',
    Token.place (Position.start.after (lexs.flatMap Lexeme.text)) ends, ?_, ?_, ?_, ?_⟩
  · rw [Token.scan, hsource, List.append_assoc, Lexeme.lexemes_whiteSpace_append hbefore, hlonger,
      Token.place_append, Token.place_append, flatMap_text_lexemes]
  · rw [List.forall_mem_append, List.forall_mem_append]
    exact ⟨⟨isInert_place (Lexeme.lexemes_of_whiteSpace hbefore) _, isInert_place hends' _⟩,
      isInert_place hends _⟩
  · exact fun hseparators =>
      separators_place hends (hstrings (isString_of_separators hseparators)) _
  · rw [hscanTrim]
    exact (Token.alike_place (Nat.add_comm (Position.start.after before).byte
      Position.start.byte) .none lexs _ _).anywhere

/-- White space around a text does not matter for the first declaration in it. -/
theorem first?_trim (source : List Char) :
    (first? source = none → first? (Text.trim source) = none) ∧
      ∀ declaration, first? source = some declaration →
        declaration.IsClosed ∨ declaration.fields = [] →
          ∃ other, first? (Text.trim source) = some other ∧ declaration.Same anywhere other := by
  obtain ⟨before, tokens, leftEnd, rightEnd, hscan, hinert, hkeeps, halike⟩ :=
    exists_alike_trim source
  rw [List.forall_mem_append, List.forall_mem_append] at hinert
  obtain ⟨⟨hbefore, hleft⟩, hright⟩ := hinert
  unfold first?
  rw [hscan, (noType_of_inert hbefore).next?]
  constructor
  · intro hnone
    cases htrimmed : next? (Position.start.after (Text.trim source)) .file
        (Token.scan (Text.trim source)) with
    | none => rfl
    | some found =>
        obtain ⟨declaration, scope, rest⟩ := found
        obtain ⟨other, rest', hother, _⟩ :=
          @alike_next?_of_inert _ _ _ _ _ _ (Position.start.after source) _ _ _ hright hleft
            (Token.scan_ne_eof List.suffix_rfl) halike.symm htrimmed
        rw [hother] at hnone
        cases hnone
  · intro declaration hfirst hwhole
    obtain ⟨⟨found, scope, rest⟩, hnext, rfl⟩ := Option.map_eq_some_iff.1 hfirst
    obtain ⟨other, rest', hother, hsame⟩ :=
      @alike_next?_of_inert _ _ _ _ _ _ (Position.start.after (Text.trim source)) _ _ _ hleft
        hright (Token.scan_ne_eof (hscan ▸ List.suffix_append _ _)) halike hnext
    exact ⟨other, by rw [hother]; rfl, hsame hkeeps hwhole⟩

end Declaration

namespace StructDescriptor

open Declaration

theorem isClosed_of_diagnostics {declaration : Declaration} {id sourceText : String}
    (hopen : ∀ diagnostic ∈ (ofDeclaration id sourceText declaration).diagnostics,
      diagnostic.kind ≠ .unclosedBody) : declaration.IsClosed := by
  intro failure hfailure
  apply hopen
  change failure ∈ declaration.diagnostics
  rw [diagnostics_eq, findings, hfailure]
  exact List.mem_append_left _ List.mem_cons_self

/-- A descriptor is made again when its declaration is the first one in its text. -/
theorem read_of_first? {text : List Char} {declaration other : Declaration}
    (htrim : Text.trim text = text) (hfirst : first? text = some other)
    (hsame : declaration.Same anywhere other) (id : String) :
    (read id (String.ofList text)).unplaced =
      (ofDeclaration id (String.ofList text) declaration).unplaced := by
  unfold read
  rw [String.toList_ofList, htrim, hfirst]
  exact ofDeclaration_unplaced hsame id _

/-- A text reads like its trimmed form, unless its declaration is open and has fields. -/
theorem read_trim (id source : String)
    (hwhole : (∀ diagnostic ∈ (read id source).diagnostics, diagnostic.kind ≠ .unclosedBody) ∨
      (read id source).fields = []) :
    (read id (read id source).sourceText).unplaced = (read id source).unplaced := by
  obtain ⟨hnone, hsome⟩ := first?_trim source.toList
  cases hfirst : first? source.toList with
  | none =>
      have hread : ∀ source : String, first? source.toList = none → read id source =
          ofFindings id "" [] (String.ofList (Text.trim source.toList)) [.noDeclaration] := by
        intro source hfirst
        unfold read
        rw [hfirst]
      rw [hread source hfirst]
      dsimp only [ofFindings]
      rw [hread _ (by rw [String.toList_ofList]; exact hnone hfirst), String.toList_ofList,
        Text.trim_trim]
      rfl
  | some declaration =>
      have hread : read id source =
          ofDeclaration id (String.ofList (Text.trim source.toList)) declaration := by
        unfold read
        rw [hfirst]
      rw [hread] at hwhole ⊢
      obtain ⟨other, hother, hsame⟩ := hsome declaration hfirst
        (hwhole.imp isClosed_of_diagnostics List.map_eq_nil_iff.1)
      exact read_of_first? (Text.trim_trim _) hother hsame id

theorem exists_of_mem_ofDeclarations {source : List Char} {supply : IdSupply}
    {declarations : List Declaration} {descriptor : StructDescriptor}
    (hmem : descriptor ∈ (ofDeclarations source supply declarations).1) :
    ∃ id, ∃ declaration ∈ declarations,
      descriptor = ofDeclaration id (declarationText source declaration) declaration := by
  induction declarations generalizing supply with
  | nil => cases hmem
  | cons declaration declarations ih =>
      rw [ofDeclarations] at hmem
      rcases List.mem_cons.1 hmem with rfl | hmem
      · exact ⟨_, declaration, List.mem_cons_self, rfl⟩
      · obtain ⟨id, other, hother, hdescriptor⟩ := ih hmem
        exact ⟨id, other, List.mem_cons_of_mem declaration hother, hdescriptor⟩

theorem read_declarationText {source : List Char} {declaration : Declaration} {id : String}
    (hmem : declaration ∈ Declaration.all source)
    (hopen : ∀ diagnostic ∈
        (ofDeclaration id (declarationText source declaration) declaration).diagnostics,
      diagnostic.kind ≠ .unclosedBody) :
    (read id (declarationText source declaration)).unplaced =
      (ofDeclaration id (declarationText source declaration) declaration).unplaced := by
  obtain ⟨text, other, htext, _, htrimmed, hfirst, hsame⟩ := first?_declarationText hmem
  obtain ⟨_, hhead, hlast⟩ := htrimmed (isClosed_of_diagnostics hopen)
  rw [htext]
  exact read_of_first? (Text.trim_eq_self hhead hlast) hfirst hsame id

/-- Open or not, the text of a declaration has the same name and fields. -/
theorem fields_read_declarationText {source : List Char} {declaration : Declaration}
    (hmem : declaration ∈ Declaration.all source) (id : String) :
    (read id (declarationText source declaration)).name = declaration.name ∧
      (read id (declarationText source declaration)).fields =
        declaration.fields.map FieldDescriptor.ofField := by
  obtain ⟨text, other, htext, _, _, hfirst, hsame⟩ := first?_declarationText hmem
  have hread : read id (declarationText source declaration) =
      ofDeclaration id (String.ofList (Text.trim text)) other := by
    unfold read
    rw [htext, String.toList_ofList, hfirst]
  rw [hread]
  exact ⟨hsame.name_eq, map_ofField hsame.fields_eq⟩

/-- The source text of every descriptor reads as that descriptor again, apart from where
its findings are, unless its field list or one inside it was never closed. -/
theorem read_sourceText (source id : String) (supply : IdSupply) (descriptor : StructDescriptor)
    (hmade : descriptor = read id source ∨ descriptor = (readOne source supply).1 ∨
      descriptor ∈ (readMany source supply).1)
    (hopen : ∀ diagnostic ∈ descriptor.diagnostics, diagnostic.kind ≠ .unclosedBody) :
    (read descriptor.id descriptor.sourceText).unplaced = descriptor.unplaced := by
  rcases hmade with rfl | rfl | hmem
  · rw [id_read]
    exact read_trim id source (Or.inl hopen)
  · rw [readOne] at hopen ⊢
    rw [id_read]
    exact read_trim _ source (Or.inl hopen)
  · obtain ⟨id, declaration, hdeclaration, rfl⟩ := exists_of_mem_ofDeclarations hmem
    exact read_declarationText hdeclaration hopen

theorem read_sourceText_empty_struct :
    (read (read "x" " type A struct\x7b\x7d \x60").id
        (read "x" " type A struct\x7b\x7d \x60").sourceText).unplaced =
      (read "x" " type A struct\x7b\x7d \x60").unplaced := by
  have hscan : Token.scan " type A struct\x7b\x7d \x60".toList =
      ⟨.ident "type", "type", ⟨⟨1, 0, 1⟩, ⟨5, 0, 5⟩⟩⟩ :: ([] ++
        ⟨.ident "A", "A", ⟨⟨6, 0, 6⟩, ⟨7, 0, 7⟩⟩⟩ ::
        ⟨.ident "struct", "struct", ⟨⟨8, 0, 8⟩, ⟨14, 0, 14⟩⟩⟩ :: ([] ++
        ⟨.punct '{', "\x7b", ⟨⟨14, 0, 14⟩, ⟨15, 0, 15⟩⟩⟩ ::
        ([] ++ ⟨.punct '}', "\x7d", ⟨⟨15, 0, 15⟩, ⟨16, 0, 16⟩⟩⟩ ::
        [⟨.raw "", "`", ⟨⟨17, 0, 17⟩, ⟨18, 0, 18⟩⟩⟩]))) := by
    cbv
  have hfirst : ∃ nameSpan span, first? " type A struct\x7b\x7d \x60".toList =
      some ⟨"A", nameSpan, [], span, false, none, []⟩ := by
    rw [first?, hscan, next?_struct (by decide) (by simp) rfl (by decide) (by decide) (by simp)
      (by decide) (by decide) (by decide) (by decide), List.nil_append, fieldList_close (by decide)]
    exact ⟨_, _, rfl⟩
  refine read_sourceText _ "x" .sequential _ (Or.inl rfl) ?_
  obtain ⟨nameSpan, span, hfirst⟩ := hfirst
  unfold read
  rw [hfirst]
  intro diagnostic hdiagnostic
  have hcapital : Unicode.isUppercase 'A' = true := by decide +kernel
  have hnoFields : diagnostic = .noFields nameSpan := by
    simpa [ofDeclaration, ofFindings, Declaration.diagnostics, check, checkName, checkFields,
      hcapital] using hdiagnostic
  rw [hnoFields]
  simp [Diagnostic.noFields]

end StructDescriptor

end FieldBridge
