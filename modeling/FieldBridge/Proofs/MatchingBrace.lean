import Mathlib
import FieldBridge.Proofs.InlineBody
import FieldBridge.Proofs.Placement
import FieldBridge.Proofs.Searching
import FieldBridge.Proofs.Verdicts

/-!
# The matching brace

A declaration ends at the brace that matches the one its field list began with,
whatever well-nested tokens stand between them.  So the field list of an inline struct
may be exchanged for any other well-nested one: nothing but warnings changes.
-/

namespace FieldBridge

namespace Declaration

theorem append_cons_unique {α : Type} {p : α → Bool} {front front' rest rest' : List α}
    {x x' : α} (heq : front ++ x :: rest = front' ++ x' :: rest') (hx : p x = true)
    (hx' : p x' = true) (hfront : ∀ y ∈ front, p y = false) (hfront' : ∀ y ∈ front', p y = false) :
    front = front' ∧ x = x' ∧ rest = rest' := by
  rcases append_cons_cases heq with hsame | ⟨hmem, _⟩ | ⟨hmem, _⟩
  · exact hsame
  · rw [hfront' x hmem] at hx
    cases hx
  · rw [hfront x' hmem] at hx'
    cases hx'

/-- The tokens of a declaration up to its field list: a beginning without the word
`struct`, that word, and line ends. -/
def IsHeader (header : List Token) : Prop :=
  ∃ front word gap, header = front ++ word :: gap ∧ word.isWord "struct" = true ∧
    (∀ token ∈ front, token.isWord "struct" = false) ∧ ∀ token ∈ gap, token.kind = .newline

/-- The field list of a declaration begins with `inside`: its header begins where the
declaration does, and an opening brace follows. -/
def Opens (declaration : Declaration) (tokens inside : List Token) : Prop :=
  ∃ before header opening, tokens = before ++ (header ++ opening :: inside) ∧
    header.head?.map (·.span.start) = some declaration.span.start ∧
    IsHeader header ∧ opening.isPunct '{' = true

theorem Opens.suffix {declaration : Declaration} {tokens inside : List Token}
    (hopens : declaration.Opens tokens inside) : inside <:+ tokens := by
  obtain ⟨before, header, opening, rfl, _⟩ := hopens
  exact ⟨before ++ (header ++ [opening]), by simp⟩

theorem body_start (name : String) (nameSpan start word : Span) (grouped : Bool)
    (finish : Position) (tokens : List Token) :
    (body name nameSpan start word grouped finish tokens).1.span.start = start.start := by
  unfold body
  split
  · rfl
  · split
    · dsimp only
      split <;> rfl
    · rfl

/-- On tokens that are alike up to an end at or behind `rest`, a declaration with the same
name is read from what is alike to `rest`. -/
def ReadsAgain (name : String) (spec rest : List Token) : Prop :=
  ∀ (moved : Nat → Nat → Prop) (leftEnd rightEnd spec' : List Token),
    Alike moved leftEnd rightEnd spec spec' → leftEnd.length ≤ rest.length →
    ∃ (nameSpan' word' : Span) (rest' : List Token), Alike moved leftEnd rightEnd rest rest' ∧
      ∀ start' grouped' finish', typeSpec? start' grouped' finish' spec' =
        some (body name nameSpan' start' word' grouped' finish' rest')

/-- A struct declaration is read from behind its word `struct`. -/
theorem typeSpec?_struct {start : Span} {grouped : Bool} {finish : Position}
    {spec : List Token} {found : Declaration × List Token}
    (hspec : typeSpec? start grouped finish spec = some found) :
    ∃ front word rest name nameSpan, spec = front ++ word :: rest ∧
      word.isWord "struct" = true ∧ (∀ token ∈ front, token.isWord "struct" = false) ∧
      found = body name nameSpan start word.span grouped finish rest ∧
      ReadsAgain name spec rest := by
  rcases typeSpec?_eq_some hspec with
    ⟨word, rest, rfl, hword, rfl⟩ | ⟨token, name, word, rest, rfl, hname, hne, hword, rfl⟩
  · refine ⟨[], word, rest, "", _, rfl, hword, by simp, rfl, ?_⟩
    intro moved leftEnd rightEnd spec' halike hreach
    obtain ⟨word', rest', rfl, hsame, hrest⟩ := halike.cons_inv hreach
    refine ⟨word'.span.collapsed, word'.span, rest', hrest, fun start' grouped' finish' => ?_⟩
    rw [typeSpec?_unnamed (by rwa [hsame.isWord_eq])]
  · have hfront : token.isWord "struct" = false := by
      simp [Token.isWord, Token.name?_eq_some_iff.1 hname, hne]
    refine ⟨[token], word, rest, name, _, rfl, hword, by simpa using hfront, rfl, ?_⟩
    intro moved leftEnd rightEnd spec' halike hreach
    obtain ⟨token', others, rfl, htoken, htail⟩ := halike.cons_inv (Nat.le_succ_of_le hreach)
    obtain ⟨word', rest', rfl, hsame, hrest⟩ := htail.cons_inv hreach
    refine ⟨token'.span, word'.span, rest', hrest, fun start' grouped' finish' => ?_⟩
    rw [typeSpec?_named (by rwa [htoken.name?_eq]) hne (by rwa [hsame.isWord_eq])]

theorem skipNewlines_gap {gap : List Token} (hgap : ∀ token ∈ gap, token.kind = .newline)
    {token : Token} (htoken : token.kind ≠ .newline) (rest : List Token) :
    skipNewlines (gap ++ token :: rest) = token :: rest := by
  unfold skipNewlines
  rw [List.dropWhile_append_of_pos (by simpa using hgap),
    List.dropWhile_cons_of_neg (by simpa using htoken)]

theorem kind_ne_newline_of_isPunct {token : Token} {c : Char} (hpunct : token.isPunct c = true) :
    token.kind ≠ .newline := by
  have hkind : token.kind = .punct c := by simpa [Token.isPunct] using hpunct
  simp [hkind]

theorem body_closes (name : String) (nameSpan start word : Span) (grouped : Bool)
    (finish : Position) {rest inside after : List Token} {opening close : Token}
    (hrest : skipNewlines rest = opening :: inside) (hopening : opening.isPunct '{' = true)
    (hlist : (fieldList inside).ClosesAt close after) :
    body name nameSpan start word grouped finish rest =
      (⟨name, nameSpan, (fieldList inside).fields, start.through close.span, grouped, none,
        (fieldList inside).notes⟩, after) := by
  rw [body_closed _ _ _ _ _ _ hrest hopening hlist.close_eq, hlist.rest_eq]

/-- A struct declaration at the start of a search is found if its field list is closed. -/
theorem next?_closed {finish : Position} {type name word opening : Token}
    {gap gap' inner : List Token} {text : String} {close : Span}
    (htype : type.isWord "type" = true) (hgap : ∀ token ∈ gap, token.kind = .newline)
    (hname : name.name? = some text) (hne : text ≠ "struct") (hword : word.isWord "struct" = true)
    (hgap' : ∀ token ∈ gap', token.kind = .newline) (hopening : opening.isPunct '{' = true)
    (hclose : (fieldList inner).close = some close) :
    next? finish .file (type :: (gap ++ name :: word :: (gap' ++ opening :: inner))) =
      some (⟨text, name.span, (fieldList inner).fields, type.span.through close, false, none,
        (fieldList inner).notes⟩, .file, (fieldList inner).rest) := by
  have hskip := skipNewlines_gap hgap
    (kind_ne_newline_of_name? (by rw [hname]; rfl : name.name?.isSome = true))
    (word :: (gap' ++ opening :: inner))
  have hbody := skipNewlines_gap hgap' (kind_ne_newline_of_isPunct hopening) inner
  apply next?_file_found htype
  rw [hskip, typeSpec?_named hname hne hword, body_closed _ _ _ _ _ _ hbody hopening hclose]

/-- A struct declaration at the start of a search is found, whatever its body is. -/
theorem next?_struct {finish : Position} {type name word opening close : Token}
    {gap gap' inner after : List Token} {text : String} (htype : type.isWord "type" = true)
    (hgap : ∀ token ∈ gap, token.kind = .newline) (hname : name.name? = some text)
    (hne : text ≠ "struct") (hword : word.isWord "struct" = true)
    (hgap' : ∀ token ∈ gap', token.kind = .newline) (hopening : opening.isPunct '{' = true)
    (hclose : close.isPunct '}' = true) (hinner : WellNested inner)
    (heof : ∀ token ∈ inner ++ close :: after, token.kind ≠ .eof) :
    next? finish .file
        (type :: (gap ++ name :: word :: (gap' ++ opening :: (inner ++ close :: after)))) =
      some (⟨text, name.span, (fieldList (inner ++ close :: after)).fields,
        type.span.through close.span, false, none,
        (fieldList (inner ++ close :: after)).notes⟩, .file, after) := by
  have hlist := fieldList_closes hclose heof ⟨inner, rfl, hinner⟩
  rw [next?_closed htype hgap hname hne hword hgap' hopening hlist.close_eq, hlist.rest_eq]

section Source

variable {source : List Char} {declaration : Declaration} {inside : List Token}

/-- The search that finds a declaration stands in front of its field list. -/
theorem rest_of_opens {finish : Position} {scope scope' : Scope} {passed tokens rest : List Token}
    (hpassed : Token.scan source = passed ++ tokens)
    (hnext : next? finish scope tokens = some (declaration, scope', rest))
    (hopens : declaration.Opens (Token.scan source) inside) :
    ∃ before spec start front word gap opening name nameSpan, tokens = before ++ spec ∧
      FoundAt finish before spec start declaration scope' rest ∧
      FindsAgain scope scope' tokens spec start ∧
      spec = front ++ word :: (gap ++ opening :: inside) ∧
      (∀ token ∈ gap, token.kind = .newline) ∧ opening.isPunct '{' = true ∧
      (declaration, rest) = body name nameSpan start word.span (scope' = .group) finish
        (gap ++ opening :: inside) ∧
      ReadsAgain name spec (gap ++ opening :: inside) := by
  obtain ⟨before, spec, start, rfl, _, hfound, hfinds⟩ := next?_at hnext
  obtain ⟨front, lead, token, tail, rfl, hlead, hspan, _, hstruct⟩ := hfound.exists_lead
  obtain ⟨sfront, word, after, name, nameSpan, rfl, hword, hsfront, hbody, halike⟩ :=
    typeSpec?_struct hfound.spec_eq
  obtain ⟨outside, header, opening, hscan, hstart, ⟨hfront, struct, gap, rfl, hisStruct, hno,
    hgap⟩, hopening⟩ := hopens
  have hdeclaration : declaration.span.start = start.start := by
    rw [show declaration = _ from congrArg Prod.fst hbody, body_start]
  have hsame : hfront ++ struct :: gap ++ opening :: inside = token :: tail := by
    have hfirst : Token.scan source = (passed ++ front) ++ token :: tail := by
      rw [hpassed, ← hlead]
      simp
    cases hheader : hfront ++ struct :: gap with
    | nil => simp at hheader
    | cons first header =>
        rw [hheader] at hscan hstart
        have hbyte : first.span.start.byte = token.span.start.byte := by
          have hfirstStart : first.span.start = declaration.span.start := by simpa using hstart
          rw [hfirstStart, hdeclaration, hspan]
        obtain ⟨_, rfl, rfl⟩ := Token.eq_of_start_eq hscan hfirst hbyte
        rfl
  have hsplit : (lead ++ sfront) ++ word :: after =
      hfront ++ struct :: (gap ++ opening :: inside) := by
    rw [List.append_assoc, hlead, ← hsame]
    simp
  obtain ⟨_, rfl, rfl⟩ := append_cons_unique hsplit hword hisStruct
    (by
      intro other hother
      rcases List.mem_append.1 hother with hother | hother
      · exact hstruct other hother
      · exact hsfront other hother) hno
  exact ⟨front ++ lead, _, start, sfront, word, gap, opening, name, nameSpan, rfl, hfound, hfinds,
    rfl, hgap, hopening, hbody, halike⟩

/-- On tokens that are alike up to an end within its field list, a search finds the
declaration again and reads it from an alike field list on. -/
theorem body_of_opens {moved : Nat → Nat → Prop} {leftEnd rightEnd : List Token}
    {finish : Position} (finish' : Position) {scope scope' : Scope}
    {passed tokens right rest : List Token} (hends : SameHead moved leftEnd rightEnd)
    (hpassed : Token.scan source = passed ++ tokens)
    (hopens : declaration.Opens (Token.scan source) inside)
    (hreach : leftEnd.length ≤ inside.length + 1)
    (halike : Alike moved leftEnd rightEnd tokens right)
    (hnext : next? finish scope tokens = some (declaration, scope', rest)) :
    ∃ name nameSpan nameSpan' start start' word word' opening behind behind',
      (declaration, rest) = body name nameSpan start word (scope' = .group) finish behind ∧
      next? finish' scope right =
        some ((body name nameSpan' start' word' (scope' = .group) finish' behind').1, scope',
          (body name nameSpan' start' word' (scope' = .group) finish' behind').2) ∧
      skipNewlines behind = opening :: inside ∧ opening.isPunct '{' = true ∧
      Alike moved leftEnd rightEnd (opening :: inside) (skipNewlines behind') := by
  obtain ⟨before, spec, start, front, word, gap, opening, name, nameSpan, rfl, hfound, hfinds, rfl,
    hgap, hopening, hbody, hreads⟩ := rest_of_opens hpassed hnext hopens
  obtain ⟨spec', hbefore, hspec⟩ := halike.reanchor (by
    simp only [List.length_append, List.length_cons]
    omega)
  obtain ⟨nameSpan', word', behind', hbehind, hagain⟩ := hreads _ _ _ _ hspec (by
    simp only [List.length_append, List.length_cons]
    omega)
  have hhead := sameHead_spec hfound.spec_eq hspec (by
    simp only [List.length_append, List.length_cons]
    omega)
  obtain ⟨start', hstart, hnext'⟩ := hfinds moved finish' right spec' hbefore hhead
    fun start' _ => by rw [hagain]; rfl
  rw [hagain] at hnext'
  have hskip := skipNewlines_gap hgap (kind_ne_newline_of_isPunct hopening) inside
  have hskips := alike_skipNewlines hends hbehind (by rwa [hskip])
  rw [hskip] at hskips
  exact ⟨name, nameSpan, nameSpan', start, start', word.span, word', opening, _, behind', hbody,
    hnext', hskip, hopening, hskips⟩

/-- A search that still comes to a declaration has its field list before it. -/
theorem length_lt_of_opens {finish : Position} {scope : Scope} {passed tokens : List Token}
    (hpassed : Token.scan source = passed ++ tokens)
    (hopens : declaration.Opens (Token.scan source) inside)
    (hmem : declaration ∈ allFrom finish scope tokens) : inside.length < tokens.length := by
  obtain ⟨more, tail, _, _, _, rfl, hfound⟩ := exists_next?_of_mem_allFrom hmem
  rw [← List.append_assoc] at hpassed
  obtain ⟨before, spec, start, sfront, struct, gap, opening, _, _, rfl, _, _, rfl, _⟩ :=
    rest_of_opens hpassed hfound hopens
  simp only [List.length_append, List.length_cons]
  omega

/-- From any search that still comes to a declaration, related declarations are found in
tokens that are alike up to an end within its field list: before it the same ones, and from it
on those that are related by assumption. -/
theorem forall₂_allFrom_of_opens {related : Declaration → Declaration → Prop}
    {leftEnd rightEnd : List Token} {finish finish' : Position}
    (hends : SameHead Eq leftEnd rightEnd) (hne : leftEnd ≠ [])
    (hopens : declaration.Opens (Token.scan source) inside)
    (hreach : leftEnd.length ≤ inside.length + 1)
    (hsame : ∀ first other, first.Same Eq other → other.grouped = first.grouped →
      related first other)
    (hagain : ∀ {passed tokens right rest : List Token} {scope scope' : Scope},
      Token.scan source = passed ++ tokens → Alike Eq leftEnd rightEnd tokens right →
      next? finish scope tokens = some (declaration, scope', rest) →
      ∃ other rest', next? finish' scope right = some (other, scope', rest') ∧
        related declaration other ∧
        List.Forall₂ related (allFrom finish scope' rest) (allFrom finish' scope' rest'))
    (bound : Nat) {passed tokens right : List Token} {scope : Scope}
    (hbound : tokens.length ≤ bound) (hpassed : Token.scan source = passed ++ tokens)
    (halike : Alike Eq leftEnd rightEnd tokens right)
    (hmem : declaration ∈ allFrom finish scope tokens) :
    List.Forall₂ related (allFrom finish scope tokens) (allFrom finish' scope right) := by
  induction bound generalizing passed tokens right scope with
  | zero =>
      obtain rfl := List.length_eq_zero_iff.1 (Nat.le_zero.1 hbound)
      simp [allFrom_nil] at hmem
  | succ bound ih =>
      cases hnext : next? finish scope tokens with
      | none =>
          rw [allFrom_of_next?_eq_none hnext] at hmem
          cases hmem
      | some found =>
          obtain ⟨first, scope', rest⟩ := found
          have hshorter := length_next?_lt hnext
          rw [allFrom_of_next?_eq_some hnext] at hmem ⊢
          -- at the declaration itself the assumption takes over, before it the ends are ahead
          rcases List.mem_cons.1 hmem with rfl | hmem
          · obtain ⟨other, rest', hother, hrelated, hmore⟩ := hagain hpassed halike hnext
            rw [allFrom_of_next?_eq_some hother]
            exact .cons hrelated hmore
          · obtain ⟨gone, hgone⟩ := next?_suffix hnext
            have hscan : Token.scan source = (passed ++ gone) ++ rest := by
              rw [hpassed, ← hgone, List.append_assoc]
            have hreachRest : leftEnd.length ≤ rest.length :=
              Nat.le_trans hreach (length_lt_of_opens hscan hopens hmem)
            have heof : ∀ token ∈ tokens, token.kind ≠ .eof :=
              Token.scan_ne_eof ⟨passed, hpassed.symm⟩
            obtain ⟨other, rest', hother, hfirst, hgrouped, hrest⟩ :
                ∃ other rest', next? finish' scope right = some (other, scope', rest') ∧
                  first.Same Eq other ∧ other.grouped = first.grouped ∧
                  Alike Eq leftEnd rightEnd rest rest' :=
              alike_next? hends heof (fun hnil => absurd hnil hne) halike hnext hreachRest
            rw [allFrom_of_next?_eq_some hother]
            exact .cons (hsame first other hfirst hgrouped) (ih (by omega) hscan hrest hmem)

/-- A declaration ends at the brace before which its field list is well-nested. -/
theorem closes_of_opens {inner after : List Token} {close : Token}
    (hmem : declaration ∈ all source)
    (hopens : declaration.Opens (Token.scan source) (inner ++ close :: after))
    (hclose : close.isPunct '}' = true) (hinner : WellNested inner) :
    declaration.failure = none ∧ declaration.span.stop = close.span.stop ∧
      ∀ note ∈ declaration.notes, IsLeftover note := by
  obtain ⟨passed, tokens, scope, scope', rest, hpassed, hnext⟩ := exists_next?_of_mem_allFrom hmem
  obtain ⟨before, spec, start, front, word, gap, opening, name, nameSpan, rfl, _, _, rfl, hgap,
    hopening, hbody, _⟩ := rest_of_opens hpassed hnext hopens
  have hsuffix : inner ++ close :: after <:+ Token.scan source :=
    ⟨passed ++ before ++ front ++ word :: gap ++ [opening], by rw [hpassed]; simp⟩
  have hskip := skipNewlines_gap hgap (kind_ne_newline_of_isPunct hopening)
    (inner ++ close :: after)
  have hlist := fieldList_closes hclose (Token.scan_ne_eof hsuffix) ⟨inner, rfl, hinner⟩
  rw [body_closes name nameSpan start word.span _ _ hskip hopening hlist] at hbody
  obtain rfl := congrArg Prod.fst hbody
  exact ⟨rfl, rfl, hlist.leftover⟩

end Source

section Exchange

variable {moved : Nat → Nat → Prop} {source : List Char} {declaration : Declaration}
  {front names inner inner' after after' : List Token} {word brace : Token}

/-- Tokens that go on to the end of an inline struct, and from there to the end of the
struct around it. -/
def ClosesTwice (inner after : List Token) : Prop :=
  ∃ nested close back outer, inner = nested ++ close :: (back ++ outer :: after) ∧
    WellNested nested ∧ close.isPunct '}' = true ∧ WellNested back ∧ outer.isPunct '}' = true

theorem ClosesTwice.nestedBefore (hcloses : ClosesTwice inner after) {tokens : List Token}
    (htokens : WellNested tokens) (hword : word.isWord "struct" = true)
    (hbrace : brace.isPunct '{' = true) :
    ∃ outer, outer.isPunct '}' = true ∧
      NestedBefore outer after (tokens ++ word :: brace :: inner) := by
  obtain ⟨nested, close, back, outer, rfl, hnested, hclose, hback, houter⟩ := hcloses
  have hinline := hnested.enclose hback (Token.bracket_of_isPunct hbrace : brace.bracket = _)
    (Token.bracket_of_isPunct hclose : close.bracket = .closing '}')
  have hplain := Token.bracket_eq_plain_of_name (Token.name?_of_isWord hword)
  refine ⟨outer, houter, tokens ++ word :: brace :: (nested ++ close :: back), by simp, ?_⟩
  exact htokens.append ((wellNested_cons_plain hplain).2 hinline)

theorem wellNested_of_fieldNames (hnames : FieldNames names) : WellNested names := by
  obtain ⟨first, more, rfl, hfirst, hmore⟩ := hnames
  have hname : ∀ token : Token, token.name?.isSome = true → token.bracket = .plain := by
    intro token htoken
    obtain ⟨name, hname⟩ := Option.isSome_iff_exists.1 htoken
    exact Token.bracket_eq_plain_of_name hname
  rw [wellNested_cons_plain (hname first hfirst)]
  induction hmore with
  | nil => rfl
  | @cons comma name gap names hcomma hgap hsome _ ih =>
      have hgaps : WellNested gap := wellNested_of_plain fun token htoken =>
        Token.bracket_eq_plain_of_isSeparator (by simp [Token.isSeparator, hgap token htoken])
      have hplain : comma.bracket = .plain := by
        rw [Token.bracket_of_isPunct hcomma]
        rfl
      rw [List.cons_append, wellNested_cons_plain hplain]
      exact hgaps.append ((wellNested_cons_plain (hname name hsome)).2 ih)

/-- An inline struct in the field list of a declaration, and a field list to exchange
with its own. -/
structure Exchange (moved : Nat → Nat → Prop) (source : List Char) (declaration : Declaration)
    (front names : List Token) (word brace : Token)
    (inner inner' after after' : List Token) : Prop where
  opens : declaration.Opens (Token.scan source) (front ++ (names ++ word :: brace :: inner))
  replaces : Replaces Eq moved word word brace brace inner inner'
  front_nested : WellNested front
  front_ends : EndsLine front
  names_eq : FieldNames names
  closes : ClosesTwice inner after
  closes' : ClosesTwice inner' after'
  after_alike : Alike moved [] [] after after'
  ne_eof' : ∀ token ∈ inner', token.kind ≠ .eof

theorem filter_isError_of_leftover {notes : List Diagnostic}
    (hnotes : ∀ note ∈ notes, IsLeftover note) : notes.filter Diagnostic.isError = [] := by
  rw [List.filter_eq_nil_iff]
  intro note hnote
  obtain ⟨owner, span, rfl⟩ := hnotes note hnote
  simp [Diagnostic.isError, Diagnostic.leftover]

/-- The field list around the inline struct closes before and after the exchange. -/
theorem Exchange.closesAt (hexchange : Exchange moved source declaration front names word brace
      inner inner' after after') {inside : List Token}
    (heof : ∀ token ∈ front ++ (names ++ word :: brace :: inner), token.kind ≠ .eof)
    (halike : Alike Eq (word :: brace :: inner) (word :: brace :: inner')
      (front ++ (names ++ word :: brace :: inner)) inside) :
    ∃ outer outer',
      (fieldList (front ++ (names ++ word :: brace :: inner))).ClosesAt outer after ∧
      (fieldList inside).ClosesAt outer' after' := by
  have hisWord := hexchange.replaces.isWord
  have hisPunct := hexchange.replaces.isPunct
  have hnested := hexchange.front_nested.append (wellNested_of_fieldNames hexchange.names_eq)
  have hends' : ∀ token ∈ word :: brace :: inner', token.kind ≠ .eof := by
    intro token htoken
    rcases List.mem_cons.1 htoken with rfl | htoken
    · exact hexchange.replaces.word_same.kind_ne
    · rcases List.mem_cons.1 htoken with rfl | htoken
      · exact hexchange.replaces.brace_same.kind_ne
      · exact hexchange.ne_eof' token htoken
  have heof' := halike.symm.ne_eof hends'
  rw [← List.append_assoc] at heof halike ⊢
  obtain ⟨tokens', rfl, hkinds⟩ := halike.map_kind
  obtain ⟨outer, houter, hbefore⟩ := hexchange.closes.nestedBefore hnested hisWord hisPunct
  obtain ⟨outer', houter', hbefore'⟩ :=
    hexchange.closes'.nestedBefore (hnested.congr hkinds) hisWord hisPunct
  exact ⟨outer, outer', fieldList_closes houter heof hbefore,
    fieldList_closes houter' heof' hbefore'⟩

/-- The search that finds the declaration around the inline struct. -/
theorem Exchange.next? (hexchange : Exchange moved source declaration front names word brace
      inner inner' after after')
    {passed tokens right rest : List Token} {finish : Position} (finish' : Position)
    {scope scope' : Scope} (hpassed : Token.scan source = passed ++ tokens)
    (halike : Alike Eq (word :: brace :: inner) (word :: brace :: inner') tokens right)
    (hnext : next? finish scope tokens = some (declaration, scope', rest)) :
    ∃ other, Declaration.next? finish' scope right = some (other, scope', after') ∧
      declaration.SameErrors other ∧ rest = after := by
  have hends := hexchange.replaces.sameHead
  obtain ⟨name, nameSpan, nameSpan', start, start', struct, struct', opening, behind, behind', hbody,
    hnext', hskip, hopening, hskips⟩ := body_of_opens finish' hends hpassed hexchange.opens (by
      simp only [List.length_append, List.length_cons]
      omega) halike hnext
  -- the field list begins behind an alike brace, and closes on both sides
  have heof : ∀ token ∈ front ++ (names ++ word :: brace :: inner), token.kind ≠ .eof :=
    Token.scan_ne_eof hexchange.opens.suffix
  obtain ⟨opening', inside', hskip', hsame⟩ := hskips.head_inv hends
  rw [hskip'] at hskips
  have hinside := hskips.tail (by simp only [List.length_append, List.length_cons]; omega)
  have hfields := keepsFields_inline hexchange.replaces hexchange.names_eq front.length
    (Nat.le_refl _) hexchange.front_nested hexchange.front_ends heof _ hinside
  obtain ⟨outer, outer', hlist, hlist'⟩ := hexchange.closesAt heof hinside
  rw [body_closes name nameSpan start struct _ _ hskip hopening hlist] at hbody
  rw [body_closes name nameSpan' start' struct' _ _ hskip' (by rwa [hsame.isPunct_eq]) hlist']
    at hnext'
  obtain rfl := congrArg Prod.fst hbody
  refine ⟨_, hnext', ⟨rfl, hfields, rfl, ?_⟩, congrArg Prod.snd hbody⟩
  dsimp only
  rw [filter_isError_of_leftover hlist.leftover, filter_isError_of_leftover hlist'.leftover]

/-- From any search that still comes to the declaration around the inline struct, the
same declarations are found before and after the exchange. -/
theorem Exchange.allFrom (hexchange : Exchange moved source declaration front names word brace
      inner inner' after after')
    {passed tokens right : List Token} {finish finish' : Position} {scope : Scope}
    (hfinish : moved finish.byte finish'.byte) (hpassed : Token.scan source = passed ++ tokens)
    (halike : Alike Eq (word :: brace :: inner) (word :: brace :: inner') tokens right)
    (hmem : declaration ∈ Declaration.allFrom finish scope tokens) :
    List.Forall₂ SameErrors (Declaration.allFrom finish scope tokens)
      (Declaration.allFrom finish' scope right) := by
  refine forall₂_allFrom_of_opens hexchange.replaces.sameHead (by simp) hexchange.opens (by
    simp only [List.length_append, List.length_cons]
    omega) (fun _ _ hsame _ => hsame.sameErrors) ?_ tokens.length (Nat.le_refl _) hpassed halike
    hmem
  intro passed tokens right rest scope scope' hpassed halike hnext
  obtain ⟨other, hother, hsame, rfl⟩ := hexchange.next? finish' hpassed halike hnext
  refine ⟨other, after', hother, hsame, ?_⟩
  have hrest := alike_allFrom rest.length (Nat.le_refl _) scope' hfinish hexchange.after_alike
  exact hrest.imp fun _ _ hboth => hboth.1.sameErrors

end Exchange

/-- The texts are cut into lexemes apart from each other. -/
def CutApart (left middle right : List Char) : Prop :=
  lexemes (left ++ middle ++ right) = lexemes left ++ lexemes middle ++ lexemes right

/-- A text that ends with the opening brace of an inline struct: behind names that begin
a line of the field list of a declaration. -/
def OpensInline (declaration : Declaration) (left : List Char) : Prop :=
  ∃ front names word brace,
    declaration.Opens (Token.scan left) (front ++ (names ++ [word, brace])) ∧
      WellNested front ∧ EndsLine front ∧ FieldNames names ∧ word.isWord "struct" = true ∧
      brace.isPunct '{' = true

/-- A text that begins with the closing brace of an inline struct and goes on to that of
the struct around it. -/
def ClosesInline (right : List Char) : Prop :=
  ∃ close back outer after, Token.scan right = close :: (back ++ outer :: after) ∧
    close.isPunct '}' = true ∧ WellNested back ∧ outer.isPunct '}' = true

theorem scan_of_cutApart {left middle right : List Char} (hcut : CutApart left middle right) :
    Token.scan (left ++ middle ++ right) =
      Token.scan left ++ (Token.place (Position.start.after left) (lexemes middle) ++
        Token.place (Position.start.after (left ++ middle)) (lexemes right)) := by
  rw [Token.scan, hcut, List.append_assoc, Token.place_append, Token.place_append,
    flatMap_text_lexemes, flatMap_text_lexemes, Position.after_append]
  rfl

theorem AlikeFrom.refl {last : Option Nat} {tokens leftEnd rightEnd : List Token}
    (heof : ∀ token ∈ tokens, token.kind ≠ .eof) :
    AlikeFrom Eq leftEnd rightEnd last last (tokens ++ leftEnd) (tokens ++ rightEnd) := by
  induction tokens generalizing last with
  | nil => exact .done last last
  | cons token tokens ih =>
      refine .cons ⟨rfl, fun _ => rfl, rfl, rfl, heof token List.mem_cons_self⟩ (fun _ => rfl) ?_
      exact ih fun other hother => heof other (List.mem_cons_of_mem token hother)

/-- The end of an inline struct and of the struct around it comes from the same lexemes
wherever it is placed. -/
theorem ClosesInline.place {right : List Char} (hright : ClosesInline right) :
    ∃ ending rest : List Lexeme, ∀ position, ∃ close back outer,
      Token.place position (lexemes right) = close :: (back ++ outer ::
        Token.place (position.after (ending.flatMap Lexeme.text)) rest) ∧
      close.isPunct '}' = true ∧ WellNested back ∧ outer.isPunct '}' = true := by
  obtain ⟨close, back, outer, after, hscan, hclose, hback, houter⟩ := hright
  have hsplit : Token.place .start (lexemes right) = (close :: back) ++ outer :: after := hscan
  obtain ⟨front, last, rest, hlexs, hfront, hlast, hstart, hstop, _⟩ :=
    Token.place_eq_append_cons hsplit
  refine ⟨front ++ [last], rest, fun position => ?_⟩
  have hending : front ++ last :: rest = (front ++ [last]) ++ rest := by simp
  have hkinds : (Token.place position (front ++ [last])).map Token.kind =
      (close :: (back ++ [outer])).map Token.kind := by
    rw [Token.map_kind_place, List.filterMap_append, List.filterMap_cons_some hlast,
      ← Token.map_kind_place .start front, hfront]
    simp
  rw [hlexs, hending, Token.place_append]
  obtain ⟨close', tail, hplace, hcloseKind, htail⟩ := List.map_eq_cons_iff.1 hkinds
  rw [List.map_append] at htail
  obtain ⟨back', more, rfl, hbackKinds, hmore⟩ := List.map_eq_append_iff.1 htail
  obtain ⟨outer', more, rfl, houterKind, hnil⟩ := List.map_eq_cons_iff.1 hmore
  obtain rfl := List.map_eq_nil_iff.1 hnil
  refine ⟨close', back', outer', ?_, by rwa [Token.isPunct, hcloseKind],
    hback.congr hbackKinds, by rwa [Token.isPunct, houterKind]⟩
  rw [hplace]
  simp

section Texts

variable {declaration : Declaration} {left middle middle' right : List Char}

/-- A field list that the middle text is all of leaves what is behind its closing brace. -/
theorem CutApart.fieldList_rest (hcut : CutApart left middle right)
    (hmiddle : WellNested (Token.scan middle)) {close : Token} {rest : List Token}
    (hafter : Token.place (Position.start.after (left ++ middle)) (lexemes right) = close :: rest)
    (hclose : close.isPunct '}' = true) :
    (fieldList (Token.place (Position.start.after left) (lexemes middle) ++ close :: rest)).rest =
      rest := by
  have hsource := scan_of_cutApart hcut
  rw [hafter] at hsource
  exact (fieldList_closes hclose (Token.scan_ne_eof ⟨_, hsource.symm⟩)
    ⟨_, rfl, hmiddle.congr (Token.map_kind_place_lexemes _ middle)⟩).rest_eq

theorem exists_exchange (hcut : CutApart left middle right) (hcut' : CutApart left middle' right)
    (hleft : declaration.OpensInline left) (hright : ClosesInline right)
    (hmiddle : WellNested (Token.scan middle)) (hmiddle' : WellNested (Token.scan middle')) :
    ∃ front names word brace inner inner' after after',
      Exchange (Token.ShiftedBy (Position.start.after (left ++ middle)).byte
          (Position.start.after (left ++ middle')).byte) (left ++ middle ++ right) declaration
        front names word brace inner inner' after after' ∧
      Alike Eq (word :: brace :: inner) (word :: brace :: inner')
        (Token.scan (left ++ middle ++ right)) (Token.scan (left ++ middle' ++ right)) := by
  obtain ⟨front, names, word, brace, ⟨before, header, opening, hscan, hstart, hheader, hopening⟩,
    hfront, hends, hnames, hword, hbrace⟩ := hleft
  have heof := @Token.scan_ne_eof left _ List.suffix_rfl
  rw [hscan] at heof
  obtain ⟨ending, rest, hplace⟩ := hright.place
  obtain ⟨close, back, outer, hafter, hclose, hback, houter⟩ :=
    hplace (Position.start.after (left ++ middle))
  obtain ⟨close', back', outer', hafter', hclose', hback', houter'⟩ :=
    hplace (Position.start.after (left ++ middle'))
  have hsource := scan_of_cutApart hcut
  have hsource' := scan_of_cutApart hcut'
  have hnested := hmiddle.congr (Token.map_kind_place_lexemes (Position.start.after left) middle)
  have hnested' := hmiddle'.congr (Token.map_kind_place_lexemes (Position.start.after left) middle')
  have halike : ∀ {position position' : Position} (lexs : List Lexeme),
      Token.ShiftedBy (Position.start.after (left ++ middle)).byte
        (Position.start.after (left ++ middle')).byte position.byte position'.byte →
      Alike (Token.ShiftedBy (Position.start.after (left ++ middle)).byte
        (Position.start.after (left ++ middle')).byte) [] []
        (Token.place position lexs) (Token.place position' lexs) := fun lexs hshift => by
    simpa using Token.alike_place hshift .none lexs [] []
  have hright := halike (lexemes right) (Nat.add_comm _ _)
  rw [hafter, hafter'] at hright
  have hrest := hcut.fieldList_rest hmiddle hafter hclose
  have hrest' := hcut'.fieldList_rest hmiddle' hafter' hclose'
  rw [hscan, hafter] at hsource
  rw [hscan, hafter'] at hsource'
  refine ⟨front, names, word, brace, _, _, _, _,
    ⟨⟨before, header, opening, ?_, hstart, hheader, hopening⟩,
      ⟨⟨rfl, fun _ => rfl, rfl, rfl, ?_⟩, ⟨rfl, fun _ => rfl, rfl, rfl, ?_⟩, hword, hbrace, ?_⟩,
      hfront, hends, hnames,
      ⟨_, close, back, outer, rfl, hnested, hclose, hback, houter⟩,
      ⟨_, close', back', outer', rfl, hnested', hclose', hback', houter'⟩,
      halike rest (Token.shiftedBy_after (Nat.add_comm _ _) _),
      Token.scan_ne_eof ⟨_, hsource'.symm⟩⟩, ?_⟩
  · rw [hsource]
    simp
  · exact heof word (by simp)
  · exact heof brace (by simp)
  · rw [hrest, hrest']
    exact hright.tail (Nat.zero_le _)
  · have hsplit : before ++ (header ++ opening :: (front ++ (names ++ [word, brace]))) =
        (before ++ (header ++ opening :: (front ++ names))) ++ [word, brace] := by
      simp
    rw [hsource, hsource', hsplit, List.append_assoc _ [word, brace],
      List.append_assoc _ [word, brace]]
    rw [hsplit] at heof
    exact AlikeFrom.refl fun token htoken => heof token (List.mem_append_left _ htoken)

theorem all_of_exchange (hcut : CutApart left middle right) (hcut' : CutApart left middle' right)
    (hmem : declaration ∈ all (left ++ middle ++ right))
    (hleft : declaration.OpensInline left) (hright : ClosesInline right)
    (hmiddle : WellNested (Token.scan middle)) (hmiddle' : WellNested (Token.scan middle')) :
    List.Forall₂ SameErrors (all (left ++ middle ++ right)) (all (left ++ middle' ++ right)) := by
  obtain ⟨front, names, word, brace, inner, inner', after, after', hexchange, halike⟩ :=
    exists_exchange hcut hcut' hleft hright hmiddle hmiddle'
  refine hexchange.allFrom ?_ (List.nil_append _).symm halike hmem
  rw [Position.after_append .start (left ++ middle), Position.after_append .start (left ++ middle')]
  exact Token.shiftedBy_after (Nat.add_comm _ _) right

end Texts

/-- A declaration ends at the brace that matches the one of its field list: if the tokens
between them are well-nested, it has no structural failure, its span ends there, and
nothing is found while reading but text left on lines.  The field list of an inline struct
in it may be exchanged for any well-nested one, and all structs of the text keep their
names, fields, errors and validity. -/
theorem closes_at_matching_brace :
    (∀ (source : List Char) (declaration : Declaration) (inner after : List Token)
        (close : Token), declaration ∈ all source →
      declaration.Opens (Token.scan source) (inner ++ close :: after) →
      close.isPunct '}' = true → WellNested inner →
      declaration.failure = none ∧ declaration.span.stop = close.span.stop ∧
        ∀ note ∈ declaration.notes, IsLeftover note) ∧
    ∀ (declaration : Declaration) (left middle middle' right : List Char),
      CutApart left middle right → CutApart left middle' right →
      declaration ∈ all (left ++ middle ++ right) → declaration.OpensInline left →
      ClosesInline right → WellNested (Token.scan middle) → WellNested (Token.scan middle') →
      ∀ id supply,
        (StructDescriptor.read id (String.ofList (left ++ middle' ++ right))).verdict =
          (StructDescriptor.read id (String.ofList (left ++ middle ++ right))).verdict ∧
        (StructDescriptor.readMany (String.ofList (left ++ middle' ++ right)) supply).1.map
            StructDescriptor.verdict =
          (StructDescriptor.readMany (String.ofList (left ++ middle ++ right)) supply).1.map
            StructDescriptor.verdict := by
  constructor
  · intro source declaration inner after close hmem hopens hclose hinner
    exact closes_of_opens hmem hopens hclose hinner
  · intro declaration left middle middle' right hcut hcut' hmem hleft hright hmiddle hmiddle'
      id supply
    have hall := all_of_exchange hcut hcut' hmem hleft hright hmiddle hmiddle'
    rw [← @String.toList_ofList (left ++ middle ++ right),
      ← @String.toList_ofList (left ++ middle' ++ right)] at hall
    exact ⟨StructDescriptor.verdict_read hall id, StructDescriptor.verdict_readMany hall supply⟩

theorem closes_at_matching_brace_nested :
    ∃ declaration ∈ all "type A struct\x7bB struct\x7b\x7d\x7d".toList,
      declaration.failure = none ∧ declaration.span.stop = ⟨25, 0, 25⟩ ∧
      (StructDescriptor.read "" (String.ofList ("type A struct\x7bB struct\x7b".toList ++
          "C int".toList ++ "\x7d\x7d".toList))).verdict =
        (StructDescriptor.read "" (String.ofList ("type A struct\x7bB struct\x7b".toList ++
          [] ++ "\x7d\x7d".toList))).verdict := by
  have hscan : Token.scan "type A struct\x7bB struct\x7b\x7d\x7d".toList =
      ⟨.ident "type", "type", ⟨⟨0, 0, 0⟩, ⟨4, 0, 4⟩⟩⟩ :: ([] ++
        ⟨.ident "A", "A", ⟨⟨5, 0, 5⟩, ⟨6, 0, 6⟩⟩⟩ ::
        ⟨.ident "struct", "struct", ⟨⟨7, 0, 7⟩, ⟨13, 0, 13⟩⟩⟩ :: ([] ++
        ⟨.punct '{', "\x7b", ⟨⟨13, 0, 13⟩, ⟨14, 0, 14⟩⟩⟩ ::
        ([⟨.ident "B", "B", ⟨⟨14, 0, 14⟩, ⟨15, 0, 15⟩⟩⟩,
          ⟨.ident "struct", "struct", ⟨⟨16, 0, 16⟩, ⟨22, 0, 22⟩⟩⟩,
          ⟨.punct '{', "\x7b", ⟨⟨22, 0, 22⟩, ⟨23, 0, 23⟩⟩⟩,
          ⟨.punct '}', "\x7d", ⟨⟨23, 0, 23⟩, ⟨24, 0, 24⟩⟩⟩] ++
        ⟨.punct '}', "\x7d", ⟨⟨24, 0, 24⟩, ⟨25, 0, 25⟩⟩⟩ :: []))) := by
    cbv
  have hnext : ∃ declaration,
      next? (Position.start.after "type A struct\x7bB struct\x7b\x7d\x7d".toList) .file
          (Token.scan "type A struct\x7bB struct\x7b\x7d\x7d".toList) =
        some (declaration, .file, []) ∧ declaration.span.start = ⟨0, 0, 0⟩ := by
    rw [hscan]
    exact ⟨_, next?_struct (by decide) (by simp) rfl (by decide) (by decide) (by simp)
      (by decide) (by decide) (by decide) (by decide), rfl⟩
  obtain ⟨declaration, hnext, hstart⟩ := hnext
  have hmem : declaration ∈ all "type A struct\x7bB struct\x7b\x7d\x7d".toList := by
    rw [all, allFrom_of_next?_eq_some hnext]
    exact List.mem_cons_self
  have hopens : ∀ tokens inside, tokens = [⟨.ident "type", "type", ⟨⟨0, 0, 0⟩, ⟨4, 0, 4⟩⟩⟩,
      ⟨.ident "A", "A", ⟨⟨5, 0, 5⟩, ⟨6, 0, 6⟩⟩⟩,
      ⟨.ident "struct", "struct", ⟨⟨7, 0, 7⟩, ⟨13, 0, 13⟩⟩⟩] ++
        ⟨.punct '{', "\x7b", ⟨⟨13, 0, 13⟩, ⟨14, 0, 14⟩⟩⟩ :: inside →
      declaration.Opens tokens inside := by
    rintro tokens inside rfl
    refine ⟨[], _, _, rfl, ?_, ⟨[_, _], _, [], rfl, ?_, ?_, ?_⟩, ?_⟩
    · rw [hstart]
      rfl
    · decide
    · decide
    · simp
    · decide
  obtain ⟨hfailure, hstop, _⟩ := closes_at_matching_brace.1 _ declaration _ [] _ hmem
    (hopens _ _ hscan) (by decide) (by decide)
  refine ⟨declaration, hmem, hfailure, hstop, ?_⟩
  refine (closes_at_matching_brace.2 declaration "type A struct\x7bB struct\x7b".toList []
    "C int".toList "\x7d\x7d".toList ?_ ?_ hmem ?_ ?_ ?_ ?_ "" .sequential).1
  · unfold CutApart
    cbv
  · unfold CutApart
    cbv
  · refine ⟨[], [⟨.ident "B", "B", ⟨⟨14, 0, 14⟩, ⟨15, 0, 15⟩⟩⟩],
      ⟨.ident "struct", "struct", ⟨⟨16, 0, 16⟩, ⟨22, 0, 22⟩⟩⟩,
      ⟨.punct '{', "\x7b", ⟨⟨22, 0, 22⟩, ⟨23, 0, 23⟩⟩⟩, hopens _ _ ?_, rfl, Or.inl rfl,
      ⟨_, [], rfl, rfl, .nil⟩, by decide, by decide⟩
    cbv
  · refine ⟨⟨.punct '}', "\x7d", ⟨⟨0, 0, 0⟩, ⟨1, 0, 1⟩⟩⟩, [],
      ⟨.punct '}', "\x7d", ⟨⟨1, 0, 1⟩, ⟨2, 0, 2⟩⟩⟩, [], ?_, by decide, rfl, by decide⟩
    cbv
  · unfold WellNested
    cbv
  · unfold WellNested
    cbv

end Declaration

end FieldBridge
