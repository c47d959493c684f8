import FieldBridge.Proofs.EarlyStop

/-!
# Readers make progress

Every round of a loop over tokens takes a token, whatever the tokens are: a line of a field list
takes the token it begins with and makes a field, a member of a group takes its name, and no reader
goes on behind the end of the text.  The loops are written down here as relations that count their
rounds and do not look at whether a round took anything.  Each of them comes to an end within as
many rounds as there are tokens, and what it ends with is what the readers return.
-/

namespace FieldBridge.Declaration

/-- A reader may stand in front of these tokens: they are what is left of the text, up to the
token that ends the stream. -/
def IsAhead (source : List Char) (tokens : List Token) : Prop :=
  tokens ++ [Token.finish (Position.start.after source)] <:+ Token.stream source

section Ahead

variable {source : List Char} {tokens rest : List Token}

theorem isAhead_iff : IsAhead source tokens ↔ tokens <:+ Token.scan source := by
  unfold IsAhead Token.stream
  constructor
  · rintro ⟨before, hbefore⟩
    rw [← List.append_assoc] at hbefore
    exact ⟨before, List.append_cancel_right hbefore⟩
  · rintro ⟨before, hbefore⟩
    exact ⟨before, by rw [← List.append_assoc, hbefore]⟩

theorem IsAhead.of_suffix (hahead : IsAhead source tokens) (hrest : rest <:+ tokens) :
    IsAhead source rest :=
  isAhead_iff.2 (hrest.trans (isAhead_iff.1 hahead))

theorem IsAhead.ne_eof (hahead : IsAhead source tokens) : ∀ token ∈ tokens, token.kind ≠ .eof :=
  Token.scan_ne_eof (isAhead_iff.1 hahead)

end Ahead

section Moves

/-- The tokens behind the member of a group that begins with a name: behind a struct declaration,
or else behind the line. -/
def behindMember (finish : Position) (token : Token) (rest : List Token) : List Token :=
  match typeSpec? token.span true finish (token :: rest) with
  | some (_, after) => after
  | none => skipLine ')' 0 (token :: rest)

/-- What a reader leaves of the tokens it is given. -/
inductive Moves : List Token → List Token → Prop where
  | newlines (tokens : List Token) : Moves tokens (skipNewlines tokens)
  | separators (tokens : List Token) : Moves tokens (skipSeparators tokens)
  | line (closer : Char) (depth : Nat) (tokens : List Token) :
      Moves tokens (skipLine closer depth tokens)
  | type (tokens : List Token) : Moves tokens (typeText tokens).2
  | path (first : String) (tokens : List Token) : Moves tokens (qualified first tokens).2
  | names (comma : Bool) (tokens : List Token) : Moves tokens (moreNames comma tokens).2
  | tag (tokens : List Token) : Moves tokens (tag tokens).2
  | pointer (span : Span) (tokens : List Token) : Moves tokens (pointerHead span tokens).rest
  | named (name : String) (span : Span) (tokens : List Token) :
      Moves tokens (namedHead name span tokens).rest
  | head (token : Token) (rest : List Token) : Moves (token :: rest) (head token rest).rest
  | endLine (names : List (String × Span)) (type : String) (notes : List Diagnostic)
      (tokens : List Token) : Moves tokens (endLine names type notes tokens).rest
  | fieldLine (token : Token) (rest : List Token) :
      Moves (token :: rest) (fieldLine token rest).rest
  | fieldList (tokens : List Token) : Moves tokens (fieldList tokens).rest
  | body (name : String) (nameSpan start word : Span) (grouped : Bool) (finish : Position)
      (tokens : List Token) :
      Moves tokens (body name nameSpan start word grouped finish tokens).2
  | typeSpec {start : Span} {grouped : Bool} {finish : Position} {tokens rest : List Token}
      {declaration : Declaration}
      (hspec : typeSpec? start grouped finish tokens = some (declaration, rest)) :
      Moves tokens rest
  | group (finish : Position) (limit : Nat) (tokens : List Token) :
      Moves tokens (groupWithin finish limit tokens).2
  | next {finish : Position} {scope scope' : Scope} {tokens rest : List Token}
      {declaration : Declaration}
      (hnext : next? finish scope tokens = some (declaration, scope', rest)) : Moves tokens rest

variable {finish : Position} {token : Token} {tokens rest : List Token}

theorem fieldLine_cons_suffix (token : Token) (rest : List Token) :
    (fieldLine token rest).rest <:+ token :: rest :=
  (rest_suffix (rest.length + 1)).2 token rest (Nat.le_refl _)

theorem Moves.suffix (hmoves : Moves tokens rest) : rest <:+ tokens := by
  cases hmoves with
  | newlines => exact skipNewlines_suffix tokens
  | separators => exact List.dropWhile_suffix _
  | line closer depth => exact skipLine_suffix closer depth tokens
  | type => exact typeText_suffix tokens
  | path first => exact qualified_suffix first tokens
  | names comma => exact moreNames_suffix comma tokens
  | tag => exact tag_suffix tokens
  | pointer span => exact pointerHead_suffix span tokens
  | named name span => exact namedHead_suffix name span tokens
  | head token rest => exact head_suffix token rest
  | endLine names type notes =>
      exact (endLine_suffix names type notes tokens).trans (tag_suffix tokens)
  | fieldLine token rest => exact fieldLine_cons_suffix token rest
  | fieldList => exact fieldList_suffix tokens
  | body name nameSpan start word grouped finish =>
      exact (body_suffix name nameSpan start word grouped finish tokens).trans
        (skipNewlines_suffix tokens)
  | typeSpec hspec =>
      obtain ⟨token, tail, rfl, _, hrest⟩ := typeSpec?_suffix hspec
      exact hrest.trans (List.suffix_cons token tail)
  | group finish limit => exact groupWithin_suffix finish limit tokens
  | next hnext => exact next?_suffix hnext

theorem skipLine_of_name (hname : token.name?.isSome = true) (closer : Char) (rest : List Token) :
    skipLine closer 0 (token :: rest) = skipLine closer 0 rest := by
  obtain ⟨name, hname⟩ := Option.isSome_iff_exists.1 hname
  have hpunct := Token.isPunct_eq_false_of_name? hname
  rw [skipLine, if_neg (by simp [Token.isSeparator_eq_false_of_name? hname]),
    if_neg (by simp [hpunct])]
  simp [nest, Token.isOpening, Token.isClosing, hpunct]

theorem behindMember_suffix (finish : Position) (hname : token.name?.isSome = true)
    (rest : List Token) : behindMember finish token rest <:+ rest := by
  unfold behindMember
  split
  · next declaration after hspec =>
    obtain ⟨other, tail, htokens, _, hafter⟩ := typeSpec?_suffix hspec
    rwa [← (List.cons.inj htokens).2] at hafter
  · rw [skipLine_of_name hname]
    exact skipLine_suffix _ _ rest

end Moves

section Lists

/-- The field list that begins with a line and goes on with `more`. -/
def Line.followedBy (line : Line) (more : FieldList) : FieldList :=
  ⟨line.fields ++ more.fields, line.notes ++ more.notes, more.close, more.rest⟩

/-- The loop over the lines of a field list, with the number of its rounds and of those for the
inline structs on the way. -/
inductive RunsList : List Token → FieldList → Nat → Prop where
  | done : RunsList [] ⟨[], [], none, []⟩ 0
  | separator {token : Token} {rest : List Token} {list : FieldList} {rounds : Nat}
      (hseparator : token.isSeparator = true) (hrest : RunsList rest list rounds) :
      RunsList (token :: rest) list (rounds + 1)
  | close {token : Token} (hclose : token.isPunct '}' = true) (rest : List Token) :
      RunsList (token :: rest) ⟨[], [], some token.span, rest⟩ 1
  | plain {token : Token} {rest after : List Token} {names : List (String × Span)} {type : String}
      {more : FieldList} {rounds : Nat} (hline : ¬ StopsLine token)
      (hhead : head token rest = .plain names type after)
      (hmore : RunsList (endLine names type [] after).rest more rounds) :
      RunsList (token :: rest) ((endLine names type [] after).followedBy more) (rounds + 1)
  | inline {token : Token} {rest inner : List Token} {names : List (String × Span)}
      {opening : Span} {nested more : FieldList} {inside rounds : Nat} (hline : ¬ StopsLine token)
      (hhead : head token rest = .inline names opening inner)
      (hnested : RunsList inner nested inside)
      (hmore : RunsList (endLine names inlineStruct
        (nested.notes ++ inlineNotes names opening nested.close) nested.rest).rest more rounds) :
      RunsList (token :: rest) ((endLine names inlineStruct
        (nested.notes ++ inlineNotes names opening nested.close) nested.rest).followedBy more)
        (inside + rounds + 1)

variable {tokens : List Token}

theorem fieldList_cons {token : Token} (heof : token.kind ≠ .eof) (hline : ¬ StopsLine token)
    (rest : List Token) : fieldList (token :: rest) =
      (fieldLine token rest).followedBy (fieldList (fieldLine token rest).rest) :=
  fieldList_line heof hline rest

/-- The loop ends, and takes at least one token in each round. -/
theorem exists_runsList (heof : ∀ token ∈ tokens, token.kind ≠ .eof) :
    ∃ rounds, rounds + (fieldList tokens).rest.length ≤ tokens.length ∧
      RunsList tokens (fieldList tokens) rounds := by
  refine fieldList_induction (motive := fun tokens => ∃ rounds,
    rounds + (fieldList tokens).rest.length ≤ tokens.length ∧
      RunsList tokens (fieldList tokens) rounds) ?_ ?_ ?_ ?_ heof
  · rw [fieldList]
    exact ⟨0, Nat.le_refl _, .done⟩
  · intro token rest hseparator ih
    obtain ⟨rounds, hrounds, hrun⟩ := ih
    rw [fieldList_separator hseparator]
    exact ⟨rounds + 1, by rw [List.length_cons]; omega, .separator hseparator hrun⟩
  · intro token rest hclose
    rw [fieldList_close hclose]
    exact ⟨1, by rw [List.length_cons, Nat.add_comm], .close hclose rest⟩
  · intro token rest hkinds hline ih
    have hkind := hkinds token List.mem_cons_self
    have htaken := @fieldLine_suffix_of_kind rest token hkind hline
    obtain ⟨rounds, hrounds, hrun⟩ := ih _ htaken
    rw [fieldList_cons hkind hline, List.length_cons]
    have hlength := htaken.length_le
    cases hhead : head token rest with
    | plain names type after =>
        rw [fieldLine_of_plain hhead] at hrun hrounds hlength ⊢
        refine ⟨rounds + 1, ?_, .plain hline hhead hrun⟩
        simp only [Line.followedBy]
        omega
    | inline names opening inner =>
        -- The rounds inside take what stands before the rest of the nested list, and the lines
        -- after it take from that rest.
        obtain ⟨inside, hinside, hnested⟩ := ih inner (inline_suffix hhead)
        have hinner := (inline_suffix hhead).length_le
        rw [fieldLine_of_inline hhead] at hrun hrounds hlength ⊢
        have hbehind := ((endLine_suffix names inlineStruct
          ((fieldList inner).notes ++ inlineNotes names opening (fieldList inner).close)
          (fieldList inner).rest).trans (tag_suffix _)).length_le
        refine ⟨inside + rounds + 1, ?_, .inline hline hhead hnested hrun⟩
        simp only [Line.followedBy]
        omega

theorem RunsList.eq_fieldList {list : FieldList} {rounds : Nat}
    (hrun : RunsList tokens list rounds) (heof : ∀ token ∈ tokens, token.kind ≠ .eof) :
    list = fieldList tokens := by
  induction hrun with
  | done => rw [fieldList]
  | separator hseparator _ ih =>
      rw [fieldList_separator hseparator]
      exact ih fun other hother => heof other (List.mem_cons_of_mem _ hother)
  | close hclose rest => rw [fieldList_close hclose]
  | @plain token rest _ _ _ _ _ hline hhead _ ih =>
      have hkind := heof token List.mem_cons_self
      have htaken := @fieldLine_suffix_of_kind rest token hkind hline
      rw [fieldLine_of_plain hhead] at htaken
      rw [fieldList_cons hkind hline, fieldLine_of_plain hhead,
        ih fun other hother => heof other (List.mem_cons_of_mem _ (htaken.subset hother))]
  | @inline token rest inner _ _ _ _ _ _ hline hhead _ _ ihnested ih =>
      have hkind := heof token List.mem_cons_self
      obtain rfl := ihnested fun other hother =>
        heof other (List.mem_cons_of_mem _ ((inline_suffix hhead).subset hother))
      have htaken := @fieldLine_suffix_of_kind rest token hkind hline
      rw [fieldLine_of_inline hhead] at htaken
      rw [fieldList_cons hkind hline, fieldLine_of_inline hhead,
        ih fun other hother => heof other (List.mem_cons_of_mem _ (htaken.subset hother))]

/-- What a field list takes of its tokens begins with the first of them. -/
theorem exists_of_eq_append {token : Token} {rest among behind : List Token}
    (hsplit : token :: rest = among ++ behind) (hbehind : behind <:+ rest) :
    ∃ more, among = token :: more ∧ rest = more ++ behind := by
  cases among with
  | nil =>
      obtain rfl : token :: rest = behind := hsplit
      have hlength := hbehind.length_le
      simp at hlength
  | cons first more =>
      obtain ⟨rfl, rfl⟩ := List.cons.inj hsplit
      exact ⟨more, rfl, rfl⟩

/-- A field list has no field exactly when nothing but line ends, semicolons and its closing brace
was read. -/
theorem fields_fieldList_eq_nil_iff {among : List Token}
    (heof : ∀ token ∈ tokens, token.kind ≠ .eof)
    (hamong : tokens = among ++ (fieldList tokens).rest) :
    (fieldList tokens).fields = [] ↔ ∀ token ∈ among, StopsLine token := by
  induction tokens generalizing among with
  | nil =>
      obtain ⟨rfl, _⟩ := List.append_eq_nil_iff.1 hamong.symm
      simp [fieldList]
  | cons token tokens ih =>
      by_cases hstop : StopsLine token
      · rcases hstop with hseparator | hclose
        · rw [fieldList_separator hseparator] at hamong ⊢
          obtain ⟨more, rfl, hmore⟩ := exists_of_eq_append hamong (fieldList_suffix tokens)
          rw [ih (fun other hother => heof other (List.mem_cons_of_mem token hother)) hmore,
            List.forall_mem_cons]
          exact (and_iff_right (.inl hseparator)).symm
        · rw [fieldList_close hclose] at hamong ⊢
          obtain ⟨more, rfl, hmore⟩ := exists_of_eq_append hamong List.suffix_rfl
          obtain rfl := List.self_eq_append_left.1 hmore
          simp [StopsLine, hclose]
      · -- The line has a field, whatever the lines behind it have.
        have hkind := heof token List.mem_cons_self
        have htaken := @fieldLine_suffix_of_kind tokens token hkind hstop
        rw [fieldList_cons hkind hstop] at hamong ⊢
        obtain ⟨more, rfl, _⟩ := exists_of_eq_append hamong ((fieldList_suffix _).trans htaken)
        refine iff_of_false (fun hnil => ?_) fun hall => hstop (hall token List.mem_cons_self)
        exact fields_fieldLine_ne_nil token tokens (List.append_eq_nil_iff.1 hnil).1

end Lists

section Searches

/-- The field list of the struct declaration that begins `tokens`, behind its opening brace. -/
def opened? (tokens : List Token) : Option (List Token) :=
  match skipNewlines (tokens.dropWhile fun token => !token.isWord "struct").tail with
  | brace :: inside => if brace.isPunct '{' then some inside else none
  | [] => none

/-- The loop over the field list of a struct declaration, if it has one. -/
inductive RunsSpec (tokens : List Token) : Nat → Prop where
  | bare (hbare : opened? tokens = none) : RunsSpec tokens 0
  | list {inside : List Token} {list : FieldList} {rounds : Nat}
      (hopened : opened? tokens = some inside) (hlist : RunsList inside list rounds) :
      RunsSpec tokens rounds

/-- The loops of a search for up to `limit` declarations, over a file and over the members of its
groups, with the number of their rounds and of those for the field lists on the way. -/
inductive RunsSearch (finish : Position) :
    Nat → Scope → List Token → List Declaration → Nat → Prop where
  | full (scope : Scope) (tokens : List Token) : RunsSearch finish 0 scope tokens [] 0
  | done (limit : Nat) (scope : Scope) : RunsSearch finish (limit + 1) scope [] [] 0
  | pass {limit : Nat} {token : Token} {rest : List Token} {found : List Declaration}
      {rounds : Nat} (hword : token.isWord "type" = false)
      (hrest : RunsSearch finish (limit + 1) .file rest found rounds) :
      RunsSearch finish (limit + 1) .file (token :: rest) found (rounds + 1)
  | enter {limit : Nat} {token paren : Token} {rest members : List Token}
      {found : List Declaration} {rounds : Nat} (hword : token.isWord "type" = true)
      (hmembers : skipNewlines rest = paren :: members) (hparen : paren.isPunct '(' = true)
      (hrest : RunsSearch finish (limit + 1) .group members found rounds) :
      RunsSearch finish (limit + 1) .file (token :: rest) found (rounds + 1)
  | declared {limit : Nat} {token : Token} {rest after : List Token} {declaration : Declaration}
      {found : List Declaration} {inside rounds : Nat} (hword : token.isWord "type" = true)
      (hspec : typeSpec? token.span false finish (skipNewlines rest) = some (declaration, after))
      (hinside : RunsSpec (skipNewlines rest) inside)
      (hrest : RunsSearch finish limit .file after found rounds) :
      RunsSearch finish (limit + 1) .file (token :: rest) (declaration :: found)
        (inside + rounds + 1)
  | other {limit : Nat} {token : Token} {rest : List Token} {found : List Declaration}
      {rounds : Nat} (hword : token.isWord "type" = true)
      (hparen : ∀ paren members, skipNewlines rest = paren :: members →
        paren.isPunct '(' = false)
      (hspec : typeSpec? token.span false finish (skipNewlines rest) = none)
      (hrest : RunsSearch finish (limit + 1) .file (skipNewlines rest) found rounds) :
      RunsSearch finish (limit + 1) .file (token :: rest) found (rounds + 1)
  | separator {limit : Nat} {token : Token} {rest : List Token} {found : List Declaration}
      {rounds : Nat} (hseparator : token.isSeparator = true)
      (hrest : RunsSearch finish (limit + 1) .group rest found rounds) :
      RunsSearch finish (limit + 1) .group (token :: rest) found (rounds + 1)
  | leave {limit : Nat} {token : Token} {rest : List Token} {found : List Declaration}
      {rounds : Nat} (hclose : token.isPunct ')' = true)
      (hrest : RunsSearch finish (limit + 1) .file rest found rounds) :
      RunsSearch finish (limit + 1) .group (token :: rest) found (rounds + 1)
  | member {limit : Nat} {token : Token} {rest after : List Token} {declaration : Declaration}
      {found : List Declaration} {inside rounds : Nat}
      (hspec : typeSpec? token.span true finish (token :: rest) = some (declaration, after))
      (hinside : RunsSpec (token :: rest) inside)
      (hrest : RunsSearch finish limit .group after found rounds) :
      RunsSearch finish (limit + 1) .group (token :: rest) (declaration :: found)
        (inside + rounds + 1)
  | otherMember {limit : Nat} {token : Token} {rest : List Token} {found : List Declaration}
      {rounds : Nat} (hname : token.name?.isSome = true)
      (hspec : typeSpec? token.span true finish (token :: rest) = none)
      (hrest : RunsSearch finish (limit + 1) .group (skipLine ')' 0 (token :: rest)) found
        rounds) :
      RunsSearch finish (limit + 1) .group (token :: rest) found (rounds + 1)
  | stray {limit : Nat} {token : Token} {rest : List Token} {found : List Declaration}
      {rounds : Nat} (hseparator : token.isSeparator = false) (hclose : token.isPunct ')' = false)
      (hname : token.name? = none)
      (hrest : RunsSearch finish (limit + 1) .group rest found rounds) :
      RunsSearch finish (limit + 1) .group (token :: rest) found (rounds + 1)

variable {finish : Position} {limit : Nat} {scope : Scope} {tokens : List Token}

theorem opened?_struct {word : Token} (hword : word.isWord "struct" = true) (rest : List Token) :
    opened? (word :: rest) = match skipNewlines rest with
      | brace :: inside => if brace.isPunct '{' then some inside else none
      | [] => none := by
  rw [opened?, List.dropWhile_cons_of_neg (by simp [hword]), List.tail_cons]

theorem opened?_name {token : Token} (hword : token.isWord "struct" = false) (rest : List Token) :
    opened? (token :: rest) = opened? rest := by
  rw [opened?, List.dropWhile_cons_of_pos (by simp [hword]), ← opened?]

/-- Behind its word `struct`, a declaration takes at least one token for each round of the loop
over its field list. -/
theorem exists_runsSpec_body {word : Token} {rest : List Token}
    (hword : word.isWord "struct" = true) (heof : ∀ token ∈ rest, token.kind ≠ .eof)
    (name : String) (nameSpan start struct : Span) (grouped : Bool) (finish : Position) :
    ∃ inside, RunsSpec (word :: rest) inside ∧
      inside + (body name nameSpan start struct grouped finish rest).2.length ≤ rest.length := by
  have hopened := opened?_struct hword rest
  have hskip := (skipNewlines_suffix rest).length_le
  unfold body
  cases hrest : skipNewlines rest with
  | nil =>
      rw [hrest] at hopened
      exact ⟨0, .bare hopened, Nat.zero_le _⟩
  | cons brace inside =>
      rw [hrest] at hopened hskip
      rw [List.length_cons] at hskip
      dsimp only at hopened ⊢
      split at hopened
      · next hbrace =>
        have hinside : inside <:+ rest :=
          (List.suffix_cons brace inside).trans (hrest ▸ skipNewlines_suffix rest)
        obtain ⟨rounds, hrounds, hlist⟩ :=
          exists_runsList fun token htoken => heof token (hinside.subset htoken)
        refine ⟨rounds, .list hopened hlist, ?_⟩
        rw [if_pos hbrace]
        split <;> exact hrounds.trans (Nat.le_of_succ_le hskip)
      · next hbrace =>
        refine ⟨0, .bare hopened, ?_⟩
        rw [if_neg hbrace, Nat.zero_add]
        exact hskip

theorem exists_runsSpec {start : Span} {grouped : Bool} {rest : List Token}
    {declaration : Declaration} (heof : ∀ token ∈ tokens, token.kind ≠ .eof)
    (hspec : typeSpec? start grouped finish tokens = some (declaration, rest)) :
    ∃ inside, RunsSpec tokens inside ∧ inside + rest.length < tokens.length := by
  rcases typeSpec?_eq_some hspec with
    ⟨word, after, rfl, hword, hfound⟩ | ⟨token, name, word, after, rfl, hname, hne, hword, hfound⟩
  · obtain ⟨inside, hinside, hrounds⟩ := exists_runsSpec_body hword
      (fun other hother => heof other (List.mem_cons_of_mem word hother)) "" word.span.collapsed
      start word.span grouped finish
    rw [← hfound] at hrounds
    exact ⟨inside, hinside, Nat.lt_succ_of_le hrounds⟩
  · have hkinds : ∀ other ∈ after, other.kind ≠ .eof := fun other hother =>
      heof other (List.mem_cons_of_mem token (List.mem_cons_of_mem word hother))
    obtain ⟨inside, hinside, hrounds⟩ := exists_runsSpec_body hword hkinds name token.span start
      word.span grouped finish
    rw [← hfound] at hrounds
    have hother : token.isWord "struct" = false := by
      simp [Token.isWord, Token.name?_eq_some_iff.1 hname, hne]
    refine ⟨inside, ?_, Nat.lt_succ_of_lt (Nat.lt_succ_of_le hrounds)⟩
    cases hinside with
    | bare hbare => exact .bare ((opened?_name hother _).trans hbare)
    | list hopened hlist => exact .list ((opened?_name hother _).trans hopened) hlist

/-- A search that ends, within as many rounds as there are tokens. -/
def Ends (finish : Position) (limit : Nat) (scope : Scope) (tokens : List Token) : Prop :=
  ∃ found rounds, rounds ≤ tokens.length ∧ RunsSearch finish limit scope tokens found rounds

/-- A round may stand in front of a search that ends if it takes a token, and one more for every
round inside it. -/
theorem Ends.round {limit' inside : Nat} {scope' : Scope} {token : Token} {rest left : List Token}
    (hends : Ends finish limit scope left) (hleft : inside + left.length ≤ rest.length)
    (hround : ∀ {found rounds}, RunsSearch finish limit scope left found rounds →
      ∃ more, RunsSearch finish limit' scope' (token :: rest) more (inside + rounds + 1)) :
    Ends finish limit' scope' (token :: rest) := by
  obtain ⟨found, rounds, hrounds, hrun⟩ := hends
  obtain ⟨more, hmore⟩ := hround hrun
  exact ⟨more, inside + rounds + 1, by rw [List.length_cons]; omega, hmore⟩

/-- A round may take a token and nothing else. -/
theorem Ends.step {limit' : Nat} {scope' : Scope} {token : Token} {rest left : List Token}
    (hends : Ends finish limit scope left) (hleft : left <:+ rest)
    (hround : ∀ {found rounds}, RunsSearch finish limit scope left found rounds →
      ∃ more, RunsSearch finish limit' scope' (token :: rest) more (rounds + 1)) :
    Ends finish limit' scope' (token :: rest) := by
  have hlength : 0 + left.length ≤ rest.length := by
    rw [Nat.zero_add]
    exact hleft.length_le
  refine hends.round hlength fun hrun => ?_
  rw [Nat.zero_add]
  exact hround hrun

theorem ends_file (token : Token) {rest : List Token} (heof : ∀ token ∈ rest, token.kind ≠ .eof)
    (hends : ∀ limit scope left, left <:+ rest → Ends finish limit scope left) :
    Ends finish (limit + 1) .file (token :: rest) := by
  by_cases hword : token.isWord "type" = true
  · have hskip := skipNewlines_suffix rest
    cases hspec : typeSpec? token.span false finish (skipNewlines rest) with
    | some result =>
        obtain ⟨declaration, after⟩ := result
        obtain ⟨inside, hinside, hrounds⟩ :=
          exists_runsSpec (fun other hother => heof other (hskip.subset hother)) hspec
        have hafter : after <:+ skipNewlines rest := (Moves.typeSpec hspec).suffix
        exact (hends limit .file after (hafter.trans hskip)).round
          (hrounds.le.trans hskip.length_le) fun hrun => ⟨_, .declared hword hspec hinside hrun⟩
    | none =>
        by_cases hparen : ∃ paren members, skipNewlines rest = paren :: members ∧
            paren.isPunct '(' = true
        · obtain ⟨paren, members, hmembers, hparen⟩ := hparen
          rw [hmembers] at hskip
          have hrest := (List.suffix_cons paren members).trans hskip
          exact (hends (limit + 1) .group members hrest).step hrest fun hrun =>
            ⟨_, .enter hword hmembers hparen hrun⟩
        · have hother : ∀ paren members, skipNewlines rest = paren :: members →
              paren.isPunct '(' = false := fun paren members hmembers =>
            Bool.eq_false_iff.2 fun htrue => hparen ⟨paren, members, hmembers, htrue⟩
          exact (hends (limit + 1) .file _ hskip).step hskip fun hrun =>
            ⟨_, .other hword hother hspec hrun⟩
  · exact (hends (limit + 1) .file rest List.suffix_rfl).step List.suffix_rfl fun hrun =>
      ⟨_, .pass (Bool.eq_false_iff.2 hword) hrun⟩

theorem ends_group {token : Token} {rest : List Token}
    (heof : ∀ other ∈ token :: rest, other.kind ≠ .eof)
    (hends : ∀ limit scope left, left <:+ rest → Ends finish limit scope left) :
    Ends finish (limit + 1) .group (token :: rest) := by
  by_cases hseparator : token.isSeparator = true
  · exact (hends (limit + 1) .group rest List.suffix_rfl).step List.suffix_rfl fun hrun =>
      ⟨_, .separator hseparator hrun⟩
  by_cases hclose : token.isPunct ')' = true
  · exact (hends (limit + 1) .file rest List.suffix_rfl).step List.suffix_rfl fun hrun =>
      ⟨_, .leave hclose hrun⟩
  cases hname : token.name? with
  | none =>
      exact (hends (limit + 1) .group rest List.suffix_rfl).step List.suffix_rfl fun hrun =>
        ⟨_, .stray (Bool.eq_false_iff.2 hseparator) (Bool.eq_false_iff.2 hclose) hname hrun⟩
  | some name =>
      have hsome : token.name?.isSome = true := by rw [hname]; rfl
      have hbehind := behindMember_suffix finish hsome rest
      unfold behindMember at hbehind
      cases hspec : typeSpec? token.span true finish (token :: rest) with
      | some result =>
          obtain ⟨declaration, after⟩ := result
          obtain ⟨inside, hinside, hrounds⟩ := exists_runsSpec heof hspec
          rw [hspec] at hbehind
          exact (hends limit .group after hbehind).round (Nat.le_of_lt_succ hrounds) fun hrun =>
            ⟨_, .member hspec hinside hrun⟩
      | none =>
          rw [hspec] at hbehind
          exact (hends (limit + 1) .group _ hbehind).step hbehind fun hrun =>
            ⟨_, .otherMember hsome hspec hrun⟩

/-- Every search ends, since each of its rounds takes a token. -/
theorem ends (finish : Position) (limit : Nat) (scope : Scope)
    (heof : ∀ token ∈ tokens, token.kind ≠ .eof) : Ends finish limit scope tokens := by
  -- On the tokens that are left, and not on the limit: most rounds find nothing.
  induction hlength : tokens.length using Nat.strongRecOn generalizing tokens limit scope with
  | ind length ih =>
      subst hlength
      cases limit with
      | zero => exact ⟨[], 0, Nat.zero_le _, .full scope tokens⟩
      | succ limit =>
          cases tokens with
          | nil => exact ⟨[], 0, Nat.le_refl _, .done limit scope⟩
          | cons token rest =>
              have hkinds : ∀ other ∈ rest, other.kind ≠ .eof := fun other hother =>
                heof other (List.mem_cons_of_mem token hother)
              have hends : ∀ limit scope left, left <:+ rest → Ends finish limit scope left :=
                fun limit scope left hleft =>
                  ih left.length (Nat.lt_succ_of_le hleft.length_le) limit scope
                    (fun other hother => hkinds other (hleft.subset hother)) rfl
              cases scope with
              | file => exact ends_file token hkinds hends
              | group => exact ends_group heof hends

theorem RunsSearch.eq_take {found : List Declaration} {rounds : Nat}
    (hrun : RunsSearch finish limit scope tokens found rounds) :
    found = (allFrom finish scope tokens).take limit := by
  induction hrun with
  | full => rfl
  | done => simp [allFrom_nil]
  | pass hword _ ih => rw [ih, allFrom_congr (next?_file_skip hword)]
  | enter hword hmembers hparen _ ih =>
      rw [ih, allFrom_congr (next?_file_group hword hmembers hparen)]
  | declared hword hspec _ _ ih =>
      rw [ih, allFrom_of_next?_eq_some (next?_file_found hword hspec), List.take_succ_cons]
  | @other _ token rest _ _ hword hparen hspec _ ih =>
      rw [ih]
      cases hrest : skipNewlines rest with
      | nil => rw [allFrom_of_next?_eq_none (next?_file_end hword hrest), allFrom_nil]
      | cons first after =>
          rw [allFrom_congr (next?_file_other hword hspec hrest (hparen first after hrest))]
  | separator hseparator _ ih =>
      rw [ih, allFrom_congr (next?_group_skip (Token.name?_eq_none_of_isSeparator hseparator)
        (Token.isPunct_eq_false_of_isSeparator hseparator (by decide)))]
  | leave hclose _ ih => rw [ih, allFrom_congr (next?_group_close hclose)]
  | member hspec _ _ ih =>
      obtain ⟨name, hname⟩ := exists_name_of_typeSpec? hspec
      rw [ih, allFrom_of_next?_eq_some (next?_group_found hname hspec), List.take_succ_cons]
  | otherMember hname hspec _ ih =>
      rw [ih, skipLine_of_name hname]
      obtain ⟨name, hname⟩ := Option.isSome_iff_exists.1 hname
      rw [allFrom_congr (next?_group_member hname hspec)]
  | stray _ hclose hname _ ih => rw [ih, allFrom_congr (next?_group_skip hname hclose)]

/-- What a search ends with is what the search for all declarations finds first. -/
theorem runsSearch_iff (finish : Position) (limit : Nat) (scope : Scope)
    (heof : ∀ token ∈ tokens, token.kind ≠ .eof) (found : List Declaration) :
    (∃ rounds, rounds ≤ tokens.length ∧ RunsSearch finish limit scope tokens found rounds) ↔
      found = (allFrom finish scope tokens).take limit := by
  constructor
  · rintro ⟨rounds, _, hrun⟩
    exact hrun.eq_take
  · rintro rfl
    obtain ⟨found, rounds, hrounds, hrun⟩ := ends finish limit scope heof
    obtain rfl := hrun.eq_take
    exact ⟨rounds, hrounds, hrun⟩

theorem length_allFrom_le (finish : Position) (scope : Scope) (tokens : List Token) :
    (allFrom finish scope tokens).length ≤ tokens.length := by
  fun_induction allFrom finish scope tokens with
  | case1 => exact Nat.zero_le _
  | case2 scope tokens declaration after rest hnext ih =>
      exact (Nat.succ_le_succ ih).trans (length_next?_lt hnext)

end Searches

/-- The fields of a declaration are those of the field list that it opens. -/
theorem fields_of_opens {source : List Char} {declaration : Declaration} {inside : List Token}
    (hmem : declaration ∈ all source) (hopens : declaration.Opens (Token.scan source) inside) :
    declaration.fields = (fieldList inside).fields := by
  obtain ⟨passed, tokens, scope, scope', rest, hpassed, hnext⟩ := exists_next?_of_mem_allFrom hmem
  obtain ⟨_, _, _, _, _, gap, opening, _, _, _, _, _, _, hgap, hopening, hbody, _⟩ :=
    rest_of_opens hpassed hnext hopens
  have hskip := skipNewlines_gap hgap (kind_ne_newline_of_isPunct hopening) inside
  rw [show declaration = _ from congrArg Prod.fst hbody]
  unfold body
  rw [hskip]
  dsimp only
  rw [if_pos hopening]
  split <;> rfl

/-- What the loops over the tokens of a source do, however malformed it is. -/
structure MakesProgress (source : List Char) : Prop where
  /-- A line takes the token it begins with, and makes a field. -/
  line : ∀ token rest, IsAhead source (token :: rest) → ¬ StopsLine token →
    (fieldLine token rest).rest <:+ rest ∧ (fieldLine token rest).fields ≠ []
  /-- A member of a group takes the name it begins with, be it a struct or not. -/
  member : ∀ finish token rest, IsAhead source (token :: rest) → token.name?.isSome = true →
    behindMember finish token rest <:+ rest
  /-- Readers only go forward, and no further than to the end of the text. -/
  moves : ∀ tokens rest, IsAhead source tokens → Moves tokens rest →
    rest <:+ tokens ∧ IsAhead source rest
  /-- The loop over a field list ends, with the list that is read. -/
  list : ∀ tokens list, IsAhead source tokens →
    ((∃ rounds, rounds + list.rest.length ≤ tokens.length ∧ RunsList tokens list rounds) ↔
      list = fieldList tokens)
  /-- The search for all declarations ends with them; a limit that large is none. -/
  searchAll : ∀ limit found, (Token.scan source).length ≤ limit →
    ((∃ rounds, rounds ≤ (Token.scan source).length ∧
      RunsSearch (Position.start.after source) limit .file (Token.scan source) found rounds) ↔
        found = all source)
  /-- The search for the first declaration ends with it, if there is one. -/
  searchFirst : ∀ found, (∃ rounds, rounds ≤ (Token.scan source).length ∧
    RunsSearch (Position.start.after source) 1 .file (Token.scan source) found rounds) ↔
      found = (first? source).toList
  /-- A field list in which anything but line ends, semicolons and its closing brace was read has
  a field. -/
  fields : ∀ tokens among, IsAhead source tokens → tokens = among ++ (fieldList tokens).rest →
    ((fieldList tokens).fields = [] ↔ ∀ token ∈ among, StopsLine token)
  /-- So has a declaration with such a field list. -/
  declared : ∀ declaration ∈ all source, ∀ among behind,
    declaration.Opens (Token.scan source) (among ++ behind) →
    behind = (fieldList (among ++ behind)).rest →
    (declaration.fields = [] ↔ ∀ token ∈ among, StopsLine token)

/-- On every source the readers make progress and come to an end. -/
theorem makesProgress (source : List Char) : MakesProgress source where
  line token rest hahead hline :=
    ⟨fieldLine_suffix_of_kind (hahead.ne_eof token List.mem_cons_self) hline,
      fields_fieldLine_ne_nil token rest⟩
  member finish token rest _ hname := behindMember_suffix finish hname rest
  moves tokens rest hahead hmoves := ⟨hmoves.suffix, hahead.of_suffix hmoves.suffix⟩
  list tokens list hahead := by
    constructor
    · rintro ⟨rounds, _, hrun⟩
      exact hrun.eq_fieldList hahead.ne_eof
    · rintro rfl
      exact exists_runsList hahead.ne_eof
  searchAll limit found hlimit := by
    have hall : (all source).take limit = all source :=
      List.take_of_length_le ((length_allFrom_le _ _ _).trans hlimit)
    rw [← hall]
    exact runsSearch_iff _ limit .file (Token.scan_ne_eof List.suffix_rfl) found
  searchFirst found := by
    have hfirst : (all source).take 1 = (first? source).toList := by
      rw [← head?_all]
      cases all source <;> rfl
    rw [← hfirst]
    exact runsSearch_iff _ 1 .file (Token.scan_ne_eof List.suffix_rfl) found
  fields tokens among hahead hamong := fields_fieldList_eq_nil_iff hahead.ne_eof hamong
  declared declaration hmem among behind hopens hbehind := by
    rw [fields_of_opens hmem hopens]
    exact fields_fieldList_eq_nil_iff (Token.scan_ne_eof hopens.suffix) (by rw [← hbehind])

end FieldBridge.Declaration
