import FieldBridge.Declaration.Body

/-!
# Finding declarations

Struct declarations are found one after the other.  A search knows whether it is
inside a group `type ( ... )`; from there it looks for the next declaration and
reports where to go on.  All declarations of a text are the searches repeated
until one finds nothing.
-/

namespace FieldBridge.Declaration

/-- The field list after the word `struct`, which stands at `word`. -/
def body (name : String) (nameSpan start word : Span) (grouped : Bool) (finish : Position)
    (tokens : List Token) : Declaration × List Token :=
  match skipNewlines tokens with
  | [] => (⟨name, nameSpan, [], start.through word, grouped, some (.noBody word), []⟩, [])
  | brace :: rest =>
    if brace.isPunct '{' then
      let list := fieldList rest
      match list.close with
      | some close =>
        (⟨name, nameSpan, list.fields, start.through close, grouped, none, list.notes⟩, list.rest)
      | none =>
        let stop := Span.point finish
        (⟨name, nameSpan, list.fields, start.through stop, grouped,
          some (.unclosed stop brace.span), list.notes⟩, list.rest)
    else
      (⟨name, nameSpan, [], start.through word, grouped, some (.noBody word), []⟩, brace :: rest)

/-- The struct declaration whose name begins `tokens`.  A name may be missing, and
then the word `struct` comes first.  Anything else is no struct declaration. -/
def typeSpec? (start : Span) (grouped : Bool) (finish : Position) :
    List Token → Option (Declaration × List Token)
  | [] => none
  | token :: rest =>
    match token.name? with
    | none => none
    | some name =>
      if name = "struct" then
        some (body "" token.span.collapsed start token.span grouped finish rest)
      else
        match rest with
        | word :: rest =>
          if word.isWord "struct" then
            some (body name token.span start word.span grouped finish rest)
          else none
        | [] => none

/-- Where a search stands: between declarations, or inside a group. -/
inductive Scope where
  | file
  | group
deriving DecidableEq, Repr

/-- The next struct declaration, with the place to search on from.  In a file
everything up to a word `type` is passed over; in a group every member that is no
struct is passed over to the end of its line. -/
def next? (finish : Position) : Scope → List Token → Option (Declaration × Scope × List Token)
  | _, [] => none
  | .file, token :: rest =>
    if token.isWord "type" then
      match typeSpec? token.span false finish (skipNewlines rest) with
      | some (declaration, rest) => some (declaration, .file, rest)
      | none =>
        match _ : skipNewlines rest with
        | paren :: members =>
          if paren.isPunct '(' then next? finish .group members
          else next? finish .file (paren :: members)
        | [] => none
    else next? finish .file rest
  | .group, token :: rest =>
    if token.isSeparator then next? finish .group rest
    else if token.isPunct ')' then next? finish .file rest
    else
      match typeSpec? token.span true finish (token :: rest) with
      | some (declaration, rest) => some (declaration, .group, rest)
      | none =>
        if token.name?.isSome then next? finish .group (skipLine ')' 0 rest)
        else next? finish .group rest
termination_by _ tokens => tokens.length
decreasing_by
  · have hskip := (skipNewlines_suffix rest).length_le
    simp only [*, List.length_cons] at hskip ⊢
    omega
  · have hskip := (skipNewlines_suffix rest).length_le
    simp only [*, List.length_cons] at hskip ⊢
    omega
  · simp
  · simp
  · simp
  · exact Nat.lt_succ_of_le (skipLine_suffix _ _ rest).length_le
  · simp

theorem body_suffix (name : String) (nameSpan start word : Span) (grouped : Bool)
    (finish : Position) (tokens : List Token) :
    (body name nameSpan start word grouped finish tokens).2 <:+ skipNewlines tokens := by
  unfold body
  split
  · exact List.nil_suffix
  · next brace rest hrest =>
    rw [hrest]
    split
    · have hlist := (fieldList_suffix rest).trans (List.suffix_cons brace rest)
      dsimp only
      split <;> exact hlist
    · exact List.suffix_rfl

theorem length_body_le (name : String) (nameSpan start word : Span) (grouped : Bool)
    (finish : Position) (tokens : List Token) :
    (body name nameSpan start word grouped finish tokens).2.length ≤ tokens.length :=
  ((body_suffix name nameSpan start word grouped finish tokens).trans
    (skipNewlines_suffix tokens)).length_le

/-- A declaration without a structural failure has a field list that is closed. -/
theorem body_of_failure_eq_none {name : String} {nameSpan start word : Span}
    {grouped : Bool} {finish : Position} {tokens : List Token}
    (hfailure : (body name nameSpan start word grouped finish tokens).1.failure = none) :
    ∃ brace inner close, skipNewlines tokens = brace :: inner ∧
      brace.isPunct '{' = true ∧ (fieldList inner).close = some close := by
  unfold body at hfailure
  split at hfailure
  · cases hfailure
  · next brace inner hinner =>
    split at hfailure
    · next hbrace =>
      dsimp only at hfailure
      split at hfailure
      · next close hclose => exact ⟨brace, inner, close, hinner, hbrace, hclose⟩
      · cases hfailure
    · cases hfailure

theorem body_closed (name : String) (nameSpan start word : Span) (grouped : Bool)
    (finish : Position) {tokens inner : List Token} {brace : Token} {close : Span}
    (htokens : skipNewlines tokens = brace :: inner) (hbrace : brace.isPunct '{' = true)
    (hclose : (fieldList inner).close = some close) :
    body name nameSpan start word grouped finish tokens =
      (⟨name, nameSpan, (fieldList inner).fields, start.through close, grouped, none,
        (fieldList inner).notes⟩, (fieldList inner).rest) := by
  unfold body
  rw [htokens]
  simp only [if_pos hbrace, hclose]

theorem typeSpec?_unnamed {word : Token} (hword : word.isWord "struct" = true)
    (start : Span) (grouped : Bool) (finish : Position) (rest : List Token) :
    typeSpec? start grouped finish (word :: rest) =
      some (body "" word.span.collapsed start word.span grouped finish rest) := by
  have hkind : word.kind = .ident "struct" := by simpa [Token.isWord] using hword
  simp [typeSpec?, Token.name?, hkind]

theorem typeSpec?_named {token word : Token} {name : String} (hname : token.name? = some name)
    (hne : name ≠ "struct") (hword : word.isWord "struct" = true) (start : Span)
    (grouped : Bool) (finish : Position) (rest : List Token) :
    typeSpec? start grouped finish (token :: word :: rest) =
      some (body name token.span start word.span grouped finish rest) := by
  simp [typeSpec?, hname, hne, hword]

/-- A struct declaration begins with the word `struct`, or with a name before it. -/
theorem typeSpec?_eq_some {start : Span} {grouped : Bool} {finish : Position}
    {tokens : List Token} {found : Declaration × List Token}
    (hspec : typeSpec? start grouped finish tokens = some found) :
    (∃ word rest, tokens = word :: rest ∧ word.isWord "struct" = true ∧
      found = body "" word.span.collapsed start word.span grouped finish rest) ∨
    (∃ token name word rest, tokens = token :: word :: rest ∧ token.name? = some name ∧
      name ≠ "struct" ∧ word.isWord "struct" = true ∧
      found = body name token.span start word.span grouped finish rest) := by
  unfold typeSpec? at hspec
  split at hspec
  · cases hspec
  · next token rest =>
    split at hspec
    · cases hspec
    · next name hname =>
      split at hspec
      · next hstruct =>
        subst hstruct
        have hword : token.isWord "struct" = true := by
          simp [Token.isWord, Token.name?_eq_some_iff.1 hname]
        exact Or.inl ⟨token, rest, rfl, hword, (Option.some.inj hspec).symm⟩
      · next hne =>
        split at hspec
        · next word rest =>
          split at hspec
          · next hword =>
            exact Or.inr ⟨token, name, word, rest, rfl, hname, hne, hword,
              (Option.some.inj hspec).symm⟩
          · cases hspec
        · cases hspec

theorem body_grouped (name : String) (nameSpan start word : Span) (grouped : Bool)
    (finish : Position) (tokens : List Token) :
    (body name nameSpan start word grouped finish tokens).1.grouped = grouped := by
  unfold body
  split
  · rfl
  · split
    · dsimp only
      split <;> rfl
    · rfl

theorem typeSpec?_grouped {start : Span} {grouped : Bool} {finish : Position}
    {tokens rest : List Token} {declaration : Declaration}
    (hspec : typeSpec? start grouped finish tokens = some (declaration, rest)) :
    declaration.grouped = grouped := by
  rcases typeSpec?_eq_some hspec with
    ⟨word, after, _, _, hfound⟩ | ⟨token, name, word, after, _, _, _, _, hfound⟩
  · exact (congrArg (·.1.grouped) hfound).trans (body_grouped _ _ _ _ _ _ _)
  · exact (congrArg (·.1.grouped) hfound).trans (body_grouped _ _ _ _ _ _ _)

theorem typeSpec?_suffix {start : Span} {grouped : Bool} {finish : Position}
    {tokens rest : List Token} {declaration : Declaration}
    (hspec : typeSpec? start grouped finish tokens = some (declaration, rest)) :
    ∃ token tail, tokens = token :: tail ∧ token.name?.isSome = true ∧ rest <:+ tail := by
  rcases typeSpec?_eq_some hspec with
    ⟨word, after, rfl, hword, hfound⟩ | ⟨token, name, word, after, rfl, hname, _, _, hfound⟩
  · have hbody := body_suffix "" word.span.collapsed start word.span grouped finish after
    rw [← hfound] at hbody
    exact ⟨word, after, rfl, by rw [Token.name?_of_isWord hword]; rfl,
      hbody.trans (skipNewlines_suffix after)⟩
  · have hbody := body_suffix name token.span start word.span grouped finish after
    rw [← hfound] at hbody
    exact ⟨token, word :: after, rfl, by rw [hname]; rfl,
      (hbody.trans (skipNewlines_suffix after)).trans (List.suffix_cons word after)⟩

theorem length_typeSpec?_lt {start : Span} {grouped : Bool} {finish : Position}
    {tokens rest : List Token} {declaration : Declaration}
    (hspec : typeSpec? start grouped finish tokens = some (declaration, rest)) :
    rest.length < tokens.length := by
  obtain ⟨token, tail, rfl, _, hrest⟩ := typeSpec?_suffix hspec
  exact Nat.lt_succ_of_le hrest.length_le

theorem typeSpec?_eq_none_of_name? {start : Span} {grouped : Bool} {finish : Position}
    {token : Token} (hname : token.name? = none) (rest : List Token) :
    typeSpec? start grouped finish (token :: rest) = none := by
  simp [typeSpec?, hname]

theorem next?_file_found {finish : Position} {token : Token} {rest after : List Token}
    {declaration : Declaration} (hword : token.isWord "type" = true)
    (hspec : typeSpec? token.span false finish (skipNewlines rest) = some (declaration, after)) :
    next? finish .file (token :: rest) = some (declaration, .file, after) := by
  rw [next?, if_pos hword]
  simp only [hspec]

theorem next?_file_group {finish : Position} {token paren : Token} {rest members : List Token}
    (hword : token.isWord "type" = true) (hrest : skipNewlines rest = paren :: members)
    (hparen : paren.isPunct '(' = true) :
    next? finish .file (token :: rest) = next? finish .group members := by
  have hname := Token.name?_eq_none_of_isPunct hparen
  have hspec : typeSpec? token.span false finish (skipNewlines rest) = none := by
    rw [hrest, typeSpec?_eq_none_of_name? hname]
  rw [next?, if_pos hword]
  simp only [hspec]
  split
  · next other tokens heq =>
    rw [hrest] at heq
    obtain ⟨rfl, rfl⟩ := List.cons.inj heq
    rw [if_pos hparen]
  · next heq =>
    rw [hrest] at heq
    cases heq

theorem next?_file_other {finish : Position} {token other : Token} {rest tokens : List Token}
    (hword : token.isWord "type" = true)
    (hspec : typeSpec? token.span false finish (skipNewlines rest) = none)
    (hrest : skipNewlines rest = other :: tokens) (hparen : other.isPunct '(' = false) :
    next? finish .file (token :: rest) = next? finish .file (other :: tokens) := by
  rw [next?, if_pos hword]
  simp only [hspec]
  split
  · next first tail heq =>
    rw [hrest] at heq
    obtain ⟨rfl, rfl⟩ := List.cons.inj heq
    simp [hparen]
  · next heq =>
    rw [hrest] at heq
    cases heq

theorem next?_file_skip {finish : Position} {token : Token} {rest : List Token}
    (hword : token.isWord "type" = false) :
    next? finish .file (token :: rest) = next? finish .file rest := by
  rw [next?, if_neg (by simp [hword])]

theorem next?_group_close {finish : Position} {token : Token} {rest : List Token}
    (hclose : token.isPunct ')' = true) :
    next? finish .group (token :: rest) = next? finish .file rest := by
  have hseparator : token.isSeparator = false := by
    have hkind : token.kind = .punct ')' := by simpa [Token.isPunct] using hclose
    simp [Token.isSeparator, Token.isPunct, hkind]
  rw [next?, if_neg (by simp [hseparator]), if_pos hclose]

theorem next?_group_found {finish : Position} {token : Token} {rest after : List Token}
    {declaration : Declaration} {name : String} (hname : token.name? = some name)
    (hspec : typeSpec? token.span true finish (token :: rest) = some (declaration, after)) :
    next? finish .group (token :: rest) = some (declaration, .group, after) := by
  have hseparator := Token.isSeparator_eq_false_of_name? hname
  have hclose := Token.isPunct_eq_false_of_name? hname ')'
  rw [next?, if_neg (by simp [hseparator]), if_neg (by simp [hclose])]
  simp only [hspec]

theorem next?_group_member {finish : Position} {token : Token} {rest : List Token}
    {name : String} (hname : token.name? = some name)
    (hspec : typeSpec? token.span true finish (token :: rest) = none) :
    next? finish .group (token :: rest) = next? finish .group (skipLine ')' 0 rest) := by
  have hseparator := Token.isSeparator_eq_false_of_name? hname
  have hclose := Token.isPunct_eq_false_of_name? hname ')'
  rw [next?, if_neg (by simp [hseparator]), if_neg (by simp [hclose])]
  simp only [hspec, hname, Option.isSome_some, if_true]

theorem next?_group_skip {finish : Position} {token : Token} {rest : List Token}
    (hname : token.name? = none) (hclose : token.isPunct ')' = false) :
    next? finish .group (token :: rest) = next? finish .group rest := by
  rw [next?]
  by_cases hseparator : token.isSeparator = true
  · rw [if_pos hseparator]
  · rw [if_neg hseparator, if_neg (by simp [hclose]), typeSpec?_eq_none_of_name? hname]
    simp [hname]

theorem length_next?_lt {finish : Position} {scope after : Scope} {tokens rest : List Token}
    {declaration : Declaration}
    (hnext : next? finish scope tokens = some (declaration, after, rest)) :
    rest.length < tokens.length := by
  fun_induction next? finish scope tokens with
  | case1 => cases hnext
  | case2 token tail _ declaration rest hspec =>
    cases hnext
    exact Nat.lt_succ_of_lt (Nat.lt_of_lt_of_le (length_typeSpec?_lt hspec)
      (skipNewlines_suffix tail).length_le)
  | case3 token tail _ _ paren members hskip _ ih =>
    have hle := (skipNewlines_suffix tail).length_le
    rw [hskip] at hle
    exact Nat.lt_succ_of_lt (Nat.lt_of_lt_of_le (ih hnext) (Nat.le_of_succ_le hle))
  | case4 token tail _ _ paren members hskip _ ih =>
    have hle := (skipNewlines_suffix tail).length_le
    rw [hskip] at hle
    exact Nat.lt_succ_of_lt (Nat.lt_of_lt_of_le (ih hnext) hle)
  | case5 => cases hnext
  | case6 token tail _ ih => exact Nat.lt_succ_of_lt (ih hnext)
  | case7 token tail _ ih => exact Nat.lt_succ_of_lt (ih hnext)
  | case8 token tail _ _ ih => exact Nat.lt_succ_of_lt (ih hnext)
  | case9 token tail _ _ declaration rest hspec =>
    cases hnext
    exact length_typeSpec?_lt hspec
  | case10 token tail _ _ _ _ ih =>
    exact Nat.lt_succ_of_lt (Nat.lt_of_lt_of_le (ih hnext) (skipLine_suffix _ _ tail).length_le)
  | case11 token tail _ _ _ _ ih => exact Nat.lt_succ_of_lt (ih hnext)

/-- All struct declarations from a place on, in order. -/
def allFrom (finish : Position) (scope : Scope) (tokens : List Token) : List Declaration :=
  match _ : next? finish scope tokens with
  | none => []
  | some (declaration, after, rest) => declaration :: allFrom finish after rest
termination_by tokens.length
decreasing_by exact length_next?_lt ‹_›

theorem allFrom_of_next?_eq_some {finish : Position} {scope after : Scope}
    {tokens rest : List Token} {declaration : Declaration}
    (hnext : next? finish scope tokens = some (declaration, after, rest)) :
    allFrom finish scope tokens = declaration :: allFrom finish after rest := by
  rw [allFrom]
  split
  · next hnone =>
    rw [hnext] at hnone
    cases hnone
  · next found heq =>
    rw [hnext] at heq
    cases heq
    rfl

theorem allFrom_of_next?_eq_none {finish : Position} {scope : Scope} {tokens : List Token}
    (hnext : next? finish scope tokens = none) : allFrom finish scope tokens = [] := by
  rw [allFrom]
  split
  · rfl
  · next found heq =>
    rw [hnext] at heq
    cases heq

theorem allFrom_nil (finish : Position) (scope : Scope) : allFrom finish scope [] = [] :=
  allFrom_of_next?_eq_none (by simp [next?])

/-- Searches that find the same next declaration find the same ones from there on. -/
theorem allFrom_congr {finish : Position} {scope scope' : Scope} {tokens tokens' : List Token}
    (hnext : next? finish scope tokens = next? finish scope' tokens') :
    allFrom finish scope tokens = allFrom finish scope' tokens' := by
  cases hfound : next? finish scope tokens with
  | none => rw [allFrom_of_next?_eq_none hfound, allFrom_of_next?_eq_none (hnext ▸ hfound)]
  | some found =>
    obtain ⟨declaration, after, rest⟩ := found
    rw [allFrom_of_next?_eq_some hfound]
    rw [hnext] at hfound
    rw [allFrom_of_next?_eq_some hfound]

/-- The struct declarations of a source text, in order. -/
def all (source : List Char) : List Declaration :=
  allFrom (Position.start.after source) .file (Token.scan source)

def first? (source : List Char) : Option Declaration :=
  (next? (Position.start.after source) .file (Token.scan source)).map Prod.fst

end FieldBridge.Declaration
