import FieldBridge.Proofs.Rereading

/-!
# Searching inside brackets

Inside a group a search passes over members and over stray tokens, and where a member
ends is a matter of depth.  The invariant is that the tokens up to the end of the group
close some stack of brackets: whatever the search takes next, it stops at the end of
the group or before it.  Inside other brackets the same holds of a search in a file, and of
one in a group that ends before they do.
-/

namespace FieldBridge.Declaration

variable {close : Token} {closer : Char} {after tokens rest : List Token}

/-- The tokens go on to `close` and `after`, and every bracket opened before `close` is
closed before it. -/
def Enclosed (close : Token) (after tokens : List Token) : Prop :=
  ∃ stack inner, tokens = inner ++ close :: after ∧ closes stack inner = true

theorem Enclosed.ne_nil (hinside : Enclosed close after tokens) : tokens ≠ [] := by
  obtain ⟨stack, inner, rfl, _⟩ := hinside
  simp

theorem Enclosed.length_lt (hinside : Enclosed close after tokens) :
    after.length < tokens.length := by
  obtain ⟨stack, inner, rfl, _⟩ := hinside
  rw [List.length_append, List.length_cons]
  omega

theorem Enclosed.cons_cases {token : Token} (hinside : Enclosed close after (token :: rest)) :
    token = close ∧ rest = after ∨ Enclosed close after rest := by
  obtain ⟨stack, inner, htokens, hinner⟩ := hinside
  cases inner with
  | nil => exact Or.inl (List.cons.inj htokens)
  | cons first inner =>
      obtain ⟨rfl, rfl⟩ := List.cons.inj htokens
      obtain ⟨above, _, habove⟩ := closes_nest hinner
      exact Or.inr ⟨above, inner, rfl, habove⟩

theorem Enclosed.tail {token : Token} (hinside : Enclosed close after (token :: rest))
    (hne : token ≠ close) : Enclosed close after rest :=
  hinside.cons_cases.resolve_left fun heq => hne heq.1

theorem Enclosed.skipNewlines (hclose : close.kind ≠ .newline)
    (hinside : Enclosed close after tokens) : Enclosed close after (skipNewlines tokens) := by
  induction tokens with
  | nil => exact hinside
  | cons token rest ih =>
      unfold Declaration.skipNewlines at ih ⊢
      by_cases hnewline : token.kind = .newline
      · rw [List.dropWhile_cons_of_pos (by simpa)]
        apply ih
        apply hinside.tail
        rintro rfl
        exact hclose hnewline
      · rwa [List.dropWhile_cons_of_neg (by simpa)]

/-- Depth never exceeds the number of open brackets, so a line ends at the closing
bracket of the group or before it. -/
theorem skipLine_enclosed (hclose : close.isPunct ')' = true) {stack : List Char}
    {inner : List Token} (hinner : closes stack inner = true) {depth : Nat}
    (hdepth : depth ≤ stack.length) :
    Enclosed close after (skipLine ')' depth (inner ++ close :: after)) := by
  induction inner generalizing stack depth with
  | nil =>
      obtain rfl : stack = [] := by simpa using hinner
      obtain rfl : depth = 0 := by simpa using hdepth
      have hkind : close.kind = .punct ')' := by simpa [Token.isPunct] using hclose
      have hskip : skipLine ')' 0 ([] ++ close :: after) = close :: after := by
        simp [skipLine, Token.isSeparator, Token.isPunct, hkind]
      rw [hskip]
      exact ⟨[], [], rfl, rfl⟩
  | cons token inner ih =>
      obtain ⟨above, hlength, habove⟩ := closes_nest hinner
      have hnest : nest depth token ≤ above.length := by
        rw [hlength, nest_eq, nest_eq]
        split <;> omega
      rw [List.cons_append, skipLine]
      split
      · exact ⟨above, inner, rfl, habove⟩
      · split
        · exact ⟨stack, token :: inner, rfl, hinner⟩
        · exact ih habove hnest

theorem Enclosed.skipLine (hclose : close.isPunct ')' = true)
    (hinside : Enclosed close after tokens) :
    Enclosed close after (Declaration.skipLine ')' 0 tokens) := by
  obtain ⟨stack, inner, rfl, hinner⟩ := hinside
  exact skipLine_enclosed hclose hinner (Nat.zero_le _)

/-- A bracket that opens inside a group has its partner inside it. -/
theorem Enclosed.split (hclose : close.bracket = .closing closer) {opening : Token}
    {partnered : Char} (hopening : opening.bracket = .opening partnered)
    (hinside : Enclosed close after (opening :: rest)) :
    ∃ inner partner behind, rest = inner ++ partner :: behind ∧ WellNested inner ∧
      partner.bracket = .closing partnered ∧ Enclosed close after behind := by
  obtain ⟨stack, inner, htokens, hinner⟩ := hinside
  cases inner with
  | nil =>
      obtain ⟨rfl, rfl⟩ := List.cons.inj htokens
      rw [hclose] at hopening
      cases hopening
  | cons first inner =>
      obtain ⟨rfl, rfl⟩ := List.cons.inj htokens
      rw [closes_opening hopening] at hinner
      obtain ⟨nested, partner, behind, rfl, hnested, hpartner, hbehind⟩ :=
        @exists_closing [] stack partnered inner hinner
      exact ⟨nested, partner, behind ++ close :: after, by simp, hnested, hpartner,
        stack, behind, rfl, hbehind⟩

/-- A field list closes before the brackets around it do. -/
theorem Enclosed.body (hclose : close.bracket = .closing closer)
    (heof : ∀ token ∈ tokens, token.kind ≠ .eof) (hinside : Enclosed close after tokens)
    (name : String) (nameSpan start word : Span) (grouped : Bool) (finish : Position) :
    Enclosed close after (Declaration.body name nameSpan start word grouped finish tokens).2 ∧
      (Declaration.body name nameSpan start word grouped finish tokens).1.IsClosed := by
  have hskip := hinside.skipNewlines
    (kind_ne_newline_of_isPunct (Token.isPunct_of_bracket_closing hclose))
  cases hrest : Declaration.skipNewlines tokens with
  | nil => exact absurd hrest hskip.ne_nil
  | cons brace rest =>
      rw [hrest] at hskip
      by_cases hbrace : brace.isPunct '{' = true
      · obtain ⟨inner, partner, behind, rfl, hinner, hpartner, hbehind⟩ :=
          hskip.split hclose (Token.bracket_of_isPunct hbrace : brace.bracket = _)
        have hbodyEof : ∀ token ∈ inner ++ partner :: behind, token.kind ≠ .eof := by
          intro token htoken
          apply heof
          apply (skipNewlines_suffix tokens).subset
          rw [hrest]
          exact List.mem_cons_of_mem brace htoken
        have hlist := fieldList_closes (Token.isPunct_of_bracket_closing hpartner) hbodyEof
          ⟨inner, rfl, hinner⟩
        rw [body_closes name nameSpan start word grouped finish hrest hbrace hlist]
        refine ⟨hbehind, ?_⟩
        intro failure hfailure
        cases hfailure
      · have hnone : NoBody tokens := by
          intro token tail hskip
          rw [hrest] at hskip
          obtain ⟨rfl, rfl⟩ := List.cons.inj hskip
          simpa using hbrace
        rw [body_of_noBody hnone, hrest]
        refine ⟨hskip, ?_⟩
        intro failure hfailure
        obtain rfl := Option.some.inj hfailure
        exact fun hkind => nomatch hkind

theorem Enclosed.tail_of_name (hclose : close.bracket = .closing closer) {token : Token}
    (hname : token.name?.isSome = true) (hinside : Enclosed close after (token :: rest)) :
    Enclosed close after rest := by
  apply hinside.tail
  rintro rfl
  simp [Token.name?_eq_none_of_isPunct (Token.isPunct_of_bracket_closing hclose)] at hname

theorem Enclosed.typeSpec? (hclose : close.bracket = .closing closer)
    (heof : ∀ token ∈ tokens, token.kind ≠ .eof) (hinside : Enclosed close after tokens)
    {start : Span} {grouped : Bool} {finish : Position} {declaration : Declaration}
    (hspec : Declaration.typeSpec? start grouped finish tokens = some (declaration, rest)) :
    Enclosed close after rest ∧ declaration.IsClosed := by
  rcases typeSpec?_eq_some hspec with
    ⟨word, behind, rfl, hword, hfound⟩ | ⟨token, name, word, behind, rfl, hname, _, hword, hfound⟩
  · have hbehind := hinside.tail_of_name hclose (by simp [Token.name?_of_isWord hword])
    have hbody := hbehind.body hclose (fun token htoken =>
      heof token (List.mem_cons_of_mem word htoken)) "" word.span.collapsed start word.span
      grouped finish
    rwa [← hfound] at hbody
  · have htail := hinside.tail_of_name hclose (by simp [hname])
    have hbehind := htail.tail_of_name hclose (by simp [Token.name?_of_isWord hword])
    have hbody := hbehind.body hclose (fun other hother =>
      heof other (List.mem_cons_of_mem token (List.mem_cons_of_mem word hother))) name token.span
      start word.span grouped finish
    rwa [← hfound] at hbody

theorem Enclosed.skipGap (hclose : close.bracket = .closing closer) {token : Token}
    (htype : token.isWord "type" = true) (hinside : Enclosed close after (token :: rest)) :
    Enclosed close after (Declaration.skipNewlines rest) := by
  apply Enclosed.skipNewlines
    (kind_ne_newline_of_isPunct (Token.isPunct_of_bracket_closing hclose))
  exact hinside.tail_of_name hclose (by simp [Token.name?_of_isWord htype])

/-- A search inside a group finds a declaration that closes inside it, or it leaves the
group and goes on behind it. -/
theorem next?_enclosed (hclose : close.isPunct ')' = true) {finish : Position} {scope : Scope}
    (heof : ∀ token ∈ tokens, token.kind ≠ .eof) (hinside : Enclosed close after tokens) :
    next? finish scope tokens = next? finish .file after ∨
      ∃ declaration scope' rest, next? finish scope tokens = some (declaration, scope', rest) ∧
        Enclosed close after rest ∧ declaration.IsClosed := by
  have hgapEof : ∀ {token : Token} {rest : List Token},
      (∀ other ∈ token :: rest, other.kind ≠ .eof) →
        ∀ other ∈ skipNewlines rest, other.kind ≠ .eof := by
    intro token rest heof other hother
    exact heof other (List.mem_cons_of_mem token ((skipNewlines_suffix rest).subset hother))
  have hbracket : close.bracket = .closing ')' := Token.bracket_of_isPunct hclose
  fun_induction next? finish scope tokens with
  | case1 => exact absurd rfl hinside.ne_nil
  | case2 token rest htype declaration behind hspec =>
      right
      exact ⟨declaration, _, behind, rfl,
        (hinside.skipGap hbracket htype).typeSpec? hbracket (hgapEof heof) hspec⟩
  | case3 token rest htype hnone paren members hskip hparen ih =>
      have hinside := hinside.skipGap hbracket htype
      have heof := hgapEof heof
      rw [hskip] at hinside heof
      apply ih
      · exact fun other hother => heof other (List.mem_cons_of_mem paren hother)
      · apply hinside.tail
        rintro rfl
        have hkind : paren.kind = .punct ')' := by simpa [Token.isPunct] using hclose
        simp [Token.isPunct, hkind] at hparen
  | case4 token rest htype hnone other members hskip hparen ih =>
      have hinside := hinside.skipGap hbracket htype
      have heof := hgapEof heof
      rw [hskip] at hinside heof
      exact ih heof hinside
  | case5 token rest htype hnone hskip =>
      exact absurd hskip (hinside.skipGap hbracket htype).ne_nil
  | case6 token rest htype ih =>
      rcases hinside.cons_cases with ⟨_, rfl⟩ | hrest
      · exact Or.inl rfl
      · exact ih (fun other hother => heof other (List.mem_cons_of_mem token hother)) hrest
  | case7 token rest hseparator ih =>
      apply ih (fun other hother => heof other (List.mem_cons_of_mem token hother))
      apply hinside.tail
      rintro rfl
      rw [Token.isPunct_eq_false_of_isSeparator hseparator (by decide)] at hclose
      cases hclose
  | case8 token rest hseparator hparen ih =>
      rcases hinside.cons_cases with ⟨_, rfl⟩ | hrest
      · exact Or.inl rfl
      · exact ih (fun other hother => heof other (List.mem_cons_of_mem token hother)) hrest
  | case9 token rest hseparator hparen declaration behind hspec =>
      right
      exact ⟨declaration, _, behind, rfl, hinside.typeSpec? hbracket heof hspec⟩
  | case10 token rest hseparator hparen hnone hname ih =>
      apply ih
      · intro other hother
        exact heof other (List.mem_cons_of_mem token ((skipLine_suffix ')' 0 rest).subset hother))
      · exact (hinside.tail_of_name hbracket hname).skipLine hclose
  | case11 token rest hseparator hparen hnone hname ih =>
      apply ih (fun other hother => heof other (List.mem_cons_of_mem token hother))
      apply hinside.tail
      rintro rfl
      exact hparen hclose

theorem Enclosed.trans {paren : Token} (hparen : paren.bracket = .closing closer)
    (hinner : Enclosed paren rest tokens) (houter : Enclosed close after rest) :
    Enclosed close after tokens := by
  obtain ⟨stack, inner, rfl, hinner⟩ := hinner
  obtain ⟨below, behind, rfl, hbehind⟩ := houter
  refine ⟨stack ++ closer :: below, inner ++ paren :: behind, by simp, ?_⟩
  exact closes_append hinner ((closes_closing hparen).2 ⟨below, rfl, hbehind⟩)

/-- Where a search may stand inside brackets.  In a group it must come to the end of the
group first: this is their own end, or it is enclosed by them. -/
def Inside (close : Token) (after : List Token) : Scope → List Token → Prop
  | .file, tokens => Enclosed close after tokens
  | .group, tokens => Enclosed close after tokens ∧ close.isPunct ')' = true ∨
      ∃ paren rest, paren.isPunct ')' = true ∧ Enclosed paren rest tokens ∧
        Enclosed close after rest

theorem Inside.enclosed {scope : Scope} (hinside : Inside close after scope tokens) :
    Enclosed close after tokens := by
  cases scope with
  | file => exact hinside
  | group =>
      rcases hinside with ⟨henclosed, _⟩ | ⟨paren, rest, hparen, hinner, houter⟩
      · exact henclosed
      · exact hinner.trans (Token.bracket_of_isPunct hparen : paren.bracket = _) houter

theorem Enclosed.inside (hclose : close.isPunct ')' = true)
    (hinside : Enclosed close after tokens) (scope : Scope) : Inside close after scope tokens := by
  cases scope with
  | file => exact hinside
  | group => exact Or.inl ⟨hinside, hclose⟩

/-- A group that ends inside brackets is searched inside them. -/
theorem Enclosed.inside_trans {paren : Token} (hparen : paren.isPunct ')' = true)
    (hinner : Enclosed paren rest tokens) (houter : Enclosed close after rest) (scope : Scope) :
    Inside close after scope tokens := by
  cases scope with
  | file => exact hinner.trans (Token.bracket_of_isPunct hparen : paren.bracket = _) houter
  | group => exact Or.inr ⟨paren, rest, hparen, hinner, houter⟩

/-- What a search inside brackets comes to: behind them it goes on as from there, or it finds
a declaration that closes inside them. -/
def Stays (close : Token) (after : List Token) (finish : Position) (scope : Scope)
    (tokens : List Token) : Prop :=
  next? finish scope tokens = next? finish .file after ∨
    ∃ declaration scope' rest, next? finish scope tokens = some (declaration, scope', rest) ∧
      Inside close after scope' rest ∧ declaration.IsClosed

theorem Stays.congr {finish : Position} {scope scope' : Scope} {others : List Token}
    (hnext : next? finish scope tokens = next? finish scope' others)
    (hstays : Stays close after finish scope' others) : Stays close after finish scope tokens := by
  unfold Stays at hstays ⊢
  rwa [hnext]

/-- A group enclosed by brackets is left for the file behind it, or a declaration is found in
it. -/
theorem Enclosed.stays_group {paren : Token} {finish : Position}
    (hparen : paren.isPunct ')' = true) (heof : ∀ token ∈ tokens, token.kind ≠ .eof)
    (hinner : Enclosed paren rest tokens) (houter : Enclosed close after rest)
    (hrest : Stays close after finish .file rest) : Stays close after finish .group tokens := by
  rcases @next?_enclosed _ _ _ hparen finish .group heof hinner with
    hleaves | ⟨declaration, scope', behind, hnext, hbehind, hclosed⟩
  · exact hrest.congr hleaves
  · exact Or.inr ⟨declaration, scope', behind, hnext,
      hbehind.inside_trans hparen houter scope', hclosed⟩

/-- At a word `type` the search passes over it, enters a group or finds a declaration. -/
theorem stays_type (hclose : close.bracket = .closing closer) {finish : Position} {token : Token}
    (htype : token.isWord "type" = true) (heof : ∀ other ∈ token :: rest, other.kind ≠ .eof)
    (hinside : Enclosed close after (token :: rest))
    (hshorter : ∀ tokens, tokens.length ≤ rest.length → (∀ other ∈ tokens, other.kind ≠ .eof) →
      Enclosed close after tokens → Stays close after finish .file tokens) :
    Stays close after finish .file (token :: rest) := by
  have hgap := hinside.skipGap hclose htype
  have hgapLength := (skipNewlines_suffix rest).length_le
  have hgapEof : ∀ other ∈ skipNewlines rest, other.kind ≠ .eof := fun other hother =>
    heof other (List.mem_cons_of_mem token ((skipNewlines_suffix rest).subset hother))
  cases hspec : typeSpec? token.span false finish (skipNewlines rest) with
  | some found =>
      obtain ⟨declaration, behind⟩ := found
      obtain ⟨hbehind, hclosed⟩ := hgap.typeSpec? hclose hgapEof hspec
      exact Or.inr ⟨declaration, .file, behind, next?_file_found htype hspec, hbehind, hclosed⟩
  | none =>
      cases hskip : skipNewlines rest with
      | nil => exact absurd hskip hgap.ne_nil
      | cons paren members =>
          rw [hskip] at hgap hgapEof hgapLength
          by_cases hparen : paren.isPunct '(' = true
          · obtain ⟨inner, partner, behind, rfl, hinner, hpartner, hbehind⟩ :=
              hgap.split hclose (Token.bracket_of_isPunct hparen : paren.bracket = _)
            have hmembers : ∀ other ∈ inner ++ partner :: behind, other.kind ≠ .eof :=
              fun other hother => hgapEof other (List.mem_cons_of_mem paren hother)
            have hgroup : Enclosed partner behind (inner ++ partner :: behind) :=
              ⟨[], inner, rfl, hinner⟩
            have hlength := hgroup.length_lt
            rw [List.length_cons] at hgapLength
            have hrest := hshorter behind (by omega)
              (fun other hother => hmembers other (by simp [hother])) hbehind
            exact (hgroup.stays_group (Token.isPunct_of_bracket_closing hpartner) hmembers hbehind
              hrest).congr (next?_file_group htype hskip hparen)
          · exact (hshorter _ hgapLength hgapEof hgap).congr
              (next?_file_other htype hspec hskip (by simpa using hparen))

/-- A search in a file passes over what stands inside brackets, and never over the bracket
that closes them. -/
theorem stays_file (hclose : close.bracket = .closing closer) (finish : Position) (bound : Nat)
    (hbound : tokens.length ≤ bound) (heof : ∀ token ∈ tokens, token.kind ≠ .eof)
    (hinside : Enclosed close after tokens) : Stays close after finish .file tokens := by
  induction bound generalizing tokens with
  | zero => exact absurd hinside.length_lt (by omega)
  | succ bound ih =>
      cases tokens with
      | nil => exact absurd rfl hinside.ne_nil
      | cons token rest =>
          rw [List.length_cons] at hbound
          by_cases htype : token.isWord "type" = true
          · exact stays_type hclose htype heof hinside fun others hothers =>
              ih (Nat.le_trans hothers (by omega))
          · have hnext : next? finish .file (token :: rest) = next? finish .file rest :=
              next?_file_skip (by simpa using htype)
            rcases hinside.cons_cases with ⟨_, rfl⟩ | hrest
            · exact Or.inl hnext
            · exact (ih (by omega) (fun other hother =>
                heof other (List.mem_cons_of_mem token hother)) hrest).congr hnext

/-- A search inside brackets finds a declaration that closes inside them, or it leaves them
and goes on behind them. -/
theorem Inside.stays (hclose : close.bracket = .closing closer) {finish : Position}
    {scope : Scope} (heof : ∀ token ∈ tokens, token.kind ≠ .eof)
    (hinside : Inside close after scope tokens) : Stays close after finish scope tokens := by
  cases scope with
  | file => exact stays_file hclose finish _ (Nat.le_refl _) heof hinside
  | group =>
      rcases hinside with ⟨henclosed, hparen⟩ | ⟨paren, rest, hparen, hinner, houter⟩
      · rcases @next?_enclosed _ _ _ hparen finish .group heof henclosed with
          hleaves | ⟨declaration, scope', behind, hnext, hbehind, hclosed⟩
        · exact Or.inl hleaves
        · exact Or.inr ⟨declaration, scope', behind, hnext, hbehind.inside hparen scope', hclosed⟩
      · have hrestEof : ∀ token ∈ rest, token.kind ≠ .eof := by
          obtain ⟨_, inner, rfl, _⟩ := hinner
          exact fun token htoken => heof token (by simp [htoken])
        exact hinner.stays_group hparen heof houter
          (stays_file hclose finish _ (Nat.le_refl _) hrestEof houter)

variable {moved : Nat → Nat → Prop} {other : Token} {after' left right : List Token}

theorem Enclosed.alike (hinside : Enclosed close after left)
    (halike : Alike moved (close :: after) (other :: after') left right) :
    Enclosed other after' right := by
  obtain ⟨stack, inner, rfl, hinner⟩ := hinside
  obtain ⟨inner', rfl, hkinds⟩ := halike.map_kind
  exact ⟨stack, inner', rfl, by rwa [closes_congr hkinds]⟩

theorem Inside.alike {scope : Scope} (hinside : Inside close after scope left)
    (hsame : SameToken moved close other)
    (halike : Alike moved (close :: after) (other :: after') left right) :
    Inside other after' scope right := by
  cases scope with
  | file => exact Enclosed.alike hinside halike
  | group =>
      rcases hinside with ⟨hclosed, hparen⟩ | ⟨paren, rest, hparen, hinner, houter⟩
      · exact Or.inl ⟨hclosed.alike halike, by rwa [hsame.isPunct_eq]⟩
      · obtain ⟨stack, inner, rfl, hinner⟩ := hinner
        obtain ⟨below, behind, rfl, hbehind⟩ := houter
        have hsplit : inner ++ paren :: (behind ++ close :: after) =
            (inner ++ paren :: behind) ++ close :: after := by simp
        rw [hsplit] at halike
        obtain ⟨others, rfl, hkinds⟩ := halike.map_kind
        rw [List.map_append, List.map_cons] at hkinds
        obtain ⟨inner', more, rfl, hinnerKinds, hmore⟩ := List.map_eq_append_iff.1 hkinds
        obtain ⟨paren', behind', rfl, hparenKind, hbehindKinds⟩ := List.map_eq_cons_iff.1 hmore
        refine Or.inr ⟨paren', behind' ++ other :: after', ?_, ⟨stack, inner', by simp, ?_⟩,
          below, behind', rfl, ?_⟩
        · rwa [Token.isPunct, hparenKind]
        · rwa [closes_congr hinnerKinds]
        · rwa [closes_congr hbehindKinds]

/-- Declarations that are the same apart from where they stand, and that are closed. -/
def SameClosed (moved : Nat → Nat → Prop) (declaration other : Declaration) : Prop :=
  declaration.Same moved other ∧ other.grouped = declaration.grouped ∧ declaration.IsClosed

theorem SameHead.of_closing {others : List Token} (hsame : SameToken moved close other)
    (hclose : close.bracket = .closing closer) :
    SameHead moved (close :: after) (other :: others) := by
  have hpunct := Token.isPunct_of_bracket_closing hclose
  apply SameHead.of_isPunct hsame hpunct
  rintro rfl
  cases hclose.symm.trans (Token.bracket_of_isPunct hpunct)

/-- Inside alike brackets the same declarations are found, and the search goes on behind
them. -/
theorem alike_allFrom_inside (hclose : close.bracket = .closing closer)
    (hsame : SameToken moved close other) (bound : Nat) (hbound : left.length ≤ bound)
    {finish finish' : Position} (scope : Scope) (heof : ∀ token ∈ left, token.kind ≠ .eof)
    (heof' : ∀ token ∈ right, token.kind ≠ .eof)
    (halike : Alike moved (close :: after) (other :: after') left right)
    (hinside : Inside close after scope left) :
    ∃ found found', allFrom finish scope left = found ++ allFrom finish .file after ∧
      allFrom finish' scope right = found' ++ allFrom finish' .file after' ∧
      List.Forall₂ (SameClosed moved) found found' := by
  have hends : SameHead moved (close :: after) (other :: after') := .of_closing hsame hclose
  have hother : other.bracket = .closing closer := by
    rwa [Token.bracket, hsame.kind_eq]
  induction bound generalizing left right scope with
  | zero => exact absurd hinside.enclosed.length_lt (by omega)
  | succ bound ih =>
      rcases @Inside.stays _ _ _ _ hclose finish scope heof hinside with
        hleaves | ⟨declaration, scope', rest, hnext, hrest, hclosed⟩
      · -- where one side leaves the brackets, so does the other: what it found, both would find
        rcases @Inside.stays _ _ _ _ hother finish' scope heof' (hinside.alike hsame halike) with
          hleaves' | ⟨declaration, scope', rest, hnext, hrest, hclosed⟩
        · exact ⟨[], [], allFrom_congr hleaves, allFrom_congr hleaves', .nil⟩
        · obtain ⟨again, behind, hagain, _, _, hbehind⟩ :=
            @alike_next? _ _ _ _ _ hends.symm finish' finish _ _ _ _ heof' (by simp)
              halike.symm hnext hrest.enclosed.length_lt
          rw [hleaves] at hagain
          have hshorter := length_next?_lt hagain
          have hlonger := hbehind.symm.length_le
          rw [List.length_cons] at hlonger
          omega
      · obtain ⟨again, behind, hagain, hdeclaration, hgrouped, hbehind⟩ :=
          @alike_next? _ _ _ _ _ hends finish finish' _ _ _ _ heof (by simp) halike hnext
            hrest.enclosed.length_lt
        have hshorter := length_next?_lt hnext
        obtain ⟨found, found', hfound, hfound', hall⟩ := ih (by omega) scope'
          (fun token htoken => heof token ((next?_suffix hnext).subset htoken))
          (fun token htoken => heof' token ((next?_suffix hagain).subset htoken)) hbehind hrest
        refine ⟨declaration :: found, again :: found', ?_, ?_, .cons ⟨?_, ?_, ?_⟩ hall⟩
        · rw [allFrom_of_next?_eq_some hnext, hfound, List.cons_append]
        · rw [allFrom_of_next?_eq_some hagain, hfound', List.cons_append]
        · exact hdeclaration
        · exact hgrouped
        · exact hclosed

end FieldBridge.Declaration
