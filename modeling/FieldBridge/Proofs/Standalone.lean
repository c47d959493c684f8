import FieldBridge.Proofs.Groups

/-!
# Texts that stand alone

A text stands alone when a search that enters it leaves it at its end: a struct
declaration that closes, a group that closes, a declaration of anything else, or no
declaration at all.  Placed among other texts it declares what it declares alone.
-/

namespace FieldBridge.Declaration

/-- Tokens up to the parenthesis that opens a group. -/
def OpensGroup (before : List Token) : Prop :=
  ∃ front type gap paren, before = front ++ type :: (gap ++ [paren]) ∧ NoType front ∧
    type.isWord "type" = true ∧ (∀ token ∈ gap, token.kind = .newline) ∧
    paren.isPunct '(' = true

/-- Tokens up to the brace that opens the field list of a struct with a name. -/
def OpensStruct (before : List Token) : Prop :=
  ∃ front type gap name text word gap' opening,
    before = front ++ type :: (gap ++ name :: word :: (gap' ++ [opening])) ∧ NoType front ∧
    type.isWord "type" = true ∧ (∀ token ∈ gap, token.kind = .newline) ∧
    name.name? = some text ∧ text ≠ "struct" ∧ word.isWord "struct" = true ∧
    (∀ token ∈ gap', token.kind = .newline) ∧ opening.isPunct '{' = true

/-- The declaration of a name that the word `struct` does not follow, and no word `type`
behind it. -/
def DeclaresOther (tokens : List Token) : Prop :=
  ∃ front type gap name text rest, tokens = front ++ type :: (gap ++ name :: rest) ∧
    NoType front ∧ type.isWord "type" = true ∧ (∀ token ∈ gap, token.kind = .newline) ∧
    name.name? = some text ∧ text ≠ "struct" ∧ NoType (name :: rest) ∧
    ∀ token, rest.head? = some token → token.isWord "struct" = false

/-- The tokens of a text that stands alone.  The members of a group may be anything that
is well-nested. -/
inductive Standalone : List Token → Prop where
  | silent {tokens : List Token} (silent : NoType tokens) : Standalone tokens
  | other {tokens : List Token} (declares : DeclaresOther tokens) : Standalone tokens
  | struct {before inner behind : List Token} {close : Token} (opens : OpensStruct before)
      (nested : WellNested inner) (closes : close.isPunct '}' = true)
      (silent : NoType behind) : Standalone (before ++ (inner ++ close :: behind))
  | group {before members behind : List Token} {close : Token} (opens : OpensGroup before)
      (nested : WellNested members) (closes : close.isPunct ')' = true)
      (silent : NoType behind) : Standalone (before ++ (members ++ close :: behind))

theorem OpensGroup.next? {before : List Token} (hbefore : OpensGroup before)
    (finish : Position) (members : List Token) :
    next? finish .file (before ++ members) = next? finish .group members := by
  obtain ⟨front, type, gap, paren, rfl, hfront, htype, hgap, hparen⟩ := hbefore
  have hskip := skipNewlines_gap hgap (kind_ne_newline_of_isPunct hparen) members
  rw [List.append_assoc, hfront.next?, List.cons_append, List.append_assoc]
  exact next?_file_group htype hskip hparen

theorem OpensGroup.congr {before others : List Token} (hbefore : OpensGroup before)
    (hkinds : others.map Token.kind = before.map Token.kind) : OpensGroup others := by
  obtain ⟨front, type, gap, paren, rfl, hfront, htype, hgap, hparen⟩ := hbefore
  rw [List.map_append, List.map_cons, List.map_append, List.map_singleton] at hkinds
  obtain ⟨front', more, rfl, hfrontKinds, hmore⟩ := List.map_eq_append_iff.1 hkinds
  obtain ⟨type', more, rfl, htypeKind, hmore⟩ := List.map_eq_cons_iff.1 hmore
  obtain ⟨gap', more, rfl, hgapKinds, hmore⟩ := List.map_eq_append_iff.1 hmore
  obtain ⟨paren', rfl, hparenKind⟩ := List.map_eq_singleton_iff.1 hmore
  refine ⟨front', type', gap', paren', rfl, hfront.congr hfrontKinds, ?_, ?_, ?_⟩
  · rwa [Token.isWord, htypeKind]
  · exact forall_kind_congr (p := (· = .newline)) hgap hgapKinds
  · rwa [Token.isPunct, hparenKind]

/-- A name that the word `struct` does not follow begins no struct declaration. -/
theorem typeSpec?_eq_none_of_head? {name : Token} {text : String} {rest : List Token}
    (hname : name.name? = some text) (hne : text ≠ "struct")
    (hnext : ∀ token, rest.head? = some token → token.isWord "struct" = false) (start : Span)
    (grouped : Bool) (finish : Position) :
    typeSpec? start grouped finish (name :: rest) = none := by
  unfold typeSpec?
  simp only [hname, if_neg hne]
  cases rest with
  | nil => rfl
  | cons word tail => simp [hnext word rfl]

theorem DeclaresOther.next? {tokens behind : List Token} (htokens : DeclaresOther tokens)
    (hbehind : ∀ token, behind.head? = some token → token.isWord "struct" = false)
    (finish : Position) :
    next? finish .file (tokens ++ behind) = next? finish .file behind := by
  obtain ⟨front, type, gap, name, text, rest, rfl, hfront, htype, hgap, hname, hne, hrest,
    hnext⟩ := htokens
  have hskip := skipNewlines_gap hgap
    (kind_ne_newline_of_name? (by rw [hname]; rfl : name.name?.isSome = true)) (rest ++ behind)
  have hhead : ∀ token, (rest ++ behind).head? = some token → token.isWord "struct" = false := by
    intro token htoken
    cases rest with
    | nil => exact hbehind token htoken
    | cons first rest => exact hnext token htoken
  have hspec := typeSpec?_eq_none_of_head? hname hne hhead type.span false finish
  rw [List.append_assoc, hfront.next?, List.cons_append, List.append_assoc, List.cons_append,
    next?_file_other htype (by rw [hskip, hspec]) hskip (Token.isPunct_eq_false_of_name? hname '(')]
  exact hrest.next? behind

theorem DeclaresOther.congr {tokens others : List Token} (htokens : DeclaresOther tokens)
    (hkinds : others.map Token.kind = tokens.map Token.kind) : DeclaresOther others := by
  obtain ⟨front, type, gap, name, text, rest, rfl, hfront, htype, hgap, hname, hne, hrest,
    hnext⟩ := htokens
  rw [List.map_append, List.map_cons, List.map_append, List.map_cons] at hkinds
  obtain ⟨front', more, rfl, hfrontKinds, hmore⟩ := List.map_eq_append_iff.1 hkinds
  obtain ⟨type', more, rfl, htypeKind, hmore⟩ := List.map_eq_cons_iff.1 hmore
  obtain ⟨gap', more, rfl, hgapKinds, hmore⟩ := List.map_eq_append_iff.1 hmore
  obtain ⟨name', rest', rfl, hnameKind, hrestKinds⟩ := List.map_eq_cons_iff.1 hmore
  refine ⟨front', type', gap', name', text, rest', rfl, hfront.congr hfrontKinds, ?_, ?_, ?_, hne,
    ?_, ?_⟩
  · rwa [Token.isWord, htypeKind]
  · exact forall_kind_congr (p := (· = .newline)) hgap hgapKinds
  · rwa [Token.name?, hnameKind]
  · exact hrest.congr (by rw [List.map_cons, List.map_cons, hnameKind, hrestKinds])
  · exact head?_kind_congr (p := fun kind => decide (kind = .ident "struct") = false) hnext
      hrestKinds

theorem OpensStruct.next? {before inner behind : List Token} {close : Token}
    (hbefore : OpensStruct before) (hinner : WellNested inner)
    (hclose : close.isPunct '}' = true)
    (heof : ∀ token ∈ inner ++ close :: behind, token.kind ≠ .eof) (finish : Position) :
    ∃ declaration, next? finish .file (before ++ (inner ++ close :: behind)) =
      some (declaration, .file, behind) ∧ declaration.failure = none := by
  obtain ⟨front, type, gap, name, text, word, gap', opening, rfl, hfront, htype, hgap, hname, hne,
    hword, hgap', hopening⟩ := hbefore
  have hsplit : front ++ type :: (gap ++ name :: word :: (gap' ++ [opening])) ++
      (inner ++ close :: behind) = front ++ type :: (gap ++ name :: word ::
        (gap' ++ opening :: (inner ++ close :: behind))) := by
    simp
  rw [hsplit, hfront.next?, next?_struct htype hgap hname hne hword hgap' hopening hclose hinner
    heof]
  exact ⟨_, rfl, rfl⟩

section Alike

variable {moved : Nat → Nat → Prop} {leftEnd rightEnd left right : List Token}

/-- A search that ends behind the last token both sides share, at the closing brace of the
declaration it finds, finds the same declaration in both. -/
theorem alike_next?_closing {close other : Token} {after after' : List Token}
    (hends : SameHead moved (close :: after) (other :: after')) {finish finish' : Position}
    {scope scope' : Scope} {declaration : Declaration} {rest : List Token}
    (halike : Alike moved (close :: after) (other :: after') left right)
    (hnext : next? finish scope left = some (declaration, scope', rest))
    (hfailure : declaration.failure = none) (hrest : rest.length = after.length) :
    ∃ again, next? finish' scope right = some (again, scope', after') ∧
      declaration.Same moved again ∧ again.grouped = declaration.grouped := by
  obtain ⟨before, spec, start, hfinds⟩ := next?_at hnext
  obtain rfl := hfinds.tokens_eq
  have hreach : (close :: after).length ≤ spec.length := by
    rw [List.length_cons, ← hrest]
    exact length_typeSpec?_lt hfinds.found.spec_eq
  -- the declaration takes its closing brace, so it begins in front of the ends
  obtain ⟨spec', hbefore, hspec⟩ := halike.reanchor hreach
  obtain ⟨token, tail, rfl, hname, _⟩ := typeSpec?_suffix hfinds.found.spec_eq
  obtain ⟨token', tail', rfl, hsame⟩ := hspec.head_inv hends
  have hagain : ∀ start', moved start.start.byte start'.start.byte → ∃ again rest',
      typeSpec? start' (scope' = .group) finish' (token' :: tail') = some (again, rest') ∧
        (rest' = after' ∧ declaration.Same moved again) := by
    intro start' hstart
    obtain ⟨again, hagain, hsame⟩ := alike_typeSpec?_closing hends _ _ hstart hspec
      hfinds.found.spec_eq hfailure hrest
    exact ⟨again, after', hagain, rfl, hsame⟩
  obtain ⟨again, _, hnext', hgrouped, rfl, hdeclaration⟩ :=
    hfinds.exists_next? hbefore (SameHead.of_name? hsame hname) hagain
  exact ⟨again, hnext', hdeclaration, hgrouped⟩

/-- Alike tokens share every token before their ends, and may be anchored there. -/
theorem AlikeFrom.anchor {inner behind : List Token} {close : Token}
    (halike : Alike moved leftEnd rightEnd (inner ++ close :: (behind ++ leftEnd)) right) :
    ∃ close' behind', SameToken moved close close' ∧
      behind'.map Token.kind = behind.map Token.kind ∧
      Alike moved (close :: (behind ++ leftEnd)) (close' :: (behind' ++ rightEnd))
        (inner ++ close :: (behind ++ leftEnd)) right := by
  have hreach : leftEnd.length ≤ (behind ++ leftEnd).length := by
    rw [List.length_append]
    omega
  obtain ⟨ending, hinner, hending⟩ := halike.reanchor (Nat.le_succ_of_le hreach)
  obtain ⟨close', others, rfl, hsame, hothers⟩ := hending.cons_inv hreach
  obtain ⟨behind', rfl, hkinds⟩ := hothers.map_kind
  exact ⟨close', behind', hsame, hkinds, hinner⟩

/-- A struct declaration that closes is found among other tokens as it is found among others
again, and the search goes on behind it. -/
theorem OpensStruct.allFrom {before inner behind : List Token} {close : Token}
    (hopens : OpensStruct before) (hnested : WellNested inner)
    (hcloses : close.isPunct '}' = true) (hsilent : NoType behind)
    (heof : ∀ token ∈ before ++ (inner ++ close :: (behind ++ leftEnd)), token.kind ≠ .eof)
    (halike : Alike moved leftEnd rightEnd
      (before ++ (inner ++ close :: (behind ++ leftEnd))) right) (finish finish' : Position) :
    ∃ found found',
      allFrom finish .file (before ++ (inner ++ close :: (behind ++ leftEnd))) =
        found ++ allFrom finish .file leftEnd ∧
      allFrom finish' .file right = found' ++ allFrom finish' .file rightEnd ∧
      List.Forall₂ (SameClosed moved) found found' := by
  obtain ⟨declaration, hnext, hfailure⟩ := hopens.next? hnested hcloses
    (fun token htoken => heof token (List.mem_append_right before htoken)) finish
  rw [← List.append_assoc] at halike
  obtain ⟨close', behind', hsame, hkinds, hanchored⟩ := halike.anchor
  rw [List.append_assoc] at hanchored
  obtain ⟨again, hagain, hdeclaration, hgrouped⟩ :=
    @alike_next?_closing _ _ _ _ _ _ _ (SameHead.of_isPunct hsame hcloses (by decide))
      finish finish' _ _ _ _ hanchored hnext hfailure rfl
  refine ⟨[declaration], [again], ?_, ?_, .cons ⟨hdeclaration, hgrouped, ?_⟩ .nil⟩
  · rw [allFrom_of_next?_eq_some hnext, allFrom_congr (hsilent.next? leftEnd)]
    rfl
  · rw [allFrom_of_next?_eq_some hagain,
      allFrom_congr ((hsilent.congr hkinds).next? rightEnd)]
    rfl
  · intro failure hfound
    rw [hfailure] at hfound
    cases hfound

/-- Tokens of this kind lead a search in a file to `scope`. -/
def Enters (scope : Scope) (before : List Token) : Prop :=
  ∀ others : List Token, others.map Token.kind = before.map Token.kind →
    ∀ finish tokens, next? finish .file (others ++ tokens) = next? finish scope tokens

theorem OpensGroup.enters {before : List Token} (hopens : OpensGroup before) :
    Enters .group before := fun _ hkinds finish tokens => (hopens.congr hkinds).next? finish tokens

theorem NoType.enters {before : List Token} (hsilent : NoType before) : Enters .file before :=
  fun _ hkinds _ tokens => (hsilent.congr hkinds).next? tokens

/-- What a search finds between brackets that it enters is the same among other tokens as
among others again, and it goes on behind them. -/
theorem Enters.allFrom {before inner behind : List Token} {close : Token} {closer : Char}
    {scope : Scope} (henters : Enters scope before) (hclose : close.bracket = .closing closer)
    (hinside : ∀ after, Inside close after scope (inner ++ close :: after))
    (hsilent : NoType behind)
    (heof : ∀ token ∈ before ++ (inner ++ close :: (behind ++ leftEnd)), token.kind ≠ .eof)
    (heof' : ∀ token ∈ right, token.kind ≠ .eof)
    (halike : Alike moved leftEnd rightEnd
      (before ++ (inner ++ close :: (behind ++ leftEnd))) right) (finish finish' : Position) :
    ∃ found found',
      allFrom finish .file (before ++ (inner ++ close :: (behind ++ leftEnd))) =
        found ++ allFrom finish .file leftEnd ∧
      allFrom finish' .file right = found' ++ allFrom finish' .file rightEnd ∧
      List.Forall₂ (SameClosed moved) found found' := by
  obtain ⟨inside, hbefore, hinner⟩ := halike.reanchor (by simp; omega)
  obtain ⟨before', rfl, hbeforeKinds⟩ := hbefore.map_kind
  obtain ⟨close', behind', hsame, hkinds, hanchored⟩ := hinner.anchor
  obtain ⟨found, found', hfound, hfound', hall⟩ :=
    @alike_allFrom_inside _ _ _ _ _ _ _ _ hclose hsame _ (Nat.le_refl _) finish finish' scope
      (fun token htoken => heof token (List.mem_append_right before htoken))
      (fun token htoken => heof' token (List.mem_append_right before' htoken)) hanchored
      (hinside _)
  refine ⟨found, found', ?_, ?_, hall⟩
  · rw [allFrom_congr (henters before rfl finish _), hfound,
      allFrom_congr (hsilent.next? leftEnd)]
  · rw [allFrom_congr (henters before' hbeforeKinds finish' _), hfound',
      allFrom_congr ((hsilent.congr hkinds).next? rightEnd)]

/-- The tokens of a text that stands alone declare the same among others as among no
others, and the search goes on behind them. -/
theorem Standalone.allFrom {tokens : List Token} (htokens : Standalone tokens)
    (hleft : ∀ token, leftEnd.head? = some token → token.isWord "struct" = false)
    (hright : ∀ token, rightEnd.head? = some token → token.isWord "struct" = false)
    (heof : ∀ token ∈ tokens ++ leftEnd, token.kind ≠ .eof)
    (heof' : ∀ token ∈ right, token.kind ≠ .eof)
    (halike : Alike moved leftEnd rightEnd (tokens ++ leftEnd) right)
    (finish finish' : Position) :
    ∃ found found',
      allFrom finish .file (tokens ++ leftEnd) = found ++ allFrom finish .file leftEnd ∧
      allFrom finish' .file right = found' ++ allFrom finish' .file rightEnd ∧
      List.Forall₂ (SameClosed moved) found found' := by
  cases htokens with
  | silent hsilent =>
      obtain ⟨tokens', rfl, hkinds⟩ := halike.map_kind
      exact ⟨[], [], allFrom_congr (hsilent.next? leftEnd),
        allFrom_congr ((hsilent.congr hkinds).next? rightEnd), .nil⟩
  | other hother =>
      obtain ⟨tokens', rfl, hkinds⟩ := halike.map_kind
      exact ⟨[], [], allFrom_congr (hother.next? hleft finish),
        allFrom_congr ((hother.congr hkinds).next? hright finish'), .nil⟩
  | @struct before inner behind close hopens hnested hcloses hsilent =>
      have hsplit : before ++ (inner ++ close :: behind) ++ leftEnd =
          before ++ (inner ++ close :: (behind ++ leftEnd)) := by
        simp
      rw [hsplit] at halike heof ⊢
      exact hopens.allFrom hnested hcloses hsilent heof halike finish finish'
  | @group before members behind close hopens hnested hcloses hsilent =>
      have hsplit : before ++ (members ++ close :: behind) ++ leftEnd =
          before ++ (members ++ close :: (behind ++ leftEnd)) := by
        simp
      rw [hsplit] at halike heof ⊢
      exact hopens.enters.allFrom (Token.bracket_of_isPunct hcloses)
        (fun after => Enclosed.inside hcloses ⟨[], members, rfl, hnested⟩ .group) hsilent heof
        heof' halike finish finish'

end Alike

end FieldBridge.Declaration
