import FieldBridge.Proofs.LikeReading
import Mathlib.Data.List.Forall2

/-!
# Where declarations are found

A search passes over tokens until a struct declaration begins.  What it passes over
decides where that is, and beyond the first words of the declaration nothing does.
So a search finds a declaration at the same place whatever the declaration goes on
with, and wherever its tokens were moved to.
-/

namespace FieldBridge.Declaration

variable {moved : Nat → Nat → Prop} {leftEnd rightEnd left right : List Token}

/-- A declaration that a search finds behind `before`, at the start of `spec`.  In a
file the word `type` stands before it, and its span begins there. -/
structure FoundAt (finish : Position) (before spec : List Token) (start : Span)
    (declaration : Declaration) (scope : Scope) (rest : List Token) : Prop where
  spec_eq : typeSpec? start (scope = .group) finish spec = some (declaration, rest)
  start_file : scope = .file → ∃ front word gap, before = front ++ word :: gap ∧
    word.isWord "type" = true ∧ word.span = start ∧ ∀ token ∈ gap, token.kind = .newline
  start_group : scope = .group → spec.head?.map Token.span = some start

theorem FoundAt.append {finish : Position} {before spec rest : List Token} {start : Span}
    {declaration : Declaration} {scope : Scope}
    (hfound : FoundAt finish before spec start declaration scope rest) (front : List Token) :
    FoundAt finish (front ++ before) spec start declaration scope rest where
  spec_eq := hfound.spec_eq
  start_file hscope := by
    obtain ⟨left, word, gap, rfl, hword⟩ := hfound.start_file hscope
    exact ⟨front ++ left, word, gap, by rw [List.append_assoc], hword⟩
  start_group := hfound.start_group

/-- The token that a declaration begins with: the word `type` in a file, and otherwise
its first word. -/
theorem FoundAt.exists_lead {finish : Position} {before spec rest : List Token} {start : Span}
    {declaration : Declaration} {scope : Scope}
    (hfound : FoundAt finish before spec start declaration scope rest) :
    ∃ front lead token tail, before = front ++ lead ∧ lead ++ spec = token :: tail ∧
      token.span = start ∧ token.name?.isSome = true ∧
      ∀ other ∈ lead, other.isWord "struct" = false := by
  cases scope with
  | file =>
      obtain ⟨front, word, gap, rfl, hword, hspan, hgap⟩ := hfound.start_file rfl
      refine ⟨front, word :: gap, word, gap ++ spec, rfl, rfl, hspan,
        by rw [Token.name?_of_isWord hword]; rfl, ?_⟩
      intro other hother
      rcases List.mem_cons.1 hother with rfl | hother
      · have hkind : other.kind = .ident "type" := by simpa [Token.isWord] using hword
        simp [Token.isWord, hkind]
      · simp [Token.isWord, hgap other hother]
  | group =>
      obtain ⟨token, tail, rfl, hname, _⟩ := typeSpec?_suffix hfound.spec_eq
      have hspan : token.span = start := by simpa using hfound.start_group rfl
      exact ⟨before, [], token, tail, (List.append_nil before).symm, rfl, hspan, hname, by simp⟩

/-- A search that finds something in `left` finds something in every list that is
alike up to where it was found. -/
def FindsAgain (scope scope' : Scope) (left spec : List Token) (start : Span) : Prop :=
  ∀ (moved : Nat → Nat → Prop) (finish' : Position) (right spec' : List Token),
    Alike moved spec spec' left right → SameHead moved spec spec' →
    (∀ start', moved start.start.byte start'.start.byte →
      (typeSpec? start' (scope' = .group) finish' spec').isSome = true) →
    ∃ start', moved start.start.byte start'.start.byte ∧
      next? finish' scope right = (typeSpec? start' (scope' = .group) finish' spec').map
        fun found => (found.1, scope', found.2)

theorem skipNewlines_eq (tokens : List Token) :
    ∃ gap, tokens = gap ++ skipNewlines tokens ∧ ∀ token ∈ gap, token.kind = .newline :=
  ⟨tokens.takeWhile fun token => token.kind = .newline,
    List.takeWhile_append_dropWhile.symm, by
      intro token htoken
      simpa using List.all_eq_true.1 List.all_takeWhile token htoken⟩

/-- No token is the word `type`, so that a search in a file passes over all of them. -/
def NoType (tokens : List Token) : Prop :=
  ∀ token ∈ tokens, token.isWord "type" = false

instance (tokens : List Token) : Decidable (NoType tokens) :=
  inferInstanceAs (Decidable (∀ token ∈ tokens, token.isWord "type" = false))

theorem NoType.next? {finish : Position} {passed : List Token} (hpassed : NoType passed)
    (tokens : List Token) :
    next? finish .file (passed ++ tokens) = next? finish .file tokens := by
  induction passed with
  | nil => rfl
  | cons token passed ih =>
      rw [List.cons_append, next?_file_skip (hpassed token List.mem_cons_self)]
      exact ih fun other hother => hpassed other (List.mem_cons_of_mem token hother)

theorem forall_kind_congr {p : Token.Kind → Prop} {tokens others : List Token}
    (htokens : ∀ token ∈ tokens, p token.kind)
    (hkinds : others.map Token.kind = tokens.map Token.kind) :
    ∀ other ∈ others, p other.kind := by
  intro other hother
  have hkind : other.kind ∈ tokens.map Token.kind := by
    rw [← hkinds]
    exact List.mem_map_of_mem hother
  obtain ⟨token, htoken, hsame⟩ := List.mem_map.1 hkind
  rw [← hsame]
  exact htokens token htoken

/-- What holds of the kind of a first token, holds where the kinds are the same. -/
theorem head?_kind_congr {p : Token.Kind → Prop} {tokens others : List Token}
    (htokens : ∀ token, tokens.head? = some token → p token.kind)
    (hkinds : others.map Token.kind = tokens.map Token.kind) :
    ∀ other, others.head? = some other → p other.kind := by
  intro other hother
  have hhead := congrArg List.head? hkinds
  rw [List.head?_map, List.head?_map, hother] at hhead
  obtain ⟨token, htoken, hkind⟩ := Option.map_eq_some_iff.1 hhead.symm
  rw [← hkind]
  exact htokens token htoken

theorem NoType.congr {tokens others : List Token} (htokens : NoType tokens)
    (hkinds : others.map Token.kind = tokens.map Token.kind) : NoType others :=
  forall_kind_congr (p := fun kind => decide (kind = .ident "type") = false) htokens hkinds

/-- One token that a search passes over, wherever it stands. -/
theorem FindsAgain.skip {scope scope₁ scope' : Scope} {token : Token} {before spec : List Token}
    {start : Span} (hfinds : FindsAgain scope₁ scope' (before ++ spec) spec start)
    (hskip : ∀ (moved : Nat → Nat → Prop) (finish : Position) (other : Token)
      (others : List Token), SameToken moved token other →
        next? finish scope (other :: others) = next? finish scope₁ others) :
    FindsAgain scope scope' (token :: (before ++ spec)) spec start := by
  intro moved finish' right spec' halike hends hagain
  obtain ⟨other, others, rfl, hsame⟩ := halike.head_inv hends
  rw [hskip moved finish' other others hsame]
  exact hfinds moved finish' others spec'
    (halike.tail (by rw [List.length_append]; omega)) hends hagain

theorem findsAgain_file {token : Token} (hword : token.isWord "type" = true) (tail : List Token) :
    FindsAgain .file .file (token :: tail) (skipNewlines tail) token.span := by
  intro moved finish' right spec' halike hends hagain
  obtain ⟨other, others, rfl, hsame⟩ := halike.head_inv hends
  have hothers := alike_skipNewlines hends
    (halike.tail (skipNewlines_suffix tail).length_le) (Nat.le_refl _)
  obtain ⟨_, hspec'⟩ := hothers.eq_of_length_le (Nat.le_refl _)
  refine ⟨other.span, hsame.start_moved, ?_⟩
  obtain ⟨found', hfound'⟩ := Option.isSome_iff_exists.1 (hagain other.span hsame.start_moved)
  have hagainSpec : typeSpec? other.span false finish' (skipNewlines others) =
      some (found'.1, found'.2) := by
    rw [hspec']
    simpa using hfound'
  rw [next?_file_found (by rwa [hsame.isWord_eq]) hagainSpec, hfound']
  rfl

theorem findsAgain_group {token : Token} (hname : token.name?.isSome = true)
    (tail : List Token) :
    FindsAgain .group .group (token :: tail) (token :: tail) token.span := by
  intro moved finish' right spec' halike hends hagain
  obtain ⟨_, rfl⟩ := halike.eq_of_length_le (Nat.le_refl _)
  obtain ⟨other, others, rfl, hsame⟩ := halike.head_inv hends
  obtain ⟨found', hfound'⟩ := Option.isSome_iff_exists.1 (hagain other.span hsame.start_moved)
  obtain ⟨name, hname⟩ := Option.isSome_iff_exists.1 hname
  have hagainSpec : typeSpec? other.span true finish' (other :: others) =
      some (found'.1, found'.2) := by
    simpa using hfound'
  refine ⟨other.span, hsame.start_moved, ?_⟩
  rw [next?_group_found (by rwa [hsame.name?_eq]) hagainSpec, hfound']
  rfl

/-- A search that enters a group. -/
theorem FindsAgain.enter {scope : Scope} {token paren : Token} {tail before spec : List Token}
    {start : Span} (hfinds : FindsAgain .group scope (before ++ spec) spec start)
    (hword : token.isWord "type" = true) (hskip : skipNewlines tail = paren :: (before ++ spec))
    (hparen : paren.isPunct '(' = true) :
    FindsAgain .file scope (token :: tail) spec start := by
  intro moved finish' right spec' halike hends hagain
  have hle := (skipNewlines_suffix tail).length_le
  rw [hskip, List.length_cons, List.length_append] at hle
  obtain ⟨other, others, rfl, hsame⟩ := halike.head_inv hends
  have hothers := alike_skipNewlines hends (halike.tail (by omega))
    (by rw [hskip, List.length_cons, List.length_append]; omega)
  rw [hskip] at hothers
  obtain ⟨paren', members', hright, hparen'⟩ := hothers.head_inv hends
  rw [hright] at hothers
  rw [next?_file_group (by rwa [hsame.isWord_eq]) hright (by rwa [hparen'.isPunct_eq])]
  exact hfinds moved finish' members' spec'
    (hothers.tail (by rw [List.length_append]; omega)) hends hagain

/-- A search that passes over a word `type` which declares no struct. -/
theorem FindsAgain.other {finish : Position} {scope : Scope} {token first : Token}
    {tail rest spec : List Token} {start : Span}
    (hfinds : FindsAgain .file scope (first :: rest) spec start)
    (hspec : spec.length ≤ rest.length) (hword : token.isWord "type" = true)
    (hskip : skipNewlines tail = first :: rest)
    (hnone : typeSpec? token.span false finish (first :: rest) = none)
    (hparen : first.isPunct '(' = false) :
    FindsAgain .file scope (token :: tail) spec start := by
  intro moved finish' right spec' halike hends hagain
  have hle := (skipNewlines_suffix tail).length_le
  rw [hskip, List.length_cons] at hle
  obtain ⟨other, others, rfl, hsame⟩ := halike.head_inv hends
  have hothers := alike_skipNewlines hends (halike.tail (by omega))
    (by rw [hskip, List.length_cons]; omega)
  rw [hskip] at hothers
  obtain ⟨first', rest', hright, hfirst⟩ := hothers.head_inv hends
  rw [hright] at hothers
  rw [next?_file_other (by rwa [hsame.isWord_eq])
    (by rw [hright]; exact alike_typeSpec?_none hends hothers hspec hnone)
    hright (by rwa [hfirst.isPunct_eq])]
  exact hfinds moved finish' _ spec' hothers hends hagain

/-- A search that passes over a member of a group which declares no struct. -/
theorem FindsAgain.member {finish : Position} {scope : Scope} {token : Token}
    {tail spec : List Token} {start : Span}
    (hfinds : FindsAgain .group scope (skipLine ')' 0 tail) spec start)
    (hspec : spec.length ≤ (skipLine ')' 0 tail).length)
    (hname : token.name?.isSome = true)
    (hnone : typeSpec? token.span true finish (token :: tail) = none) :
    FindsAgain .group scope (token :: tail) spec start := by
  intro moved finish' right spec' halike hends hagain
  have hle := (skipLine_suffix ')' 0 tail).length_le
  obtain ⟨name, hname⟩ := Option.isSome_iff_exists.1 hname
  obtain ⟨other, others, rfl, hsame⟩ := halike.head_inv hends
  have hothers := alike_skipLine hends ')' 0 (halike.tail (by omega)) hspec
  rw [next?_group_member (by rwa [hsame.name?_eq])
    (alike_typeSpec?_none hends halike (by omega) hnone)]
  exact hfinds moved finish' _ spec' hothers hends hagain

/-- A search that begins with `tokens` finds a declaration at `spec`, and finds it there again. -/
structure FindsAt (finish : Position) (scope : Scope) (tokens before spec : List Token)
    (start : Span) (declaration : Declaration) (scope' : Scope) (rest : List Token) : Prop where
  tokens_eq : tokens = before ++ spec
  before_ne_nil : scope = .file → before ≠ []
  found : FoundAt finish before spec start declaration scope' rest
  again : FindsAgain scope scope' tokens spec start

/-- Tokens that lead to a search are put in front of what it finds. -/
theorem FindsAt.extend {finish : Position} {scope scope₁ scope' : Scope}
    {passed tokens before spec rest : List Token} {start : Span} {declaration : Declaration}
    (hfinds : FindsAt finish scope₁ passed before spec start declaration scope' rest)
    {front : List Token} (hfront : front ≠ []) (htokens : tokens = front ++ passed)
    (hagain : FindsAgain scope scope' tokens spec start) :
    FindsAt finish scope tokens (front ++ before) spec start declaration scope' rest where
  tokens_eq := by rw [htokens, hfinds.tokens_eq, List.append_assoc]
  before_ne_nil _ := List.append_ne_nil_of_left_ne_nil hfront before
  found := hfinds.found.append front
  again := hagain

/-- One token that a search passes over, wherever it stands. -/
theorem FindsAt.skip {finish : Position} {scope scope₁ scope' : Scope} {token : Token}
    {tail before spec rest : List Token} {start : Span} {declaration : Declaration}
    (hfinds : FindsAt finish scope₁ tail before spec start declaration scope' rest)
    (hskip : ∀ (moved : Nat → Nat → Prop) (finish : Position) (other : Token)
      (others : List Token), SameToken moved token other →
        next? finish scope (other :: others) = next? finish scope₁ others) :
    FindsAt finish scope (token :: tail) (token :: before) spec start declaration scope' rest := by
  apply hfinds.extend (List.cons_ne_nil token []) rfl
  have hagain := hfinds.again
  rw [hfinds.tokens_eq] at hagain ⊢
  exact hagain.skip hskip

/-- Where a search finds a declaration, and that it is found there again.  The induction
is on the search, with one lemma above for each way in which it goes on. -/
theorem next?_at {finish : Position} {scope scope' : Scope} {tokens rest : List Token}
    {declaration : Declaration}
    (hnext : next? finish scope tokens = some (declaration, scope', rest)) :
    ∃ before spec start,
      FindsAt finish scope tokens before spec start declaration scope' rest := by
  fun_induction next? finish scope tokens with
  | case1 => cases hnext
  | case2 token tail hword found after hspec =>
      cases hnext
      obtain ⟨gap, htail, hgap⟩ := skipNewlines_eq tail
      refine ⟨token :: gap, skipNewlines tail, token.span, by rw [List.cons_append, ← htail],
        by simp, ⟨by simpa using hspec, ?_, by simp⟩, findsAgain_file hword tail⟩
      exact fun _ => ⟨[], token, gap, rfl, hword, rfl, hgap⟩
  | case3 token tail hword hnone paren members hskip hparen ih =>
      obtain ⟨gap, htail, hgap⟩ := skipNewlines_eq tail
      obtain ⟨before, spec, start, hfinds⟩ := ih hnext
      have hmembers := hfinds.again
      rw [hfinds.tokens_eq] at hskip hmembers
      rw [hskip, ← hfinds.tokens_eq] at htail
      exact ⟨_, spec, start, hfinds.extend (List.cons_ne_nil token (gap ++ [paren]))
        (by simp [htail]) (hmembers.enter hword hskip hparen)⟩
  | case4 token tail hword hnone first members hskip hparen ih =>
      obtain ⟨gap, htail, hgap⟩ := skipNewlines_eq tail
      rw [hskip] at htail hnone
      obtain ⟨before, spec, start, hfinds⟩ := ih hnext
      have hmembers : spec.length ≤ members.length := by
        have hlength := congrArg List.length hfinds.tokens_eq
        have hpos := List.length_pos_iff.2 (hfinds.before_ne_nil rfl)
        rw [List.length_cons, List.length_append] at hlength
        omega
      exact ⟨_, spec, start, hfinds.extend (List.cons_ne_nil token gap) (by simp [htail])
        (hfinds.again.other hmembers hword hskip hnone (by simpa using hparen))⟩
  | case5 => cases hnext
  | case6 token tail hword ih =>
      obtain ⟨before, spec, start, hfinds⟩ := ih hnext
      refine ⟨token :: before, spec, start, hfinds.skip fun moved finish other others hsame => ?_⟩
      exact next?_file_skip (by rw [hsame.isWord_eq]; simpa using hword)
  | case7 token tail hseparator ih =>
      obtain ⟨before, spec, start, hfinds⟩ := ih hnext
      refine ⟨token :: before, spec, start, hfinds.skip fun moved finish other others hsame => ?_⟩
      apply next?_group_skip
      · rw [hsame.name?_eq]
        exact Token.name?_eq_none_of_isSeparator hseparator
      · rw [hsame.isPunct_eq]
        exact Token.isPunct_eq_false_of_isSeparator hseparator (by decide)
  | case8 token tail hseparator hclose ih =>
      obtain ⟨before, spec, start, hfinds⟩ := ih hnext
      refine ⟨token :: before, spec, start, hfinds.skip fun moved finish other others hsame => ?_⟩
      exact next?_group_close (by rwa [hsame.isPunct_eq])
  | case9 token tail hseparator hclose found after hspec =>
      cases hnext
      obtain ⟨_, _, heq, hname, _⟩ := typeSpec?_suffix hspec
      obtain ⟨rfl, rfl⟩ := List.cons.inj heq
      exact ⟨[], token :: tail, token.span, rfl, by simp,
        ⟨by simpa using hspec, by simp, by simp⟩, findsAgain_group hname tail⟩
  | case10 token tail hseparator hclose hnone hname ih =>
      obtain ⟨before, spec, start, hfinds⟩ := ih hnext
      obtain ⟨front, htail⟩ := skipLine_suffix ')' 0 tail
      have hspecLe : spec.length ≤ (skipLine ')' 0 tail).length := by
        rw [hfinds.tokens_eq, List.length_append]
        omega
      exact ⟨_, spec, start, hfinds.extend (List.cons_ne_nil token front) (by simp [htail])
        (hfinds.again.member hspecLe hname hnone)⟩
  | case11 token tail hseparator hclose hnone hname ih =>
      obtain ⟨before, spec, start, hfinds⟩ := ih hnext
      refine ⟨token :: before, spec, start, hfinds.skip fun moved finish other others hsame => ?_⟩
      exact next?_group_skip (by rw [hsame.name?_eq]; simpa using hname)
        (by rw [hsame.isPunct_eq]; simpa using hclose)

/-- Lists that are alike up to their ends are alike up to any earlier place. -/
theorem AlikeFrom.reanchor {last last' : Option Nat} {before spec : List Token}
    (halike : AlikeFrom moved leftEnd rightEnd last last' (before ++ spec) right)
    (hreach : leftEnd.length ≤ spec.length) :
    ∃ spec', AlikeFrom moved spec spec' last last' (before ++ spec) right ∧
      Alike moved leftEnd rightEnd spec spec' := by
  induction before generalizing right last last' with
  | nil => exact ⟨right, .done last last', halike.weaken⟩
  | cons token before ih =>
      rw [List.cons_append] at halike
      obtain ⟨other, others, rfl, hsame, hgap, hrest⟩ :=
        halike.cons_inv (by rw [List.length_append]; omega)
      obtain ⟨spec', hbefore, hspec⟩ := ih hrest
      exact ⟨spec', .cons hsame hgap hbefore, hspec⟩

theorem SameHead.of_name? {token other : Token} {left right : List Token}
    (hsame : SameToken moved token other) (hname : token.name?.isSome = true) :
    SameHead moved (token :: left) (other :: right) := by
  obtain ⟨name, hname⟩ := Option.isSome_iff_exists.1 hname
  exact .cons hsame (Token.isPunct_eq_false_of_name? hname '.')

theorem SameHead.of_isPunct {token other : Token} {c : Char} {left right : List Token}
    (hsame : SameToken moved token other) (hpunct : token.isPunct c = true) (hc : c ≠ '.') :
    SameHead moved (token :: left) (other :: right) := by
  have hkind : token.kind = .punct c := by simpa [Token.isPunct] using hpunct
  apply SameHead.cons hsame
  simp [Token.isPunct, hkind, hc]

/-- A struct declaration begins with a name, so what is alike begins with the same. -/
theorem sameHead_spec {start : Span} {grouped : Bool} {finish : Position}
    {spec spec' rest : List Token} {declaration : Declaration}
    (hspec : typeSpec? start grouped finish spec = some (declaration, rest))
    (halike : Alike moved leftEnd rightEnd spec spec') (hreach : leftEnd.length < spec.length) :
    SameHead moved spec spec' := by
  obtain ⟨head, tail, rfl, hname, _⟩ := typeSpec?_suffix hspec
  obtain ⟨head', tail', rfl, hsame, _⟩ := halike.cons_inv (Nat.le_of_lt_succ hreach)
  exact SameHead.of_name? hsame hname

/-- What a search finds is found in alike tokens too, if a declaration is read at the same
place there, wherever its span begins. -/
theorem FindsAt.exists_next? {finish finish' : Position} {scope scope' : Scope}
    {before spec spec' rest : List Token} {start : Span} {declaration : Declaration}
    {p : Declaration → List Token → Prop}
    (hfinds : FindsAt finish scope left before spec start declaration scope' rest)
    (halike : Alike moved spec spec' left right) (hhead : SameHead moved spec spec')
    (hagain : ∀ start', moved start.start.byte start'.start.byte → ∃ other rest',
      typeSpec? start' (scope' = .group) finish' spec' = some (other, rest') ∧
        p other rest') :
    ∃ other rest', next? finish' scope right = some (other, scope', rest') ∧
      other.grouped = declaration.grouped ∧ p other rest' := by
  obtain ⟨start', hstart, hnext⟩ := hfinds.again moved finish' right spec' halike hhead
    fun start' hstart => by
      obtain ⟨other, rest', hother, _⟩ := hagain start' hstart
      rw [hother]
      rfl
  obtain ⟨other, rest', hother, hp⟩ := hagain start' hstart
  refine ⟨other, rest', by rw [hnext, hother]; rfl, ?_, hp⟩
  rw [typeSpec?_grouped hother, typeSpec?_grouped hfinds.found.spec_eq]

theorem AlikeFrom.map_kind {last last' : Option Nat} {before : List Token}
    (halike : AlikeFrom moved leftEnd rightEnd last last' (before ++ leftEnd) right) :
    ∃ before', right = before' ++ rightEnd ∧ before'.map Token.kind = before.map Token.kind := by
  induction before generalizing right last last' with
  | nil =>
      obtain ⟨_, rfl⟩ := halike.eq_of_length_le (Nat.le_refl _)
      exact ⟨[], rfl, rfl⟩
  | cons token before ih =>
      rw [List.cons_append] at halike
      obtain ⟨other, others, rfl, hsame, _, hrest⟩ :=
        halike.cons_inv (by rw [List.length_append]; omega)
      obtain ⟨before', rfl, hkinds⟩ := ih hrest
      exact ⟨other :: before', rfl, by rw [List.map_cons, List.map_cons, hsame.kind_eq, hkinds]⟩

/-- A search that ends before alike tokens do finds the same declaration in both. -/
theorem alike_next? (hends : SameHead moved leftEnd rightEnd) {finish finish' : Position}
    {scope scope' : Scope} {declaration : Declaration} {rest : List Token}
    (heof : ∀ token ∈ left, token.kind ≠ .eof)
    (hfinish : leftEnd = [] → moved finish.byte finish'.byte)
    (halike : Alike moved leftEnd rightEnd left right)
    (hnext : next? finish scope left = some (declaration, scope', rest))
    (hreach : leftEnd.length ≤ rest.length) :
    ∃ other rest', next? finish' scope right = some (other, scope', rest') ∧
      declaration.Same moved other ∧ other.grouped = declaration.grouped ∧
      Alike moved leftEnd rightEnd rest rest' := by
  obtain ⟨before, spec, start, hfinds⟩ := next?_at hnext
  obtain rfl := hfinds.tokens_eq
  have hspecEof : ∀ token ∈ spec, token.kind ≠ .eof := fun token htoken =>
    heof token (List.mem_append_right before htoken)
  have hlength := length_typeSpec?_lt hfinds.found.spec_eq
  obtain ⟨spec', hbefore, hspec⟩ := halike.reanchor (by omega)
  obtain ⟨other, rest', hother, hgrouped, hsame, hrest⟩ := hfinds.exists_next? hbefore
    (sameHead_spec hfinds.found.spec_eq hspec (by omega)) fun start' hstart =>
      alike_typeSpec? hends _ _ hspecEof hstart hfinish hspec hfinds.found.spec_eq hreach
  exact ⟨other, rest', hother, hsame, hgrouped, hrest⟩

theorem SameToken.symm {token other : Token} (hsame : SameToken moved token other) :
    SameToken (flip moved) other token where
  kind_eq := hsame.kind_eq.symm
  text_eq hkind := (hsame.text_eq (by rwa [← hsame.kind_eq])).symm
  start_moved := hsame.start_moved
  stop_moved := hsame.stop_moved
  kind_ne := by
    rw [hsame.kind_eq]
    exact hsame.kind_ne

theorem SameHead.symm (hends : SameHead moved leftEnd rightEnd) :
    SameHead (flip moved) rightEnd leftEnd := by
  cases hends with
  | nil => exact .nil
  | cons same point => exact .cons same.symm (by rwa [same.isPunct_eq])

theorem AlikeFrom.symm {last last' : Option Nat}
    (halike : AlikeFrom moved leftEnd rightEnd last last' left right) :
    AlikeFrom (flip moved) rightEnd leftEnd last' last right left := by
  induction halike with
  | done => exact .done _ _
  | cons same gap _ ih =>
      exact .cons same.symm (fun hkind => (gap (by rwa [← same.kind_eq])).symm) ih

theorem AlikeFrom.ne_eof {last last' : Option Nat} (hends : ∀ token ∈ leftEnd, token.kind ≠ .eof)
    (halike : AlikeFrom moved leftEnd rightEnd last last' left right) :
    ∀ token ∈ left, token.kind ≠ .eof := by
  induction halike with
  | done => exact hends
  | cons same _ _ ih =>
      intro token htoken
      rcases List.mem_cons.1 htoken with rfl | htoken
      · exact same.kind_ne
      · exact ih token htoken

/-- All declarations of alike tokens are the same apart from where they stand. -/
theorem alike_allFrom (bound : Nat) (hbound : left.length ≤ bound) {finish finish' : Position}
    (scope : Scope) (hfinish : moved finish.byte finish'.byte)
    (halike : Alike moved [] [] left right) :
    List.Forall₂ (fun declaration other => declaration.Same moved other ∧
        other.grouped = declaration.grouped)
      (allFrom finish scope left) (allFrom finish' scope right) := by
  induction bound generalizing left right scope with
  | zero =>
      obtain rfl := List.length_eq_zero_iff.1 (Nat.le_zero.1 hbound)
      obtain rfl := halike.nil_inv .nil
      rw [allFrom_nil, allFrom_nil]
      exact .nil
  | succ bound ih =>
      cases hleft : next? finish scope left with
      | none =>
          cases hright : next? finish' scope right with
          | none =>
              rw [allFrom_of_next?_eq_none hleft, allFrom_of_next?_eq_none hright]
              exact .nil
          | some found =>
              obtain ⟨declaration, after, rest⟩ := found
              have hends : SameHead (flip moved) [] [] := .nil
              obtain ⟨other, rest', hother, _⟩ := alike_next? hends (halike.symm.ne_eof (by simp))
                (fun _ => hfinish) halike.symm hright (Nat.zero_le _)
              rw [hleft] at hother
              cases hother
      | some found =>
          obtain ⟨declaration, after, rest⟩ := found
          have hshorter := length_next?_lt hleft
          obtain ⟨other, rest', hother, hsame, hgrouped, hrest⟩ := alike_next? .nil
            (halike.ne_eof (by simp)) (fun _ => hfinish) halike hleft (Nat.zero_le _)
          rw [allFrom_of_next?_eq_some hleft, allFrom_of_next?_eq_some hother]
          exact .cons ⟨hsame, hgrouped⟩ (ih (by omega) after hrest)

theorem next?_suffix {finish : Position} {scope scope' : Scope} {tokens rest : List Token}
    {declaration : Declaration}
    (hnext : next? finish scope tokens = some (declaration, scope', rest)) :
    rest <:+ tokens := by
  obtain ⟨before, spec, start, rfl, _, hfound, _⟩ := next?_at hnext
  obtain ⟨token, tail, rfl, _, hrest⟩ := typeSpec?_suffix hfound.spec_eq
  exact (hrest.trans (List.suffix_cons token tail)).trans (List.suffix_append before _)

/-- Every declaration of a text is found by a search somewhere in its tokens. -/
theorem exists_next?_of_mem_allFrom {finish : Position} {scope : Scope} {tokens : List Token}
    {declaration : Declaration} (hmem : declaration ∈ allFrom finish scope tokens) :
    ∃ front tail scope₁ scope₂ rest, tokens = front ++ tail ∧
      next? finish scope₁ tail = some (declaration, scope₂, rest) := by
  fun_induction allFrom finish scope tokens with
  | case1 => simp at hmem
  | case2 scope tokens found after rest hnext ih =>
      rcases List.mem_cons.1 hmem with rfl | hmem
      · exact ⟨[], tokens, scope, after, rest, rfl, hnext⟩
      · obtain ⟨front, tail, scope₁, scope₂, last, rfl, hfound⟩ := ih hmem
        obtain ⟨passed, hpassed⟩ := next?_suffix hnext
        exact ⟨passed ++ front, tail, scope₁, scope₂, last, by rw [← hpassed, List.append_assoc],
          hfound⟩

/-- Every declaration of a text begins somewhere in its tokens. -/
theorem exists_foundAt_of_mem_all {source : List Char} {declaration : Declaration}
    (hmem : declaration ∈ all source) :
    ∃ before spec start scope rest, Token.scan source = before ++ spec ∧
      FoundAt (Position.start.after source) before spec start declaration scope rest := by
  obtain ⟨passed, tokens, _, scope, rest, hpassed, hnext⟩ := exists_next?_of_mem_allFrom hmem
  obtain ⟨before, spec, start, rfl, _, hfound, _⟩ := next?_at hnext
  exact ⟨passed ++ before, spec, start, scope, rest, by rw [hpassed, List.append_assoc],
    hfound.append passed⟩

end FieldBridge.Declaration
