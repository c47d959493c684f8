import FieldBridge.Proofs.Validity

/-!
# Stopping at the first declaration

Reading one struct stops the search at the first declaration, inside a group too, whose other
members are then never looked at.  A search that is given a limit is one loop over the file, with
a loop over the members of every group; it finds the first declarations of the text, as many as
the limit allows.  So the first struct is the same whether one is read or all are.
-/

namespace FieldBridge

namespace Declaration

/-- The struct declarations among the members of a group, up to a limit, and the tokens behind
the group, or behind the declaration that reached the limit. -/
def groupWithin (finish : Position) : Nat → List Token → List Declaration × List Token
  | 0, tokens => ([], tokens)
  | _ + 1, [] => ([], [])
  | limit + 1, token :: rest =>
    if token.isSeparator then groupWithin finish (limit + 1) rest
    else if token.isPunct ')' then ([], rest)
    else
      match _ : typeSpec? token.span true finish (token :: rest) with
      | some (declaration, after) =>
        let more := groupWithin finish limit after
        (declaration :: more.1, more.2)
      | none =>
        if token.name?.isSome then groupWithin finish (limit + 1) (skipLine ')' 0 rest)
        else groupWithin finish (limit + 1) rest
termination_by _ tokens => tokens.length
decreasing_by
  · simp
  · exact length_typeSpec?_lt ‹_›
  · exact Nat.lt_succ_of_le (skipLine_suffix _ _ rest).length_le
  · simp

theorem groupWithin_suffix (finish : Position) (limit : Nat) (tokens : List Token) :
    (groupWithin finish limit tokens).2 <:+ tokens := by
  fun_induction groupWithin finish limit tokens with
  | case1 => exact List.suffix_rfl
  | case2 => exact List.suffix_rfl
  | case3 limit token rest _ ih => exact ih.trans (List.suffix_cons token rest)
  | case4 limit token rest => exact List.suffix_cons token rest
  | case5 limit token rest _ _ declaration after hspec more ih =>
      obtain ⟨other, tail, htokens, _, hafter⟩ := typeSpec?_suffix hspec
      exact (ih.trans hafter).trans (htokens ▸ List.suffix_cons other tail)
  | case6 limit token rest _ _ _ _ ih =>
      exact (ih.trans (skipLine_suffix _ _ rest)).trans (List.suffix_cons token rest)
  | case7 limit token rest _ _ _ _ ih => exact ih.trans (List.suffix_cons token rest)

/-- The struct declarations of a file, up to a limit. -/
def fileWithin (finish : Position) : Nat → List Token → List Declaration
  | 0, _ => []
  | _ + 1, [] => []
  | limit + 1, token :: rest =>
    if token.isWord "type" then
      match _ : skipNewlines rest with
      | [] => []
      | first :: after =>
        if first.isPunct '(' then
          let group := groupWithin finish (limit + 1) after
          -- A group that reaches the limit leaves nothing to look for behind it.
          group.1 ++ fileWithin finish (limit + 1 - group.1.length) group.2
        else
          match _ : typeSpec? token.span false finish (first :: after) with
          | some (declaration, behind) => declaration :: fileWithin finish limit behind
          | none => fileWithin finish (limit + 1) (first :: after)
    else fileWithin finish (limit + 1) rest
termination_by _ tokens => tokens.length
decreasing_by
  · have hskip := (skipNewlines_suffix rest).length_le
    have hgroup := (groupWithin_suffix finish (limit + 1) after).length_le
    simp only [*, List.length_cons] at hskip ⊢
    omega
  · have hskip := (skipNewlines_suffix rest).length_le
    have hspec := length_typeSpec?_lt ‹typeSpec? _ _ _ _ = some _›
    simp only [*, List.length_cons] at hskip hspec ⊢
    omega
  · have hskip := (skipNewlines_suffix rest).length_le
    simp only [*, List.length_cons] at hskip ⊢
    omega
  · simp

/-- The first struct declarations of a source text, up to a limit. -/
def within (limit : Nat) (source : List Char) : List Declaration :=
  fileWithin (Position.start.after source) limit (Token.scan source)

theorem exists_name_of_typeSpec? {start : Span} {grouped : Bool} {finish : Position}
    {token : Token} {tokens rest : List Token} {declaration : Declaration}
    (hspec : typeSpec? start grouped finish (token :: tokens) = some (declaration, rest)) :
    ∃ name, token.name? = some name := by
  obtain ⟨other, tail, htokens, hname, _⟩ := typeSpec?_suffix hspec
  obtain ⟨rfl, rfl⟩ := List.cons.inj htokens
  exact Option.isSome_iff_exists.1 hname

/-- From inside a group the search with a limit goes on as the search for all does. -/
theorem take_allFrom_group (finish : Position) (limit : Nat) (tokens : List Token) :
    (allFrom finish .group tokens).take limit =
      (groupWithin finish limit tokens).1 ++
        (allFrom finish .file (groupWithin finish limit tokens).2).take
          (limit - (groupWithin finish limit tokens).1.length) := by
  fun_induction groupWithin finish limit tokens with
  | case1 => simp
  | case2 => simp [allFrom_nil]
  | case3 limit token rest hseparator ih =>
      have hnext : next? finish .group (token :: rest) = next? finish .group rest :=
        next?_group_skip (Token.name?_eq_none_of_isSeparator hseparator)
          (Token.isPunct_eq_false_of_isSeparator hseparator (by decide))
      rw [allFrom_congr hnext, ih]
  | case4 limit token rest _ hclose =>
      -- The whole limit is left for the file behind the group.
      rw [allFrom_congr (next?_group_close hclose)]
      rfl
  | case5 limit token rest _ _ declaration after hspec more ih =>
      obtain ⟨name, hname⟩ := exists_name_of_typeSpec? hspec
      rw [allFrom_of_next?_eq_some (next?_group_found hname hspec), List.take_succ_cons, ih,
        List.length_cons, Nat.succ_sub_succ, List.cons_append]
  | case6 limit token rest _ _ hspec hname ih =>
      obtain ⟨name, hname⟩ := Option.isSome_iff_exists.1 hname
      rw [allFrom_congr (next?_group_member hname hspec), ih]
  | case7 limit token rest _ hclose hspec hname ih =>
      have hnext : next? finish .group (token :: rest) = next? finish .group rest :=
        next?_group_skip (Option.not_isSome_iff_eq_none.1 hname) (Bool.eq_false_iff.2 hclose)
      rw [allFrom_congr hnext, ih]

theorem next?_file_end {finish : Position} {token : Token} {rest : List Token}
    (hword : token.isWord "type" = true) (hrest : skipNewlines rest = []) :
    next? finish .file (token :: rest) = none := by
  have hspec : typeSpec? token.span false finish (skipNewlines rest) = none := by
    rw [hrest, typeSpec?]
  rw [next?, if_pos hword]
  simp only [hspec]
  split
  · next heq =>
    rw [hrest] at heq
    cases heq
  · rfl

theorem fileWithin_eq_take (finish : Position) (limit : Nat) (tokens : List Token) :
    fileWithin finish limit tokens = (allFrom finish .file tokens).take limit := by
  fun_induction fileWithin finish limit tokens with
  | case1 => simp
  | case2 => simp [allFrom_nil]
  | case3 limit token rest hword hskip =>
      rw [allFrom_of_next?_eq_none (next?_file_end hword hskip), List.take_nil]
  | case4 limit token rest hword first after hskip hparen group ih =>
      rw [allFrom_congr (next?_file_group hword hskip hparen), take_allFrom_group, ih]
  | case5 limit token rest hword first after hskip hparen declaration behind hspec ih =>
      rw [← hskip] at hspec
      rw [allFrom_of_next?_eq_some (next?_file_found hword hspec), List.take_succ_cons, ih]
  | case6 limit token rest hword first after hskip hparen hspec ih =>
      rw [← hskip] at hspec
      rw [allFrom_congr (next?_file_other hword hspec hskip (Bool.eq_false_iff.2 hparen)), ih]
  | case7 limit token rest hword ih =>
      rw [allFrom_congr (next?_file_skip (Bool.eq_false_iff.2 hword)), ih]

theorem within_eq_take (limit : Nat) (source : List Char) :
    within limit source = (all source).take limit :=
  fileWithin_eq_take _ limit _

theorem first?_eq_within (source : List Char) : first? source = (within 1 source).head? := by
  rw [within_eq_take, ← head?_all]
  cases all source <;> rfl

section Findings

/-- None of the findings says that there is no declaration. -/
def NoneMissing (findings : List Diagnostic) : Prop :=
  ∀ finding ∈ findings, finding.kind ≠ .missingDeclaration

theorem NoneMissing.append {findings others : List Diagnostic} (hfindings : NoneMissing findings)
    (hothers : NoneMissing others) : NoneMissing (findings ++ others) :=
  List.forall_mem_append.2 ⟨hfindings, hothers⟩

theorem noneMissing_checkField (before : List Field) (field : Field) :
    NoneMissing (checkField before field) := by
  refine NoneMissing.append ?_ ?_
  · unfold checkFieldName
    split
    · simp [NoneMissing, Diagnostic.noFieldName]
    · split
      · simp [NoneMissing, Diagnostic.badFieldName]
      · split <;> simp [NoneMissing, Diagnostic.repeatedField]
  · split <;> simp [NoneMissing, Diagnostic.noFieldType]

theorem noneMissing_check (declaration : Declaration) : NoneMissing declaration.check := by
  refine (NoneMissing.append ?_ ?_).append ?_
  · unfold checkName
    split
    · simp [NoneMissing, Diagnostic.noStructName]
    · split <;> simp [NoneMissing, Diagnostic.unexported]
  · split <;> simp [NoneMissing, Diagnostic.noFields]
  · intro finding hfinding
    obtain ⟨front, field, _, hmem⟩ := exists_of_mem_checkFields hfinding
    exact noneMissing_checkField front field finding hmem

theorem noneMissing_diagnostics {source : List Char} {declaration : Declaration}
    (hmem : declaration ∈ all source) : NoneMissing declaration.diagnostics := by
  obtain ⟨name, nameSpan, start, word, grouped, finish, tokens, rfl, hsuffix, _⟩ :=
    exists_body_of_mem_all hmem
  rw [diagnostics_eq, findings]
  refine NoneMissing.append ?_ fun note hnote => ?_
  · split
    · next failure hfailure =>
      rcases (failure_body hfailure).2 with hkind | hkind <;> simp [NoneMissing, hkind]
    · exact noneMissing_check _
  · rcases notes_body (Token.scan_ne_eof hsuffix) _ _ _ _ _ _ note hnote with
      ⟨owner, span, rfl⟩ | ⟨⟨owner, span, rfl⟩, _⟩
    · simp [Diagnostic.leftover]
    · simp [Diagnostic.unclosedInline]

end Findings

end Declaration

namespace StructDescriptor

open Declaration

/-- Descriptors that say the same about a struct, apart from its id and its text. -/
structure SaysTheSame (descriptor other : StructDescriptor) : Prop where
  name : descriptor.name = other.name
  fields : descriptor.fields = other.fields
  isValid : descriptor.isValid = other.isValid
  errors : descriptor.errors = other.errors
  warnings : descriptor.warnings = other.warnings
  diagnostics : descriptor.diagnostics = other.diagnostics

theorem saysTheSame_ofDeclaration (declaration : Declaration) (id other text otherText : String) :
    SaysTheSame (ofDeclaration id text declaration) (ofDeclaration other otherText declaration) :=
  ⟨rfl, rfl, rfl, rfl, rfl, rfl⟩

theorem readMany_eq_nil_iff {source : String} {supply : IdSupply} :
    (readMany source supply).1 = [] ↔ all source.toList = [] := by
  unfold readMany
  cases all source.toList <;> simp [ofDeclarations]

theorem exists_readMany_eq_cons {source : String} {declaration : Declaration}
    (hfirst : first? source.toList = some declaration) (supply : IdSupply) :
    ∃ id text rest, (readMany source supply).1 = ofDeclaration id text declaration :: rest := by
  rw [← head?_all, List.head?_eq_some_iff] at hfirst
  obtain ⟨declarations, hall⟩ := hfirst
  rw [readMany, hall]
  exact ⟨_, _, _, rfl⟩

/-- Reading one struct says the same as reading all of them says about the first, and it reports
that there is none exactly when there is none.  The search for the first declaration is the search
with the limit one, and a search with a limit finds the first declarations of all. -/
theorem read_saysTheSame_readMany (id source : String) (supply : IdSupply) :
    (∀ first rest, (readMany source supply).1 = first :: rest →
      SaysTheSame (read id source) first) ∧
    ((∃ finding ∈ (read id source).diagnostics, finding.kind = .missingDeclaration) ↔
      (readMany source supply).1 = []) ∧
    first? source.toList = (within 1 source.toList).head? ∧
    ∀ limit, within limit source.toList = (all source.toList).take limit := by
  refine ⟨?_, ?_, first?_eq_within source.toList, fun limit => within_eq_take limit source.toList⟩
  · intro first rest hmany
    cases hfirst : first? source.toList with
    | none =>
        rw [← head?_all, List.head?_eq_none_iff, ← readMany_eq_nil_iff, hmany] at hfirst
        cases hfirst
    | some declaration =>
        obtain ⟨other, text, others, hothers⟩ := exists_readMany_eq_cons hfirst supply
        obtain ⟨rfl, _⟩ := List.cons.inj (hmany.symm.trans hothers)
        unfold read
        rw [hfirst]
        exact saysTheSame_ofDeclaration declaration _ _ _ _
  · rw [readMany_eq_nil_iff]
    cases hall : all source.toList with
    | nil => simp [(read_of_all_eq_nil hall).2, Diagnostic.noDeclaration]
    | cons declaration declarations =>
        have hmem : declaration ∈ all source.toList := by simp [hall]
        have hpresent := noneMissing_diagnostics hmem
        rw [read_of_all_eq_cons hall]
        refine iff_of_false ?_ (List.cons_ne_nil _ _)
        rintro ⟨finding, hfinding, hkind⟩
        exact hpresent finding hfinding hkind

/-- The first struct stands in a group, behind a function type and a member that is no struct,
and is not well-formed. -/
def groupedSource : String :=
  "type F func()\ntype (\nE int\nA struct\x7bB,B int\x7d\nC struct\x7b\x7d)"

theorem read_saysTheSame_readMany_grouped : ∃ first rest,
    (readMany groupedSource .sequential).1 = first :: rest ∧
      first.errors = ["Duplicate field name: B"] ∧ SaysTheSame (read "x" groupedSource) first := by
  have hfirst : first? groupedSource.toList =
      some ⟨"A", ⟨⟨27, 3, 0⟩, ⟨28, 3, 1⟩⟩, [⟨"B", "int", none, ⟨⟨36, 3, 9⟩, ⟨37, 3, 10⟩⟩⟩,
        ⟨"B", "int", none, ⟨⟨38, 3, 11⟩, ⟨39, 3, 12⟩⟩⟩], ⟨⟨27, 3, 0⟩, ⟨44, 3, 17⟩⟩, true, none,
        []⟩ := by
    cbv
  obtain ⟨id, text, rest, hmany⟩ := exists_readMany_eq_cons hfirst .sequential
  refine ⟨_, rest, hmany, ?_, (read_saysTheSame_readMany "x" _ _).1 _ rest hmany⟩
  rfl

end StructDescriptor

end FieldBridge
