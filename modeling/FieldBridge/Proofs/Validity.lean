import FieldBridge.Proofs.FieldNames

/-!
# Valid declarations

A descriptor is valid when its declaration is well-formed: its field list is closed, it
has a name, and every field has a type and a name of its own.  The findings about a
field are decided by the fields before it, so the errors among them are counted field by
field; outside the checks an error is found only where the field list is not closed.
-/

namespace FieldBridge

namespace Declaration

section Body

variable {source : List Char} {declaration : Declaration}

/-- A declaration is read from its field list on, behind the words that open it. -/
theorem exists_body_of_mem_all (hmem : declaration ∈ all source) :
    ∃ name nameSpan start word grouped finish tokens,
      declaration = (body name nameSpan start word grouped finish tokens).1 ∧
        tokens <:+ Token.scan source ∧ ∀ opening inside, skipNewlines tokens = opening :: inside →
          opening.isPunct '{' = true → declaration.Opens (Token.scan source) inside := by
  obtain ⟨before, spec, start, scope, rest, hscan, hfound⟩ := exists_foundAt_of_mem_all hmem
  obtain ⟨front, lead, token, tail, rfl, hlead, hspan, _, hstruct⟩ := hfound.exists_lead
  obtain ⟨sfront, word, behind, name, nameSpan, rfl, hword, hsfront, hread, _⟩ :=
    typeSpec?_struct hfound.spec_eq
  obtain rfl := congrArg Prod.fst hread
  refine ⟨_, _, _, _, _, _, _, rfl, ⟨front ++ lead ++ sfront ++ [word], by rw [hscan]; simp⟩,
    fun opening inside hskip hopening => ?_⟩
  obtain ⟨gap, hgap, hnewlines⟩ := skipNewlines_eq behind
  rw [hskip] at hgap
  refine ⟨front, lead ++ sfront ++ word :: gap, opening, ?_, ?_, ?_, hopening⟩
  · rw [hscan, hgap]
    simp
  · have hhead : (lead ++ sfront ++ word :: gap).head? = some token := by
      rw [show some token = _ from (congrArg List.head? hlead).symm]
      simp [List.head?_append]
    rw [hhead, body_start, ← hspan]
    rfl
  · refine ⟨lead ++ sfront, word, gap, rfl, hword, ?_, hnewlines⟩
    intro other hother
    exact (List.mem_append.1 hother).elim (hstruct other) (hsfront other)

theorem exists_of_mem_fields_body {tokens : List Token} {name : String}
    {nameSpan start word : Span} {grouped : Bool} {finish : Position} {field : Field}
    (hfield : field ∈ (body name nameSpan start word grouped finish tokens).1.fields) :
    ∃ opening inside, skipNewlines tokens = opening :: inside ∧ opening.isPunct '{' = true ∧
      field ∈ (fieldList inside).fields := by
  unfold body at hfield
  split at hfield
  · cases hfield
  · next opening inside hskip =>
    split at hfield
    · next hopening =>
      refine ⟨opening, inside, hskip, hopening, ?_⟩
      dsimp only at hfield
      split at hfield <;> exact hfield
    · cases hfield

/-- The fields of a declaration are those of the field list that it opens. -/
theorem exists_opens_of_mem_fields (hmem : declaration ∈ all source) {field : Field}
    (hfield : field ∈ declaration.fields) :
    ∃ inside, declaration.Opens (Token.scan source) inside ∧
      field ∈ (fieldList inside).fields := by
  obtain ⟨_, _, _, _, _, _, tokens, hread, _, hopens⟩ := exists_body_of_mem_all hmem
  rw [hread] at hfield
  obtain ⟨opening, inside, hskip, hopening, hlist⟩ := exists_of_mem_fields_body hfield
  exact ⟨inside, hopens opening inside hskip hopening, hlist⟩

/-- A structural failure is an error about the field list. -/
theorem failure_body {name : String} {nameSpan start word : Span} {grouped : Bool}
    {finish : Position} {tokens : List Token} {failure : Diagnostic}
    (hfailure : (body name nameSpan start word grouped finish tokens).1.failure = some failure) :
    failure.isError = true ∧ (failure.kind = .missingBody ∨ failure.kind = .unclosedBody) := by
  unfold body at hfailure
  split at hfailure
  · cases hfailure
    exact ⟨rfl, .inl rfl⟩
  · split at hfailure
    · dsimp only at hfailure
      split at hfailure
      · cases hfailure
      · cases hfailure
        exact ⟨rfl, .inr rfl⟩
    · cases hfailure
      exact ⟨rfl, .inl rfl⟩

/-- Outside the checks an error is found only in a field list that is not closed. -/
theorem notes_body {tokens : List Token} (heof : ∀ token ∈ tokens, token.kind ≠ .eof)
    (name : String) (nameSpan start word : Span) (grouped : Bool) (finish : Position) :
    ∀ note ∈ (body name nameSpan start word grouped finish tokens).1.notes,
      IsLeftover note ∨ IsOpenInline note ∧
        (body name nameSpan start word grouped finish tokens).1.failure ≠ none := by
  have hskip := (skipNewlines_suffix tokens).subset
  unfold body
  split
  · simp
  · next brace inner hinner =>
    rw [hinner] at hskip
    have hnotes := leftover_or_openInline fun token htoken =>
      heof token (hskip (List.mem_cons_of_mem brace htoken))
    split
    · dsimp only
      intro note hnote
      split at hnote
      · next close hclose =>
        rw [hclose] at hnotes
        exact (hnotes note hnote).imp_right fun hopen => by cases hopen.1
      · exact (hnotes note hnote).imp_right fun hopen => ⟨hopen.2, by simp⟩
    · simp

end Body

section Checks

variable {before fields : List Field} {field : Field} {finding : Diagnostic}

theorem exists_of_mem_checkFields (hfinding : finding ∈ checkFields before fields) :
    ∃ front, ∃ field ∈ fields, finding ∈ checkField front field := by
  induction fields generalizing before with
  | nil => cases hfinding
  | cons field fields ih =>
      rcases List.mem_append.1 hfinding with hfinding | hfinding
      · exact ⟨before, field, List.mem_cons_self, hfinding⟩
      · obtain ⟨front, other, hother, hfinding⟩ := ih hfinding
        exact ⟨front, other, List.mem_cons_of_mem field hother, hfinding⟩

end Checks

section Findings

variable {source : List Char} {declaration : Declaration}

theorem isIdentifier_of_mem_fields (hmem : declaration ∈ all source) :
    ∀ field ∈ declaration.fields, field.name ≠ "" → isIdentifier field.name.toList = true :=
  fun field hfield => isIdentifier_of_mem_all hmem field.name
    (List.mem_cons_of_mem _ (List.mem_map_of_mem hfield))

end Findings

end Declaration

namespace StructDescriptor

open Declaration

theorem read_of_all_eq_nil {id source : String} (hall : all source.toList = []) :
    (read id source).isValid = false ∧ (read id source).diagnostics = [.noDeclaration] := by
  have hfirst : first? source.toList = none := by
    rw [← head?_all, hall]
    rfl
  unfold read
  rw [hfirst]
  exact ⟨rfl, rfl⟩

theorem read_of_all_eq_cons {id source : String} {declaration : Declaration}
    {rest : List Declaration} (hall : all source.toList = declaration :: rest) :
    read id source =
      ofDeclaration id (String.ofList (Text.trim source.toList)) declaration := by
  have hfirst : first? source.toList = some declaration := by
    rw [← head?_all, hall]
    rfl
  unfold read
  rw [hfirst]

end StructDescriptor

end FieldBridge
