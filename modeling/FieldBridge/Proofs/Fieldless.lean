import FieldBridge.Proofs.Closing

/-!
# Field lists without fields

Every line of a field list makes a field for each of its names, and has at least one name.
So a list that is not closed and makes no field holds nothing but line ends and semicolons,
and nothing is found in it.
-/

namespace FieldBridge.Declaration

def Head.names : Head → List (String × Span)
  | plain names _ _ => names
  | inline names _ _ => names

/-- The type that the head of a line gives its fields. -/
def Head.type : Head → String
  | plain _ type _ => type
  | inline _ _ _ => inlineStruct

/-- The tokens behind the head of a line, where its tag stands. -/
def Head.behind : Head → List Token
  | .plain _ _ rest => rest
  | .inline _ _ inner => (fieldList inner).rest

theorem head_ident {token : Token} {name : String} (hkind : token.kind = .ident name)
    (rest : List Token) : head token rest = namedHead name token.span rest := by
  rw [head, hkind]

theorem head_star {token : Token} (hstar : token.isPunct '*' = true) (rest : List Token) :
    head token rest = pointerHead token.span rest := by
  have hkind : token.kind = .punct '*' := by simpa [Token.isPunct] using hstar
  rw [head, hkind]
  simp [hstar]

theorem namedHead_embedded {tokens : List Token} (hembedded : isEmbedded tokens = true)
    (name : String) (span : Span) :
    namedHead name span tokens = .plain [((qualified name tokens).1.1, span)]
      (qualified name tokens).1.2 (qualified name tokens).2 := by
  rw [namedHead, if_pos hembedded]

theorem pointerHead_name {token : Token} {name : String} (hname : token.name? = some name)
    (span : Span) (rest : List Token) :
    pointerHead span (token :: rest) = .plain [((qualified name rest).1.1, span)]
      ("*" ++ (qualified name rest).1.2) (qualified name rest).2 := by
  simp only [pointerHead, hname]

theorem names_typedHead (names : List (String × Span)) (tokens : List Token) :
    (typedHead names tokens).names = names := by
  unfold typedHead
  split <;> rfl

/-- A line without a name is read as having an empty one. -/
theorem names_head_ne_nil (token : Token) (rest : List Token) : (head token rest).names ≠ [] := by
  unfold head
  split
  · unfold namedHead
    split
    · exact List.cons_ne_nil _ _
    · dsimp only
      rw [names_typedHead]
      exact List.cons_ne_nil _ _
  · split
    · unfold pointerHead
      split
      · split <;> exact List.cons_ne_nil _ _
      · exact List.cons_ne_nil _ _
    · exact List.cons_ne_nil _ _

theorem fields_endLine (names : List (String × Span)) (type : String) (notes : List Diagnostic)
    (tokens : List Token) :
    (endLine names type notes tokens).fields =
      names.map fun name => ⟨name.1, type, (tag tokens).1, name.2⟩ := by
  unfold endLine
  dsimp only
  split
  · rfl
  · split <;> rfl

/-- A line makes a field for each of its names, which share its type and its tag. -/
theorem fields_fieldLine (token : Token) (rest : List Token) :
    (fieldLine token rest).fields = (head token rest).names.map fun name =>
      ⟨name.1, (head token rest).type, (tag (head token rest).behind).1, name.2⟩ := by
  cases hhead : head token rest with
  | plain names type after => rw [fieldLine_of_plain hhead, fields_endLine]; rfl
  | inline names opening inner => rw [fieldLine_of_inline hhead, fields_endLine]; rfl

theorem fields_fieldLine_ne_nil (token : Token) (rest : List Token) :
    (fieldLine token rest).fields ≠ [] := by
  rw [fields_fieldLine]
  simpa using names_head_ne_nil token rest

theorem fieldList_of_separators {tokens : List Token}
    (hseparators : ∀ token ∈ tokens, token.isSeparator = true) :
    fieldList tokens = ⟨[], [], none, []⟩ := by
  induction tokens with
  | nil => rw [fieldList]
  | cons token tokens ih =>
      rw [fieldList_separator (hseparators token List.mem_cons_self)]
      exact ih fun other hother => hseparators other (List.mem_cons_of_mem token hother)

theorem separators_of_fieldless {tokens : List Token} (heof : ∀ token ∈ tokens, token.kind ≠ .eof)
    (hfields : (fieldList tokens).fields = []) (hopen : (fieldList tokens).close = none) :
    ∀ token ∈ tokens, token.isSeparator = true := by
  induction tokens with
  | nil => simp
  | cons token tokens ih =>
      by_cases hstop : StopsLine token
      · rcases hstop with hseparator | hclose
        · rw [fieldList_separator hseparator] at hfields hopen
          have hmore := ih (fun other hother => heof other (List.mem_cons_of_mem token hother))
            hfields hopen
          exact List.forall_mem_cons.2 ⟨hseparator, hmore⟩
        · rw [fieldList_close hclose] at hopen
          cases hopen
      · rw [fieldList_line (heof token List.mem_cons_self) hstop] at hfields
        exact absurd (List.append_eq_nil_iff.1 hfields).1 (fields_fieldLine_ne_nil token tokens)

end FieldBridge.Declaration
