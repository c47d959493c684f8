import FieldBridge.Proofs.FindingPlaces

/-!
# Exchanged tokens

The readers of declarations look at the kind of a token and at where it stands, and at its
text only where it is part of a type.  Of a string they do not see in which style it is
written.  So they read the same when tokens are exchanged for others of the same use, as long
as the texts of the types stay.
-/

namespace FieldBridge

namespace Token

theorem string?_eq_some_iff {token : Token} {value : String} :
    token.string? = some value ↔ token.kind = .raw value ∨ token.kind = .quoted value := by
  unfold string?
  split <;> simp_all

/-- Tokens at one place that are of one kind, or that are both strings with one value. -/
structure SameUse (token other : Token) : Prop where
  kind_eq : other.kind = token.kind ∨
    ∃ value, token.string? = some value ∧ other.string? = some value
  span_eq : other.span = token.span

namespace SameUse

variable {token other : Token}

theorem string?_eq (hsame : SameUse token other) : other.string? = token.string? := by
  rcases hsame.kind_eq with hkind | ⟨value, hvalue, hother⟩
  · rw [string?, hkind, string?]
  · rw [hvalue, hother]

/-- What is said of kinds and not of strings is the same of both. -/
theorem kind_iff (hsame : SameUse token other) {kind : Kind} (hraw : ∀ value, kind ≠ .raw value)
    (hquoted : ∀ value, kind ≠ .quoted value) : other.kind = kind ↔ token.kind = kind := by
  rcases hsame.kind_eq with hkind | ⟨value, hvalue, hother⟩
  · rw [hkind]
  · rcases string?_eq_some_iff.1 hvalue with hkind | hkind <;>
      rcases string?_eq_some_iff.1 hother with hkind' | hkind' <;>
      simp [hkind, hkind', Ne.symm (hraw value), Ne.symm (hquoted value)]

theorem isPunct_eq (hsame : SameUse token other) (c : Char) :
    other.isPunct c = token.isPunct c := by
  rw [isPunct, isPunct, decide_eq_decide]
  exact hsame.kind_iff (by simp) (by simp)

theorem isWord_eq (hsame : SameUse token other) (name : String) :
    other.isWord name = token.isWord name := by
  rw [isWord, isWord, decide_eq_decide]
  exact hsame.kind_iff (by simp) (by simp)

theorem newline_iff (hsame : SameUse token other) :
    other.kind = .newline ↔ token.kind = .newline :=
  hsame.kind_iff (by simp) (by simp)

theorem ne_eof (hsame : SameUse token other) (hkind : token.kind ≠ .eof) : other.kind ≠ .eof :=
  fun heof => hkind ((hsame.kind_iff (by simp) (by simp)).1 heof)

theorem name?_eq (hsame : SameUse token other) : other.name? = token.name? := by
  ext name
  rw [name?_eq_some_iff, name?_eq_some_iff]
  exact hsame.kind_iff (by simp) (by simp)

theorem isSeparator_eq (hsame : SameUse token other) : other.isSeparator = token.isSeparator := by
  rw [isSeparator, isSeparator, hsame.isPunct_eq, decide_eq_decide.2 hsame.newline_iff]

theorem endsField_eq (hsame : SameUse token other) : other.endsField = token.endsField := by
  rcases hsame.kind_eq with hkind | ⟨value, hvalue, hother⟩
  · rw [endsField, hkind, endsField]
  · unfold endsField
    rcases string?_eq_some_iff.1 hvalue with hkind | hkind <;>
      rcases string?_eq_some_iff.1 hother with hkind' | hkind' <;> rw [hkind, hkind']

theorem nest_eq (hsame : SameUse token other) (depth : Nat) :
    Declaration.nest depth other = Declaration.nest depth token := by
  have hopening : other.isOpening = token.isOpening := by
    simp only [isOpening, hsame.isPunct_eq]
  have hclosing : other.isClosing = token.isClosing := by
    simp only [isClosing, hsame.isPunct_eq]
  rw [Declaration.nest, hopening, hclosing, Declaration.nest]

theorem stopsLine_iff (hsame : SameUse token other) :
    Declaration.StopsLine other ↔ Declaration.StopsLine token := by
  rw [Declaration.StopsLine, hsame.isSeparator_eq, hsame.isPunct_eq, Declaration.StopsLine]

end SameUse

end Token

namespace Declaration

open Token

def Head.map (f : Token → Token) : Head → Head
  | .plain names type rest => .plain names type (rest.map f)
  | .inline names opening inner => .inline names opening (inner.map f)

def Line.map (f : Token → Token) (line : Line) : Line :=
  { line with rest := line.rest.map f }

def FieldList.map (f : Token → Token) (list : FieldList) : FieldList :=
  { list with rest := list.rest.map f }

/-- No text is changed of the tokens that a reader takes of `tokens` before it leaves `rest`. -/
def Keeps (f : Token → Token) (tokens rest : List Token) : Prop :=
  ∀ token, Taken tokens rest token → (f token).text = token.text

section Map

variable {f : Token → Token} {tokens rest rest' : List Token}

theorem Keeps.narrow (hkeeps : Keeps f tokens rest) {inner : List Token}
    (hinner : inner <:+ tokens) (hrest : rest <:+ rest') : Keeps f inner rest' :=
  fun token htaken => hkeeps token ((htaken.leave hrest).extend hinner)

variable (hf : ∀ token, SameUse token (f token))
include hf

theorem skipLine_map (closer : Char) (depth : Nat) (tokens : List Token) :
    skipLine closer depth (tokens.map f) = (skipLine closer depth tokens).map f := by
  fun_induction skipLine closer depth tokens with
  | case1 => rfl
  | case2 depth token rest hstop =>
      rw [List.map_cons, skipLine, if_pos (by rwa [(hf token).isSeparator_eq])]
  | case3 depth token rest hgo hstop =>
      rw [List.map_cons, skipLine, if_neg (by rwa [(hf token).isSeparator_eq]),
        if_pos (by rwa [(hf token).isPunct_eq])]
  | case4 depth token rest hgo hgo' ih =>
      rw [List.map_cons, skipLine, if_neg (by rwa [(hf token).isSeparator_eq]),
        if_neg (by rwa [(hf token).isPunct_eq]), (hf token).nest_eq, ih]

theorem splitType_map (depth : Nat) (tokens : List Token) :
    splitType depth (tokens.map f) =
      ((splitType depth tokens).1.map f, (splitType depth tokens).2.map f) := by
  fun_induction splitType depth tokens with
  | case1 => rfl
  | case2 depth token rest hstop =>
      rw [List.map_cons, splitType, if_pos (by rwa [(hf token).endsField_eq])]
      rfl
  | case3 depth token rest hgo split ih =>
      rw [List.map_cons, splitType, if_neg (by rwa [(hf token).endsField_eq]), (hf token).nest_eq,
        ih]
      rfl

theorem joinFrom_map {pieces : List Token} (hpieces : ∀ token ∈ pieces, (f token).text = token.text)
    (last : Option Nat) : joinFrom last (pieces.map f) = joinFrom last pieces := by
  induction pieces generalizing last with
  | nil => rfl
  | cons token pieces ih =>
      have hmore := ih fun other hother => hpieces other (List.mem_cons_of_mem token hother)
      simp only [List.map_cons, joinFrom, (hf token).newline_iff, (hf token).span_eq,
        hpieces token List.mem_cons_self, hmore]

theorem typeText_map (hkeeps : Keeps f tokens (typeText tokens).2) :
    typeText (tokens.map f) = ((typeText tokens).1, (typeText tokens).2.map f) := by
  have hpieces : ∀ token ∈ (splitType 0 tokens).1, (f token).text = token.text :=
    fun token htoken => hkeeps token ⟨_, (splitType_append 0 tokens).symm, htoken⟩
  simp only [typeText, splitType_map hf, joinFrom_map hf hpieces]

theorem selectors_map (tokens : List Token) :
    selectors (tokens.map f) = ((selectors tokens).1, (selectors tokens).2.map f) := by
  fun_induction selectors tokens with
  | case1 dot token rest name hname hpoint more ih =>
      rw [List.map_cons, List.map_cons, selectors_of_name (by rw [(hf dot).isPunct_eq, hpoint])
        (by rw [(hf token).name?_eq, hname]), ih]
  | case2 dot token rest hother =>
      rw [List.map_cons, List.map_cons]
      cases hpoint : dot.isPunct '.' with
      | false => rw [selectors_of_not_point (by rw [(hf dot).isPunct_eq, hpoint])]
      | true =>
          cases hname : token.name? with
          | none => rw [selectors_of_not_name (by rw [(hf token).name?_eq, hname])]
          | some name => exact absurd hname (hother name hpoint)
  | case3 tokens hshort =>
      cases tokens with
      | nil => rfl
      | cons first tokens =>
          cases tokens with
          | nil => simp [selectors]
          | cons second tokens => exact absurd rfl (hshort first second tokens)

theorem qualified_map (first : String) (tokens : List Token) :
    qualified first (tokens.map f) =
      ((qualified first tokens).1, (qualified first tokens).2.map f) := by
  simp only [qualified, selectors_map hf]

theorem moreNames_map (comma : Bool) (tokens : List Token) :
    moreNames comma (tokens.map f) =
      ((moreNames comma tokens).1, (moreNames comma tokens).2.map f) := by
  induction tokens generalizing comma with
  | nil => rfl
  | cons token tokens ih =>
      simp only [List.map_cons, moreNames, (hf token).newline_iff, (hf token).name?_eq,
        (hf token).isPunct_eq, (hf token).span_eq, ih]
      cases token.name? <;> split <;> split <;> rfl

theorem tag_map (tokens : List Token) :
    tag (tokens.map f) = ((tag tokens).1, (tag tokens).2.map f) := by
  cases tokens with
  | nil => rfl
  | cons token tokens =>
      simp only [List.map_cons, tag, (hf token).string?_eq]
      cases token.string? <;> rfl

theorem pointerHead_map (span : Span) (hkeeps : Keeps f tokens (pointerHead span tokens).rest) :
    pointerHead span (tokens.map f) = (pointerHead span tokens).map f := by
  cases tokens with
  | nil => rfl
  | cons token tokens =>
      unfold pointerHead at hkeeps ⊢
      simp only [List.map_cons, (hf token).name?_eq]
      cases hname : token.name? with
      | some first =>
          simp only [qualified_map hf]
          rfl
      | none =>
          simp only [hname] at hkeeps
          have htype := typeText_map hf hkeeps
          rw [List.map_cons] at htype
          rw [htype]
          rfl

theorem isEmbedded_map (tokens : List Token) : isEmbedded (tokens.map f) = isEmbedded tokens := by
  cases tokens with
  | nil => rfl
  | cons token tokens =>
      simp only [List.map_cons, isEmbedded, (hf token).endsField_eq, (hf token).isPunct_eq]

theorem inlineBody?_map (tokens : List Token) :
    inlineBody? (tokens.map f) =
      (inlineBody? tokens).map fun found => (found.1, found.2.map f) := by
  match tokens with
  | [] => rfl
  | [_] => rfl
  | word :: brace :: tokens =>
      simp only [List.map_cons, inlineBody?, (hf word).isWord_eq, (hf brace).isPunct_eq,
        (hf brace).span_eq]
      split <;> rfl

theorem typedHead_map (names : List (String × Span))
    (hkeeps : Keeps f tokens (typedHead names tokens).rest) :
    typedHead names (tokens.map f) = (typedHead names tokens).map f := by
  unfold typedHead at hkeeps ⊢
  rw [inlineBody?_map hf]
  cases hbody : inlineBody? tokens with
  | some found => rfl
  | none =>
      rw [hbody] at hkeeps
      simp only [Option.map_none, typeText_map hf hkeeps]
      rfl

theorem namedHead_map (name : String) (span : Span)
    (hkeeps : Keeps f tokens (namedHead name span tokens).rest) :
    namedHead name span (tokens.map f) = (namedHead name span tokens).map f := by
  unfold namedHead at hkeeps ⊢
  rw [isEmbedded_map hf]
  split
  · simp only [qualified_map hf]
    rfl
  · next hembedded =>
    rw [if_neg hembedded] at hkeeps
    simp only [moreNames_map hf]
    exact typedHead_map hf _ (hkeeps.narrow (moreNames_suffix false tokens) List.suffix_rfl)

theorem head_map {token : Token} (hkeeps : Keeps f (token :: rest) (head token rest).rest) :
    head (f token) (rest.map f) = (head token rest).map f := by
  have hrest := hkeeps.narrow (List.suffix_cons token rest) List.suffix_rfl
  cases hname : token.name? with
  | some name =>
      have hkind := name?_eq_some_iff.1 hname
      have hkind' := name?_eq_some_iff.1 ((hf token).name?_eq.trans hname)
      simp only [head, hkind] at hrest
      simp only [head, hkind, hkind', (hf token).span_eq]
      exact namedHead_map hf name token.span hrest
  | none =>
      have hhead : ∀ {token : Token} (rest : List Token), token.name? = none →
          head token rest = if token.isPunct '*' then pointerHead token.span rest
            else .plain [("", token.span)] (typeText (token :: rest)).1
              (typeText (token :: rest)).2 := by
        intro token rest hname
        unfold head
        split
        · next name hkind => simp [name?_eq_some_iff.2 hkind] at hname
        · rfl
      rw [hhead rest hname] at hkeeps hrest ⊢
      rw [hhead _ ((hf token).name?_eq.trans hname), (hf token).isPunct_eq, (hf token).span_eq]
      split
      · next hstar =>
        rw [if_pos hstar] at hrest
        exact pointerHead_map hf token.span hrest
      · next hstar =>
        rw [if_neg hstar] at hkeeps
        have htype := typeText_map hf hkeeps
        rw [List.map_cons] at htype
        rw [htype]
        rfl

theorem endLine_map (names : List (String × Span)) (type : String) (notes : List Diagnostic)
    (tokens : List Token) :
    endLine names type notes (tokens.map f) = (endLine names type notes tokens).map f := by
  unfold endLine
  simp only [tag_map hf]
  cases (tag tokens).2 with
  | nil => rfl
  | cons token rest =>
      have hskip := skipLine_map hf '}' 0 (token :: rest)
      rw [List.map_cons] at hskip
      simp only [List.map_cons, (hf token).endsField_eq, (hf token).span_eq, hskip]
      split <;> rfl

theorem fieldLine_map {token : Token} (hkeeps : Keeps f (token :: rest) (head token rest).rest)
    (hinner : ∀ names opening inner, head token rest = .inline names opening inner →
      fieldList (inner.map f) = (fieldList inner).map f) :
    fieldLine (f token) (rest.map f) = (fieldLine token rest).map f := by
  have hhead := head_map hf hkeeps
  cases hform : head token rest with
  | plain names type after =>
      rw [hform] at hhead
      rw [fieldLine_of_plain hhead, fieldLine_of_plain hform, endLine_map hf]
  | inline names opening inner =>
      rw [hform] at hhead
      rw [fieldLine_of_inline hhead, fieldLine_of_inline hform, hinner names opening inner hform]
      exact endLine_map hf _ _ _ _

theorem fieldList_line_map {token : Token} (heof : token.kind ≠ .eof) (hline : ¬ StopsLine token)
    (hread : fieldLine (f token) (rest.map f) = (fieldLine token rest).map f)
    (hmore : fieldList ((fieldLine token rest).rest.map f) =
      (fieldList (fieldLine token rest).rest).map f) :
    fieldList ((token :: rest).map f) = (fieldList (token :: rest)).map f := by
  rw [List.map_cons, fieldList_line ((hf token).ne_eof heof) (by rwa [(hf token).stopsLine_iff]),
    fieldList_line heof hline, hread]
  simp only [Line.map, hmore]
  rfl

/-- A field list is read the same if the tokens that it takes keep their texts. -/
theorem fieldList_map (heof : ∀ token ∈ tokens, token.kind ≠ .eof)
    (hkeeps : Keeps f tokens (fieldList tokens).rest) :
    fieldList (tokens.map f) = (fieldList tokens).map f := by
  refine fieldList_induction (motive := fun tokens => Keeps f tokens (fieldList tokens).rest →
    fieldList (tokens.map f) = (fieldList tokens).map f) ?_ ?_ ?_ ?_ heof hkeeps
  · simp [fieldList, FieldList.map]
  · intro token rest hseparator ih hkeeps
    rw [fieldList_separator hseparator] at hkeeps ⊢
    rw [List.map_cons, fieldList_separator (by rwa [(hf token).isSeparator_eq])]
    exact ih (hkeeps.narrow (List.suffix_cons token rest) List.suffix_rfl)
  · intro token rest hclose _
    rw [List.map_cons, fieldList_close hclose, fieldList_close (by rwa [(hf token).isPunct_eq]),
      (hf token).span_eq]
    rfl
  · intro token rest hkinds hline ih hkeeps
    have hkind := hkinds token List.mem_cons_self
    have hsuffix := @fieldLine_suffix_of_kind rest token hkind hline
    have hmore := fieldList_suffix (fieldLine token rest).rest
    have hbehind := fieldLine_suffix_behind token rest
    rw [fieldList_line hkind hline] at hkeeps
    refine fieldList_line_map hf hkind hline (fieldLine_map hf ?_ ?_) (ih _ hsuffix ?_)
    · exact hkeeps.narrow List.suffix_rfl
        ((hmore.trans hbehind).trans (head token rest).behind_suffix)
    · intro names opening inner hform
      rw [hform] at hbehind
      have hinner := inline_suffix hform
      exact ih inner hinner (hkeeps.narrow (hinner.trans (List.suffix_cons token rest))
        (hmore.trans hbehind))
    · exact hkeeps.narrow (hsuffix.trans (List.suffix_cons token rest)) List.suffix_rfl

end Map

end Declaration

end FieldBridge
