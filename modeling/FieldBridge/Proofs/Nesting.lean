import FieldBridge.Declaration.Line

/-!
# Well-nested tokens

Tokens are well-nested when every bracket among them closes the last one that is
still open, and none stays open.  The open brackets are kept as a stack of the
brackets that will close them.  Strings and comments are single lexemes, so that
brackets inside them never count.
-/

namespace FieldBridge

/-- What a token does to the brackets that are open. -/
inductive Bracket where
  | opening (closer : Char)
  | closing (closer : Char)
  | plain
deriving DecidableEq, Repr

def Token.bracket (token : Token) : Bracket :=
  match token.kind with
  | .punct '(' => .opening ')'
  | .punct '[' => .opening ']'
  | .punct '{' => .opening '}'
  | .punct ')' => .closing ')'
  | .punct ']' => .closing ']'
  | .punct '}' => .closing '}'
  | _ => .plain

namespace Declaration

/-- Whether the tokens close the brackets of a stack, the last opened first, and
every bracket that they open themselves. -/
def closes (stack : List Char) : List Token → Bool
  | [] => stack.isEmpty
  | token :: rest =>
    match token.bracket, stack with
    | .opening closer, stack => closes (closer :: stack) rest
    | .closing closer, expected :: stack => closer = expected && closes stack rest
    | .closing _, [] => false
    | .plain, stack => closes stack rest

/-- Every bracket among the tokens has its partner among them. -/
def WellNested (tokens : List Token) : Prop :=
  closes [] tokens = true

instance (tokens : List Token) : Decidable (WellNested tokens) :=
  inferInstanceAs (Decidable (closes [] tokens = true))

end Declaration

namespace Token

theorem bracket_of_isPunct {token : Token} {c : Char} (hpunct : token.isPunct c = true) :
    token.bracket = (⟨.punct c, "", Span.point .start⟩ : Token).bracket := by
  have hkind : token.kind = .punct c := by simpa [isPunct] using hpunct
  unfold bracket
  rw [hkind]

theorem bracket_eq_plain_of_name {token : Token} {name : String}
    (hname : token.name? = some name) : token.bracket = .plain := by
  simp [bracket, name?_eq_some_iff.1 hname]

theorem bracket_eq_plain_of_string {token : Token} {value : String}
    (hvalue : token.string? = some value) : token.bracket = .plain := by
  unfold string? at hvalue
  unfold bracket
  cases hkind : token.kind <;> simp_all

theorem bracket_eq_plain_of_isSeparator {token : Token}
    (hseparator : token.isSeparator = true) : token.bracket = .plain := by
  simp only [isSeparator, isPunct, Bool.or_eq_true, decide_eq_true_eq] at hseparator
  rcases hseparator with hkind | hkind <;> simp [bracket, hkind]

theorem isPunct_of_bracket_closing {token : Token} {c : Char}
    (hbracket : token.bracket = .closing c) : token.isPunct c = true := by
  unfold bracket at hbracket
  unfold isPunct
  split at hbracket <;> cases hbracket
  all_goals simpa

end Token

namespace Declaration

theorem nest_eq (depth : Nat) (token : Token) :
    nest depth token =
      match token.bracket with
      | .opening _ => depth + 1
      | .closing _ => depth - 1
      | .plain => depth := by
  unfold nest Token.isOpening Token.isClosing Token.isPunct Token.bracket
  split <;> split <;> simp_all
  all_goals grind

@[simp] theorem closes_nil (stack : List Char) : closes stack [] = stack.isEmpty := rfl

theorem closes_plain {token : Token} (hplain : token.bracket = .plain)
    (stack : List Char) (rest : List Token) :
    closes stack (token :: rest) = closes stack rest := by
  cases stack <;> simp [closes, hplain]

theorem closes_opening {token : Token} {closer : Char}
    (hopening : token.bracket = .opening closer) (stack : List Char) (rest : List Token) :
    closes stack (token :: rest) = closes (closer :: stack) rest := by
  cases stack <;> simp [closes, hopening]

theorem closes_closing {token : Token} {closer : Char}
    (hclosing : token.bracket = .closing closer) {stack : List Char} {rest : List Token} :
    closes stack (token :: rest) = true ↔
      ∃ below, stack = closer :: below ∧ closes below rest = true := by
  cases stack with
  | nil => simp [closes, hclosing]
  | cons expected below =>
      simp only [closes, hclosing, Bool.and_eq_true, decide_eq_true_eq, List.cons.injEq]
      constructor
      · rintro ⟨rfl, hbelow⟩
        exact ⟨below, ⟨rfl, rfl⟩, hbelow⟩
      · rintro ⟨_, ⟨rfl, rfl⟩, hbelow⟩
        exact ⟨rfl, hbelow⟩

/-- The brackets that are open behind a token.  Depth counts them as long as tokens close
them. -/
theorem closes_step {stack : List Char} {token : Token} {rest : List Token}
    (hcloses : closes stack (token :: rest) = true) :
    ∃ after : List Char, after.length = nest stack.length token ∧
      ∀ tokens, closes stack (token :: tokens) = closes after tokens := by
  rw [nest_eq]
  cases hbracket : token.bracket with
  | opening closer => exact ⟨closer :: stack, rfl, closes_opening hbracket stack⟩
  | closing closer =>
      obtain ⟨below, rfl, _⟩ := (closes_closing hbracket).1 hcloses
      exact ⟨below, rfl, fun tokens => by simp [closes, hbracket]⟩
  | plain => exact ⟨stack, rfl, closes_plain hbracket stack⟩

theorem closes_nest {stack : List Char} {token : Token} {rest : List Token}
    (hcloses : closes stack (token :: rest) = true) :
    ∃ after : List Char, after.length = nest stack.length token ∧
      closes after rest = true := by
  obtain ⟨after, hlength, hafter⟩ := closes_step hcloses
  rw [hafter] at hcloses
  exact ⟨after, hlength, hcloses⟩

theorem closes_append {above below : List Char} {inner rest : List Token}
    (hinner : closes above inner = true) (hrest : closes below rest = true) :
    closes (above ++ below) (inner ++ rest) = true := by
  induction inner generalizing above with
  | nil =>
      obtain rfl : above = [] := by simpa using hinner
      exact hrest
  | cons token inner ih =>
      rw [List.cons_append]
      cases hbracket : token.bracket with
      | opening closer =>
          rw [closes_opening hbracket] at hinner ⊢
          exact ih hinner
      | closing closer =>
          obtain ⟨under, rfl, hunder⟩ := (closes_closing hbracket).1 hinner
          exact (closes_closing hbracket).2 ⟨under ++ below, rfl, ih hunder⟩
      | plain =>
          rw [closes_plain hbracket] at hinner ⊢
          exact ih hinner

/-- Tokens close at most one stack. -/
theorem closes_unique {stack other : List Char} {tokens : List Token}
    (hstack : closes stack tokens = true) (hother : closes other tokens = true) :
    stack = other := by
  induction tokens generalizing stack other with
  | nil => simp_all
  | cons token rest ih =>
      cases hbracket : token.bracket with
      | opening closer =>
          rw [closes_opening hbracket] at hstack hother
          exact (List.cons.inj (ih hstack hother)).2
      | closing closer =>
          obtain ⟨below, rfl, hbelow⟩ := (closes_closing hbracket).1 hstack
          obtain ⟨under, rfl, hunder⟩ := (closes_closing hbracket).1 hother
          rw [ih hbelow hunder]
      | plain =>
          rw [closes_plain hbracket] at hstack hother
          exact ih hstack hother

theorem closes_of_append {stack : List Char} {inner rest : List Token}
    (happend : closes stack (inner ++ rest) = true) (hrest : WellNested rest) :
    closes stack inner = true := by
  induction inner generalizing stack with
  | nil =>
      obtain rfl : stack = [] := closes_unique happend hrest
      rfl
  | cons token inner ih =>
      rw [List.cons_append] at happend
      cases hbracket : token.bracket with
      | opening closer =>
          rw [closes_opening hbracket] at happend ⊢
          exact ih happend
      | closing closer =>
          obtain ⟨below, rfl, hbelow⟩ := (closes_closing hbracket).1 happend
          exact (closes_closing hbracket).2 ⟨below, rfl, ih hbelow⟩
      | plain =>
          rw [closes_plain hbracket] at happend ⊢
          exact ih happend

/-- A bracket that is open gets closed, and what stands before its partner closes
the brackets that were opened after it. -/
theorem exists_closing {above below : List Char} {closer : Char} {tokens : List Token}
    (hcloses : closes (above ++ closer :: below) tokens = true) :
    ∃ inner close rest, tokens = inner ++ close :: rest ∧ closes above inner = true ∧
      close.bracket = .closing closer ∧ closes below rest = true := by
  induction tokens generalizing above with
  | nil => simp at hcloses
  | cons token rest ih =>
      cases hbracket : token.bracket with
      | opening opened =>
          rw [closes_opening hbracket, ← List.cons_append] at hcloses
          obtain ⟨inner, close, after, rfl, hinner, hclose, hafter⟩ := ih hcloses
          exact ⟨token :: inner, close, after, rfl,
            by rwa [closes_opening hbracket], hclose, hafter⟩
      | closing closed =>
          obtain ⟨under, hstack, hunder⟩ := (closes_closing hbracket).1 hcloses
          cases above with
          | nil =>
              obtain ⟨rfl, rfl⟩ := List.cons.inj hstack
              exact ⟨[], token, rest, rfl, rfl, hbracket, hunder⟩
          | cons expected above =>
              obtain ⟨rfl, rfl⟩ := List.cons.inj hstack
              obtain ⟨inner, close, after, rfl, hinner, hclose, hafter⟩ := ih hunder
              exact ⟨token :: inner, close, after, rfl,
                (closes_closing hbracket).2 ⟨above, rfl, hinner⟩, hclose, hafter⟩
      | plain =>
          rw [closes_plain hbracket] at hcloses
          obtain ⟨inner, close, after, rfl, hinner, hclose, hafter⟩ := ih hcloses
          exact ⟨token :: inner, close, after, rfl,
            by rwa [closes_plain hbracket], hclose, hafter⟩

/-- After an opening bracket well-nested tokens go on to its partner, and beyond it
they are well-nested again. -/
theorem WellNested.split {opening : Token} {closer : Char} {rest : List Token}
    (hopening : opening.bracket = .opening closer) (hnested : WellNested (opening :: rest)) :
    ∃ inner close after, rest = inner ++ close :: after ∧ WellNested inner ∧
      close.bracket = .closing closer ∧ WellNested after := by
  rw [WellNested, closes_opening hopening] at hnested
  exact @exists_closing [] [] closer rest hnested

theorem WellNested.append {inner rest : List Token} (hinner : WellNested inner)
    (hrest : WellNested rest) : WellNested (inner ++ rest) :=
  closes_append hinner hrest

theorem WellNested.of_append {inner rest : List Token}
    (happend : WellNested (inner ++ rest)) (hrest : WellNested rest) : WellNested inner :=
  closes_of_append happend hrest

theorem WellNested.bracket_ne_closing {token : Token} {rest : List Token} {closer : Char}
    (hnested : WellNested (token :: rest)) : token.bracket ≠ .closing closer := by
  intro hbracket
  obtain ⟨below, hstack, _⟩ := (closes_closing hbracket).1 hnested
  cases hstack

theorem wellNested_cons_plain {token : Token} {rest : List Token}
    (hplain : token.bracket = .plain) : WellNested (token :: rest) ↔ WellNested rest := by
  rw [WellNested, closes_plain hplain, WellNested]

/-- Nesting is a matter of what the tokens are, not of where they stand. -/
theorem closes_congr {stack : List Char} {tokens others : List Token}
    (hkinds : others.map Token.kind = tokens.map Token.kind) :
    closes stack others = closes stack tokens := by
  induction tokens generalizing stack others with
  | nil =>
      obtain rfl := List.map_eq_nil_iff.1 hkinds
      rfl
  | cons token rest ih =>
      obtain ⟨other, others, rfl, hkind, hrest⟩ := List.map_eq_cons_iff.1 hkinds
      have hbracket : other.bracket = token.bracket := by
        rw [Token.bracket, hkind, Token.bracket]
      cases stack <;> simp only [closes, hbracket, fun stack => @ih stack others hrest]

theorem WellNested.congr {tokens others : List Token} (hnested : WellNested tokens)
    (hkinds : others.map Token.kind = tokens.map Token.kind) : WellNested others :=
  (closes_congr hkinds).trans hnested

theorem WellNested.enclose {inner rest : List Token} {opening close : Token} {closer : Char}
    (hinner : WellNested inner) (hrest : WellNested rest)
    (hopening : opening.bracket = .opening closer) (hclose : close.bracket = .closing closer) :
    WellNested (opening :: (inner ++ close :: rest)) := by
  have hbehind : closes [closer] (close :: rest) = true :=
    (closes_closing hclose).2 ⟨[], rfl, hrest⟩
  rw [WellNested, closes_opening hopening]
  exact @closes_append [] [closer] inner _ hinner hbehind

theorem wellNested_of_plain {tokens : List Token}
    (hplain : ∀ token ∈ tokens, token.bracket = .plain) : WellNested tokens := by
  induction tokens with
  | nil => rfl
  | cons token rest ih =>
      rw [wellNested_cons_plain (hplain token List.mem_cons_self)]
      exact ih fun other hother => hplain other (List.mem_cons_of_mem token hother)

end Declaration

end FieldBridge
