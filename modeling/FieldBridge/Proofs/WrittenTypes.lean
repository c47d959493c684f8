import FieldBridge.Proofs.Placement
import FieldBridge.Proofs.Rendering

/-!
# Reading a written type

A type is read up to the first token that ends a field outside brackets, and its text is
put together again from its tokens.  Both only depend on how lexemes follow each other:
brackets enclose what may be read at any depth, and no two blanks stand together.
-/

namespace FieldBridge

open Declaration

/-- The tokens are taken for a type at any depth, and leave the depth as it was. -/
def Passes (tokens : List Token) : Prop :=
  ∀ depth rest, splitType depth (tokens ++ rest) =
    (tokens ++ (splitType depth rest).1, (splitType depth rest).2)

theorem Passes.append {left right : List Token} (hleft : Passes left) (hright : Passes right) :
    Passes (left ++ right) := by
  intro depth rest
  rw [List.append_assoc, hleft, hright, List.append_assoc]

theorem passes_singleton {token : Token} (hplain : token.bracket = .plain)
    (hends : token.endsField = false) : Passes [token] := by
  intro depth rest
  have hnest : nest depth token = depth := by
    rw [nest_eq, hplain]
  rw [List.singleton_append, splitType, if_neg (by simp [hends]), hnest]
  rfl

theorem Passes.enclose {inner : List Token} {opening close : Token} {closer : Char}
    (hopening : opening.bracket = .opening closer) (hends : opening.endsField = false)
    (hclose : close.bracket = .closing closer) (hinner : Passes inner) :
    Passes (opening :: (inner ++ [close])) := by
  intro depth rest
  have hopen : nest depth opening = depth + 1 := by
    rw [nest_eq, hopening]
  have hshut : nest (depth + 1) close = depth := by
    rw [nest_eq, hclose]
    rfl
  rw [List.cons_append, splitType, if_neg (by simp [hends]), hopen, List.append_assoc, hinner,
    List.singleton_append, splitType, if_neg (by simp), hshut]
  simp

theorem joinFrom_cons {token : Token} (hline : token.kind ≠ .newline) (last : Option Nat)
    (rest : List Token) :
    joinFrom last (token :: rest) = (if last.any (· < token.span.start.byte) then " " else "") ++
      token.text ++ joinFrom (some token.span.stop.byte) rest := by
  rw [joinFrom, if_neg hline]

/-- Tokens that follow one another without a gap are joined to the text of their lexemes. -/
def Joins (lexs : List Lexeme) : Prop :=
  ∀ (position : Position) (rest : List Token),
    joinFrom (some position.byte) (Token.place position lexs ++ rest) =
      String.ofList (lexs.flatMap Lexeme.text) ++
        joinFrom (some (position.after (lexs.flatMap Lexeme.text)).byte) rest

theorem Joins.append {left right : List Lexeme} (hleft : Joins left) (hright : Joins right) :
    Joins (left ++ right) := by
  intro position rest
  rw [Token.place_append, List.append_assoc, hleft, hright, List.flatMap_append,
    Position.after_append, String.ofList_append, String.append_assoc]

theorem joins_singleton {lexeme : Lexeme} {kind : Token.Kind} (hkind : lexeme.kind? = some kind)
    (hline : kind ≠ .newline) : Joins [lexeme] := by
  intro position rest
  rw [Token.place_cons_some hkind, List.cons_append, joinFrom_cons hline]
  simp [Token.place]

theorem Joins.blank {lexeme : Lexeme} {lexs : List Lexeme} {kind : Token.Kind}
    (hkind : lexeme.kind? = some kind) (hline : kind ≠ .newline)
    (hjoins : Joins (lexeme :: lexs)) : Joins (.blank ' ' :: lexeme :: lexs) := by
  intro position rest
  have hgap : position.byte < (position.after [' ']).byte := by
    rw [Position.after_byte]
    exact Nat.lt_add_of_pos_right (by decide)
  have hmore := hjoins (position.after [' ']) rest
  rw [Token.place_cons_some hkind, List.cons_append, joinFrom_cons hline] at hmore
  rw [Token.place_cons_none rfl, Token.place_cons_some hkind, List.cons_append,
    joinFrom_cons hline, List.flatMap_cons, Position.after_append, String.ofList_append]
  simp only [Option.any_some, Nat.lt_irrefl, decide_false, Bool.false_eq_true, if_false,
    String.empty_append, Lexeme.text, hgap, decide_true, if_true] at hmore ⊢
  rw [String.append_assoc, hmore, String.append_assoc]

/-- Lexemes of a type: they are taken at any depth, and joining their tokens gives back
their text. -/
structure TypeLexemes (lexs : List Lexeme) : Prop where
  passes : ∀ position, Passes (Token.place position lexs)
  joins : Joins lexs

namespace TypeLexemes

theorem nil : TypeLexemes [] where
  passes _ _ _ := rfl
  joins _ _ := String.empty_append.symm

theorem append {left right : List Lexeme} (hleft : TypeLexemes left)
    (hright : TypeLexemes right) : TypeLexemes (left ++ right) where
  passes position := by
    rw [Token.place_append]
    exact (hleft.passes position).append (hright.passes _)
  joins := hleft.joins.append hright.joins

theorem singleton {lexeme : Lexeme} {kind : Token.Kind} (hkind : lexeme.kind? = some kind)
    (hplain : ∀ text span, (⟨kind, text, span⟩ : Token).bracket = .plain)
    (hends : ∀ text span, (⟨kind, text, span⟩ : Token).endsField = false) :
    TypeLexemes [lexeme] where
  passes position := by
    rw [Token.place_cons_some hkind]
    exact passes_singleton (hplain _ _) (hends _ _)
  joins := by
    apply joins_singleton hkind
    rintro rfl
    exact absurd (hends "" (Span.point .start)) (by decide)

theorem blank {lexeme : Lexeme} {lexs : List Lexeme} {kind : Token.Kind}
    (hkind : lexeme.kind? = some kind) (hline : kind ≠ .newline)
    (htype : TypeLexemes (lexeme :: lexs)) : TypeLexemes (.blank ' ' :: lexeme :: lexs) where
  passes position := by
    rw [Token.place_cons_none rfl]
    exact htype.passes _
  joins := htype.joins.blank hkind hline

theorem enclose {inner : List Lexeme} (hinner : TypeLexemes inner) {opening close : Char}
    (hopening : ∀ text span, (⟨.punct opening, text, span⟩ : Token).bracket = .opening close)
    (hends : ∀ text span, (⟨.punct opening, text, span⟩ : Token).endsField = false)
    (hclose : ∀ text span, (⟨.punct close, text, span⟩ : Token).bracket = .closing close) :
    TypeLexemes (.symbol opening :: (inner ++ [.symbol close])) where
  passes position := by
    rw [Token.place_cons_some rfl, Token.place_append, Token.place_cons_some rfl]
    exact (hinner.passes _).enclose (hopening _ _) (hends _ _) (hclose _ _)
  joins := by
    have hopen : Joins [.symbol opening] := joins_singleton rfl (by simp)
    have hshut : Joins [.symbol close] := joins_singleton rfl (by simp)
    exact hopen.append (hinner.joins.append hshut)

theorem square {inner : List Lexeme} (hinner : TypeLexemes inner) :
    TypeLexemes (.symbol '[' :: (inner ++ [.symbol ']'])) :=
  hinner.enclose (fun _ _ => rfl) (fun _ _ => rfl) fun _ _ => rfl

theorem round {inner : List Lexeme} (hinner : TypeLexemes inner) :
    TypeLexemes (.symbol '(' :: (inner ++ [.symbol ')'])) :=
  hinner.enclose (fun _ _ => rfl) (fun _ _ => rfl) fun _ _ => rfl

theorem curly {inner : List Lexeme} (hinner : TypeLexemes inner) :
    TypeLexemes (.symbol '\x7b' :: (inner ++ [.symbol '\x7d'])) :=
  hinner.enclose (fun _ _ => rfl) (fun _ _ => rfl) fun _ _ => rfl

end TypeLexemes

namespace TypeExpr

/-- A type begins with a word, a star or a bracket. -/
theorem exists_lexs_eq_cons (type : TypeExpr) :
    ∃ lexeme kind lexs, type.lexs = lexeme :: lexs ∧ lexeme.kind? = some kind ∧
      ((∃ name, kind = .ident name) ∨ kind = .punct '*' ∨ kind = .punct '[') := by
  cases type with
  | pointer => exact ⟨_, _, _, by rw [lexs], rfl, .inr (.inl rfl)⟩
  | slice => exact ⟨_, _, _, by rw [lexs], rfl, .inr (.inr rfl)⟩
  | array => exact ⟨_, _, _, by rw [lexs], rfl, .inr (.inr rfl)⟩
  | _ => exact ⟨_, _, _, by rw [lexs], rfl, .inl ⟨_, rfl⟩⟩

theorem blank_typeLexemes {type : TypeExpr} (htype : TypeLexemes type.lexs) :
    TypeLexemes (.blank ' ' :: type.lexs) := by
  obtain ⟨lexeme, kind, lexs, hlexs, hkind, hcases⟩ := type.exists_lexs_eq_cons
  rw [hlexs] at htype ⊢
  apply htype.blank hkind
  rcases hcases with ⟨name, rfl⟩ | rfl | rfl <;> simp

theorem typeLexemes_word (text : List Char) : TypeLexemes [.word text] :=
  .singleton rfl (fun _ _ => rfl) fun _ _ => rfl

mutual

theorem typeLexemes : (type : TypeExpr) → TypeLexemes type.lexs
  | name identifier => by
      rw [lexs]
      exact typeLexemes_word _
  | qualified package identifier => by
      have hpoint : TypeLexemes [.symbol '.'] := .singleton rfl (fun _ _ => rfl) fun _ _ => rfl
      rw [lexs]
      exact (typeLexemes_word _).append (hpoint.append (typeLexemes_word _))
  | pointer type => by
      have hstar : TypeLexemes [.symbol '*'] := .singleton rfl (fun _ _ => rfl) fun _ _ => rfl
      rw [lexs]
      exact hstar.append (typeLexemes type)
  | slice type => by
      rw [lexs]
      exact TypeLexemes.nil.square.append (typeLexemes type)
  | array length type => by
      obtain ⟨lexeme, hlength, hkind, _⟩ := length.exists_lexeme
      have hplain : TypeLexemes [lexeme] := by
        rcases hkind with ⟨_, hkind⟩ | ⟨_, hkind⟩
        · exact .singleton hkind (fun _ _ => rfl) fun _ _ => rfl
        · exact .singleton hkind (fun _ _ => rfl) fun _ _ => rfl
      rw [lexs, hlength]
      simpa using hplain.square.append (typeLexemes type)
  | map key value => by
      rw [lexs]
      simpa using (typeLexemes_word mapWord).append
        ((typeLexemes key).square.append (typeLexemes value))
  | chan type => by
      rw [lexs]
      exact (typeLexemes_word chanWord).append (blank_typeLexemes (typeLexemes type))
  | func arguments result => by
      rw [lexs]
      simpa using (typeLexemes_word funcWord).append
        ((typeLexemes_arguments arguments).round.append (blank_typeLexemes (typeLexemes result)))
  | interface => by
      rw [lexs]
      exact (typeLexemes_word interfaceWord).append TypeLexemes.nil.curly

theorem typeLexemes_arguments : (types : List TypeExpr) → TypeLexemes (lexsOfArguments types)
  | [] => .nil
  | type :: types => by
      rw [lexsOfArguments]
      exact (typeLexemes type).append (typeLexemes_further types)

theorem typeLexemes_further : (types : List TypeExpr) → TypeLexemes (lexsOfFurther types)
  | [] => .nil
  | type :: types => by
      have hcomma : TypeLexemes [.symbol ','] := .singleton rfl (fun _ _ => rfl) fun _ _ => rfl
      rw [lexsOfFurther]
      exact hcomma.append ((blank_typeLexemes (typeLexemes type)).append
        (typeLexemes_further types))

end

theorem flatMap_text_lexs (type : TypeExpr) : type.lexs.flatMap Lexeme.text = type.render := by
  have hlexemes := @lexemes_render type [] rfl
  rw [lexemes, List.append_nil, List.append_nil] at hlexemes
  rw [← hlexemes, flatMap_text_lexemes]

/-- A type is read up to the token that ends its field, and its text is what was written. -/
theorem typeText_render (type : TypeExpr) (position : Position) {rest : List Token}
    (hrest : ∃ token tail, rest = token :: tail ∧ token.endsField = true) :
    typeText (Token.place position type.lexs ++ rest) = (String.ofList type.render, rest) := by
  obtain ⟨passes, joins⟩ := type.typeLexemes
  obtain ⟨token, tail, rfl, hends⟩ := hrest
  obtain ⟨lexeme, kind, lexs, hlexs, hkind, hcases⟩ := type.exists_lexs_eq_cons
  have hstop : splitType 0 (token :: tail) = ([], token :: tail) := by
    rw [splitType, if_pos (by simp [hends])]
  have hline : kind ≠ .newline := by
    rcases hcases with ⟨name, rfl⟩ | rfl | rfl <;> simp
  have hjoin := joins position []
  rw [List.append_nil, flatMap_text_lexs] at hjoin
  have hfirst : joinFrom none (Token.place position type.lexs) =
      joinFrom (some position.byte) (Token.place position type.lexs) := by
    rw [hlexs, Token.place_cons_some hkind, joinFrom_cons hline, joinFrom_cons hline]
    simp
  rw [typeText, passes, hstop]
  dsimp only
  rw [List.append_nil, hfirst, hjoin, joinFrom, String.append_empty]

theorem inlineBody?_of_not_brace {word brace : Token} (hbrace : brace.isPunct '{' = false)
    (rest : List Token) : inlineBody? (word :: brace :: rest) = none := by
  simp [inlineBody?, hbrace]

/-- No type is written like the beginning of an inline struct. -/
theorem inlineBody?_render (type : TypeExpr) (position : Position) {rest : List Token}
    (hrest : ∃ token tail, rest = token :: tail ∧ token.endsField = true) :
    inlineBody? (Token.place position type.lexs ++ rest) = none := by
  obtain ⟨token, tail, rfl, hends⟩ := hrest
  have hbrace : token.isPunct '{' = false := by
    unfold Token.endsField at hends
    unfold Token.isPunct
    split at hends <;> simp_all
    rintro rfl
    simp at hends
  have hstruct : ∀ text : List Char, String.ofList text ≠ "struct" → ∀ span rest,
      inlineBody? (⟨.ident (String.ofList text), String.ofList text, span⟩ :: rest) = none := by
    intro text hne span rest
    exact inlineBody?_of_not_struct (by simp [Token.isWord, hne]) rest
  cases type with
  | name identifier =>
      rw [lexs, Token.place_cons_some rfl]
      exact inlineBody?_of_not_brace hbrace tail
  | qualified package identifier =>
      rw [lexs, Token.place_cons_some rfl, Token.place_cons_some rfl]
      exact inlineBody?_of_not_brace rfl _
  | map key value =>
      rw [lexs, Token.place_cons_some rfl]
      exact hstruct mapWord (by decide) _ _
  | chan type =>
      rw [lexs, Token.place_cons_some rfl]
      exact hstruct chanWord (by decide) _ _
  | func arguments result =>
      rw [lexs, Token.place_cons_some rfl]
      exact hstruct funcWord (by decide) _ _
  | interface =>
      rw [lexs, Token.place_cons_some rfl]
      exact hstruct interfaceWord (by decide) _ _
  | _ =>
      rw [lexs, Token.place_cons_some rfl]
      exact inlineBody?_of_not_struct rfl _

theorem not_isPrefixOf_map (identifier : Identifier) {rest : List Char}
    (hrest : ∀ c, rest.head? = some c → c = '.') :
    ['m', 'a', 'p', '['].isPrefixOf (identifier.text ++ rest) = false := by
  have hword := continuesWord_of_isIdentifier identifier.isIdentifier
  cases hmap : ['m', 'a', 'p', '['].isPrefixOf (identifier.text ++ rest) with
  | false => rfl
  | true =>
      obtain ⟨more, hmore⟩ := List.isPrefixOf_iff_prefix.1 hmap
      have hsplit : mapWord ++ '[' :: more = identifier.text ++ rest := hmore
      rcases List.append_eq_append_iff.1 hsplit with
        ⟨front, htext, hbehind⟩ | ⟨front, htext, hbehind⟩
      · cases front with
        | nil =>
            have hpoint := hrest '[' (by rw [← List.nil_append rest, ← hbehind]; rfl)
            exact absurd hpoint (by decide)
        | cons c front =>
            obtain ⟨rfl, _⟩ := List.cons.inj hbehind
            have hsquare := hword '[' (by rw [htext]; simp)
            exact absurd hsquare (by decide +kernel)
      · cases front with
        | nil => exact absurd (hrest '[' (by rw [hbehind]; rfl)) (by decide)
        | cons c front =>
            obtain rfl := hrest c (by rw [hbehind]; rfl)
            have hpoint : '.' ∈ mapWord := by
              rw [htext]
              simp
            exact absurd hpoint (by decide)

/-- The flags of a field follow from how its type begins. -/
theorem ofType_render (type : TypeExpr) (name : String) :
    FieldDescriptor.ofType name (String.ofList type.render) =
      { name := name
        type := String.ofList type.render
        isPointer := type.isPointer
        isSlice := type.isSlice
        isMap := type.isMap } := by
  unfold FieldDescriptor.ofType
  rw [String.toList_ofList]
  cases type with
  | name identifier =>
      have hmap := @not_isPrefixOf_map identifier [] (by simp)
      obtain ⟨c, rest, htext, hstar, hsquare, _⟩ := identifier.exists_head
      rw [List.append_nil] at hmap
      simp only [render, isPointer, isSlice, isMap, hmap]
      simp [htext, hstar, hsquare, List.isPrefixOf]
  | qualified package identifier =>
      have hmap := @not_isPrefixOf_map package ('.' :: identifier.text) (by simp)
      obtain ⟨c, rest, htext, hstar, hsquare, _⟩ := package.exists_head
      simp only [render, isPointer, isSlice, isMap, hmap]
      simp [htext, hstar, hsquare, List.isPrefixOf]
  | array length type =>
      obtain ⟨c, rest, htext, hsquare⟩ := length.exists_head
      simp [render, isPointer, isSlice, isMap, htext, hsquare, List.isPrefixOf]
  | _ =>
      simp [render, isPointer, isSlice, isMap, mapWord, chanWord, funcWord, interfaceWord,
        List.isPrefixOf]

end TypeExpr

end FieldBridge
