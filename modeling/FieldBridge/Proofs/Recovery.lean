import FieldBridge.Proofs.Fieldless
import FieldBridge.Proofs.MatchingBrace
import FieldBridge.Proofs.WrittenEntries

/-!
# Reading written structs

A struct that was written entry by entry is read with the fields that its entries stand
for.  Lines are told apart by their first tokens, so every form of entry is followed
through the reader of lines; the entries of an inline struct are read in the same way
and forgotten.
-/

namespace FieldBridge

open Declaration

namespace FieldEntry

/-- The tokens from the end of a type on: the tag and the end of the line. -/
def lineEnd (tag : Option RawTag) (position : Position) (more : List Lexeme) : List Token :=
  Token.place position (lexsOfTag tag ++ .lineFeed :: more)

theorem lineEnd_eq_cons (tag : Option RawTag) (position : Position) (more : List Lexeme) :
    ∃ token tail, lineEnd tag position more = token :: tail ∧ token.endsField = true ∧
      token.isPunct '.' = false := by
  cases tag with
  | none => exact ⟨_, _, rfl, rfl, rfl⟩
  | some tag => exact ⟨_, _, rfl, rfl, rfl⟩

/-- The end of a line gives its fields the tag that was written. -/
theorem endLine_lineEnd (tag : Option RawTag) (position : Position) :
    ∃ position', ∀ (names : List (String × Span)) (type : String) (more : List Lexeme),
      ∃ newline : Token, newline.isSeparator = true ∧
        endLine names type [] (lineEnd tag position more) =
          ⟨names.map fun name =>
            ⟨name.1, type, tag.map fun tag => String.ofList tag.text, name.2⟩, [],
            newline :: Token.place position' more⟩ := by
  cases tag with
  | none => exact ⟨_, fun names type more => ⟨_, rfl, rfl⟩⟩
  | some tag => exact ⟨_, fun names type more => ⟨_, rfl, rfl⟩⟩

theorem moreNames_comma {comma token : Token} {name : String}
    (hcomma : comma.isPunct ',' = true) (hname : token.name? = some name) (rest : List Token) :
    moreNames false (comma :: token :: rest) =
      ((name, token.span) :: (moreNames false rest).1, (moreNames false rest).2) := by
  have hline := kind_ne_newline_of_name? (by rw [hname]; rfl : token.name?.isSome = true)
  rw [moreNames, if_neg (by simp), if_pos hcomma, moreNames, if_pos rfl, if_neg hline]
  simp only [hname]

/-- The names behind the first one of a line are read one after the other. -/
theorem moreNames_others (others : List Identifier) (position : Position) :
    ∃ names position', names.map Prod.fst = others.map (fun name => String.ofList name.text) ∧
      ∀ more, moreNames false (Token.place position (lexsOfOthers others ++ more)) =
        (names ++ (moreNames false (Token.place position' more)).1,
          (moreNames false (Token.place position' more)).2) := by
  induction others generalizing position with
  | nil => exact ⟨[], position, rfl, fun more => rfl⟩
  | cons name others ih =>
      obtain ⟨names, position', hnames, hmore⟩ :=
        ih (((position.after [',']).after [' ']).after name.text)
      refine ⟨(String.ofList name.text, ⟨(position.after [',']).after [' '],
        ((position.after [',']).after [' ']).after name.text⟩) :: names, position', ?_, ?_⟩
      · rw [List.map_cons, List.map_cons, hnames]
      · intro more
        have hplace : Token.place position (lexsOfOthers (name :: others) ++ more) =
            ⟨.punct ',', ",", ⟨position, position.after [',']⟩⟩ ::
              ⟨.ident (String.ofList name.text), String.ofList name.text,
                ⟨(position.after [',']).after [' '],
                  ((position.after [',']).after [' ']).after name.text⟩⟩ ::
              Token.place (((position.after [',']).after [' ']).after name.text)
                (lexsOfOthers others ++ more) :=
          rfl
        rw [hplace, moreNames_comma rfl rfl, hmore, List.cons_append]

/-- Names are read up to what they are given: a type or an inline struct. -/
theorem namedHead_others (others : List Identifier) (position : Position) :
    ∃ names position', names.map Prod.fst = others.map (fun name => String.ofList name.text) ∧
      ∀ (name : String) (span : Span) (lexeme : Lexeme) (kind : Token.Kind) (more : List Lexeme),
        lexeme.kind? = some kind →
        ((∃ name, kind = .ident name) ∨ kind = .punct '*' ∨ kind = .punct '[') →
        namedHead name span
            (Token.place position (lexsOfOthers others ++ .blank ' ' :: lexeme :: more)) =
          typedHead ((name, span) :: names) (Token.place position' (lexeme :: more)) := by
  obtain ⟨names, position', hnames, hmore⟩ := moreNames_others others position
  refine ⟨names, position'.after [' '], hnames, ?_⟩
  intro name span lexeme kind more hkind hcases
  have hblank : ∀ position : Position, Token.place position (.blank ' ' :: lexeme :: more) =
      ⟨kind, String.ofList lexeme.text,
        ⟨position.after [' '], (position.after [' ']).after lexeme.text⟩⟩ ::
        Token.place ((position.after [' ']).after lexeme.text) more := by
    intro position
    rw [Token.place_cons_none rfl, Token.place_cons_some hkind]
    rfl
  have hplain : isEmbedded
      (Token.place position (lexsOfOthers others ++ .blank ' ' :: lexeme :: more)) = false := by
    cases others with
    | nil =>
        rw [lexsOfOthers, List.flatMap_nil, List.nil_append, hblank, isEmbedded]
        rcases hcases with ⟨_, rfl⟩ | rfl | rfl <;> rfl
    | cons other others => rfl
  have hstop : moreNames false (Token.place position' (.blank ' ' :: lexeme :: more)) =
      ([], Token.place position' (.blank ' ' :: lexeme :: more)) := by
    rw [hblank, moreNames, if_neg (by simp), if_neg]
    rcases hcases with ⟨_, rfl⟩ | rfl | rfl <;> simp [Token.isPunct]
  rw [namedHead, hplain, if_neg (by simp), hmore, hstop, Token.place_cons_none rfl]
  dsimp only
  rw [List.append_nil]
  rfl

theorem qualified_lineEnd (first : String) (tag : Option RawTag) (position : Position)
    (more : List Lexeme) :
    qualified first (lineEnd tag position more) =
      ((first, first), lineEnd tag position more) := by
  obtain ⟨token, tail, hend, _, hpoint⟩ := lineEnd_eq_cons tag position more
  rw [hend, qualified, selectors_of_not_point hpoint]
  rfl

theorem qualified_selected {dot token : Token} {name : String} (hdot : dot.isPunct '.' = true)
    (hname : token.name? = some name) (first : String) (tag : Option RawTag)
    (position : Position) (more : List Lexeme) :
    qualified first (dot :: token :: lineEnd tag position more) =
      ((name, first ++ "." ++ name), lineEnd tag position more) := by
  obtain ⟨next, tail, hend, _, hpoint⟩ := lineEnd_eq_cons tag position more
  rw [hend, qualified, selectors_of_name hdot hname, selectors_of_not_point hpoint]
  rfl

theorem isEmbedded_lineEnd (tag : Option RawTag) (position : Position) (more : List Lexeme) :
    isEmbedded (lineEnd tag position more) = true := by
  obtain ⟨token, tail, hend, hends, _⟩ := lineEnd_eq_cons tag position more
  rw [hend, isEmbedded, hends, Bool.true_or]

theorem render_embeddedType_pointer (package : Option Identifier) (name : Identifier) :
    String.ofList (embeddedType true package name).render =
      "*" ++ String.ofList (embeddedType false package name).render := by
  have hstar : (embeddedType true package name).render =
      ['*'] ++ (embeddedType false package name).render := rfl
  rw [hstar, String.ofList_append]

theorem render_embeddedType_package (package name : Identifier) :
    String.ofList (embeddedType false (some package) name).render =
      String.ofList package.text ++ "." ++ String.ofList name.text := by
  have hpath : (embeddedType false (some package) name).render =
      package.text ++ (['.'] ++ name.text) := rfl
  rw [hpath, String.ofList_append, String.ofList_append, String.append_assoc]

/-- An embedded type is read under the last name of its path. -/
theorem head_embedded (isPointer : Bool) (package : Option Identifier) (name : Identifier)
    (tag : Option RawTag) (position : Position) :
    ∃ span position', ∀ more, ∃ token rest,
      Token.place position ((embeddedType isPointer package name).lexs ++
        (lexsOfTag tag ++ .lineFeed :: more)) = token :: rest ∧
      ((∃ name, token.kind = .ident name) ∨ token.kind = .punct '*') ∧
      head token rest = .plain [(String.ofList name.text, span)]
        (String.ofList (embeddedType isPointer package name).render)
        (lineEnd tag position' more) := by
  cases isPointer with
  | false =>
      cases package with
      | none =>
          refine ⟨⟨position, position.after name.text⟩, position.after name.text, fun more =>
            ⟨_, lineEnd tag (position.after name.text) more, rfl, .inl ⟨_, rfl⟩, ?_⟩⟩
          rw [head_ident rfl, namedHead_embedded (isEmbedded_lineEnd _ _ _),
            qualified_lineEnd]
          rfl
      | some package =>
          refine ⟨⟨position, position.after package.text⟩,
            ((position.after package.text).after ['.']).after name.text, fun more =>
            ⟨_, _ :: _ :: lineEnd tag _ more, rfl, .inl ⟨_, rfl⟩, ?_⟩⟩
          rw [head_ident rfl, namedHead_embedded rfl, qualified_selected rfl rfl,
            render_embeddedType_package]
          rfl
  | true =>
      rw [render_embeddedType_pointer]
      cases package with
      | none =>
          refine ⟨⟨position, position.after ['*']⟩, (position.after ['*']).after name.text,
            fun more => ⟨_, _ :: lineEnd tag ((position.after ['*']).after name.text) more, rfl,
              .inr rfl, ?_⟩⟩
          rw [head_star rfl, pointerHead_name rfl, qualified_lineEnd]
          rfl
      | some package =>
          refine ⟨⟨position, position.after ['*']⟩,
            (((position.after ['*']).after package.text).after ['.']).after name.text, fun more =>
            ⟨_, _ :: _ :: _ :: lineEnd tag _ more, rfl, .inr rfl, ?_⟩⟩
          rw [head_star rfl, pointerHead_name rfl, qualified_selected rfl rfl,
            render_embeddedType_package]
          rfl

theorem map_ofField_names {names : List (String × Span)} {identifiers : List Identifier}
    (hnames : names.map Prod.fst = identifiers.map fun name => String.ofList name.text)
    {type : String} {described : Identifier → FieldDescriptor}
    (htype : ∀ name, FieldDescriptor.ofType (String.ofList name.text) type = described name)
    (tag : Option RawTag) :
    (names.map fun name => (⟨name.1, type, tag.map fun tag => String.ofList tag.text, name.2⟩ :
      Declaration.Field)).map FieldDescriptor.ofField =
        identifiers.map fun name => tagged tag (described name) := by
  have hfields : ∀ names : List (String × Span), (names.map fun name => (⟨name.1, type,
      tag.map fun tag => String.ofList tag.text, name.2⟩ : Declaration.Field)).map
        FieldDescriptor.ofField = (names.map Prod.fst).map fun name =>
          tagged tag (FieldDescriptor.ofType name type) := by
    intro names
    rw [List.map_map, List.map_map]
    cases tag <;> rfl
  rw [hfields, hnames, List.map_map]
  apply List.map_congr_left
  intro name _
  rw [Function.comp, htype]

/-- A line that is written to its end is followed by the lines behind it. -/
theorem fieldList_lineEnd (tag : Option RawTag) (position : Position) :
    ∃ position', ∀ (token : Token) (rest : List Token) (names : List (String × Span))
      (type : String) (more : List Lexeme),
      ((∃ name, token.kind = .ident name) ∨ token.kind = .punct '*') →
      fieldLine token rest = endLine names type [] (lineEnd tag position more) →
      fieldList (token :: rest) =
        ⟨(names.map fun name =>
            ⟨name.1, type, tag.map fun tag => String.ofList tag.text, name.2⟩) ++
            (fieldList (Token.place position' more)).fields,
          (fieldList (Token.place position' more)).notes,
          (fieldList (Token.place position' more)).close,
          (fieldList (Token.place position' more)).rest⟩ := by
  obtain ⟨position', hend⟩ := endLine_lineEnd tag position
  refine ⟨position', ?_⟩
  intro token rest names type more hkind hline
  obtain ⟨newline, hnewline, hread⟩ := hend names type more
  have heof : token.kind ≠ .eof := by
    rcases hkind with ⟨name, hkind⟩ | hkind <;> simp [hkind]
  have hstops : ¬ StopsLine token := by
    rcases hkind with ⟨name, hkind⟩ | hkind <;>
      simp [StopsLine, Token.isSeparator, Token.isPunct, hkind]
  rw [fieldList_line heof hstops, hline, hread]
  dsimp only
  rw [fieldList_separator hnewline, List.nil_append]

/-- Lexemes are read as fields of a field list, which goes on behind them. -/
def ReadsAs (lexs : List Lexeme) (described : List FieldDescriptor) : Prop :=
  ∀ position, ∃ fields position', fields.map FieldDescriptor.ofField = described ∧
    ∀ more, fieldList (Token.place position (lexs ++ more)) =
      ⟨fields ++ (fieldList (Token.place position' more)).fields,
        (fieldList (Token.place position' more)).notes,
        (fieldList (Token.place position' more)).close,
        (fieldList (Token.place position' more)).rest⟩

theorem typedHead_type (names : List (String × Span)) (type : TypeExpr) (tag : Option RawTag)
    (position : Position) (more : List Lexeme) :
    typedHead names (Token.place position (type.lexs ++ (lexsOfTag tag ++ .lineFeed :: more))) =
      .plain names (String.ofList type.render)
        (lineEnd tag (position.after type.render) more) := by
  obtain ⟨token, tail, hend, hends, _⟩ :=
    lineEnd_eq_cons tag (position.after type.render) more
  have hrest : ∃ token tail, lineEnd tag (position.after type.render) more = token :: tail ∧
      token.endsField = true := ⟨token, tail, hend, hends⟩
  have hplace : Token.place position (type.lexs ++ (lexsOfTag tag ++ .lineFeed :: more)) =
      Token.place position type.lexs ++ lineEnd tag (position.after type.render) more := by
    rw [Token.place_append, type.flatMap_text_lexs, lineEnd]
  rw [hplace, typedHead, type.inlineBody?_render position hrest]
  dsimp only
  rw [type.typeText_render position hrest]

theorem readsAs_plain (first : Identifier) (others : List Identifier) (type : TypeExpr)
    (tag : Option RawTag) :
    ReadsAs (plain first others type tag).lexs (plain first others type tag).fields := by
  intro position
  obtain ⟨names, position', hnames, hhead⟩ :=
    namedHead_others others (position.after first.text)
  obtain ⟨position'', hlines⟩ := fieldList_lineEnd tag (position'.after type.render)
  obtain ⟨lexeme, kind, typeLexs, hlexs, hkind, hcases⟩ := type.exists_lexs_eq_cons
  have hfields := @map_ofField_names ((String.ofList first.text,
    ⟨position, position.after first.text⟩) :: names) (first :: others)
    (by rw [List.map_cons, List.map_cons, hnames]) _ (typedField type)
    (fun name => type.ofType_render _) tag
  refine ⟨_, position'', hfields, fun more => ?_⟩
  have hplace : Token.place position ((plain first others type tag).lexs ++ more) =
      ⟨.ident (String.ofList first.text), String.ofList first.text,
        ⟨position, position.after first.text⟩⟩ ::
        Token.place (position.after first.text) (lexsOfOthers others ++ .blank ' ' ::
          (type.lexs ++ (lexsOfTag tag ++ .lineFeed :: more))) := by
    simp only [lexs, lexsOfNames, List.append_assoc, List.cons_append, List.nil_append]
    rw [Token.place_cons_some rfl]
    rfl
  have htyped := hhead (String.ofList first.text) ⟨position, position.after first.text⟩ lexeme
    kind (typeLexs ++ (lexsOfTag tag ++ .lineFeed :: more)) hkind hcases
  rw [← List.cons_append, ← hlexs, typedHead_type] at htyped
  rw [hplace]
  apply hlines _ _ _ _ _ (.inl ⟨_, rfl⟩)
  apply fieldLine_of_plain
  rw [head_ident rfl, htyped]

theorem readsAs_embedded (isPointer : Bool) (package : Option Identifier) (name : Identifier)
    (tag : Option RawTag) :
    ReadsAs (embedded isPointer package name tag).lexs
      (embedded isPointer package name tag).fields := by
  intro position
  obtain ⟨span, position', hhead⟩ := head_embedded isPointer package name tag position
  obtain ⟨position'', hlines⟩ := fieldList_lineEnd tag position'
  have hfields := @map_ofField_names [(String.ofList name.text, span)] [name] rfl _
    (typedField (embeddedType isPointer package name))
    (fun name => TypeExpr.ofType_render _ _) tag
  refine ⟨_, position'', hfields, fun more => ?_⟩
  obtain ⟨token, rest, hplace, hkind, hplain⟩ := hhead more
  have hline : (embedded isPointer package name tag).lexs ++ more =
      (embeddedType isPointer package name).lexs ++ (lexsOfTag tag ++ .lineFeed :: more) := by
    simp [lexs]
  rw [hline, hplace]
  exact hlines _ _ _ _ _ hkind (fieldLine_of_plain hplain)

/-- The lexemes of an inline struct are read up to its closing brace. -/
theorem typedHead_inline (position : Position) :
    ∃ opening position', ∀ names lexs, ∃ newline : Token, newline.isSeparator = true ∧
      typedHead names (Token.place position (.word structWord :: .blank ' ' :: .symbol '{' ::
        .lineFeed :: lexs)) = .inline names opening (newline :: Token.place position' lexs) := by
  have hword : String.ofList structWord = "struct" := by decide
  let brace := (position.after structWord).after [' ']
  let line := brace.after ['{']
  refine ⟨⟨brace, line⟩, line.after ['\n'], fun names lexs =>
    ⟨⟨.newline, "\n", ⟨line, line.after ['\n']⟩⟩, rfl, ?_⟩⟩
  rw [Token.place_cons_some rfl, Token.place_cons_none rfl, Token.place_cons_some rfl,
    Token.place_cons_some rfl, typedHead, inlineBody?]
  simp only [Token.isWord, Token.isPunct, hword, decide_true, Bool.and_self, if_true]
  rfl

theorem readsAs_inline (first : Identifier) (others : List Identifier)
    {entries : List FieldEntry} (tag : Option RawTag)
    (hentries : ReadsAs (lexsOfAll entries) (entries.flatMap fields)) :
    ReadsAs (inline first others entries tag).lexs
      (inline first others entries tag).fields := by
  intro position
  obtain ⟨names, position', hnames, hhead⟩ :=
    namedHead_others others (position.after first.text)
  obtain ⟨opening, inside, htyped⟩ := typedHead_inline position'
  obtain ⟨nested, behind, _, hnested⟩ := hentries inside
  obtain ⟨position'', hlines⟩ := fieldList_lineEnd tag (behind.after ['}'])
  have hfields := @map_ofField_names ((String.ofList first.text,
    ⟨position, position.after first.text⟩) :: names) (first :: others)
    (by rw [List.map_cons, List.map_cons, hnames]) inlineStruct inlineField
    (fun name => rfl) tag
  refine ⟨_, position'', hfields, fun more => ?_⟩
  have hplace : Token.place position ((inline first others entries tag).lexs ++ more) =
      ⟨.ident (String.ofList first.text), String.ofList first.text,
        ⟨position, position.after first.text⟩⟩ ::
        Token.place (position.after first.text) (lexsOfOthers others ++ .blank ' ' ::
          .word structWord :: .blank ' ' :: .symbol '{' :: .lineFeed ::
            (lexsOfAll entries ++ .symbol '}' :: (lexsOfTag tag ++ .lineFeed :: more))) := by
    simp only [lexs, lexsOfNames, List.append_assoc, List.cons_append, List.nil_append]
    rw [Token.place_cons_some rfl]
    rfl
  obtain ⟨newline, hnewline, hinline⟩ := htyped ((String.ofList first.text,
    ⟨position, position.after first.text⟩) :: names)
    (lexsOfAll entries ++ .symbol '}' :: (lexsOfTag tag ++ .lineFeed :: more))
  have hlist : fieldList (newline :: Token.place inside
      (lexsOfAll entries ++ .symbol '}' :: (lexsOfTag tag ++ .lineFeed :: more))) =
        ⟨nested, [], some ⟨behind, behind.after ['}']⟩, lineEnd tag (behind.after ['}']) more⟩ := by
    rw [fieldList_separator hnewline, hnested, Token.place_cons_some rfl, fieldList_close rfl]
    dsimp only
    rw [List.append_nil]
    rfl
  have hnamed := hhead (String.ofList first.text) ⟨position, position.after first.text⟩
    (.word structWord) _ (.blank ' ' :: .symbol '{' :: .lineFeed ::
      (lexsOfAll entries ++ .symbol '}' :: (lexsOfTag tag ++ .lineFeed :: more))) rfl
    (.inl ⟨_, rfl⟩)
  rw [hinline] at hnamed
  rw [hplace]
  apply hlines _ _ _ _ _ (.inl ⟨_, rfl⟩)
  rw [fieldLine_of_inline (by rw [head_ident rfl, hnamed]), hlist]
  rfl

mutual

theorem readsAs : (entry : FieldEntry) → ReadsAs entry.lexs entry.fields
  | plain first others type tag => readsAs_plain first others type tag
  | embedded isPointer package name tag => readsAs_embedded isPointer package name tag
  | inline first others entries tag => readsAs_inline first others tag (readsAs_all entries)

theorem readsAs_all : (entries : List FieldEntry) →
    ReadsAs (lexsOfAll entries) (entries.flatMap fields)
  | [] => fun position => ⟨[], position, rfl, fun more => rfl⟩
  | entry :: entries => by
      intro position
      obtain ⟨fields, position', hfields, hfirst⟩ := readsAs entry position
      obtain ⟨more, position'', hmore, hrest⟩ := readsAs_all entries position'
      refine ⟨fields ++ more, position'', ?_, fun behind => ?_⟩
      · rw [List.map_append, hfields, hmore, List.flatMap_cons]
      · rw [lexsOfAll, List.append_assoc, hfirst, hrest]
        simp only [List.append_assoc]

end

end FieldEntry

namespace StructDescriptor

end StructDescriptor

end FieldBridge
