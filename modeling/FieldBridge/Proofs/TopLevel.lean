import FieldBridge.Proofs.Independence

/-!
# What stands at the top level

A file is cut into struct declarations, functions and what stands between them.  A search
goes through the pieces one after the other, and finds in each what it finds in the text of
the piece alone.  It also goes into the bodies of functions.  So the structs that are read are
those of the top level exactly when no function declares a struct of its own.
-/

namespace FieldBridge

namespace Declaration

/-- The tokens of a struct declaration with a name and a well-nested field list. -/
structure StructTokens where
  type : Token
  gap : List Token
  name : Token
  ident : String
  word : Token
  gap' : List Token
  opening : Token
  inner : List Token
  close : Token
  isWord_type : type.isWord "type" = true
  newline_gap : ∀ token ∈ gap, token.kind = .newline
  name?_name : name.name? = some ident
  ident_ne : ident ≠ "struct"
  isWord_word : word.isWord "struct" = true
  newline_gap' : ∀ token ∈ gap', token.kind = .newline
  isPunct_opening : opening.isPunct '{' = true
  wellNested_inner : WellNested inner
  isPunct_close : close.isPunct '}' = true

/-- The tokens of a function: its signature has no word `type`, its body is well-nested. -/
structure FunctionTokens where
  word : Token
  signature : List Token
  opening : Token
  body : List Token
  close : Token
  isWord_word : word.isWord "func" = true
  noType_signature : NoType signature
  isPunct_opening : opening.isPunct '{' = true
  wellNested_body : WellNested body
  isPunct_close : close.isPunct '}' = true

namespace StructTokens

def tokens (declared : StructTokens) : List Token :=
  declared.type :: (declared.gap ++ declared.name :: declared.word ::
    (declared.gap' ++ declared.opening :: (declared.inner ++ [declared.close])))

def span (declared : StructTokens) : Span :=
  declared.type.span.through declared.close.span

theorem getLast?_tokens (declared : StructTokens) :
    declared.tokens.getLast? = some declared.close :=
  List.getLast?_eq_some_iff.2 ⟨declared.type :: (declared.gap ++ declared.name :: declared.word ::
    (declared.gap' ++ declared.opening :: declared.inner)), by simp [tokens]⟩

end StructTokens

namespace FunctionTokens

def tokens (declared : FunctionTokens) : List Token :=
  declared.word :: (declared.signature ++ declared.opening :: (declared.body ++ [declared.close]))

def span (declared : FunctionTokens) : Span :=
  declared.word.span.through declared.close.span

theorem getLast?_tokens (declared : FunctionTokens) :
    declared.tokens.getLast? = some declared.close :=
  List.getLast?_eq_some_iff.2
    ⟨declared.word :: (declared.signature ++ declared.opening :: declared.body), by simp [tokens]⟩

end FunctionTokens

/-- A piece of a file.  Between declarations anything may stand but the word `type`. -/
inductive Piece where
  | struct (declared : StructTokens)
  | function (declared : FunctionTokens)
  | between (tokens : List Token) (noType : NoType tokens)

namespace Piece

def tokens : Piece → List Token
  | struct declared => declared.tokens
  | function declared => declared.tokens
  | between tokens _ => tokens

def struct? : Piece → Option StructTokens
  | struct declared => some declared
  | function _ => none
  | between _ _ => none

/-- The text of a declaration in a source. -/
def text (source : List Char) : Piece → String
  | struct declared => String.ofList ((declared.span.text? source).getD [])
  | function declared => String.ofList ((declared.span.text? source).getD [])
  | between _ _ => ""

end Piece

theorem SameClosed.symm {moved moved' : Nat → Nat → Prop} {declaration other : Declaration}
    (hmoved : ∀ byte byte', moved byte byte' → moved' byte' byte)
    (hsame : SameClosed moved declaration other) : SameClosed moved' other declaration := by
  obtain ⟨hsame, hgrouped, hclosed⟩ := hsame
  refine ⟨⟨hsame.name_eq.symm, hsame.fields_eq.symm, hsame.failure_eq.symm, hsame.notes_eq.symm,
    hmoved _ _ hsame.start_moved, hmoved _ _ hsame.stop_moved⟩, hgrouped.symm, ?_⟩
  intro failure hfailure hkind
  have hunplaced := hsame.failure_eq
  rw [hfailure] at hunplaced
  obtain ⟨failure', hfailure', hsame'⟩ := Option.map_eq_some_iff.1 hunplaced.symm
  have hkinds := congrArg Diagnostic.kind hsame'
  exact hclosed failure' hfailure' (hkinds.trans hkind)

/-- What a search finds in `tokens` with `after` behind them it finds in alike tokens with
nothing behind them, and the search goes on behind `tokens`. -/
def Separate (tokens after : List Token) : Prop :=
  ∀ (moved : Nat → Nat → Prop) (right : List Token) (finish finish' : Position),
    (∀ token ∈ right, token.kind ≠ .eof) → Alike moved after [] (tokens ++ after) right →
      ∃ found, allFrom finish .file (tokens ++ after) = found ++ allFrom finish .file after ∧
        List.Forall₂ (SameClosed moved) found (allFrom finish' .file right)

/-- A struct declaration is found with its name, from its word `type` to its closing brace. -/
theorem StructTokens.next? (declared : StructTokens) {after : List Token}
    (heof : ∀ token ∈ declared.tokens ++ after, token.kind ≠ .eof) (finish : Position) :
    ∃ declaration, next? finish .file (declared.tokens ++ after) =
        some (declaration, .file, after) ∧
      declaration.name = declared.ident ∧ declaration.span = declared.span ∧
      declaration.grouped = false := by
  have hsplit : declared.tokens ++ after = declared.type :: (declared.gap ++ declared.name ::
      declared.word :: (declared.gap' ++ declared.opening ::
        (declared.inner ++ declared.close :: after))) := by
    simp [tokens]
  have hinner : ∀ token ∈ declared.inner ++ declared.close :: after, token.kind ≠ .eof :=
    fun token htoken => heof token (by rw [hsplit]; simp_all)
  rw [hsplit, next?_struct declared.isWord_type declared.newline_gap declared.name?_name
    declared.ident_ne declared.isWord_word declared.newline_gap' declared.isPunct_opening
    declared.isPunct_close declared.wellNested_inner hinner]
  exact ⟨_, rfl, rfl, rfl, rfl⟩

theorem StructTokens.separate (declared : StructTokens) {after : List Token}
    (heof : ∀ token ∈ declared.tokens ++ after, token.kind ≠ .eof) :
    Separate declared.tokens after := by
  intro moved right finish finish' _ halike
  have hopens : OpensStruct ([] ++ declared.type :: (declared.gap ++ declared.name ::
      declared.word :: (declared.gap' ++ [declared.opening]))) :=
    ⟨[], _, _, _, declared.ident, _, _, _, rfl, by simp [NoType], declared.isWord_type,
      declared.newline_gap, declared.name?_name, declared.ident_ne, declared.isWord_word,
      declared.newline_gap', declared.isPunct_opening⟩
  have hsplit : declared.tokens ++ after = ([] ++ declared.type :: (declared.gap ++
      declared.name :: declared.word :: (declared.gap' ++ [declared.opening]))) ++
        (declared.inner ++ declared.close :: ([] ++ after)) := by
    simp [tokens]
  rw [hsplit] at heof halike ⊢
  obtain ⟨found, found', hfound, hfound', hall⟩ := hopens.allFrom declared.wellNested_inner
    declared.isPunct_close (by simp [NoType]) heof halike finish finish'
  rw [allFrom_nil, List.append_nil] at hfound'
  exact ⟨found, hfound, by rwa [hfound']⟩

theorem noType_singleton {token : Token} {c : Char} (hpunct : token.isPunct c = true) :
    NoType [token] := by
  have hkind : token.kind = .punct c := by simpa [Token.isPunct] using hpunct
  simp [NoType, Token.isWord, hkind]

theorem FunctionTokens.noType_head (declared : FunctionTokens) :
    NoType (declared.word :: (declared.signature ++ [declared.opening])) := by
  have hword : declared.word.isWord "type" = false := by
    simp [Token.isWord, Token.name?_eq_some_iff.1 (Token.name?_of_isWord declared.isWord_word)]
  intro token htoken
  rcases List.mem_cons.1 htoken with rfl | htoken
  · exact hword
  rcases List.mem_append.1 htoken with htoken | htoken
  · exact declared.noType_signature token htoken
  · exact noType_singleton declared.isPunct_opening token htoken

theorem FunctionTokens.separate (declared : FunctionTokens) {after : List Token}
    (heof : ∀ token ∈ declared.tokens ++ after, token.kind ≠ .eof) :
    Separate declared.tokens after := by
  intro moved right finish finish' heof' halike
  have hsplit : declared.tokens ++ after = declared.word :: (declared.signature ++
      [declared.opening]) ++ (declared.body ++ declared.close :: ([] ++ after)) := by
    simp [tokens]
  rw [hsplit] at heof halike ⊢
  -- past the signature the search stands inside the braces of the body
  obtain ⟨found, found', hfound, hfound', hall⟩ := declared.noType_head.enters.allFrom
    (Token.bracket_of_isPunct declared.isPunct_close)
    (fun _ => ⟨[], declared.body, rfl, declared.wellNested_body⟩) (by simp [NoType]) heof heof'
    halike finish finish'
  rw [allFrom_nil, List.append_nil] at hfound'
  exact ⟨found, hfound, by rwa [hfound']⟩

end Declaration

namespace StructDescriptor

open Declaration

/-- The descriptor of a struct declaration has its name and its text. -/
structure Describes (source : List Char) (declared : StructTokens)
    (descriptor : StructDescriptor) : Prop where
  name_eq : descriptor.name = declared.ident
  sourceText_eq : declared.span.text? source = some descriptor.sourceText.toList

theorem describes_content {source : List Char} {declared : StructTokens}
    {descriptor : StructDescriptor} :
    Describes source declared descriptor.content ↔ Describes source declared descriptor :=
  ⟨fun hdescribes => ⟨hdescribes.name_eq, hdescribes.sourceText_eq⟩,
    fun hdescribes => ⟨hdescribes.name_eq, hdescribes.sourceText_eq⟩⟩

/-- What is read of a piece in its own text. -/
def contents (source : List Char) (piece : Piece) : List StructDescriptor :=
  (all (piece.text source).toList).map (contentIn (piece.text source).toList)

section Pieces

variable {source : List Char} {passed after : List Token}

/-- What a search finds in the tokens of a declaration is what is read of its text. -/
theorem exists_found {piece : Piece} {first last : Token}
    (hscan : Token.scan source = passed ++ (piece.tokens ++ after))
    (hseparate : Separate piece.tokens after) (hfirst : piece.tokens.head? = some first)
    (hlast : piece.tokens.getLast? = some last)
    (htext : piece.text source =
      String.ofList (((first.span.through last.span).text? source).getD []))
    (finish : Position) :
    ∃ text found, (first.span.through last.span).text? source = some text ∧
      allFrom finish .file (piece.tokens ++ after) = found ++ allFrom finish .file after ∧
      contents source piece = found.map (contentIn source) := by
  rw [← List.append_assoc] at hscan
  obtain ⟨front, text, back, rfl, hstart, hstop, hplace, _⟩ :=
    Token.exists_slice hscan hfirst hlast
  have hspan := @Span.text?_of_append (first.span.through last.span) front text back hstart hstop
  -- the same lexemes make the tokens of the piece and those of its own text
  have halike : Alike (Token.ShiftedBy (Position.start.after front).byte Position.start.byte)
      after [] (piece.tokens ++ after) (Token.scan text ++ []) := by
    rw [← hplace, hstart]
    exact Token.alike_place (Nat.add_comm _ _) .none (lexemes text) after []
  rw [List.append_nil] at halike
  obtain ⟨found, hfound, hall⟩ := hseparate _ _ finish (Position.start.after text)
    (Token.place_ne_eof _ _) halike
  refine ⟨text, found, hspan, hfound, ?_⟩
  rw [contents, htext, hspan, Option.getD_some, String.toList_ofList]
  have hback : List.Forall₂ (SameClosed (Token.ShiftedBy Position.start.byte
      (Position.start.after front).byte)) (all text) found :=
    .flip (hall.imp fun _ _ hsame => hsame.symm fun _ _ hshift => hshift.symm)
  exact (map_contentIn_append hback fun _ hmem => hmem).symm

theorem map_allFrom_struct {declared : StructTokens}
    (hscan : Token.scan source = passed ++ (declared.tokens ++ after)) (finish : Position) :
    ∃ descriptor, contents source (.struct declared) = [descriptor] ∧
      Describes source declared descriptor ∧
      (allFrom finish .file (declared.tokens ++ after)).map (contentIn source) =
        contents source (.struct declared) ++
          (allFrom finish .file after).map (contentIn source) := by
  have heof : ∀ token ∈ declared.tokens ++ after, token.kind ≠ .eof :=
    Token.scan_ne_eof ⟨passed, hscan.symm⟩
  obtain ⟨text, found, htext, hfound, hcontents⟩ := @exists_found _ _ _ (.struct declared) _ _
    hscan (declared.separate heof) rfl declared.getLast?_tokens rfl finish
  obtain ⟨declaration, hnext, hname, hspan, hgrouped⟩ := declared.next? heof finish
  have hall := allFrom_of_next?_eq_some hnext
  rw [← List.singleton_append] at hall
  obtain rfl := List.append_cancel_right (hfound.symm.trans hall)
  have hwritten : declarationText source declaration = String.ofList text := by
    rw [declarationText, hspan, hgrouped, StructTokens.span, htext]
    rfl
  refine ⟨contentIn source declaration, hcontents, ⟨hname, htext.trans ?_⟩, ?_⟩
  · rw [← String.toList_ofList (l := text), ← hwritten]
    rfl
  · rw [hall, List.map_append, hcontents]

theorem map_allFrom_function {declared : FunctionTokens}
    (hscan : Token.scan source = passed ++ (declared.tokens ++ after)) (finish : Position) :
    (allFrom finish .file (declared.tokens ++ after)).map (contentIn source) =
      contents source (.function declared) ++
        (allFrom finish .file after).map (contentIn source) := by
  have heof : ∀ token ∈ declared.tokens ++ after, token.kind ≠ .eof :=
    Token.scan_ne_eof ⟨passed, hscan.symm⟩
  obtain ⟨_, found, _, hfound, hcontents⟩ := @exists_found _ _ _ (.function declared) _ _
    hscan (declared.separate heof) rfl declared.getLast?_tokens rfl finish
  have hall : allFrom finish .file (declared.tokens ++ after) =
      found ++ allFrom finish .file after := hfound
  rw [hall, List.map_append, hcontents]

theorem contents_between {tokens : List Token} (hsilent : NoType tokens) :
    contents source (.between tokens hsilent) = [] := by
  have hnone : all [] = [] := by
    rw [all, Token.scan, lexemes, Token.place, allFrom_nil]
  rw [contents, Piece.text, String.toList_empty, hnone]
  rfl

/-- The step of a search from one piece to the next. -/
theorem map_allFrom_piece {piece : Piece}
    (hscan : Token.scan source = passed ++ (piece.tokens ++ after)) (finish : Position) :
    (allFrom finish .file (piece.tokens ++ after)).map (contentIn source) =
      contents source piece ++ (allFrom finish .file after).map (contentIn source) := by
  cases piece with
  | struct declared =>
      obtain ⟨_, _, _, hmap⟩ := map_allFrom_struct hscan finish
      exact hmap
  | function declared => exact map_allFrom_function hscan finish
  | between tokens hsilent =>
      rw [contents_between, Piece.tokens, allFrom_congr (hsilent.next? after)]
      rfl

theorem map_allFrom_pieces {pieces : List Piece}
    (hscan : Token.scan source = passed ++ (pieces.flatMap Piece.tokens ++ after))
    (finish : Position) :
    (allFrom finish .file (pieces.flatMap Piece.tokens ++ after)).map (contentIn source) =
      pieces.flatMap (contents source) ++
        (allFrom finish .file after).map (contentIn source) := by
  induction pieces generalizing passed with
  | nil => rfl
  | cons piece pieces ih =>
      rw [List.flatMap_cons, List.append_assoc] at hscan ⊢
      rw [map_allFrom_piece hscan finish, List.flatMap_cons, List.append_assoc,
        @ih (passed ++ piece.tokens) (by rw [hscan, List.append_assoc])]

/-- What is read of a function is what is read of the pieces of its body. -/
theorem contents_function {declared : FunctionTokens} {pieces : List Piece}
    (hscan : Token.scan source = passed ++ (declared.tokens ++ after))
    (hbody : declared.body = pieces.flatMap Piece.tokens) :
    contents source (.function declared) = pieces.flatMap (contents source) := by
  have htokens : declared.tokens = ([Piece.between _ declared.noType_head] ++ pieces ++
      [Piece.between _ (noType_singleton declared.isPunct_close)]).flatMap Piece.tokens := by
    simp [FunctionTokens.tokens, Piece.tokens, hbody]
  have hfunction := map_allFrom_function hscan .start
  rw [htokens] at hscan hfunction
  rw [map_allFrom_pieces hscan, List.append_left_inj] at hfunction
  rw [← hfunction, List.flatMap_append, List.flatMap_append, List.flatMap_singleton,
    List.flatMap_singleton, contents_between, contents_between, List.nil_append, List.append_nil]

theorem contents_struct {declared : StructTokens} {pieces : List Piece}
    (hscan : Token.scan source = pieces.flatMap Piece.tokens)
    (hmem : .struct declared ∈ pieces) :
    ∃ descriptor, contents source (.struct declared) = [descriptor] ∧
      Describes source declared descriptor := by
  obtain ⟨front, back, rfl⟩ := List.append_of_mem hmem
  rw [List.flatMap_append, List.flatMap_cons] at hscan
  obtain ⟨descriptor, hcontents, hdescribes, _⟩ := map_allFrom_struct hscan .start
  exact ⟨descriptor, hcontents, hdescribes⟩

end Pieces

section Yields

variable {α β γ : Type} {related : β → γ → Prop} {pick : α → Option β} {yield : α → List γ}
  {items : List α}

theorem length_filterMap_le_length_flatMap
    (hpick : ∀ item ∈ items, ∀ picked, pick item = some picked →
      ∃ value, yield item = [value] ∧ related picked value) :
    (items.filterMap pick).length ≤ (items.flatMap yield).length := by
  induction items with
  | nil => exact Nat.le_refl 0
  | cons item items ih =>
      have hrest := ih fun other hother => hpick other (List.mem_cons_of_mem item hother)
      rw [List.flatMap_cons, List.length_append]
      cases hpicked : pick item with
      | none =>
          rw [List.filterMap_cons_none hpicked]
          omega
      | some picked =>
          obtain ⟨value, hyield, _⟩ := hpick item List.mem_cons_self picked hpicked
          rw [List.filterMap_cons_some hpicked, hyield, List.length_cons, List.length_singleton]
          omega

/-- Where every picked element yields one value, related to it, these are all there is exactly
when nothing else yields anything. -/
theorem forall₂_filterMap_flatMap_iff
    (hpick : ∀ item ∈ items, ∀ picked, pick item = some picked →
      ∃ value, yield item = [value] ∧ related picked value) :
    List.Forall₂ related (items.filterMap pick) (items.flatMap yield) ↔
      ∀ item ∈ items, pick item = none → yield item = [] := by
  induction items with
  | nil => simp
  | cons item items ih =>
      have hpickRest := fun other hother => hpick other (List.mem_cons_of_mem item hother)
      rw [List.flatMap_cons, List.forall_mem_cons, ← ih hpickRest]
      cases hpicked : pick item with
      | none =>
          rw [List.filterMap_cons_none hpicked]
          constructor
          · intro hall
            have hlength := hall.length_eq
            have hle := length_filterMap_le_length_flatMap hpickRest
            rw [List.length_append] at hlength
            have hnil : yield item = [] := List.length_eq_zero_iff.1 (by omega)
            rw [hnil, List.nil_append] at hall
            exact ⟨fun _ => hnil, hall⟩
          · rintro ⟨hnil, hall⟩
            rwa [hnil rfl, List.nil_append]
      | some picked =>
          obtain ⟨value, hyield, hrelated⟩ := hpick item List.mem_cons_self picked hpicked
          rw [List.filterMap_cons_some hpicked, hyield, List.singleton_append, List.forall₂_cons]
          simp [hrelated]

end Yields

theorem map_content_readMany {source : String} {pieces : List Piece}
    (hscan : Token.scan source.toList = pieces.flatMap Piece.tokens) (supply : IdSupply) :
    (readMany source supply).1.map content = pieces.flatMap (contents source.toList) := by
  have hpieces := @map_allFrom_pieces source.toList [] [] pieces
    (by rw [hscan, List.nil_append, List.append_nil]) (Position.start.after source.toList)
  rw [allFrom_nil, List.map_nil, List.append_nil, List.append_nil] at hpieces
  rw [content_readMany, all, hscan, hpieces]

/-- The structs of a source are read piece by piece: one for each struct declaration, and for
each function those in its body.  They are those of the top level exactly when no function
has one in its text. -/
theorem readMany_pieces {source : String} {pieces : List Piece}
    (hscan : Token.scan source.toList = pieces.flatMap Piece.tokens) (supply : IdSupply) :
    (readMany source supply).1.map content =
        pieces.flatMap (fun piece =>
          (readMany (piece.text source.toList) supply).1.map content) ∧
      (∀ declared, .struct declared ∈ pieces → ∃ descriptor,
        (readMany ((Piece.struct declared).text source.toList) supply).1 = [descriptor] ∧
          Describes source.toList declared descriptor) ∧
      (∀ declared (inner : List Piece), .function declared ∈ pieces →
        declared.body = inner.flatMap Piece.tokens →
        (readMany ((Piece.function declared).text source.toList) supply).1.map content =
          inner.flatMap fun piece =>
            (readMany (piece.text source.toList) supply).1.map content) ∧
      (List.Forall₂ (Describes source.toList) (pieces.filterMap Piece.struct?)
          (readMany source supply).1 ↔
        ∀ declared, .function declared ∈ pieces →
          (readMany ((Piece.function declared).text source.toList) supply).1 = []) := by
  have hcontents : ∀ piece : Piece, (readMany (piece.text source.toList) supply).1.map content =
      contents source.toList piece := fun piece => content_readMany _ supply
  have hall := map_content_readMany hscan supply
  refine ⟨?_, ?_, ?_, ?_⟩
  · rw [hall]
    exact List.flatMap_congr fun piece _ => (hcontents piece).symm
  · intro declared hmem
    obtain ⟨descriptor, hone, hdescribes⟩ := contents_struct hscan hmem
    rw [← hcontents] at hone
    obtain ⟨found, hfound, rfl⟩ := List.map_eq_singleton_iff.1 hone
    exact ⟨found, hfound, describes_content.1 hdescribes⟩
  · intro declared inner hmem hbody
    obtain ⟨front, back, rfl⟩ := List.append_of_mem hmem
    rw [List.flatMap_append, List.flatMap_cons] at hscan
    rw [hcontents, contents_function hscan hbody]
    exact List.flatMap_congr fun piece _ => (hcontents piece).symm
  · have hpick : ∀ piece ∈ pieces, ∀ declared, piece.struct? = some declared →
        ∃ descriptor, contents source.toList piece = [descriptor] ∧
          Describes source.toList declared descriptor := by
      rintro (declared | _ | _) hmem _ hstruct <;> cases hstruct
      exact contents_struct hscan hmem
    have hiff := forall₂_filterMap_flatMap_iff hpick
    simp only [← hall, List.forall₂_map_right_iff, describes_content] at hiff
    rw [hiff]
    constructor
    · intro hnone declared hmem
      have hnil := hnone _ hmem rfl
      rwa [← hcontents, List.map_eq_nil_iff] at hnil
    · rintro hnone (declared | declared | ⟨tokens, hsilent⟩) hmem hstruct
      · cases hstruct
      · rw [← hcontents, hnone declared hmem]
        rfl
      · exact contents_between hsilent

section OnOneLine

def word (name : String) (col : Nat) : Token :=
  ⟨.ident name, name, ⟨⟨col, 0, col⟩, ⟨col + name.length, 0, col + name.length⟩⟩⟩

def sign (c : Char) (col : Nat) : Token :=
  ⟨.punct c, String.ofList [c], ⟨⟨col, 0, col⟩, ⟨col + 1, 0, col + 1⟩⟩⟩

/-- A struct with one field, on one line.  Both names have one letter. -/
def shortStruct (name field : String) (ne : name ≠ "struct") (col : Nat) : StructTokens where
  type := word "type" col
  gap := []
  name := word name (col + 5)
  ident := name
  word := word "struct" (col + 7)
  gap' := []
  opening := sign '{' (col + 14)
  inner := [word field (col + 16), word "int" (col + 18)]
  close := sign '}' (col + 22)
  isWord_type := rfl
  newline_gap := by simp
  name?_name := rfl
  ident_ne := ne
  isWord_word := rfl
  newline_gap' := by simp
  isPunct_opening := rfl
  wellNested_inner := rfl
  isPunct_close := rfl

/-- A function whose body goes up to `col`, a semicolon and a struct. -/
def functionThenStruct (body : List Token) (nested : WellNested body) (col : Nat) : List Piece :=
  [.function
    { word := word "func" 0
      signature := [word "f" 5, sign '(' 6, sign ')' 7]
      opening := sign '{' 9
      body := body
      close := sign '}' col
      isWord_word := rfl
      noType_signature := by decide
      isPunct_opening := rfl
      wellNested_body := nested
      isPunct_close := rfl },
    .between [sign ';' (col + 1)] (noType_singleton (c := ';') rfl),
    .struct (shortStruct "B" "C" (by decide) (col + 3))]

def nestedBlock : String :=
  "func f() \x7b if x \x7b \x7d \x7d; type B struct \x7b C int \x7d"

def nestedBlockPieces : List Piece :=
  functionThenStruct [word "if" 11, word "x" 14, sign '{' 16, sign '}' 18] rfl 20

theorem readMany_pieces_nested_block :
    Token.scan nestedBlock.toList = nestedBlockPieces.flatMap Piece.tokens ∧
      List.Forall₂ (Describes nestedBlock.toList) (nestedBlockPieces.filterMap Piece.struct?)
        (readMany nestedBlock .sequential).1 := by
  have hscan : Token.scan nestedBlock.toList = nestedBlockPieces.flatMap Piece.tokens := by cbv
  obtain ⟨_, _, hfunction, hiff⟩ := readMany_pieces hscan .sequential
  refine ⟨hscan, hiff.2 fun declared hmem => ?_⟩
  have hbody : declared.body = [Piece.between
      [word "if" 11, word "x" 14, sign '{' 16, sign '}' 18] (by decide)].flatMap Piece.tokens := by
    simp only [nestedBlockPieces, functionThenStruct, List.mem_cons, Piece.function.injEq,
      reduceCtorEq, List.not_mem_nil, or_false] at hmem
    rw [hmem]
    rfl
  have hnone := hfunction declared _ hmem hbody
  rw [List.flatMap_singleton] at hnone
  exact List.map_eq_nil_iff.1 (hnone.trans ((content_readMany _ _).trans (contents_between _)))

def localStruct : String :=
  "func f() \x7b type X struct \x7b A int \x7d \x7d; type B struct \x7b C int \x7d"

/-- The struct of a function is read beside that of the top level. -/
theorem not_describes_local_struct :
    ¬ ∀ (source : String) (pieces : List Piece),
      Token.scan source.toList = pieces.flatMap Piece.tokens →
        List.Forall₂ (Describes source.toList) (pieces.filterMap Piece.struct?)
          (readMany source .sequential).1 := by
  intro hall
  let nested := shortStruct "X" "A" (by decide) 11
  let outer := shortStruct "B" "C" (by decide) 38
  have hlength := (hall localStruct (functionThenStruct nested.tokens rfl 35) (by cbv)).length_eq
  -- the same tokens, cut at the struct inside the function
  have hscan : Token.scan localStruct.toList = [Piece.between
      [word "func" 0, word "f" 5, sign '(' 6, sign ')' 7, sign '{' 9] (by decide), .struct nested,
      .between [sign '}' 35, sign ';' 36] (by decide), .struct outer].flatMap Piece.tokens := by
    cbv
  have hread := congrArg List.length (map_content_readMany hscan .sequential)
  obtain ⟨_, hnested, _⟩ := @contents_struct _ nested _ hscan (by simp)
  obtain ⟨_, houter, _⟩ := @contents_struct _ outer _ hscan (by simp)
  simp only [List.flatMap_cons, List.flatMap_nil, contents_between, hnested, houter,
    List.length_map] at hread
  rw [hread] at hlength
  cases hlength

end OnOneLine

end StructDescriptor

end FieldBridge
