import FieldBridge.Proofs.Layout
import FieldBridge.Proofs.StringLiterals
import FieldBridge.Proofs.TokenExchange
import FieldBridge.Proofs.Validity

/-!
# Tags of either style

A tag is never part of the text of a type.  So it can be exchanged for another string with the
same value: the text then makes alike tokens, and the same struct is read from it.
-/

namespace FieldBridge

namespace Token

/-- Puts `other` in the place of `literal`. -/
def exchange (literal other token : Token) : Token :=
  if token = literal then other else token

theorem exchange_self (literal other : Token) : exchange literal other literal = other :=
  if_pos rfl

theorem exchange_of_ne {literal token : Token} (hne : token ≠ literal) (other : Token) :
    exchange literal other token = token :=
  if_neg hne

theorem SameUse.exchange {literal other : Token} (hsame : SameUse literal other) (token : Token) :
    SameUse token (exchange literal other token) := by
  unfold Token.exchange
  split
  · next heq =>
    subst heq
    exact hsame
  · exact ⟨.inl rfl, rfl⟩

theorem scan_nodup (source : List Char) : (scan source).Nodup := by
  have hpairs := (place_pairwise .start (lexemes source) text_ne_nil_of_mem_lexemes).2
  exact hpairs.imp fun hlt heq => by
    subst heq
    omega

end Token

namespace Declaration

open Token

/-- A string that is read as the tag of a line of the field list `tokens`, or of an inline
struct in it, and of the fields of that line. -/
inductive TagIn (literal : Token) (fields : List Field) : List Token → Prop where
  | separator {token : Token} {rest : List Token} (separates : token.isSeparator = true)
      (more : TagIn literal fields rest) : TagIn literal fields (token :: rest)
  | line {token : Token} {rest back : List Token} (starts : ¬ StopsLine token)
      (label : (head token rest).behind = literal :: back)
      (isString : literal.string?.isSome = true)
      (carries : (fieldLine token rest).fields = fields) : TagIn literal fields (token :: rest)
  | inline {token : Token} {rest inner : List Token} {names : List (String × Span)}
      {opening : Span} (starts : ¬ StopsLine token)
      (opens : head token rest = .inline names opening inner)
      (within : TagIn literal fields inner) : TagIn literal fields (token :: rest)
  | later {token : Token} {rest : List Token} (starts : ¬ StopsLine token)
      (more : TagIn literal fields (fieldLine token rest).rest) :
      TagIn literal fields (token :: rest)

/-- What every part of a scanned text has: no two tokens are the same, and none is its end. -/
structure IsScanned (tokens : List Token) : Prop where
  ne_eof : ∀ token ∈ tokens, token.kind ≠ .eof
  nodup : tokens.Nodup

section TagIn

variable {literal other token : Token} {fields : List Field} {tokens rest back : List Token}

theorem IsScanned.suffix (hscanned : IsScanned tokens) (hsuffix : rest <:+ tokens) :
    IsScanned rest where
  ne_eof token htoken := hscanned.ne_eof token (hsuffix.subset htoken)
  nodup := hscanned.nodup.sublist hsuffix.sublist

theorem isScanned_scan (source : List Char) : IsScanned (scan source) where
  ne_eof := scan_ne_eof List.suffix_rfl
  nodup := scan_nodup source

theorem Taken.not_mem (htaken : Taken tokens rest literal) (hscanned : IsScanned tokens) :
    literal ∉ rest := by
  obtain ⟨front, rfl, hfront⟩ := htaken
  exact fun hrest => (List.nodup_append.1 hscanned.nodup).2.2 literal hfront literal hrest rfl

theorem keeps_of_mem (hscanned : IsScanned tokens) (hmem : literal ∈ rest) :
    Keeps (exchange literal other) tokens rest := by
  intro token htaken
  have hne : token ≠ literal := fun heq => htaken.not_mem hscanned (heq ▸ hmem)
  rw [exchange_of_ne hne]

theorem keeps_of_not_mem (hmem : literal ∉ tokens) :
    Keeps (exchange literal other) tokens rest := by
  intro token htaken
  have hne : token ≠ literal := fun heq => hmem (heq ▸ htaken.mem)
  rw [exchange_of_ne hne]

theorem tag_cons_of_string (hstring : literal.string?.isSome = true) :
    tag (literal :: back) = (literal.string?, back) := by
  obtain ⟨value, hvalue⟩ := Option.isSome_iff_exists.1 hstring
  rw [tag, hvalue]

/-- The tag of a line is taken by it. -/
theorem taken_label (hlabel : (head token rest).behind = literal :: back)
    (hstring : literal.string?.isSome = true) :
    Taken (token :: rest) (fieldLine token rest).rest literal := by
  have hback := fieldLine_suffix_tag token rest
  rw [hlabel, tag_cons_of_string hstring] at hback
  obtain ⟨front, hfront⟩ := (head token rest).behind_suffix.trans (head_suffix token rest)
  rw [hlabel] at hfront
  have htaken : Taken (token :: rest) back literal :=
    ⟨front ++ [literal], by rw [← hfront]; simp, by simp⟩
  exact htaken.leave hback

/-- A tag is one of the tokens that the field list takes. -/
theorem TagIn.taken (htag : TagIn literal fields tokens) (hscanned : IsScanned tokens) :
    Taken tokens (fieldList tokens).rest literal := by
  induction htag with
  | @separator token rest hseparator _ ih =>
      have hrest := List.suffix_cons token rest
      rw [fieldList_separator hseparator]
      exact (ih (hscanned.suffix hrest)).extend hrest
  | @line token rest back hline hlabel hstring _ =>
      rw [fieldList_line (hscanned.ne_eof token List.mem_cons_self) hline]
      exact (taken_label hlabel hstring).leave (fieldList_suffix _)
  | @inline token rest inner names opening hline hopens _ ih =>
      have hinner := (inline_suffix hopens).trans (List.suffix_cons token rest)
      have hbehind := fieldLine_suffix_behind token rest
      rw [hopens] at hbehind
      rw [fieldList_line (hscanned.ne_eof token List.mem_cons_self) hline]
      exact ((ih (hscanned.suffix hinner)).extend hinner).leave ((fieldList_suffix _).trans hbehind)
  | @later token rest hline _ ih =>
      have hkind := hscanned.ne_eof token List.mem_cons_self
      have hsuffix := (@fieldLine_suffix_of_kind rest token hkind hline).trans
        (List.suffix_cons token rest)
      rw [fieldList_line hkind hline]
      exact (ih (hscanned.suffix hsuffix)).extend hsuffix

/-- Before the token that is exchanged, and where it does not occur, a field list is read the
same. -/
theorem fieldList_exchange (hsame : SameUse literal other) (hscanned : IsScanned tokens)
    (hmem : literal ∈ (fieldList tokens).rest ∨ literal ∉ tokens) :
    fieldList (tokens.map (exchange literal other)) =
      (fieldList tokens).map (exchange literal other) :=
  fieldList_map hsame.exchange hscanned.ne_eof
    (hmem.elim (keeps_of_mem hscanned) keeps_of_not_mem)

/-- A tag can be exchanged in a field list.  Every line before it ends before it, and every
line behind it begins behind it. -/
theorem TagIn.fieldList_exchange (htag : TagIn literal fields tokens)
    (hsame : SameUse literal other) (hscanned : IsScanned tokens) :
    fieldList (tokens.map (exchange literal other)) =
      (fieldList tokens).map (exchange literal other) := by
  have hf := hsame.exchange
  induction htag with
  | @separator token rest hseparator _ ih =>
      rw [List.map_cons, fieldList_separator hseparator,
        fieldList_separator (by rwa [(hf token).isSeparator_eq])]
      exact ih (hscanned.suffix (List.suffix_cons token rest))
  | @line token rest back hline hlabel hstring _ =>
      have hkind := hscanned.ne_eof token List.mem_cons_self
      have hrest := List.suffix_cons token rest
      have hbehind := (head token rest).behind_suffix
      rw [hlabel] at hbehind
      refine fieldList_line_map hf hkind hline (fieldLine_map hf ?_ ?_) ?_
      · exact keeps_of_mem hscanned (hbehind.subset List.mem_cons_self)
      · intro names opening inner hopens
        rw [hopens] at hlabel
        refine Declaration.fieldList_exchange hsame
          (hscanned.suffix ((inline_suffix hopens).trans hrest)) (.inl ?_)
        rw [show (fieldList inner).rest = _ from hlabel]
        exact List.mem_cons_self
      · exact Declaration.fieldList_exchange hsame
          (hscanned.suffix ((@fieldLine_suffix_of_kind rest token hkind hline).trans hrest))
          (.inr ((taken_label hlabel hstring).not_mem hscanned))
  | @inline token rest inner names opening hline hopens hwithin ih =>
      have hkind := hscanned.ne_eof token List.mem_cons_self
      have hrest := List.suffix_cons token rest
      have hinner := hscanned.suffix ((inline_suffix hopens).trans hrest)
      have htaken := hwithin.taken hinner
      have hbehind := fieldLine_suffix_behind token rest
      rw [hopens] at hbehind
      refine fieldList_line_map hf hkind hline (fieldLine_map hf ?_ ?_) ?_
      · rw [hopens]
        exact keeps_of_mem hscanned htaken.mem
      · intro names' opening' inner' hopens'
        rw [hopens] at hopens'
        cases hopens'
        exact ih hinner
      · exact Declaration.fieldList_exchange hsame
          (hscanned.suffix ((@fieldLine_suffix_of_kind rest token hkind hline).trans hrest))
          (.inr ((htaken.leave hbehind).not_mem hinner))
  | @later token rest hline hmore ih =>
      have hkind := hscanned.ne_eof token List.mem_cons_self
      have hrest := List.suffix_cons token rest
      have hafter := hscanned.suffix
        ((@fieldLine_suffix_of_kind rest token hkind hline).trans hrest)
      have hmem := (hmore.taken hafter).mem
      have hbehind := fieldLine_suffix_behind token rest
      refine fieldList_line_map hf hkind hline (fieldLine_map hf ?_ ?_) (ih hafter)
      · exact keeps_of_mem hscanned ((fieldLine_suffix_head token rest).subset hmem)
      · intro names opening inner hopens
        rw [hopens] at hbehind
        exact Declaration.fieldList_exchange hsame
          (hscanned.suffix ((inline_suffix hopens).trans hrest)) (.inl (hbehind.subset hmem))

theorem tag_eq_some {value : String} (hvalue : (tag tokens).1 = some value) :
    ∃ literal back, tokens = literal :: back ∧ literal.string? = some value := by
  cases tokens with
  | nil => cases hvalue
  | cons literal back =>
      refine ⟨literal, back, rfl, ?_⟩
      unfold tag at hvalue
      cases hstring : literal.string? with
      | none => simp [hstring] at hvalue
      | some found => simpa [hstring] using hvalue

theorem tag_fieldLine (token : Token) (rest : List Token) :
    ∀ field ∈ (fieldLine token rest).fields,
      field.tag = (tag (head token rest).behind).1 := by
  intro field hfield
  rw [fields_fieldLine] at hfield
  obtain ⟨name, _, rfl⟩ := List.mem_map.1 hfield
  rfl

/-- What a field has as its tag is read from one. -/
theorem exists_tagIn (heof : ∀ token ∈ tokens, token.kind ≠ .eof) :
    ∀ field ∈ (fieldList tokens).fields, ∀ value, field.tag = some value →
      ∃ literal fields, field ∈ fields ∧ TagIn literal fields tokens ∧
        literal.string? = some value := by
  intro field hfield value hvalue
  refine mem_fields_induction (motive := fun tokens => ∃ literal fields, field ∈ fields ∧
    TagIn literal fields tokens ∧ literal.string? = some value) ?_ ?_ ?_ heof hfield
  · rintro token rest hseparator ⟨literal, fields, hcarried, htag, hstring⟩
    exact ⟨literal, fields, hcarried, .separator hseparator htag, hstring⟩
  · intro token rest _ hline hfield
    rw [tag_fieldLine token rest field hfield] at hvalue
    obtain ⟨literal, back, hlabel, hstring⟩ := tag_eq_some hvalue
    exact ⟨literal, _, hfield, .line hline hlabel (by rw [hstring]; rfl) rfl, hstring⟩
  · rintro token rest _ hline ⟨literal, fields, hcarried, htag, hstring⟩
    exact ⟨literal, fields, hcarried, .later hline htag, hstring⟩

end TagIn

section Exchange

variable {source other : List Char} {declaration : Declaration} {inside inside' : List Token}

/-- The same declarations are found when the field list of one of them is exchanged for one
that reads the same and is followed by alike tokens. -/
theorem forall₂_all_of_opens (hmem : declaration ∈ all source)
    (hopens : declaration.Opens (scan source) inside)
    (hother : ∀ passed, scan source = passed ++ inside → scan other = passed ++ inside')
    (hlist : (fieldList inside).Same anywhere (fieldList inside'))
    (hafter : Alike anywhere [] [] (fieldList inside).rest (fieldList inside').rest) :
    List.Forall₂ (fun declaration again => declaration.Same anywhere again ∧
      again.grouped = declaration.grouped) (all source) (all other) := by
  obtain ⟨before, header, brace, hscan, _, _, hbrace⟩ := id hopens
  have hwhole : scan source = (before ++ header) ++ brace :: inside := by rw [hscan]; simp
  have hwhole' : scan other = (before ++ header) ++ brace :: inside' := by
    rw [hother (before ++ header ++ [brace]) (by rw [hscan]; simp)]
    simp
  have heof : ∀ token ∈ (before ++ header) ++ brace :: inside, token.kind ≠ .eof :=
    hwhole ▸ scan_ne_eof List.suffix_rfl
  have hends : SameHead Eq (brace :: inside) (brace :: inside') := by
    have hkind : brace.kind = .punct '{' := by simpa [isPunct] using hbrace
    exact .cons ⟨rfl, fun _ => rfl, rfl, rfl, by simp [hkind]⟩ (by simp [isPunct, hkind])
  have halike : Alike Eq (brace :: inside) (brace :: inside') (scan source) (scan other) := by
    rw [hwhole, hwhole']
    exact AlikeFrom.refl fun token htoken => heof token (List.mem_append_left _ htoken)
  refine forall₂_allFrom_of_opens hends (by simp) hopens (Nat.le_refl _)
    (fun first again hsame hgrouped => ⟨⟨hsame.name_eq, hsame.fields_eq, hsame.failure_eq,
      hsame.notes_eq, trivial, trivial⟩, hgrouped⟩) ?_ _ (Nat.le_refl _)
    (List.nil_append _).symm halike hmem
  intro passed tokens right rest scope scope' hpassed halike hnext
  obtain ⟨name, nameSpan, nameSpan', start, start', word, word', opening, behind, behind', hbody,
    hnext', hskip, hopening, hskips⟩ := body_of_opens (Position.start.after other) hends hpassed
      hopens (Nat.le_refl _) halike hnext
  obtain ⟨hsame, hskip'⟩ := hskips.eq_of_length_le (Nat.le_refl _)
  obtain rfl := (List.cons.inj hsame).1
  have hrest : rest = (fieldList inside).rest :=
    (congrArg Prod.snd hbody).trans (rest_body hskip hopening _ _ _ _ _ _)
  have hdeclaration : declaration = _ := congrArg Prod.fst hbody
  refine ⟨_, _, hnext', ⟨?_, ?_⟩, ?_⟩
  · rw [hdeclaration]
    exact hlist.body hskip hopening hskip' hopening trivial (fun _ => trivial) ..
  · rw [hdeclaration, body_grouped, body_grouped]
  · rw [hrest, rest_body hskip' hopening]
    exact alike_allFrom _ (Nat.le_refl _) scope' trivial hafter

end Exchange

/-- The stretch `literal` of a text is read as the tag of `fields`, with a given value, in a
struct that the text declares. -/
def IsTag (fields : List Field) (before literal after : List Char) (value : String) : Prop :=
  ∃ declaration inside token, declaration ∈ all (before ++ literal ++ after) ∧
    declaration.Opens (scan (before ++ literal ++ after)) inside ∧ TagIn token fields inside ∧
    token.string? = some value ∧
    token.span = ⟨Position.start.after before, Position.start.after (before ++ literal)⟩

/-- Every tag of a field stands somewhere in the text. -/
theorem exists_isTag {source : List Char} {declaration : Declaration}
    (hmem : declaration ∈ all source) {field : Field}
    (hfield : field ∈ declaration.fields) {value : String} (hvalue : field.tag = some value) :
    ∃ before literal after fields, source = before ++ literal ++ after ∧ field ∈ fields ∧
      IsTag fields before literal after value := by
  obtain ⟨inside, hopens, hlist⟩ := exists_opens_of_mem_fields hmem hfield
  have hsuffix := hopens.suffix
  have hscanned := (isScanned_scan source).suffix hsuffix
  obtain ⟨token, fields, hcarried, htag, hstring⟩ :=
    exists_tagIn hscanned.ne_eof field hlist value hvalue
  obtain ⟨front, back, hsplit⟩ := List.append_of_mem (hsuffix.subset (htag.taken hscanned).mem)
  obtain ⟨left, lexeme, right, hlexs, _, _, hstart, hstop, _⟩ := place_eq_append_cons hsplit
  have hsource : source = left.flatMap Lexeme.text ++ lexeme.text ++ right.flatMap Lexeme.text := by
    rw [← flatMap_text_lexemes source, hlexs]
    simp
  refine ⟨_, _, _, fields, hsource, hcarried, declaration, inside, token, ?_, ?_, htag, hstring,
    ?_⟩
  · rwa [← hsource]
  · rwa [← hsource]
  · rw [Position.after_append, ← hstart, ← hstop]

section Strings

variable {before after value : List Char} {lexeme other : Lexeme}

theorem exists_string (hspells : lexeme.Spells value) :
    ∃ kind, lexeme.kind? = some kind ∧ (kind ≠ .newline ∧ kind ≠ .eof) ∧
      ∀ token : Token, token.kind = kind → token.string? = some (String.ofList value) := by
  cases hspells with
  | raw =>
      exact ⟨.raw (String.ofList value), rfl, by simp, fun token hkind => by
        rw [string?_eq_some_iff]
        exact .inl hkind⟩
  | quoted =>
      refine ⟨.quoted (String.ofList value), ?_, by simp, fun token hkind => ?_⟩
      · rw [Lexeme.kind?, Lexeme.unescape_escape]
      · rw [string?_eq_some_iff]
        exact .inr hkind

/-- A token that covers a string comes from the lexeme that is the string. -/
theorem exists_lexemes_of_span {tokens tokens' : List Token} {token : Token}
    (hspells : lexeme.Spells value)
    (hscan : scan (before ++ lexeme.text ++ after) = tokens ++ token :: tokens')
    (hspan : token.span =
      ⟨Position.start.after before, Position.start.after (before ++ lexeme.text)⟩) :
    ∃ left right, lexemes (before ++ lexeme.text ++ after) = left ++ lexeme :: right ∧
      left.flatMap Lexeme.text = before ∧ place .start left = tokens ∧
      place token.span.stop right = tokens' ∧ lexeme.kind? = some token.kind := by
  obtain ⟨left, found, right, hlexs, hleft, hkind, hstart, hstop, hright⟩ :=
    place_eq_append_cons hscan
  have hsource : left.flatMap Lexeme.text ++ (found.text ++ right.flatMap Lexeme.text) =
      before ++ (lexeme.text ++ after) := by
    rw [← List.append_assoc before, ← flatMap_text_lexemes (before ++ lexeme.text ++ after), hlexs]
    simp
  have hbefore := congrArg Position.byte (hstart.symm.trans (congrArg Span.start hspan))
  rw [Position.after_byte, Position.after_byte] at hbefore
  obtain ⟨rfl, hbehind⟩ := Text.append_inj_of_byteLength hsource (by omega)
  have hend := congrArg Position.byte (hstop.symm.trans (congrArg Span.stop hspan))
  rw [hstart, Position.after_byte, Position.after_byte, Position.after_byte,
    Text.byteLength_append] at hend
  obtain ⟨htext, _⟩ := Text.append_inj_of_byteLength hbehind (by omega)
  have hfound := lexemes_text_of_mem (hlexs ▸ List.mem_append_right left List.mem_cons_self)
  have hsame := hspells.lexemes_append []
  rw [List.append_nil, ← htext, hfound, lexemes] at hsame
  obtain rfl : found = lexeme := (List.cons.inj hsame).1
  exact ⟨left, right, hlexs, rfl, hleft, hright, hkind⟩

theorem map_exchange_of_not_mem {literal styled : Token} {tokens : List Token}
    (hgone : literal ∉ tokens) : tokens.map (exchange literal styled) = tokens := by
  refine (List.map_congr_left fun token htoken => ?_).trans (List.map_id tokens)
  refine exchange_of_ne (fun heq => ?_) styled
  exact hgone (heq ▸ htoken)

theorem map_exchange {literal styled : Token} {front back : List Token}
    (hnodup : (front ++ literal :: back).Nodup) :
    (front ++ literal :: back).map (exchange literal styled) = front ++ styled :: back := by
  obtain ⟨_, hback, hdisjoint⟩ := List.nodup_append.1 hnodup
  rw [List.map_append, List.map_cons, exchange_self,
    map_exchange_of_not_mem (List.nodup_cons.1 hback).1,
    map_exchange_of_not_mem fun hmem => hdisjoint literal hmem literal List.mem_cons_self rfl]

/-- A token that is as it should be but for its length, before and after what stands behind it
is moved. -/
theorem alike_moved {token : Token} {span : Span} (hstart : span.start = token.span.start)
    (hsolid : token.kind ≠ .newline ∧ token.kind ≠ .eof) (right : List Lexeme)
    {front : List Token} (hfront : ∀ token ∈ front, token.kind ≠ .eof) (last : Option Nat) :
    AlikeFrom anywhere [] [] last last
      (front ++ { token with span := span } :: place span.stop right)
      (front ++ token :: place token.span.stop right) := by
  induction front generalizing last with
  | nil =>
      refine .cons ⟨rfl, fun _ => rfl, trivial, trivial, hsolid.2⟩ (fun _ => by rw [hstart]) ?_
      unfold lastByte
      rw [if_neg hsolid.1, if_neg hsolid.1]
      have hstop : ShiftedBy span.stop.byte token.span.stop.byte span.stop.byte
          token.span.stop.byte := Nat.add_comm _ _
      simpa using (alike_place hstop (.some hstop) right [] []).anywhere
  | cons first front ih =>
      refine .cons ⟨rfl, fun _ => rfl, trivial, trivial, hfront first List.mem_cons_self⟩
        (fun _ => rfl) ?_
      exact ih (fun other hother => hfront other (List.mem_cons_of_mem first hother)) _

/-- Where a string is read as a tag, another one with the same value is read as the same. -/
theorem forall₂_all_of_isTag {fields : List Field} {text : String}
    (hspells : lexeme.Spells value) (hother : other.Spells value)
    (htag : IsTag fields before lexeme.text after text) :
    List.Forall₂ (fun declaration again => declaration.Same anywhere again ∧
        again.grouped = declaration.grouped)
      (all (before ++ lexeme.text ++ after)) (all (before ++ other.text ++ after)) := by
  obtain ⟨declaration, inside, literal, hmem, hopens, hin, _, hspan⟩ := htag
  have hscanned := (isScanned_scan _).suffix hopens.suffix
  obtain ⟨front, back, rfl⟩ := List.append_of_mem (hin.taken hscanned).mem
  obtain ⟨passed, hpassed⟩ := hopens.suffix
  have hscan := hpassed.symm
  rw [← List.append_assoc] at hscan
  obtain ⟨left, right, hlexs, hleft, hplace, rfl, hkind⟩ :=
    exists_lexemes_of_span hspells hscan hspan
  obtain ⟨_, hlexemeKind, _, hstring⟩ := exists_string hspells
  obtain rfl := Option.some.inj (hlexemeKind.symm.trans hkind)
  obtain ⟨kind, hotherKind, hsolid, hotherString⟩ := exists_string hother
  obtain ⟨moved, rfl, hstart, hotherScan⟩ : ∃ moved : Token, moved.kind = kind ∧
      moved.span.start = literal.span.start ∧ scan (before ++ other.text ++ after) =
        (passed ++ front) ++ moved :: place moved.span.stop right := by
    refine ⟨⟨kind, String.ofList other.text,
      ⟨literal.span.start, literal.span.start.after other.text⟩⟩, rfl, rfl, ?_⟩
    rw [scan, lexemes_exchange hspells hother hlexs hleft, place_append, hplace, hleft,
      place_cons_some hotherKind, hspan]
  -- first the string takes the place of the tag as it is, and then what is behind it is moved
  have hsame : SameUse literal { moved with span := literal.span } :=
    ⟨.inr ⟨String.ofList value, hstring literal rfl, hotherString _ rfl⟩, rfl⟩
  have hread := hin.fieldList_exchange hsame hscanned
  rw [map_exchange hscanned.nodup] at hread
  have halike : Alike anywhere [] []
      (front ++ { moved with span := literal.span } :: place literal.span.stop right)
      (front ++ moved :: place moved.span.stop right) :=
    alike_moved hstart.symm hsolid right
      (fun token htoken => hscanned.ne_eof token (List.mem_append_left _ htoken)) none
  obtain ⟨hlist, hafter⟩ := alike_fieldList .nil halike (Nat.zero_le _)
  rw [hread] at hlist hafter
  have hfixed : (fieldList (front ++ literal :: place literal.span.stop right)).rest.map
      (exchange literal { moved with span := literal.span }) =
        (fieldList (front ++ literal :: place literal.span.stop right)).rest :=
    map_exchange_of_not_mem ((hin.taken hscanned).not_mem hscanned)
  refine forall₂_all_of_opens hmem hopens (fun passed' hpassed' => ?_)
    ⟨hlist.fields_eq, hlist.notes_eq, hlist.close_rel⟩ (hfixed ▸ hafter)
  rw [hotherScan, List.append_cancel_right (hpassed'.symm.trans hpassed.symm), List.append_assoc]

end Strings

end Declaration

namespace StructDescriptor

open Declaration

theorem sameReading_of_isTag {before after value literal literal' : List Char}
    {lexeme other : Lexeme} {fields : List Field} {text : String}
    (hspells : lexeme.Spells value) (hother : other.Spells value)
    (hliteral : lexeme.text = literal) (hliteral' : other.text = literal')
    (htag : IsTag fields before literal after text) :
    SameReading (String.ofList (before ++ literal ++ after))
        (String.ofList (before ++ literal' ++ after)) ∧
      ∀ id, (read id (String.ofList (before ++ literal' ++ after))).withoutText =
        (read id (String.ofList (before ++ literal ++ after))).withoutText := by
  subst hliteral hliteral'
  have hall := forall₂_all_of_isTag hspells hother htag
  rw [← @String.toList_ofList (before ++ lexeme.text ++ after),
    ← @String.toList_ofList (before ++ other.text ++ after)] at hall
  exact ⟨sameReading_of_forall₂ hall, withoutText_read hall⟩

/-- Tags mean the same in either style.  Every tag of a field stands somewhere in the text, and
where it stands there may stand a raw string or an interpreted one with its value: the structs
of the text have the same names, fields, validity, errors and warnings. -/
theorem read_tag_style :
    (∀ (source : List Char), ∀ declaration ∈ Declaration.all source,
      ∀ field ∈ declaration.fields, ∀ value, field.tag = some value →
        ∃ before literal after fields, source = before ++ literal ++ after ∧ field ∈ fields ∧
          IsTag fields before literal after value) ∧
    ∀ (fields : List Field) (before value after : List Char), '\x60' ∉ value →
      IsTag fields before (Lexeme.rawLiteral value) after (String.ofList value) ∨
        IsTag fields before (Lexeme.quotedLiteral value) after (String.ofList value) →
      SameReading (String.ofList (before ++ Lexeme.rawLiteral value ++ after))
          (String.ofList (before ++ Lexeme.quotedLiteral value ++ after)) ∧
        ∀ id, (read id (String.ofList
            (before ++ Lexeme.quotedLiteral value ++ after))).withoutText =
          (read id (String.ofList (before ++ Lexeme.rawLiteral value ++ after))).withoutText := by
  constructor
  · intro source declaration hmem field hfield value hvalue
    exact exists_isTag hmem hfield hvalue
  · intro fields before value after hvalue htag
    have hraw := Lexeme.text_rawString value
    have hquoted := Lexeme.text_quotedString value
    rcases htag with htag | htag
    · exact sameReading_of_isTag (.raw hvalue) .quoted hraw hquoted htag
    · obtain ⟨hreading, hread⟩ :=
        sameReading_of_isTag .quoted (.raw hvalue) hquoted hraw htag
      exact ⟨hreading.symm, fun id => (hread id).symm⟩

theorem read_tag_style_json :
    (∃ before literal after fields, "type A struct\x7bB int ".toList ++
        Lexeme.rawLiteral "json:\x22b\x22".toList ++ "\x7d".toList = before ++ literal ++ after ∧
          ⟨"B", "int", some "json:\x22b\x22", ⟨⟨14, 0, 14⟩, ⟨15, 0, 15⟩⟩⟩ ∈ fields ∧
            IsTag fields before literal after "json:\x22b\x22") ∧
      ∀ id, (read id (String.ofList ("type A struct\x7bB int ".toList ++
          Lexeme.quotedLiteral "json:\x22b\x22".toList ++ "\x7d".toList))).withoutText =
        (read id (String.ofList ("type A struct\x7bB int ".toList ++
          Lexeme.rawLiteral "json:\x22b\x22".toList ++ "\x7d".toList))).withoutText := by
  have hscan : Token.scan ("type A struct\x7bB int ".toList ++
        Lexeme.rawLiteral "json:\x22b\x22".toList ++ "\x7d".toList) =
      ⟨.ident "type", "type", ⟨⟨0, 0, 0⟩, ⟨4, 0, 4⟩⟩⟩ :: ([] ++
        ⟨.ident "A", "A", ⟨⟨5, 0, 5⟩, ⟨6, 0, 6⟩⟩⟩ ::
        ⟨.ident "struct", "struct", ⟨⟨7, 0, 7⟩, ⟨13, 0, 13⟩⟩⟩ :: ([] ++
        ⟨.punct '{', "\x7b", ⟨⟨13, 0, 13⟩, ⟨14, 0, 14⟩⟩⟩ ::
        ([⟨.ident "B", "B", ⟨⟨14, 0, 14⟩, ⟨15, 0, 15⟩⟩⟩,
          ⟨.ident "int", "int", ⟨⟨16, 0, 16⟩, ⟨19, 0, 19⟩⟩⟩,
          ⟨.raw "json:\x22b\x22", "\x60json:\x22b\x22\x60", ⟨⟨20, 0, 20⟩, ⟨30, 0, 30⟩⟩⟩] ++
        ⟨.punct '}', "\x7d", ⟨⟨30, 0, 30⟩, ⟨31, 0, 31⟩⟩⟩ :: []))) := by
    cbv
  have hnext : ∃ declaration,
      next? (Position.start.after ("type A struct\x7bB int ".toList ++
          Lexeme.rawLiteral "json:\x22b\x22".toList ++ "\x7d".toList)) .file
        (Token.scan ("type A struct\x7bB int ".toList ++
          Lexeme.rawLiteral "json:\x22b\x22".toList ++ "\x7d".toList)) =
        some (declaration, .file, []) ∧ declaration.span.start = ⟨0, 0, 0⟩ ∧
      ⟨"B", "int", some "json:\x22b\x22", ⟨⟨14, 0, 14⟩, ⟨15, 0, 15⟩⟩⟩ ∈ declaration.fields := by
    rw [hscan]
    refine ⟨_, next?_struct (by decide) (by simp) rfl (by decide) (by decide) (by simp)
      (by decide) (by decide) (by decide) (by decide), rfl, ?_⟩
    rw [List.cons_append, fieldList_line (by decide) (by unfold StopsLine; decide),
      fieldLine_of_plain rfl]
    exact List.mem_append_left _ List.mem_cons_self
  obtain ⟨declaration, hnext, hstart, hfield⟩ := hnext
  have hmem : declaration ∈ Declaration.all ("type A struct\x7bB int ".toList ++
      Lexeme.rawLiteral "json:\x22b\x22".toList ++ "\x7d".toList) := by
    rw [Declaration.all, allFrom_of_next?_eq_some hnext]
    exact List.mem_cons_self
  refine ⟨read_tag_style.1 _ declaration hmem _ hfield _ rfl,
    (read_tag_style.2 _ _ _ _ (by decide) (.inl ⟨declaration, _, _, hmem, ⟨[], [_, _, _], _, hscan,
      ?_, ⟨[_, _], _, [], rfl, by decide, by decide, by simp⟩, by decide⟩,
      .line (by unfold StopsLine; decide) rfl rfl rfl, rfl, rfl⟩)).2⟩
  rw [hstart]
  rfl

end StructDescriptor

end FieldBridge
