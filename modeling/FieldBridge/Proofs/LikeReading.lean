import FieldBridge.Proofs.Likeness

/-!
# Alike declarations

Field lists and declarations read from alike tokens are the same apart from where
they stand.  A field list that ends at the last brace both sides share is a case of
its own, because nothing behind that brace is alike any more.
-/

namespace FieldBridge.Declaration

variable {moved : Nat → Nat → Prop} {leftEnd rightEnd left right : List Token}

/-- The same fields and findings apart from their places. -/
structure Line.Same (line line' : Line) : Prop where
  fields_eq : line'.fields.map Field.unplaced = line.fields.map Field.unplaced
  notes_eq : line'.notes.map Diagnostic.unplaced = line.notes.map Diagnostic.unplaced

structure FieldList.Same (moved : Nat → Nat → Prop) (list list' : FieldList) : Prop where
  fields_eq : list'.fields.map Field.unplaced = list.fields.map Field.unplaced
  notes_eq : list'.notes.map Diagnostic.unplaced = list.notes.map Diagnostic.unplaced
  close_rel : Option.Rel (fun close close' => moved close.stop.byte close'.stop.byte)
    list.close list'.close

theorem unplaced_fields {names names' : List (String × Span)}
    (hnames : names'.map Prod.fst = names.map Prod.fst) (type : String)
    (label : Option String) :
    (names'.map fun name => (⟨name.1, type, label, name.2⟩ : Field)).map Field.unplaced =
      (names.map fun name => (⟨name.1, type, label, name.2⟩ : Field)).map Field.unplaced := by
  have hfields : ∀ names : List (String × Span),
      (names.map fun name => (⟨name.1, type, label, name.2⟩ : Field)).map Field.unplaced =
        (names.map Prod.fst).map fun name => ⟨name, type, label, Span.point .start⟩ := by
    intro names
    simp [Field.unplaced]
  rw [hfields, hfields, hnames]

theorem map_fst_getLast? {names names' : List (String × Span)}
    (hnames : names'.map Prod.fst = names.map Prod.fst) :
    names'.getLast?.map Prod.fst = names.getLast?.map Prod.fst := by
  rw [← List.getLast?_map, ← List.getLast?_map, hnames]

theorem alike_endLine (hends : SameHead moved leftEnd rightEnd)
    {names names' : List (String × Span)} (hnames : names'.map Prod.fst = names.map Prod.fst)
    (type : String) {notes notes' : List Diagnostic}
    (hnotes : notes'.map Diagnostic.unplaced = notes.map Diagnostic.unplaced)
    (halike : Alike moved leftEnd rightEnd left right)
    (hreach : leftEnd.length ≤ (endLine names type notes left).rest.length) :
    (endLine names type notes left).Same (endLine names' type notes' right) ∧
      Alike moved leftEnd rightEnd (endLine names type notes left).rest
        (endLine names' type notes' right).rest := by
  have hsuffix := endLine_suffix names type notes left
  obtain ⟨hlabel, htail⟩ := alike_tag hends halike (Nat.le_trans hreach hsuffix.length_le)
  have hfields := unplaced_fields hnames type (tag left).1
  unfold endLine at hreach ⊢
  dsimp only at hreach ⊢
  rw [hlabel, map_fst_getLast? hnames]
  cases hleft : (tag left).2 with
  | nil =>
      rw [hleft] at htail
      rw [htail.nil_inv hends]
      exact ⟨⟨hfields, hnotes⟩, by rwa [htail.nil_inv hends] at htail⟩
  | cons token rest =>
      rw [hleft] at htail hreach
      obtain ⟨other, others, hright, hsame⟩ := htail.head_inv hends
      rw [hright] at htail ⊢
      dsimp only at hreach ⊢
      rw [hsame.endsField_eq]
      by_cases hstop : token.endsField = true
      · simp only [if_pos hstop]
        exact ⟨⟨hfields, hnotes⟩, htail⟩
      · simp only [if_neg hstop] at hreach ⊢
        refine ⟨⟨hfields, ?_⟩, alike_skipLine hends '}' 0 htail hreach⟩
        rw [List.map_append, List.map_append, hnotes]
        rfl

theorem unplaced_inlineNotes {names names' : List (String × Span)}
    (hnames : names'.map Prod.fst = names.map Prod.fst) (opening opening' : Span)
    {close close' : Option Span}
    (hclose : Option.Rel (fun close close' => moved close.stop.byte close'.stop.byte)
      close close') :
    (inlineNotes names' opening' close').map Diagnostic.unplaced =
      (inlineNotes names opening close).map Diagnostic.unplaced := by
  have howner : names'.head?.map Prod.fst = names.head?.map Prod.fst := by
    rw [← List.head?_map, ← List.head?_map, hnames]
  cases hclose with
  | none =>
      simp only [inlineNotes, howner]
      rfl
  | some => rfl

theorem alike_fieldLine (hends : SameHead moved leftEnd rightEnd) {token other : Token}
    (hlists : ∀ inner inner', inner <:+ left → Alike moved leftEnd rightEnd inner inner' →
      leftEnd.length ≤ (fieldList inner).rest.length →
      (fieldList inner).Same moved (fieldList inner') ∧
        Alike moved leftEnd rightEnd (fieldList inner).rest (fieldList inner').rest)
    (halike : Alike moved leftEnd rightEnd (token :: left) (other :: right))
    (hlength : leftEnd.length ≤ left.length)
    (hreach : leftEnd.length ≤ (fieldLine token left).rest.length) :
    (fieldLine token left).Same (fieldLine other right) ∧
      Alike moved leftEnd rightEnd (fieldLine token left).rest (fieldLine other right).rest := by
  cases hleft : head token left with
  | plain names type tokens =>
      rw [fieldLine_of_plain hleft] at hreach ⊢
      have htokens := (endLine_suffix names type [] tokens).trans (tag_suffix tokens)
      have hhead := alike_head hends halike hlength
        (by rw [hleft]; exact Nat.le_trans hreach htokens.length_le)
      rw [hleft] at hhead
      cases hright : head other right with
      | inline =>
          rw [hright] at hhead
          cases hhead
      | plain names' type' tokens' =>
          rw [hright] at hhead
          cases hhead with
          | plain _ hnames hrest =>
              rw [fieldLine_of_plain hright]
              exact alike_endLine hends hnames type rfl hrest hreach
  | inline names opening inner =>
      rw [fieldLine_of_inline hleft] at hreach ⊢
      have hafter := (endLine_suffix names inlineStruct
        ((fieldList inner).notes ++ inlineNotes names opening (fieldList inner).close)
        (fieldList inner).rest).trans (tag_suffix _)
      have hlistReach := Nat.le_trans hreach hafter.length_le
      have hhead := alike_head hends halike hlength
        (by rw [hleft]; exact Nat.le_trans hlistReach (fieldList_suffix inner).length_le)
      rw [hleft] at hhead
      cases hright : head other right with
      | plain =>
          rw [hright] at hhead
          cases hhead
      | inline names' opening' inner' =>
          rw [hright] at hhead
          cases hhead with
          | inline _ _ hnames hrest =>
              obtain ⟨hlist, hrest⟩ := hlists inner inner' (inline_suffix hleft) hrest hlistReach
              rw [fieldLine_of_inline hright]
              refine alike_endLine hends hnames inlineStruct ?_ hrest hreach
              rw [List.map_append, List.map_append, hlist.notes_eq,
                unplaced_inlineNotes hnames opening opening' hlist.close_rel]

theorem SameToken.stopsLine_iff {token other : Token} (hsame : SameToken moved token other) :
    StopsLine other ↔ StopsLine token := by
  rw [StopsLine, hsame.isSeparator_eq, hsame.isPunct_eq, StopsLine]

/-- A line that reads the same, and lines behind it that do. -/
theorem Line.Same.fieldList {token other : Token} (hsame : SameToken moved token other)
    (hline : ¬ StopsLine token) (hread : (fieldLine token left).Same (fieldLine other right))
    (hmore : (fieldList (fieldLine token left).rest).Same moved
      (fieldList (fieldLine other right).rest)) :
    (Declaration.fieldList (token :: left)).Same moved
      (Declaration.fieldList (other :: right)) := by
  have hkind : other.kind ≠ .eof := by
    rw [hsame.kind_eq]
    exact hsame.kind_ne
  rw [fieldList_line hsame.kind_ne hline, fieldList_line hkind (by rwa [hsame.stopsLine_iff])]
  constructor
  · rw [List.map_append, List.map_append, hread.fields_eq, hmore.fields_eq]
  · rw [List.map_append, List.map_append, hread.notes_eq, hmore.notes_eq]
  · exact hmore.close_rel

theorem rest_fieldList_line {token : Token} (heof : token.kind ≠ .eof) (hline : ¬ StopsLine token)
    (rest : List Token) :
    (fieldList (token :: rest)).rest = (fieldList (fieldLine token rest).rest).rest := by
  rw [fieldList_line heof hline]

theorem alike_fieldList_of_length_le (hends : SameHead moved leftEnd rightEnd) (bound : Nat)
    (hbound : left.length ≤ bound) (halike : Alike moved leftEnd rightEnd left right)
    (hreach : leftEnd.length ≤ (fieldList left).rest.length) :
    (fieldList left).Same moved (fieldList right) ∧
      Alike moved leftEnd rightEnd (fieldList left).rest (fieldList right).rest := by
  -- on the length: a line may hold the field list of an inline struct
  induction bound generalizing left right with
  | zero =>
      obtain rfl := List.length_eq_zero_iff.1 (Nat.le_zero.1 hbound)
      obtain rfl := halike.nil_inv hends
      simp only [fieldList] at hreach ⊢
      exact ⟨⟨rfl, rfl, .none⟩, halike⟩
  | succ bound ih =>
      cases left with
      | nil =>
          obtain rfl := halike.nil_inv hends
          simp only [fieldList] at hreach ⊢
          exact ⟨⟨rfl, rfl, .none⟩, halike⟩
      | cons token tokens =>
          obtain ⟨other, others, rfl, hsame⟩ := halike.head_inv hends
          simp only [List.length_cons, Nat.add_le_add_iff_right] at hbound
          by_cases hseparator : token.isSeparator = true
          · have hother : other.isSeparator = true := by rwa [hsame.isSeparator_eq]
            rw [fieldList_separator hseparator] at hreach ⊢
            rw [fieldList_separator hother]
            have htail := halike.tail (Nat.le_trans hreach (fieldList_suffix tokens).length_le)
            exact ih hbound htail hreach
          · by_cases hclose : token.isPunct '}' = true
            · have hother : other.isPunct '}' = true := by rwa [hsame.isPunct_eq]
              rw [fieldList_close hclose] at hreach ⊢
              rw [fieldList_close hother]
              exact ⟨⟨rfl, rfl, .some hsame.stop_moved⟩, halike.tail hreach⟩
            · have hline : ¬ StopsLine token := by simp [StopsLine, hseparator, hclose]
              have hother : ¬ StopsLine other := by rwa [hsame.stopsLine_iff]
              have hkind : other.kind ≠ .eof := by rw [hsame.kind_eq]; exact hsame.kind_ne
              have hsuffix := @fieldLine_suffix_of_kind tokens token hsame.kind_ne hline
              rw [rest_fieldList_line hsame.kind_ne hline] at hreach ⊢
              rw [rest_fieldList_line hkind hother]
              have hlineReach := Nat.le_trans hreach (fieldList_suffix _).length_le
              obtain ⟨hread, hrest⟩ := alike_fieldLine hends
                (fun inner inner' hinner => ih (Nat.le_trans hinner.length_le hbound))
                halike (Nat.le_trans hlineReach hsuffix.length_le) hlineReach
              obtain ⟨hmore, hafter⟩ :=
                ih (Nat.le_trans hsuffix.length_le hbound) hrest hreach
              exact ⟨hread.fieldList hsame hline hmore, hafter⟩

theorem alike_fieldList (hends : SameHead moved leftEnd rightEnd)
    (halike : Alike moved leftEnd rightEnd left right)
    (hreach : leftEnd.length ≤ (fieldList left).rest.length) :
    (fieldList left).Same moved (fieldList right) ∧
      Alike moved leftEnd rightEnd (fieldList left).rest (fieldList right).rest :=
  alike_fieldList_of_length_le hends left.length (Nat.le_refl _) halike hreach

theorem exists_close_of_length_le (bound : Nat) {tokens : List Token} {close : Span}
    (hbound : tokens.length ≤ bound) (hclose : (fieldList tokens).close = some close) :
    ∃ inner brace, tokens = inner ++ brace :: (fieldList tokens).rest ∧
      brace.isPunct '}' = true ∧ brace.span = close := by
  induction bound generalizing tokens with
  | zero =>
      obtain rfl := List.length_eq_zero_iff.1 (Nat.le_zero.1 hbound)
      simp [fieldList] at hclose
  | succ bound ih =>
      cases tokens with
      | nil => simp [fieldList] at hclose
      | cons token tokens =>
          simp only [List.length_cons] at hbound
          rw [fieldList] at hclose ⊢
          by_cases hseparator : token.isSeparator = true
          · rw [if_pos hseparator] at hclose ⊢
            obtain ⟨inner, brace, htokens, hbrace⟩ := ih (by omega) hclose
            exact ⟨token :: inner, brace, by rw [List.cons_append, ← htokens], hbrace⟩
          rw [if_neg hseparator] at hclose ⊢
          by_cases hpunct : token.isPunct '}' = true
          · rw [if_pos hpunct] at hclose ⊢
            exact ⟨[], token, rfl, hpunct, Option.some.inj hclose⟩
          rw [if_neg hpunct] at hclose ⊢
          dsimp only at hclose ⊢
          by_cases hshorter : (fieldLine token tokens).rest.length ≤ tokens.length
          · rw [if_pos hshorter] at hclose ⊢
            obtain ⟨passed, hpassed⟩ :=
              (rest_suffix (tokens.length + 1)).2 token tokens (Nat.le_refl _)
            obtain ⟨inner, brace, hrest, hbrace⟩ := ih (by omega) hclose
            refine ⟨passed ++ inner, brace, ?_, hbrace⟩
            dsimp only
            rw [List.append_assoc, ← hrest, hpassed]
          · rw [if_neg hshorter] at hclose
            cases hclose

/-- A field list that is closed leaves what stands behind its brace. -/
theorem exists_close {tokens : List Token} {close : Span}
    (hclose : (fieldList tokens).close = some close) :
    ∃ inner brace, tokens = inner ++ brace :: (fieldList tokens).rest ∧
      brace.isPunct '}' = true ∧ brace.span = close :=
  exists_close_of_length_le tokens.length (Nat.le_refl _) hclose

theorem length_rest_lt_of_close {tokens : List Token}
    (hclose : (fieldList tokens).close.isSome = true) :
    (fieldList tokens).rest.length < tokens.length := by
  obtain ⟨close, hclose⟩ := Option.isSome_iff_exists.1 hclose
  obtain ⟨inner, brace, htokens, _⟩ := exists_close hclose
  have hlength := congrArg List.length htokens
  rw [List.length_append, List.length_cons] at hlength
  omega

/-- A field list that ends at the last token both sides share reads the same on both,
and leaves what follows on either side. -/
theorem alike_fieldList_closing {close other : Token} {after after' : List Token}
    (hends : SameHead moved (close :: after) (other :: after')) (bound : Nat)
    (hbound : left.length ≤ bound)
    (halike : Alike moved (close :: after) (other :: after') left right)
    (hclose : (fieldList left).close.isSome = true)
    (hrest : (fieldList left).rest.length = after.length) :
    (fieldList left).Same moved (fieldList right) ∧ (fieldList right).rest = after' := by
  have hlonger := length_rest_lt_of_close hclose
  induction bound generalizing left right with
  | zero => omega
  | succ bound ih =>
      cases left with
      | nil => simp [fieldList] at hclose
      | cons token tokens =>
          obtain ⟨first, others, rfl, hsame⟩ := halike.head_inv hends
          simp only [List.length_cons, Nat.add_le_add_iff_right] at hbound
          by_cases hseparator : token.isSeparator = true
          · have hfirst : first.isSeparator = true := by rwa [hsame.isSeparator_eq]
            rw [fieldList_separator hseparator] at hclose hrest ⊢
            rw [fieldList_separator hfirst]
            have hshorter := length_rest_lt_of_close hclose
            have htail := halike.tail (by simp only [List.length_cons]; omega)
            exact ih hbound htail hclose hrest hshorter
          · by_cases hbrace : token.isPunct '}' = true
            · have hfirst : first.isPunct '}' = true := by rwa [hsame.isPunct_eq]
              rw [fieldList_close hbrace] at hrest ⊢
              rw [fieldList_close hfirst]
              obtain ⟨-, hright⟩ := halike.eq_of_length_le (by simpa using Nat.le_of_eq hrest)
              obtain ⟨-, rfl⟩ := List.cons.inj hright
              exact ⟨⟨rfl, rfl, .some hsame.stop_moved⟩, rfl⟩
            · have hline : ¬ StopsLine token := by simp [StopsLine, hseparator, hbrace]
              have hfirst : ¬ StopsLine first := by rwa [hsame.stopsLine_iff]
              have hkind : first.kind ≠ .eof := by rw [hsame.kind_eq]; exact hsame.kind_ne
              have hsuffix := @fieldLine_suffix_of_kind tokens token hsame.kind_ne hline
              rw [fieldList_line hsame.kind_ne hline] at hclose
              rw [rest_fieldList_line hsame.kind_ne hline] at hrest
              rw [rest_fieldList_line hkind hfirst]
              have hshorter := length_rest_lt_of_close hclose
              have hlineReach : (close :: after).length ≤ (fieldLine token tokens).rest.length := by
                simp only [List.length_cons]
                omega
              obtain ⟨hread, hlineRest⟩ := alike_fieldLine hends
                (fun inner inner' _ => alike_fieldList hends) halike
                (Nat.le_trans hlineReach hsuffix.length_le) hlineReach
              obtain ⟨hmore, hafter⟩ :=
                ih (Nat.le_trans hsuffix.length_le hbound) hlineRest hclose hrest hshorter
              exact ⟨hread.fieldList hsame hline hmore, hafter⟩

/-- Only the end of the text leaves a field list open. -/
theorem rest_eq_nil_of_open {tokens : List Token} (heof : ∀ token ∈ tokens, token.kind ≠ .eof)
    (hopen : (fieldList tokens).close = none) : (fieldList tokens).rest = [] := by
  refine fieldList_induction (motive := fun tokens => (fieldList tokens).close = none →
    (fieldList tokens).rest = []) ?_ ?_ ?_ ?_ heof hopen
  · simp [fieldList]
  · intro token rest hseparator ih
    rwa [fieldList_separator hseparator]
  · intro token rest hclose
    simp [fieldList_close hclose]
  · intro token rest hkinds hline ih
    have hkind := hkinds token List.mem_cons_self
    rw [fieldList_line hkind hline]
    exact ih _ (fieldLine_suffix_of_kind hkind hline)

/-- The same declaration apart from where it stands. -/
structure Same (moved : Nat → Nat → Prop) (declaration other : Declaration) : Prop where
  name_eq : other.name = declaration.name
  fields_eq : other.fields.map Field.unplaced = declaration.fields.map Field.unplaced
  failure_eq : other.failure.map Diagnostic.unplaced =
    declaration.failure.map Diagnostic.unplaced
  notes_eq : other.notes.map Diagnostic.unplaced = declaration.notes.map Diagnostic.unplaced
  start_moved : moved declaration.span.start.byte other.span.start.byte
  stop_moved : moved declaration.span.stop.byte other.span.stop.byte

/-- Field lists that read the same make the same of a declaration. -/
theorem FieldList.Same.body {left right inner inner' : List Token} {opening opening' : Token}
    (hlist : (fieldList inner).Same moved (fieldList inner'))
    (hleft : skipNewlines left = opening :: inner) (hopening : opening.isPunct '{' = true)
    (hright : skipNewlines right = opening' :: inner') (hopening' : opening'.isPunct '{' = true)
    {start start' : Span} {finish finish' : Position}
    (hstart : moved start.start.byte start'.start.byte)
    (hfinish : (fieldList inner).close = none → moved finish.byte finish'.byte) (name : String)
    (nameSpan nameSpan' word word' : Span) (grouped grouped' : Bool) :
    (Declaration.body name nameSpan start word grouped finish left).1.Same moved
      (Declaration.body name nameSpan' start' word' grouped' finish' right).1 := by
  have hrel := hlist.close_rel
  unfold Declaration.body
  simp only [hleft, hright, if_pos hopening, if_pos hopening']
  cases hclose : (fieldList inner).close with
  | none =>
      rw [hclose] at hrel
      cases hclose' : (fieldList inner').close with
      | none => exact ⟨rfl, hlist.fields_eq, rfl, hlist.notes_eq, hstart, hfinish hclose⟩
      | some close' =>
          rw [hclose'] at hrel
          cases hrel
  | some close =>
      rw [hclose] at hrel
      cases hclose' : (fieldList inner').close with
      | none =>
          rw [hclose'] at hrel
          cases hrel
      | some close' =>
          rw [hclose'] at hrel
          cases hrel with
          | some hmoved => exact ⟨rfl, hlist.fields_eq, rfl, hlist.notes_eq, hstart, hmoved⟩

theorem rest_body {tokens inner : List Token} {opening : Token}
    (hskip : skipNewlines tokens = opening :: inner) (hopening : opening.isPunct '{' = true)
    (name : String) (nameSpan start word : Span) (grouped : Bool) (finish : Position) :
    (body name nameSpan start word grouped finish tokens).2 = (fieldList inner).rest := by
  unfold body
  simp only [hskip, if_pos hopening]
  split <;> rfl

theorem alike_body (hends : SameHead moved leftEnd rightEnd) (name : String)
    (nameSpan nameSpan' : Span) {start start' word word' : Span} (grouped grouped' : Bool)
    {finish finish' : Position} (heof : ∀ token ∈ left, token.kind ≠ .eof)
    (hstart : moved start.start.byte start'.start.byte)
    (hword : moved word.stop.byte word'.stop.byte)
    (hfinish : leftEnd = [] → moved finish.byte finish'.byte)
    (halike : Alike moved leftEnd rightEnd left right)
    (hreach : leftEnd.length ≤ (body name nameSpan start word grouped finish left).2.length) :
    (body name nameSpan start word grouped finish left).1.Same moved
        (body name nameSpan' start' word' grouped' finish' right).1 ∧
      Alike moved leftEnd rightEnd (body name nameSpan start word grouped finish left).2
        (body name nameSpan' start' word' grouped' finish' right).2 := by
  have hskip := alike_skipNewlines hends halike
    (Nat.le_trans hreach (body_suffix name nameSpan start word grouped finish left).length_le)
  cases hleft : skipNewlines left with
  | nil =>
      rw [hleft] at hskip
      have hright := hskip.nil_inv hends
      rw [hright] at hskip
      simp only [body, hleft, hright]
      exact ⟨⟨rfl, rfl, rfl, rfl, hstart, hword⟩, hskip⟩
  | cons brace rest =>
      rw [hleft] at hskip
      obtain ⟨brace', rest', hright, hbrace⟩ := hskip.head_inv hends
      rw [hright] at hskip
      by_cases hopening : brace.isPunct '{' = true
      · have hopening' : brace'.isPunct '{' = true := by rwa [hbrace.isPunct_eq]
        rw [rest_body hleft hopening] at hreach ⊢
        rw [rest_body hright hopening']
        obtain ⟨hlist, hafter⟩ := alike_fieldList hends
          (hskip.tail (Nat.le_trans hreach (fieldList_suffix rest).length_le)) hreach
        refine ⟨hlist.body hleft hopening hright hopening' hstart ?_ .., hafter⟩
        intro hopen
        have hrestEof : ∀ token ∈ rest, token.kind ≠ .eof := fun token htoken =>
          heof token ((skipNewlines_suffix left).subset
            (hleft ▸ List.mem_cons_of_mem brace htoken))
        apply hfinish
        simpa [rest_eq_nil_of_open hrestEof hopen] using hreach
      · have hopening' : ¬ brace'.isPunct '{' = true := by rwa [hbrace.isPunct_eq]
        simp only [body, hleft, hright, if_neg hopening, if_neg hopening']
        exact ⟨⟨rfl, rfl, rfl, rfl, hstart, hword⟩, hskip⟩

theorem alike_typeSpec? (hends : SameHead moved leftEnd rightEnd) {start start' : Span}
    (grouped grouped' : Bool) {finish finish' : Position} {declaration : Declaration}
    {rest : List Token} (heof : ∀ token ∈ left, token.kind ≠ .eof)
    (hstart : moved start.start.byte start'.start.byte)
    (hfinish : leftEnd = [] → moved finish.byte finish'.byte)
    (halike : Alike moved leftEnd rightEnd left right)
    (hspec : typeSpec? start grouped finish left = some (declaration, rest))
    (hreach : leftEnd.length ≤ rest.length) :
    ∃ other rest', typeSpec? start' grouped' finish' right = some (other, rest') ∧
      declaration.Same moved other ∧ Alike moved leftEnd rightEnd rest rest' := by
  rcases typeSpec?_eq_some hspec with
    ⟨word, after, rfl, hword, hfound⟩ | ⟨token, name, word, after, rfl, hname, hne, hword, hfound⟩
  · obtain rfl := congrArg Prod.snd hfound
    obtain rfl := congrArg Prod.fst hfound
    have hlength := Nat.le_trans hreach (length_body_le _ _ _ _ _ _ after)
    obtain ⟨word', after', rfl, hsame⟩ := halike.head_inv hends
    obtain ⟨hbody, hrest⟩ := alike_body hends "" word.span.collapsed word'.span.collapsed
      grouped grouped' (fun token htoken => heof token (List.mem_cons_of_mem word htoken))
      hstart hsame.stop_moved hfinish (halike.tail hlength) hreach
    exact ⟨_, _, typeSpec?_unnamed (by rwa [hsame.isWord_eq]) _ _ _ _, hbody, hrest⟩
  · obtain rfl := congrArg Prod.snd hfound
    obtain rfl := congrArg Prod.fst hfound
    have hlength := Nat.le_trans hreach (length_body_le _ _ _ _ _ _ after)
    obtain ⟨token', others, rfl, htoken⟩ := halike.head_inv hends
    have htail := halike.tail (Nat.le_succ_of_le hlength)
    obtain ⟨word', after', rfl, hsame⟩ := htail.head_inv hends
    have hafterEof : ∀ token ∈ after, token.kind ≠ .eof := fun other hother =>
      heof other (List.mem_cons_of_mem token (List.mem_cons_of_mem word hother))
    obtain ⟨hbody, hrest⟩ := alike_body hends name token.span token'.span grouped grouped'
      hafterEof hstart hsame.stop_moved hfinish (htail.tail hlength) hreach
    exact ⟨_, _, typeSpec?_named (by rwa [htoken.name?_eq]) hne (by rwa [hsame.isWord_eq])
      _ _ _ _, hbody, hrest⟩

theorem alike_typeSpec?_none (hends : SameHead moved leftEnd rightEnd) {start start' : Span}
    {grouped : Bool} {finish finish' : Position} {token other : Token}
    (halike : Alike moved leftEnd rightEnd (token :: left) (other :: right))
    (hlength : leftEnd.length ≤ left.length)
    (hnone : typeSpec? start grouped finish (token :: left) = none) :
    typeSpec? start' grouped finish' (other :: right) = none := by
  obtain ⟨_, _, heq, hsame⟩ := halike.head_inv hends
  obtain ⟨rfl, rfl⟩ := List.cons.inj heq
  have htail := halike.tail hlength
  unfold typeSpec? at hnone ⊢
  dsimp only at hnone ⊢
  rw [hsame.name?_eq]
  cases hname : token.name? with
  | none => rfl
  | some name =>
      simp only [hname] at hnone ⊢
      by_cases hstruct : name = "struct"
      · simp [hstruct] at hnone
      · rw [if_neg hstruct] at hnone ⊢
        cases left with
        | nil => rw [htail.nil_inv hends]
        | cons word rest =>
            obtain ⟨word', rest', rfl, hword⟩ := htail.head_inv hends
            dsimp only at hnone ⊢
            rw [hword.isWord_eq]
            split at hnone
            · cases hnone
            · next hneg => rw [if_neg hneg]

theorem length_body_lt_of_failure_eq_none {name : String} {nameSpan start word : Span}
    {grouped : Bool} {finish : Position} {tokens : List Token}
    (hfailure : (body name nameSpan start word grouped finish tokens).1.failure = none) :
    (body name nameSpan start word grouped finish tokens).2.length < tokens.length := by
  obtain ⟨brace, inner, close, htokens, hbrace, hclose⟩ := body_of_failure_eq_none hfailure
  have hskip := (skipNewlines_suffix tokens).length_le
  have hlist := @length_rest_lt_of_close inner (by rw [hclose]; rfl)
  rw [htokens, List.length_cons] at hskip
  rw [body_closed _ _ _ _ _ _ htokens hbrace hclose]
  dsimp only
  omega

/-- A declaration that ends at the last brace both sides share is the same on both. -/
theorem alike_body_closing {close other : Token} {after after' : List Token}
    (hends : SameHead moved (close :: after) (other :: after')) (name : String)
    (nameSpan nameSpan' : Span) {start start' word word' : Span} (grouped grouped' : Bool)
    {finish finish' : Position} (hstart : moved start.start.byte start'.start.byte)
    (halike : Alike moved (close :: after) (other :: after') left right)
    (hfailure : (body name nameSpan start word grouped finish left).1.failure = none)
    (hrest : (body name nameSpan start word grouped finish left).2.length = after.length) :
    (body name nameSpan start word grouped finish left).1.Same moved
        (body name nameSpan' start' word' grouped' finish' right).1 ∧
      (body name nameSpan' start' word' grouped' finish' right).2 = after' := by
  obtain ⟨brace, inner, closeSpan, hleft, hbrace, hclose⟩ := body_of_failure_eq_none hfailure
  rw [rest_body hleft hbrace] at hrest
  have hlonger := @length_rest_lt_of_close inner (by rw [hclose]; rfl)
  have hskip := alike_skipNewlines hends halike
    (by rw [hleft]; simp only [List.length_cons]; omega)
  rw [hleft] at hskip
  obtain ⟨brace', inner', hright, hsame⟩ := hskip.head_inv hends
  rw [hright] at hskip
  have hinner := hskip.tail (by simp only [List.length_cons]; omega)
  obtain ⟨hlist, hafter⟩ := alike_fieldList_closing hends inner.length (Nat.le_refl _) hinner
    (by rw [hclose]; rfl) hrest
  have hbrace' : brace'.isPunct '{' = true := by rwa [hsame.isPunct_eq]
  refine ⟨hlist.body hleft hbrace hright hbrace' hstart ?_ .., ?_⟩
  · intro hopen
    rw [hclose] at hopen
    cases hopen
  · rw [rest_body hright hbrace', hafter]

theorem alike_typeSpec?_closing {close other : Token} {after after' rest : List Token}
    (hends : SameHead moved (close :: after) (other :: after')) {start start' : Span}
    (grouped grouped' : Bool) {finish finish' : Position} {declaration : Declaration}
    (hstart : moved start.start.byte start'.start.byte)
    (halike : Alike moved (close :: after) (other :: after') left right)
    (hspec : typeSpec? start grouped finish left = some (declaration, rest))
    (hfailure : declaration.failure = none) (hrest : rest.length = after.length) :
    ∃ again, typeSpec? start' grouped' finish' right = some (again, after') ∧
      declaration.Same moved again := by
  rcases typeSpec?_eq_some hspec with
    ⟨word, tokens, rfl, hword, hfound⟩ |
    ⟨token, name, word, tokens, rfl, hname, hne, hword, hfound⟩
  · obtain rfl := congrArg Prod.snd hfound
    obtain rfl := congrArg Prod.fst hfound
    have hlength := length_body_lt_of_failure_eq_none hfailure
    obtain ⟨word', tokens', rfl, hsame⟩ := halike.head_inv hends
    have htail := halike.tail (by simp only [List.length_cons]; omega)
    obtain ⟨hbody, hafter⟩ := alike_body_closing hends "" word.span.collapsed
      word'.span.collapsed grouped grouped' hstart htail hfailure hrest
    refine ⟨_, ?_, hbody⟩
    rw [typeSpec?_unnamed (by rwa [hsame.isWord_eq]), ← hafter]
  · obtain rfl := congrArg Prod.snd hfound
    obtain rfl := congrArg Prod.fst hfound
    have hlength := length_body_lt_of_failure_eq_none hfailure
    obtain ⟨token', others, rfl, htoken⟩ := halike.head_inv hends
    have htail := halike.tail (by simp only [List.length_cons]; omega)
    obtain ⟨word', tokens', rfl, hsame⟩ := htail.head_inv hends
    have hinner := htail.tail (by simp only [List.length_cons]; omega)
    obtain ⟨hbody, hafter⟩ := alike_body_closing hends name token.span token'.span
      grouped grouped' hstart hinner hfailure hrest
    refine ⟨_, ?_, hbody⟩
    rw [typeSpec?_named (by rwa [htoken.name?_eq]) hne (by rwa [hsame.isWord_eq]), ← hafter]

end FieldBridge.Declaration
