import FieldBridge.Token

/-!
# Cutting parts of a text

How a lexeme is cut does not depend on what follows it, as long as that cannot become
part of the lexeme.  Hence consecutive lexemes are cut from their own text alone as
they were cut from the whole, and texts are cut apart where one lexeme cannot run
into the next.
-/

namespace FieldBridge

namespace Lexeme

namespace Cut

/-- A stretch that leaves all of the text is empty and open. -/
theorem eq_of_whole {cut : Cut} {delimiter after rest : List Char} (hdelimiter : delimiter ≠ [])
    (hwhole : cut.whole delimiter = rest) (hrest : cut.rest = after ++ rest) :
    cut.body = [] ∧ cut.closed = false ∧ after = [] := by
  have hpos := List.length_pos_iff.2 hdelimiter
  have hlength := congrArg List.length hwhole
  simp only [whole, hrest, List.length_append] at hlength
  have hbody : cut.body = [] := List.length_eq_zero_iff.1 (by omega)
  have hafter : after = [] := List.length_eq_zero_iff.1 (by omega)
  cases hclosed : cut.closed with
  | false => exact ⟨hbody, rfl, hafter⟩
  | true =>
      rw [hclosed, if_pos rfl] at hlength
      omega

theorem rest_cons (c : Char) (cut : Cut) : (cut.cons c).rest = cut.rest := rfl

theorem length_rest_le {cut : Cut} {delimiter text : List Char}
    (hwhole : cut.whole delimiter = text) : cut.rest.length ≤ text.length := by
  rw [← hwhole, whole, List.length_append]
  omega

/-- The stretch with `rest` cut off from what follows it. -/
def Shortens (rest : List Char) (longer shorter : Cut) : Prop :=
  longer.body = shorter.body ∧ longer.closed = shorter.closed ∧
    longer.rest = shorter.rest ++ rest

theorem Shortens.cons {rest : List Char} {longer shorter : Cut} (c : Char)
    (hcut : Shortens rest longer shorter) : Shortens rest (longer.cons c) (shorter.cons c) :=
  ⟨congrArg (c :: ·) hcut.1, hcut.2⟩

end Cut

/-- What is left of the whole text begins in the part that was cut. -/
theorem cutRawString_shorten {text rest after : List Char}
    (hrest : (cutRawString (text ++ rest)).rest = after ++ rest) :
    Cut.Shortens rest (cutRawString (text ++ rest)) (cutRawString text) := by
  induction text with
  | nil =>
      obtain ⟨hbody, hclosed, rfl⟩ := Cut.eq_of_whole (by simp) (whole_cutRawString rest) hrest
      exact ⟨hbody, hclosed, hrest⟩
  | cons c text ih =>
      rw [List.cons_append, cutRawString] at hrest ⊢
      rw [cutRawString]
      by_cases hc : c = '\x60'
      · rw [if_pos hc, if_pos hc]
        exact ⟨rfl, rfl, rfl⟩
      · rw [if_neg hc] at hrest ⊢
        rw [if_neg hc]
        exact (ih hrest).cons c

theorem cutBlockComment_shorten {text rest after : List Char}
    (hrest : (cutBlockComment (text ++ rest)).rest = after ++ rest) :
    Cut.Shortens rest (cutBlockComment (text ++ rest)) (cutBlockComment text) := by
  fun_induction cutBlockComment text with
  | case1 =>
      obtain ⟨hbody, hclosed, rfl⟩ :=
        Cut.eq_of_whole (by simp) (whole_cutBlockComment rest) hrest
      exact ⟨hbody, hclosed, hrest⟩
  | case2 text => exact ⟨rfl, rfl, rfl⟩
  | case3 c text hopen ih =>
      have hcons : cutBlockComment (c :: text ++ rest) =
          (cutBlockComment (text ++ rest)).cons c := by
        rw [List.cons_append, cutBlockComment]
        rintro tail rfl htail
        cases text with
        | nil =>
            rw [List.nil_append] at htail
            subst htail
            have hlength := congrArg List.length hrest
            simp [cutBlockComment] at hlength
            omega
        | cons d text =>
            obtain ⟨rfl, rfl⟩ := List.cons.inj htail
            exact hopen text rfl rfl
      rw [hcons] at hrest ⊢
      exact (ih hrest).cons c

theorem cutQuotedString_shorten {text rest after : List Char}
    (hrest : (cutQuotedString (text ++ rest)).rest = after ++ rest) :
    Cut.Shortens rest (cutQuotedString (text ++ rest)) (cutQuotedString text) := by
  fun_induction cutQuotedString text with
  | case1 =>
      obtain ⟨hbody, hclosed, rfl⟩ :=
        Cut.eq_of_whole (by simp) (whole_cutQuotedString rest) hrest
      exact ⟨hbody, hclosed, hrest⟩
  | case2 c text ih =>
      rw [List.cons_append, List.cons_append, cutQuotedString] at hrest ⊢
      exact ((ih hrest).cons c).cons '\\'
  | case3 text =>
      rw [List.cons_append, cutQuotedString]
      · exact ⟨rfl, rfl, rfl⟩
      · simp
  | case4 text =>
      rw [List.cons_append, cutQuotedString]
      · exact ⟨rfl, rfl, rfl⟩
      · simp
  | case5 c text hescape hc hline ih =>
      have hcons : cutQuotedString (c :: text ++ rest) =
          (cutQuotedString (text ++ rest)).cons c := by
        rw [List.cons_append, cutQuotedString, if_neg hc, if_neg hline]
        rintro d tail rfl htail
        cases text with
        | nil =>
            rw [List.nil_append] at htail
            subst htail
            have hlength := congrArg List.length hrest
            have hle := Cut.length_rest_le (whole_cutQuotedString tail)
            simp only [List.cons_append, List.nil_append, cutQuotedString, Cut.rest_cons,
              List.length_append, List.length_cons] at hlength
            omega
        | cons e text =>
            obtain ⟨rfl, rfl⟩ := List.cons.inj htail
            exact hescape _ text rfl rfl
      rw [hcons] at hrest ⊢
      exact (ih hrest).cons c

theorem dropWhile_shorten {p : Char → Bool} {text rest after : List Char}
    (hdrop : (text ++ rest).dropWhile p = after ++ rest) :
    (text ++ rest).takeWhile p = text.takeWhile p ∧ text.dropWhile p = after := by
  induction text with
  | nil =>
      have hwhole := @List.takeWhile_append_dropWhile Char p rest
      have hlength := congrArg List.length hwhole
      rw [List.nil_append] at hdrop
      simp only [hdrop, List.length_append] at hlength
      have hafter : after = [] := List.length_eq_zero_iff.1 (by omega)
      have htake : rest.takeWhile p = [] := List.length_eq_zero_iff.1 (by omega)
      exact ⟨by simpa using htake, hafter.symm⟩
  | cons c text ih =>
      rw [List.cons_append] at hdrop ⊢
      by_cases hc : p c = true
      · rw [List.dropWhile_cons_of_pos hc] at hdrop ⊢
        rw [List.takeWhile_cons_of_pos hc, List.takeWhile_cons_of_pos hc, (ih hdrop).1]
        exact ⟨rfl, (ih hdrop).2⟩
      · rw [List.dropWhile_cons_of_neg hc] at hdrop ⊢
        rw [List.takeWhile_cons_of_neg hc, List.takeWhile_cons_of_neg hc]
        exact ⟨rfl, List.append_cancel_right hdrop⟩

/-- The kind of lexeme that a character begins.  Only after a slash does the character
behind it matter. -/
inductive Leads (c : Char) : Prop where
  | lineFeed (hline : c = '\n') (hcut : ∀ rest, cut c rest = (.lineFeed, rest))
  | blank (hcut : ∀ rest, cut c rest = (.blank c, rest))
  | rawString (hcut : ∀ rest, cut c rest = (.rawString (cutRawString rest).body
      (cutRawString rest).closed, (cutRawString rest).rest))
  | quotedString (hcut : ∀ rest, cut c rest = (.quotedString (cutQuotedString rest).body
      (cutQuotedString rest).closed, (cutQuotedString rest).rest))
  | word (hcut : ∀ rest, cut c rest = (.word (c :: rest.takeWhile Unicode.continuesWord),
      rest.dropWhile Unicode.continuesWord))
  | number (hcut : ∀ rest, cut c rest = (.number (c :: rest.takeWhile continuesNumber),
      rest.dropWhile continuesNumber))
  | slash (hslash : c = '/')
  | symbol (hcut : ∀ rest, cut c rest = (.symbol c, rest)) (hslash : c ≠ '/')

theorem leads (c : Char) : Leads c := by
  by_cases hline : c = '\n'
  · exact .lineFeed hline fun rest => by unfold cut; rw [if_pos hline]
  by_cases hblank : Unicode.isWhiteSpace c = true
  · exact .blank fun rest => by unfold cut; rw [if_neg hline, if_pos hblank]
  by_cases hraw : c = '\x60'
  · exact .rawString fun rest => by unfold cut; rw [if_neg hline, if_neg hblank, if_pos hraw]
  by_cases hquoted : c = '\x22'
  · refine .quotedString fun rest => ?_
    unfold cut
    rw [if_neg hline, if_neg hblank, if_neg hraw, if_pos hquoted]
  by_cases hword : Unicode.startsWord c = true
  · refine .word fun rest => ?_
    unfold cut
    rw [if_neg hline, if_neg hblank, if_neg hraw, if_neg hquoted, if_pos hword]
  by_cases hdigit : c.isDigit = true
  · refine .number fun rest => ?_
    unfold cut
    rw [if_neg hline, if_neg hblank, if_neg hraw, if_neg hquoted, if_neg hword, if_pos hdigit]
  by_cases hslash : c = '/'
  · exact .slash hslash
  · refine .symbol (fun rest => ?_) hslash
    unfold cut
    rw [if_neg hline, if_neg hblank, if_neg hraw, if_neg hquoted, if_neg hword, if_neg hdigit]
    split <;> simp_all

theorem cut_slash (rest : List Char) :
    cut '/' rest =
      match rest with
      | '/' :: more => (.lineComment (more.takeWhile (· ≠ '\n')), more.dropWhile (· ≠ '\n'))
      | '*' :: more => (.blockComment (cutBlockComment more).body (cutBlockComment more).closed,
          (cutBlockComment more).rest)
      | _ => (.symbol '/', rest) := by
  have hblank : ¬ Unicode.isWhiteSpace '/' = true := by decide +kernel
  have hword : ¬ Unicode.startsWord '/' = true := by decide +kernel
  unfold cut
  rw [if_neg (by decide), if_neg hblank, if_neg (by decide), if_neg (by decide), if_neg hword,
    if_neg (by decide)]
  split
  · rfl
  · rfl
  · next hline hblock =>
    split
    · next more => exact absurd rfl (hline more rfl)
    · next more => exact absurd rfl (hblock more rfl)
    · rfl

/-- Whether a text begins with a character that makes a slash before it open a comment. -/
def opensComment (text : List Char) : Bool :=
  text.head?.any fun c => c = '/' || c = '*'

theorem cut_slash_symbol {rest : List Char} (hopens : opensComment rest = false) :
    cut '/' rest = (.symbol '/', rest) := by
  rw [cut_slash]
  split
  · simp [opensComment] at hopens
  · simp [opensComment] at hopens
  · rfl

theorem opensComment_eq_true {rest : List Char} (hopens : opensComment rest = true) :
    ∃ more, rest = '/' :: more ∨ rest = '*' :: more := by
  cases rest with
  | nil => cases hopens
  | cons c more =>
      have hc : c = '/' ∨ c = '*' := by simpa [opensComment] using hopens
      rcases hc with rfl | rfl
      · exact ⟨more, Or.inl rfl⟩
      · exact ⟨more, Or.inr rfl⟩

theorem cut_slash_shorten {text rest after : List Char}
    (hrest : (cut '/' (text ++ rest)).2 = after ++ rest) :
    cut '/' text = ((cut '/' (text ++ rest)).1, after) := by
  cases text with
  | nil =>
      rw [List.nil_append] at hrest ⊢
      cases hopens : opensComment rest with
      | false =>
          rw [cut_slash_symbol hopens] at hrest ⊢
          rw [List.self_eq_append_left.1 hrest]
          rfl
      | true =>
          have hlength := congrArg List.length hrest
          obtain ⟨more, rfl | rfl⟩ := opensComment_eq_true hopens
          · have hle := (List.dropWhile_suffix (· ≠ '\n') (l := more)).length_le
            simp only [cut_slash, List.length_append, List.length_cons] at hlength
            omega
          · have hle := Cut.length_rest_le (whole_cutBlockComment more)
            simp only [cut_slash, List.length_append, List.length_cons] at hlength
            omega
  | cons d text =>
      cases hopens : opensComment (d :: text) with
      | false =>
          have happend : opensComment (d :: text ++ rest) = false := hopens
          rw [cut_slash_symbol happend] at hrest ⊢
          rw [cut_slash_symbol hopens, List.append_cancel_right hrest]
      | true =>
          obtain ⟨more, heq | heq⟩ := opensComment_eq_true hopens
          · obtain ⟨rfl, rfl⟩ := List.cons.inj heq
            simp only [List.cons_append, cut_slash] at hrest ⊢
            obtain ⟨htake, hdrop⟩ := dropWhile_shorten hrest
            rw [htake, hdrop]
          · obtain ⟨rfl, rfl⟩ := List.cons.inj heq
            simp only [List.cons_append, cut_slash] at hrest ⊢
            obtain ⟨hbody, hclosed, hshort⟩ := cutBlockComment_shorten hrest
            rw [hbody, hclosed, List.append_cancel_right (hshort.symm.trans hrest)]

theorem cut_shorten {c : Char} {text rest after : List Char}
    (hrest : (cut c (text ++ rest)).2 = after ++ rest) :
    cut c text = ((cut c (text ++ rest)).1, after) := by
  cases leads c with
  | lineFeed _ hcut =>
      rw [hcut] at hrest ⊢
      rw [hcut, List.append_cancel_right hrest]
  | blank hcut =>
      rw [hcut] at hrest ⊢
      rw [hcut, List.append_cancel_right hrest]
  | rawString hcut =>
      rw [hcut] at hrest ⊢
      obtain ⟨hbody, hclosed, hshort⟩ := cutRawString_shorten hrest
      rw [hcut, hbody, hclosed, List.append_cancel_right (hshort.symm.trans hrest)]
  | quotedString hcut =>
      rw [hcut] at hrest ⊢
      obtain ⟨hbody, hclosed, hshort⟩ := cutQuotedString_shorten hrest
      rw [hcut, hbody, hclosed, List.append_cancel_right (hshort.symm.trans hrest)]
  | word hcut =>
      rw [hcut] at hrest ⊢
      obtain ⟨htake, hdrop⟩ := dropWhile_shorten hrest
      rw [hcut, htake, hdrop]
  | number hcut =>
      rw [hcut] at hrest ⊢
      obtain ⟨htake, hdrop⟩ := dropWhile_shorten hrest
      rw [hcut, htake, hdrop]
  | symbol hcut _ =>
      rw [hcut] at hrest ⊢
      rw [hcut, List.append_cancel_right hrest]
  | slash hslash =>
      subst hslash
      exact cut_slash_shorten hrest

end Lexeme

/-- Consecutive lexemes are cut from their own text as they were cut from the whole. -/
theorem lexemes_of_append {left right : List Char} {lexs others : List Lexeme}
    (hwhole : lexemes (left ++ right) = lexs ++ others)
    (htext : lexs.flatMap Lexeme.text = left) :
    lexemes left = lexs ∧ lexemes right = others := by
  induction lexs generalizing left with
  | nil =>
      subst htext
      rw [List.flatMap_nil, List.nil_append] at hwhole
      exact ⟨by rw [List.flatMap_nil, lexemes], hwhole⟩
  | cons lexeme lexs ih =>
      cases hleft : left ++ right with
      | nil =>
          rw [hleft, lexemes] at hwhole
          cases hwhole
      | cons c rest =>
          rw [hleft, lexemes] at hwhole
          obtain ⟨hlexeme, hmore⟩ := List.cons.inj hwhole
          have hcut := Lexeme.text_cut c rest
          rw [hlexeme, ← hleft, ← htext, List.flatMap_cons, List.append_assoc] at hcut
          have hafter := List.append_cancel_left hcut
          rw [hafter] at hmore
          obtain ⟨hlexs, hothers⟩ := ih hmore rfl
          refine ⟨?_, hothers⟩
          have hne : lexeme.text ≠ [] := hlexeme ▸ Lexeme.text_cut_ne_nil c rest
          cases left with
          | nil => simp [hne] at htext
          | cons d tail =>
              obtain ⟨rfl, rfl⟩ := List.cons.inj hleft
              rw [lexemes, Lexeme.cut_shorten hafter]
              have hfirst : (Lexeme.cut d (tail ++ right)).1 = lexeme := hlexeme
              rw [hfirst, hlexs]

theorem lexemes_of_middle {source : List Char} {left middle right : List Lexeme}
    (hlexs : lexemes source = left ++ (middle ++ right)) :
    source = left.flatMap Lexeme.text ++ middle.flatMap Lexeme.text ++
        right.flatMap Lexeme.text ∧
      lexemes (middle.flatMap Lexeme.text) = middle := by
  have hsource : source = left.flatMap Lexeme.text ++
      (middle.flatMap Lexeme.text ++ right.flatMap Lexeme.text) := by
    rw [← flatMap_text_lexemes source, hlexs, List.flatMap_append, List.flatMap_append]
  rw [hsource] at hlexs
  obtain ⟨_, hbehind⟩ := lexemes_of_append hlexs rfl
  obtain ⟨hmiddle, _⟩ := lexemes_of_append hbehind rfl
  exact ⟨by rw [hsource, List.append_assoc], hmiddle⟩

namespace Lexeme

/-- Whether a lexeme at the end of a text stays as it is when `next` follows. -/
def endsBefore (next : List Char) : Lexeme → Bool
  | lineFeed => true
  | blank _ => true
  | lineComment _ => next.head?.all (· = '\n')
  | blockComment _ closed => closed
  | rawString _ closed => closed
  | quotedString _ closed => closed
  | word _ => next.head?.all (!Unicode.continuesWord ·)
  | number _ => next.head?.all (!continuesNumber ·)
  | symbol c => c ≠ '/' || !opensComment next

theorem cutRawString_append {text next : List Char}
    (hends : (cutRawString text).rest ≠ [] ∨ (cutRawString text).closed = true) :
    Cut.Shortens next (cutRawString (text ++ next)) (cutRawString text) := by
  induction text with
  | nil => simp [cutRawString] at hends
  | cons c text ih =>
      rw [cutRawString] at hends ⊢
      rw [List.cons_append, cutRawString]
      by_cases hc : c = '\x60'
      · rw [if_pos hc, if_pos hc]
        exact ⟨rfl, rfl, rfl⟩
      · rw [if_neg hc] at hends ⊢
        rw [if_neg hc]
        exact (ih hends).cons c

theorem cutBlockComment_append {text next : List Char}
    (hends : (cutBlockComment text).rest ≠ [] ∨ (cutBlockComment text).closed = true) :
    Cut.Shortens next (cutBlockComment (text ++ next)) (cutBlockComment text) := by
  fun_induction cutBlockComment text with
  | case1 => simp at hends
  | case2 text => exact ⟨rfl, rfl, rfl⟩
  | case3 c text hopen ih =>
      have hmore := ih hends
      rw [List.cons_append, cutBlockComment]
      · exact hmore.cons c
      · rintro tail rfl htail
        cases text with
        | nil => simp [cutBlockComment, Cut.cons] at hends
        | cons d text =>
            obtain ⟨rfl, rfl⟩ := List.cons.inj htail
            exact hopen text rfl rfl

theorem cutQuotedString_append {text next : List Char}
    (hends : (cutQuotedString text).rest ≠ [] ∨ (cutQuotedString text).closed = true) :
    Cut.Shortens next (cutQuotedString (text ++ next)) (cutQuotedString text) := by
  fun_induction cutQuotedString text with
  | case1 => simp at hends
  | case2 c text ih =>
      rw [List.cons_append, List.cons_append, cutQuotedString]
      exact ((ih hends).cons c).cons '\\'
  | case3 text =>
      rw [List.cons_append, cutQuotedString]
      · exact ⟨rfl, rfl, rfl⟩
      · simp
  | case4 text =>
      rw [List.cons_append, cutQuotedString]
      · exact ⟨rfl, rfl, rfl⟩
      · simp
  | case5 c text hescape hc hline ih =>
      have hmore := ih hends
      rw [List.cons_append, cutQuotedString, if_neg hc, if_neg hline]
      · exact hmore.cons c
      · rintro d tail rfl htail
        cases text with
        | nil => simp [cutQuotedString, Cut.cons] at hends
        | cons e text =>
            obtain ⟨rfl, rfl⟩ := List.cons.inj htail
            exact hescape _ text rfl rfl

theorem dropWhile_append {p : Char → Bool} {text next : List Char}
    (hends : text.dropWhile p ≠ [] ∨ next.head?.all (!p ·) = true) :
    (text ++ next).takeWhile p = text.takeWhile p ∧
      (text ++ next).dropWhile p = text.dropWhile p ++ next := by
  induction text with
  | nil =>
      cases next with
      | nil => exact ⟨rfl, rfl⟩
      | cons c next => simp_all
  | cons c text ih =>
      rw [List.cons_append]
      by_cases hc : p c = true
      · rw [List.dropWhile_cons_of_pos hc] at hends ⊢
        rw [List.dropWhile_cons_of_pos hc, List.takeWhile_cons_of_pos hc,
          List.takeWhile_cons_of_pos hc, (ih hends).1]
        exact ⟨rfl, (ih hends).2⟩
      · rw [List.dropWhile_cons_of_neg hc, List.dropWhile_cons_of_neg hc,
          List.takeWhile_cons_of_neg hc, List.takeWhile_cons_of_neg hc]
        exact ⟨rfl, rfl⟩

theorem cut_slash_append {text next : List Char}
    (hends : (cut '/' text).2 ≠ [] ∨ (cut '/' text).1.endsBefore next = true) :
    cut '/' (text ++ next) = ((cut '/' text).1, (cut '/' text).2 ++ next) := by
  cases hopens : opensComment text with
  | false =>
      rw [cut_slash_symbol hopens] at hends ⊢
      cases text with
      | nil =>
          have hnext : opensComment next = false := by simpa [endsBefore] using hends
          exact cut_slash_symbol hnext
      | cons d text =>
          have happend : opensComment (d :: text ++ next) = false := hopens
          exact cut_slash_symbol happend
  | true =>
      obtain ⟨more, rfl | rfl⟩ := opensComment_eq_true hopens
      · simp only [List.cons_append, cut_slash] at hends ⊢
        obtain ⟨htake, hdrop⟩ := @dropWhile_append (· ≠ '\n') more next
          (by simpa [endsBefore] using hends)
        rw [htake, hdrop]
      · simp only [List.cons_append, cut_slash] at hends ⊢
        obtain ⟨hbody, hclosed, hrest⟩ := @cutBlockComment_append more next hends
        rw [hbody, hclosed, hrest]

/-- The first lexeme of a text stays when more follows, unless it runs to the end of
the text and goes on there. -/
theorem cut_append {c : Char} {text next : List Char}
    (hends : (cut c text).2 ≠ [] ∨ (cut c text).1.endsBefore next = true) :
    cut c (text ++ next) = ((cut c text).1, (cut c text).2 ++ next) := by
  cases leads c with
  | lineFeed _ hcut => rw [hcut, hcut]
  | blank hcut => rw [hcut, hcut]
  | rawString hcut =>
      rw [hcut] at hends ⊢
      obtain ⟨hbody, hclosed, hrest⟩ := @cutRawString_append text next hends
      rw [hcut, hbody, hclosed, hrest]
  | quotedString hcut =>
      rw [hcut] at hends ⊢
      obtain ⟨hbody, hclosed, hrest⟩ := @cutQuotedString_append text next hends
      rw [hcut, hbody, hclosed, hrest]
  | word hcut =>
      rw [hcut] at hends ⊢
      obtain ⟨htake, hdrop⟩ := dropWhile_append hends
      rw [hcut, htake, hdrop]
  | number hcut =>
      rw [hcut] at hends ⊢
      obtain ⟨htake, hdrop⟩ := dropWhile_append hends
      rw [hcut, htake, hdrop]
  | symbol hcut _ => rw [hcut, hcut]
  | slash hslash =>
      subst hslash
      exact cut_slash_append hends

end Lexeme

/-- Texts are cut apart where the last lexeme of the first stays as it is. -/
theorem lexemes_append {left right : List Char}
    (hends : ∀ lexeme, (lexemes left).getLast? = some lexeme →
      lexeme.endsBefore right = true) :
    lexemes (left ++ right) = lexemes left ++ lexemes right := by
  fun_induction lexemes left with
  | case1 => rfl
  | case2 c rest ih =>
      have hcut : Lexeme.cut c (rest ++ right) =
          ((Lexeme.cut c rest).1, (Lexeme.cut c rest).2 ++ right) := by
        apply Lexeme.cut_append
        by_cases hrest : (Lexeme.cut c rest).2 = []
        · right
          apply hends
          rw [hrest, lexemes]
          rfl
        · exact Or.inl hrest
      rw [List.cons_append, lexemes, hcut, List.cons_append]
      dsimp only
      rw [ih]
      intro lexeme hlast
      apply hends
      rw [List.getLast?_cons, hlast]
      rfl

namespace Lexeme

theorem continuesNumber_of_isWhiteSpace {c : Char} (hblank : Unicode.isWhiteSpace c = true) :
    continuesNumber c = false := by
  have hranges : ∀ range ∈ Unicode.whiteSpaceRanges,
      ∀ offset ∈ List.range (range.2 + 1 - range.1),
        continuesNumber (Char.ofNat (range.1 + offset)) = false := by
    decide +kernel
  obtain ⟨range, hrange, offset, hoffset, rfl⟩ := Unicode.within_eq_true hblank
  exact hranges range hrange offset hoffset

/-- Whether a lexeme makes a line end, a string or nothing.  No declaration begins or
ends with such a lexeme. -/
def isInert : Lexeme → Bool
  | word _ => false
  | number _ => false
  | symbol _ => false
  | _ => true

theorem cut_of_isWhiteSpace {c : Char} (hblank : Unicode.isWhiteSpace c = true)
    (rest : List Char) : (cut c rest).1.isInert = true ∧ (cut c rest).2 = rest := by
  unfold cut
  by_cases hline : c = '\n'
  · rw [if_pos hline]
    exact ⟨rfl, rfl⟩
  · rw [if_neg hline, if_pos hblank]
    exact ⟨rfl, rfl⟩

theorem lexemes_of_whiteSpace {text : List Char}
    (hblank : ∀ c ∈ text, Unicode.isWhiteSpace c = true) :
    ∀ lexeme ∈ lexemes text, lexeme.isInert = true := by
  induction text with
  | nil => simp [lexemes]
  | cons c text ih =>
      obtain ⟨hinert, hrest⟩ := cut_of_isWhiteSpace (hblank c List.mem_cons_self) text
      rw [lexemes, hrest]
      intro lexeme hlexeme
      rcases List.mem_cons.1 hlexeme with rfl | hlexeme
      · exact hinert
      · exact ih (fun d hd => hblank d (List.mem_cons_of_mem c hd)) lexeme hlexeme

theorem lexemes_whiteSpace_append {text : List Char}
    (hblank : ∀ c ∈ text, Unicode.isWhiteSpace c = true) (rest : List Char) :
    lexemes (text ++ rest) = lexemes text ++ lexemes rest := by
  induction text with
  | nil => rw [lexemes, List.nil_append, List.nil_append]
  | cons c text ih =>
      have hleads := hblank c List.mem_cons_self
      have hcut : (cut c (text ++ rest)).1 = (cut c text).1 := by
        unfold cut
        by_cases hline : c = '\n'
        · rw [if_pos hline, if_pos hline]
        · rw [if_neg hline, if_pos hleads, if_neg hline, if_pos hleads]
      rw [List.cons_append, lexemes, hcut, (cut_of_isWhiteSpace hleads _).2, lexemes,
        (cut_of_isWhiteSpace hleads _).2, ih fun d hd => hblank d (List.mem_cons_of_mem c hd)]
      rfl

/-- White space behind a text is only taken by a comment or string that is still open. -/
theorem isInert_of_endsBefore_eq_false {lexeme : Lexeme} {blanks : List Char}
    (hblank : ∀ c ∈ blanks, Unicode.isWhiteSpace c = true)
    (hends : lexeme.endsBefore blanks = false) : lexeme.isInert = true := by
  have hhead : ∀ p : Char → Bool, (∀ c, Unicode.isWhiteSpace c = true → p c = false) →
      blanks.head?.all (!p ·) = true := by
    intro p hp
    cases blanks with
    | nil => rfl
    | cons c blanks => simp [hp c (hblank c List.mem_cons_self)]
  cases lexeme with
  | word =>
      rw [endsBefore, hhead _ fun _ => Unicode.continuesWord_of_isWhiteSpace] at hends
      cases hends
  | number =>
      rw [endsBefore, hhead _ fun _ => continuesNumber_of_isWhiteSpace] at hends
      cases hends
  | symbol c =>
      have hopens : opensComment blanks = true := by
        simp only [endsBefore, Bool.or_eq_false_iff, Bool.not_eq_false'] at hends
        exact hends.2
      obtain ⟨more, rfl | rfl⟩ := opensComment_eq_true hopens
      · have hslash := hblank '/' List.mem_cons_self
        exact absurd hslash (by decide +kernel)
      · have hstar := hblank '*' List.mem_cons_self
        exact absurd hstar (by decide +kernel)
  | _ => rfl

theorem isInert_cut_append {c : Char} {text : List Char}
    (hinert : (cut c text).1.isInert = true) (next : List Char) :
    (cut c (text ++ next)).1.isInert = true := by
  cases leads c with
  | slash hslash =>
      subst hslash
      cases hopens : opensComment text with
      | false =>
          rw [cut_slash_symbol hopens] at hinert
          cases hinert
      | true =>
          obtain ⟨more, rfl | rfl⟩ := opensComment_eq_true hopens
          · rw [List.cons_append, cut_slash]
            rfl
          · rw [List.cons_append, cut_slash]
            rfl
  | _ => simp_all [isInert]

def isString : Lexeme → Bool
  | rawString _ _ => true
  | quotedString _ _ => true
  | _ => false

/-- Whether a text begins with a string only depends on its first character. -/
theorem isString_cut (c : Char) (rest rest' : List Char) :
    (cut c rest).1.isString = (cut c rest').1.isString := by
  have hslash : ∀ rest, (cut '/' rest).1.isString = false := by
    intro rest
    rw [cut_slash]
    split <;> rfl
  cases leads c with
  | slash hc => rw [hc, hslash, hslash]
  | _ => simp_all [isString]

/-- What the last lexeme of a text leaves of white space behind it. -/
theorem cut_append_whiteSpace {c : Char} {text blanks : List Char}
    (hblank : ∀ c ∈ blanks, Unicode.isWhiteSpace c = true) (hrest : (cut c text).2 = []) :
    ∀ d ∈ (cut c (text ++ blanks)).2, Unicode.isWhiteSpace d = true := by
  have hcut := text_cut c (text ++ blanks)
  rw [← List.cons_append] at hcut
  rcases List.append_eq_append_iff.1 hcut with ⟨more, htext, hafter⟩ | ⟨more, htext, hafter⟩
  · have hbegins := cut_shorten hafter
    rw [hbegins] at hrest
    rw [hafter, show more = [] from hrest]
    exact hblank
  · intro d hd
    exact hblank d (hafter ▸ List.mem_append_right more hd)

end Lexeme

/-- White space behind a text changes at most what is left of an open comment or
string at the end of the text, and a string there stays a string. -/
theorem lexemes_append_whiteSpace (text : List Char) {blanks : List Char}
    (hblank : ∀ c ∈ blanks, Unicode.isWhiteSpace c = true) :
    ∃ lexs ends ends', lexemes text = lexs ++ ends ∧ lexemes (text ++ blanks) = lexs ++ ends' ∧
      (∀ lexeme ∈ ends, lexeme.isInert = true) ∧ (∀ lexeme ∈ ends', lexeme.isInert = true) ∧
      ((∀ lexeme ∈ ends', lexeme.isString = false) → ∀ lexeme ∈ ends, lexeme.isString = false) := by
  fun_induction lexemes text with
  | case1 =>
      exact ⟨[], [], lexemes blanks, rfl, rfl, by simp, Lexeme.lexemes_of_whiteSpace hblank,
        by simp⟩
  | case2 c rest ih =>
      by_cases hends : (Lexeme.cut c rest).2 ≠ [] ∨
          (Lexeme.cut c rest).1.endsBefore blanks = true
      · obtain ⟨lexs, ends, ends', htext, hlonger, hinert⟩ := ih
        refine ⟨(Lexeme.cut c rest).1 :: lexs, ends, ends', ?_, ?_, hinert⟩
        · rw [htext, List.cons_append]
        · rw [List.cons_append, lexemes, Lexeme.cut_append hends, hlonger, List.cons_append]
      · have hrest : (Lexeme.cut c rest).2 = [] :=
          Classical.byContradiction fun hne => hends (Or.inl hne)
        have hopen : (Lexeme.cut c rest).1.endsBefore blanks = false := by
          simpa using fun hclosed => hends (Or.inr hclosed)
        have hinert := Lexeme.isInert_of_endsBefore_eq_false hblank hopen
        refine ⟨[], _, _, rfl, rfl, ?_, ?_, ?_⟩
        · rw [hrest, lexemes]
          simpa using hinert
        · rw [List.cons_append, lexemes]
          intro lexeme hlexeme
          rcases List.mem_cons.1 hlexeme with rfl | hlexeme
          · exact Lexeme.isInert_cut_append hinert blanks
          · exact Lexeme.lexemes_of_whiteSpace
              (Lexeme.cut_append_whiteSpace hblank hrest) lexeme hlexeme
        · intro hplain
          rw [hrest, lexemes]
          rw [List.cons_append, lexemes] at hplain
          rw [List.forall_mem_singleton, Lexeme.isString_cut c rest (rest ++ blanks)]
          exact hplain _ List.mem_cons_self

namespace Lexeme

/-- Whether a comment or string between delimiters has the one that ends it. -/
def isTerminated : Lexeme → Bool
  | blockComment _ closed => closed
  | rawString _ closed => closed
  | quotedString _ closed => closed
  | _ => true

theorem endsBefore_lineFeed {lexeme : Lexeme} (hterminated : lexeme.isTerminated = true)
    (rest : List Char) : lexeme.endsBefore ('\n' :: rest) = true := by
  have hblank : Unicode.isWhiteSpace '\n' = true := by decide +kernel
  cases lexeme with
  | word => simp [endsBefore, Unicode.continuesWord_of_isWhiteSpace hblank]
  | number => simp [endsBefore, continuesNumber_of_isWhiteSpace hblank]
  | symbol c => simp [endsBefore, opensComment]
  | lineFeed => rfl
  | blank => rfl
  | lineComment => rfl
  | blockComment => exact hterminated
  | rawString => exact hterminated
  | quotedString => exact hterminated

end Lexeme

theorem lexemes_append_lineFeed {text : List Char}
    (hterminated : ∀ lexeme ∈ lexemes text, lexeme.isTerminated = true) (rest : List Char) :
    lexemes (text ++ '\n' :: rest) = lexemes text ++ .lineFeed :: lexemes rest := by
  have hline : Lexeme.cut '\n' rest = (.lineFeed, rest) := rfl
  rw [lexemes_append, lexemes, hline]
  intro lexeme hlast
  exact Lexeme.endsBefore_lineFeed (hterminated lexeme (List.mem_of_getLast? hlast)) rest

end FieldBridge
