import FieldBridge.Json.Printer
import FieldBridge.Json.Reader
import FieldBridge.Proofs.WrittenNumbers

/-!
# Reading written JSON

A value that was written over several lines is read as that value again, up to two things:
numbers are rounded once more, and the members of an object are sorted by key.  Every part is
read from the start of a text whose rest is generic.  A number ends where that rest begins,
since lines, commas and the end of the text cannot belong to it.
-/

namespace FieldBridge

namespace Json

namespace Quoted

theorem hexValue?_hexDigit : ∀ value < 16, hexValue? (hexDigit value) = some value := by
  decide

theorem decode?_plain {c : Char} (hquote : c ≠ '\x22') (hescape : c ≠ '\\')
    (hcontrol : 32 ≤ c.toNat) (rest : List Char) :
    decode? (c :: rest) = (decode? rest).map fun decoded => (c :: decoded.1, decoded.2) := by
  rw [decode?, if_neg hquote, if_neg hescape, if_neg (by omega)]

theorem decode?_escape {text rest : List Char} {c : Char}
    (hescape : escape? text = some (c, rest)) :
    decode? ('\\' :: text) = (decode? rest).map fun decoded => (c :: decoded.1, decoded.2) := by
  rw [decode?, if_neg (by decide), if_pos rfl]
  split
  · next heq =>
      rw [hescape] at heq
      obtain ⟨rfl, rfl⟩ := Prod.mk.inj (Option.some.inj heq)
      rfl
  · next heq =>
      rw [hescape] at heq
      cases heq

/-- A control character is written with two digits of base sixteen. -/
theorem escape?_control {c : Char} (hcontrol : c.toNat < 32) (rest : List Char) :
    escape? ('u' :: '0' :: '0' :: hexDigit (c.toNat / 16) :: hexDigit (c.toNat % 16) :: rest) =
      some (c, rest) := by
  have hhigh := hexValue?_hexDigit (c.toNat / 16) (by omega)
  have hlow := hexValue?_hexDigit (c.toNat % 16) (by omega)
  have hzero : hexValue? '0' = some 0 := by decide
  have hvalue : 0 * 4096 + 0 * 256 + c.toNat / 16 * 16 + c.toNat % 16 = c.toNat := by omega
  simp only [escape?, unit?, hzero, hhigh, hlow, hvalue]
  rw [if_neg (by omega), if_neg (by omega), Char.ofNat_toNat]

theorem decode?_encodeChar (c : Char) (rest : List Char) :
    decode? (encodeChar c ++ rest) =
      (decode? rest).map fun decoded => (c :: decoded.1, decoded.2) := by
  unfold encodeChar
  -- The characters that have an escape of their own.
  iterate 7
    split
    · next h => subst h; exact decode?_escape rfl
  split
  · next hcontrol => exact decode?_escape (escape?_control hcontrol rest)
  · next hquote hescape _ _ _ _ _ hcontrol =>
      exact decode?_plain hquote hescape (by omega) rest

/-- A written string is read back, whatever follows its closing quotation mark. -/
theorem decode?_encode (text rest : List Char) :
    decode? (text.flatMap encodeChar ++ '\x22' :: rest) = some (text, rest) := by
  induction text with
  | nil => rw [List.flatMap_nil, List.nil_append, decode?, if_pos rfl]
  | cons c text ih =>
      rw [List.flatMap_cons, List.append_assoc, decode?_encodeChar, ih]
      rfl

end Quoted

namespace Numeral

/-- What can stand behind a number without being taken for a part of it. -/
def Ends (rest : List Char) : Prop :=
  ∀ c ∈ rest.head?, c.isDigit = false ∧ c ≠ '.' ∧ (c ≠ 'e' ∧ c ≠ 'E') ∧ c ≠ '+' ∧ c ≠ '-'

theorem ends_nil : Ends [] := by
  simp [Ends]

theorem fraction?_of_head {text : List Char} (hhead : ∀ c ∈ text.head?, c ≠ '.') :
    fraction? text = some (none, text) := by
  unfold fraction?
  split
  · exact absurd rfl (hhead '.' rfl)
  · rfl

theorem exponent?_of_head {text : List Char} (hhead : ∀ c ∈ text.head?, c ≠ 'e' ∧ c ≠ 'E') :
    exponent? text = some (none, text) := by
  cases text with
  | nil => rfl
  | cons c rest =>
      unfold exponent?
      dsimp only
      rw [if_neg]
      rintro (hlower | hupper)
      · exact (hhead c rfl).1 hlower
      · exact (hhead c rfl).2 hupper

/-- The digits of an exponent, behind its letter, with a sign if any. -/
theorem exponent?_letter {c : Char} (hletter : c = 'e' ∨ c = 'E') {text : List Char}
    (hhead : ∀ d ∈ text.head?, d ≠ '+' ∧ d ≠ '-') :
    exponent? (c :: text) = exponentDigits? false text := by
  unfold exponent?
  dsimp only
  rw [if_pos hletter]
  split
  · exact absurd rfl (hhead '+' rfl).1
  · exact absurd rfl (hhead '-' rfl).2
  · rfl

section

variable {rest : List Char} (hends : Ends rest)
include hends

theorem takeWhile_append (text : List Char) :
    (text ++ rest).takeWhile Char.isDigit = text.takeWhile Char.isDigit := by
  induction text with
  | nil =>
      cases rest with
      | nil => rfl
      | cons c rest => simp [(hends c (by simp)).1]
  | cons d text ih =>
      rw [List.cons_append, List.takeWhile_cons, List.takeWhile_cons, ih]

theorem dropWhile_append (text : List Char) :
    (text ++ rest).dropWhile Char.isDigit = text.dropWhile Char.isDigit ++ rest := by
  induction text with
  | nil =>
      cases rest with
      | nil => rfl
      | cons c rest => simp [(hends c (by simp)).1]
  | cons d text ih =>
      rw [List.cons_append, List.dropWhile_cons, List.dropWhile_cons, ih]
      split <;> rfl

theorem fraction?_append (text : List Char) :
    fraction? (text ++ rest) = (fraction? text).map fun read => (read.1, read.2 ++ rest) := by
  cases text with
  | nil => exact fraction?_of_head fun c hc => (hends c hc).2.1
  | cons d text =>
      by_cases hpoint : d = '.'
      · subst hpoint
        rw [List.cons_append, fraction?, fraction?, takeWhile_append hends, dropWhile_append hends]
        split <;> rfl
      · rw [fraction?_of_head (by simpa), fraction?_of_head (by simpa)]
        rfl

theorem exponentDigits?_append (negative : Bool) (text : List Char) :
    exponentDigits? negative (text ++ rest) =
      (exponentDigits? negative text).map fun read => (read.1, read.2 ++ rest) := by
  rw [exponentDigits?, exponentDigits?, takeWhile_append hends, dropWhile_append hends]
  split <;> rfl

theorem exponent?_append (text : List Char) :
    exponent? (text ++ rest) = (exponent? text).map fun read => (read.1, read.2 ++ rest) := by
  cases text with
  | nil => exact exponent?_of_head fun c hc => (hends c hc).2.2.1
  | cons d text =>
      by_cases hletter : d = 'e' ∨ d = 'E'
      · by_cases hplus : text.head? = some '+'
        · obtain ⟨digits, rfl⟩ := List.head?_eq_some_iff.1 hplus
          rw [List.cons_append, List.cons_append, exponent?, exponent?, if_pos hletter,
            if_pos hletter]
          exact exponentDigits?_append hends false digits
        by_cases hminus : text.head? = some '-'
        · obtain ⟨digits, rfl⟩ := List.head?_eq_some_iff.1 hminus
          rw [List.cons_append, List.cons_append, exponent?, exponent?, if_pos hletter,
            if_pos hletter]
          exact exponentDigits?_append hends true digits
        have hunsigned : ∀ c ∈ (text ++ rest).head?, c ≠ '+' ∧ c ≠ '-' := by
          cases text with
          | nil => exact fun c hc => (hends c hc).2.2.2
          | cons e text =>
              rintro c hc
              obtain rfl : e = c := Option.some.inj hc
              exact ⟨fun heq => hplus (congrArg some heq), fun heq => hminus (congrArg some heq)⟩
        rw [List.cons_append, exponent?_letter hletter hunsigned, exponent?_letter hletter]
        · exact exponentDigits?_append hends false text
        · rintro c hc
          rw [Option.mem_def] at hc
          rw [hc] at hplus hminus
          exact ⟨fun heq => hplus (congrArg some heq), fun heq => hminus (congrArg some heq)⟩
      · rw [exponent?_of_head (by simpa using hletter), exponent?_of_head (by simpa using hletter)]
        rfl

/-- What stands behind a number is what is left when it was read. -/
theorem unsigned?_append (negative : Bool) (text : List Char) :
    unsigned? negative (text ++ rest) =
      (unsigned? negative text).map fun parts => { parts with rest := parts.rest ++ rest } := by
  rw [unsigned?, unsigned?, takeWhile_append hends, dropWhile_append hends]
  split
  · rfl
  · rfl
  · rw [fraction?_append hends]
    cases fraction? (text.dropWhile Char.isDigit) with
    | none => rfl
    | some fraction =>
        dsimp only [Option.map_some]
        rw [exponent?_append hends]
        cases exponent? fraction.2 <;> rfl

theorem parts?_append (text : List Char) (hne : text ≠ []) :
    parts? (text ++ rest) =
      (parts? text).map fun parts => { parts with rest := parts.rest ++ rest } := by
  cases text with
  | nil => exact absurd rfl hne
  | cons d text =>
      by_cases hsign : d = '-'
      · subst hsign
        exact unsigned?_append hends true text
      · have hparts : ∀ text, parts? (d :: text) = unsigned? false (d :: text) := by
          intro text
          unfold parts?
          split
          · exact absurd (by assumption) (by simp [hsign])
          · rfl
        rw [List.cons_append, hparts, hparts, ← List.cons_append]
        exact unsigned?_append hends false (d :: text)

end

end Numeral

namespace Numeral

/-- How a number begins. -/
def Begins (c : Char) : Prop :=
  c = '-' ∨ c.isDigit = true

theorem begins_of_parts? {text : List Char} {parts : Parts} (hparts : parts? text = some parts) :
    ∃ c tail, text = c :: tail ∧ Begins c := by
  cases text with
  | nil => cases hparts
  | cons c tail =>
      refine ⟨c, tail, rfl, ?_⟩
      by_cases hsign : c = '-'
      · exact Or.inl hsign
      · right
        refine Decidable.of_not_not fun hdigit => ?_
        have hnone : unsigned? false (c :: tail) = none := by
          rw [unsigned?, List.takeWhile_cons_of_neg hdigit]
        unfold parts? at hparts
        split at hparts
        · exact hsign (List.cons.inj (by assumption)).1
        · rw [hnone] at hparts
          cases hparts

end Numeral

theorem isBlank_of_begins {c : Char} (hbegins : Numeral.Begins c) : isBlank c = false := by
  rcases hbegins with rfl | hdigit
  · rfl
  · unfold isBlank
    simp only [Bool.or_eq_false_iff, decide_eq_false_iff_not]
    refine ⟨⟨⟨?_, ?_⟩, ?_⟩, ?_⟩ <;> rintro rfl <;> cases hdigit

theorem skipBlanks_cons {c : Char} (hblank : isBlank c = false) (text : List Char) :
    skipBlanks (c :: text) = c :: text :=
  List.dropWhile_cons_of_neg (by simp [hblank])

theorem skipBlanks_lineAt (level : Nat) (text : List Char) :
    skipBlanks (lineAt level ++ text) = skipBlanks text := by
  unfold skipBlanks lineAt
  rw [List.cons_append, List.dropWhile_cons_of_pos rfl]
  induction 2 * level with
  | zero => rfl
  | succ count ih => rw [List.replicate_succ, List.cons_append, List.dropWhile_cons_of_pos rfl, ih]

theorem skipBlanks_skipBlanks (text : List Char) :
    skipBlanks (skipBlanks text) = skipBlanks text := by
  induction text with
  | nil => rfl
  | cons c text ih =>
      cases hblank : isBlank c with
      | true =>
          have hskip : skipBlanks (c :: text) = skipBlanks text := List.dropWhile_cons_of_pos hblank
          rw [hskip, ih]
      | false => rw [skipBlanks_cons hblank, skipBlanks_cons hblank]

theorem readValue_congr {left right : List Char} (hskip : skipBlanks left = skipBlanks right)
    (steps depth : Nat) : readValue steps depth left = readValue steps depth right := by
  cases steps with
  | zero => rw [readValue, readValue]
  | succ steps => rw [readValue, readValue, hskip]

theorem skipBlanks_blank (text : List Char) : skipBlanks (' ' :: text) = skipBlanks text :=
  List.dropWhile_cons_of_pos rfl

theorem readItems_congr {left right : List Char} (hskip : skipBlanks left = skipBlanks right)
    (steps depth : Nat) : readItems steps depth left = readItems steps depth right := by
  cases steps with
  | zero => rw [readItems, readItems]
  | succ steps => rw [readItems, readItems, readValue_congr hskip]

theorem readMembers_congr {left right : List Char} (hskip : skipBlanks left = skipBlanks right)
    (steps depth : Nat) : readMembers steps depth left = readMembers steps depth right := by
  cases steps with
  | zero => rw [readMembers, readMembers]
  | succ steps => rw [readMembers, readMembers, hskip]

theorem readValue_number {c : Char} (hbegins : Numeral.Begins c) (steps depth : Nat)
    (text : List Char) : readValue (steps + 1) depth (c :: text) =
      match Numeral.parts? (c :: text) with
      | none => none
      | some parts => parts.value?.map fun value => (value, parts.rest) := by
  rw [readValue, skipBlanks_cons (isBlank_of_begins hbegins)]
  have hother : ∀ d : Char, d ≠ '-' → d.isDigit = false → c ≠ d := by
    rintro d hsign hdigit rfl
    rcases hbegins with rfl | hbegins
    · exact hsign rfl
    · rw [hdigit] at hbegins
      cases hbegins
  split
  · next heq => exact absurd (List.cons.inj heq).1 (hother _ (by decide) (by decide))
  · next heq => exact absurd (List.cons.inj heq).1 (hother _ (by decide) (by decide))
  · next heq => exact absurd (List.cons.inj heq).1 (hother _ (by decide) (by decide))
  · next heq => exact absurd (List.cons.inj heq).1 (hother _ (by decide) (by decide))
  · next heq => exact absurd (List.cons.inj heq).1 (hother _ (by decide) (by decide))
  · next heq => exact absurd (List.cons.inj heq).1 (hother _ (by decide) (by decide))
  · rfl

/-- A number is read up to what cannot belong to it. -/
theorem readValue_of_reads {text rest : List Char} {value : Json}
    (hreads : Numeral.Reads text value) (hends : Numeral.Ends rest) (steps depth : Nat) :
    readValue (steps + 1) depth (text ++ rest) = some (value, rest) := by
  obtain ⟨parts, hparts, hrest, hvalue⟩ := hreads
  obtain ⟨c, tail, rfl, hbegins⟩ := Numeral.begins_of_parts? hparts
  have happend := Numeral.parts?_append hends (c :: tail) (by simp)
  rw [hparts] at happend
  rw [List.cons_append] at happend ⊢
  rw [readValue_number hbegins, happend]
  change Option.map (fun value => (value, parts.rest ++ rest)) parts.value? = _
  rw [hvalue, hrest]
  rfl

/-- A text that is a number is read as its value. -/
theorem read?_of_reads {text : List Char} {value : Json} (hreads : Numeral.Reads text value) :
    read? text = some value := by
  have hread := readValue_of_reads hreads Numeral.ends_nil (2 * text.length + 1) depthLimit
  rw [List.append_nil] at hread
  rw [read?, hread]
  rfl

end Json

namespace Binary64

open Json

/-- The number that the text of a number is read as. -/
def reread (number : Binary64) : Binary64 :=
  match Json.read? number.text.toList with
  | some (.float again) => again
  | _ => number

/-- A number that is read back as it is printed. -/
def ReadsBack (number : Binary64) : Prop :=
  Json.read? number.text.toList = some (.float number)

theorem ReadsBack.reread_eq {number : Binary64} (hback : number.ReadsBack) :
    number.reread = number := by
  unfold ReadsBack at hback
  rw [reread, hback]

/-- Whether a value is a certain number. -/
def isNumber (number : Binary64) : Json → Bool
  | .float again => again = number
  | _ => false

theorem readsBack_of_isNumber {number : Binary64}
    (hnumber : (Json.read? number.text.toList).any number.isNumber = true) :
    number.ReadsBack := by
  obtain ⟨value, hread, hvalue⟩ := (Option.any_eq_true _ _).1 hnumber
  cases value with
  | float again =>
      obtain rfl : again = number := of_decide_eq_true hvalue
      exact hread
  | _ => cases hvalue

theorem reads_reread (number : Binary64) :
    Numeral.Reads number.text.toList (.float number.reread) := by
  obtain ⟨again, hreads⟩ := number.exists_reads_text
  have hreread : number.reread = again := by
    rw [reread, read?_of_reads hreads]
  rwa [hreread]

end Binary64

namespace Json

mutual

/-- A value without whole numbers, nested at most so deep. -/
def Fits : Nat → Json → Prop
  | _, integer _ => False
  | 0, array _ => False
  | 0, object _ => False
  | depth + 1, array items => ItemsFit depth items
  | depth + 1, object members => MembersFit depth members
  | _, _ => True

def ItemsFit : Nat → List Json → Prop
  | _, [] => True
  | depth, item :: items => Fits depth item ∧ ItemsFit depth items

def MembersFit : Nat → List (String × Json) → Prop
  | _, [] => True
  | depth, (_, value) :: members => Fits depth value ∧ MembersFit depth members

end

mutual

/-- What the written form of a value is read as: every number is rounded again, and
the members of objects are sorted. -/
def reread : Json → Json
  | float value => float value.reread
  | array items => array (rereadItems items)
  | object members => object (sortMembers (rereadMembers members))
  | value => value

def rereadItems : List Json → List Json
  | [] => []
  | item :: items => item.reread :: rereadItems items

def rereadMembers : List (String × Json) → List (String × Json)
  | [] => []
  | (key, value) :: members => (key, value.reread) :: rereadMembers members

end

/-- The written form of a value begins with what is no blank and ends no list. -/
theorem exists_prettyText_cons {value : Json} {depth : Nat} (hfits : Fits depth value)
    (level : Nat) :
    ∃ c tail, prettyText level value = c :: tail ∧ isBlank c = false ∧ c ≠ ']' := by
  cases value with
  | integer => exact hfits.elim
  | float number =>
      obtain ⟨parts, hparts, -⟩ := number.reads_reread
      obtain ⟨c, tail, htext, hbegins⟩ := Numeral.begins_of_parts? hparts
      refine ⟨c, tail, by rw [prettyText, htext], isBlank_of_begins hbegins, ?_⟩
      rintro rfl
      rcases hbegins with h | h <;> cases h
  | bool value => cases value <;> exact ⟨_, _, rfl, rfl, by decide⟩
  | array items => cases items <;> exact ⟨_, _, rfl, rfl, by decide⟩
  | object members => cases members <;> exact ⟨_, _, rfl, rfl, by decide⟩
  | _ => exact ⟨_, _, rfl, rfl, by decide⟩

theorem ends_of_lineAt (level : Nat) (rest : List Char) : Numeral.Ends (lineAt level ++ rest) := by
  intro c hc
  obtain rfl : '\n' = c := Option.some.inj hc
  decide

theorem ends_of_items (level outer : Nat) (items : List Json) (rest : List Char) :
    Numeral.Ends (prettyItems level items ++ (lineAt outer ++ rest)) := by
  cases items with
  | nil => exact ends_of_lineAt outer rest
  | cons item items =>
      intro c hc
      obtain rfl : ',' = c := Option.some.inj hc
      decide

theorem ends_of_members (level outer : Nat) (members : List (String × Json)) (rest : List Char) :
    Numeral.Ends (prettyMembers level members ++ (lineAt outer ++ rest)) := by
  cases members with
  | nil => exact ends_of_lineAt outer rest
  | cons member members =>
      intro c hc
      obtain rfl : ',' = c := Option.some.inj hc
      decide

theorem readValue_quote (steps depth : Nat) (text : List Char) :
    readValue (steps + 1) depth ('\x22' :: text) = (Quoted.decode? text).map fun decoded =>
      (string (String.ofList decoded.1), decoded.2) := by
  rw [readValue, skipBlanks_cons rfl]
  rfl

theorem readValue_bracket {text tail : List Char} {c : Char} (hskip : skipBlanks text = c :: tail)
    (hc : c ≠ ']') (steps depth : Nat) :
    readValue (steps + 1) (depth + 1) ('[' :: text) = (readItems steps depth text).map fun read =>
      (array read.1, read.2) := by
  rw [readItems_congr (skipBlanks_skipBlanks text).symm]
  simp only [readValue, skipBlanks_cons (c := '[') rfl, hskip]
  split
  · next heq => exact absurd (List.cons.inj heq).1 hc
  · rfl

theorem readValue_brace {text tail : List Char} {c : Char} (hskip : skipBlanks text = c :: tail)
    (hc : c ≠ '}') (steps depth : Nat) :
    readValue (steps + 1) (depth + 1) ('{' :: text) =
      (readMembers steps depth text).map fun read => (object (sortMembers read.1), read.2) := by
  rw [readMembers_congr (skipBlanks_skipBlanks text).symm]
  simp only [readValue, skipBlanks_cons (c := '{') rfl, hskip]
  split
  · next heq => exact absurd (List.cons.inj heq).1 hc
  · rfl

section

variable {steps depth : Nat} {text rest more : List Char} {value : Json}

theorem readItems_close (hvalue : readValue steps depth text = some (value, rest))
    (hskip : skipBlanks rest = ']' :: more) :
    readItems (steps + 1) depth text = some ([value], more) := by
  simp only [readItems, hvalue, hskip]

theorem readItems_comma (hvalue : readValue steps depth text = some (value, rest))
    (hskip : skipBlanks rest = ',' :: more) :
    readItems (steps + 1) depth text =
      (readItems steps depth more).map fun read => (value :: read.1, read.2) := by
  simp only [readItems, hvalue, hskip]

theorem encode_append (key rest : List Char) :
    Quoted.encode key ++ rest = '\x22' :: (key.flatMap Quoted.encodeChar ++ '\x22' :: rest) := by
  rw [Quoted.encode, List.append_assoc]
  rfl

variable {key : List Char}

theorem readMembers_close (hvalue : readValue steps depth text = some (value, rest))
    (hskip : skipBlanks rest = '}' :: more) :
    readMembers (steps + 1) depth (Quoted.encode key ++ ':' :: text) =
      some ([(String.ofList key, value)], more) := by
  rw [encode_append]
  simp only [readMembers, skipBlanks_cons (c := '\x22') rfl, skipBlanks_cons (c := ':') rfl,
    Quoted.decode?_encode, hvalue, hskip]

theorem readMembers_comma (hvalue : readValue steps depth text = some (value, rest))
    (hskip : skipBlanks rest = ',' :: more) :
    readMembers (steps + 1) depth (Quoted.encode key ++ ':' :: text) =
      (readMembers steps depth more).map fun read =>
        ((String.ofList key, value) :: read.1, read.2) := by
  rw [encode_append]
  simp only [readMembers, skipBlanks_cons (c := '\x22') rfl, skipBlanks_cons (c := ':') rfl,
    Quoted.decode?_encode, hvalue, hskip]

end

theorem prettyItems_cons (level : Nat) (item : Json) (items : List Json) (rest : List Char) :
    prettyItems level (item :: items) ++ rest =
      ',' :: (lineAt level ++ (prettyText level item ++ (prettyItems level items ++ rest))) := by
  simp [prettyItems]

theorem prettyMembers_cons (level : Nat) (key : String) (value : Json)
    (members : List (String × Json)) (rest : List Char) :
    prettyMembers level ((key, value) :: members) ++ rest =
      ',' :: (lineAt level ++ (Quoted.encode key.toList ++ ':' :: ' ' ::
        (prettyText level value ++ (prettyMembers level members ++ rest)))) := by
  simp [prettyMembers]

/-- What the indentation and the items behind it begin with once blanks are passed. -/
theorem exists_skipBlanks_item {item : Json} {depth : Nat} (hfits : Fits depth item)
    (level : Nat) (rest : List Char) :
    ∃ c tail, skipBlanks (lineAt level ++ (prettyText level item ++ rest)) = c :: tail ∧
      c ≠ ']' := by
  obtain ⟨c, tail, hitem, hblank, hc⟩ := exists_prettyText_cons hfits level
  refine ⟨c, tail ++ rest, ?_, hc⟩
  rw [skipBlanks_lineAt, hitem, List.cons_append, skipBlanks_cons hblank]

mutual

/-- A written value is read back from the start of any text, in twice as many steps as it
has characters. -/
theorem readValue_prettyText : ∀ (value : Json) {depth : Nat}, Fits depth value →
    ∀ (level : Nat) {steps : Nat}, 2 * (prettyText level value).length ≤ steps + 1 →
      ∀ {rest : List Char}, Numeral.Ends rest →
        readValue (steps + 1) depth (prettyText level value ++ rest) = some (value.reread, rest)
  | null, _, _, _, _, _, _, _ => by rw [readValue]; rfl
  | bool true, _, _, _, _, _, _, _ => by rw [readValue]; rfl
  | bool false, _, _, _, _, _, _, _ => by rw [readValue]; rfl
  | integer _, _, hfits, _, _, _, _, _ => hfits.elim
  | float number, _, _, _, _, _, _, hends => readValue_of_reads number.reads_reread hends _ _
  | string text, _, _, _, _, _, _, _ => by
      rw [prettyText, encode_append, readValue_quote, Quoted.decode?_encode, Option.map_some,
        String.ofList_toList]
      rfl
  | array _, 0, hfits, _, _, _, _, _ => hfits.elim
  | array [], _ + 1, _, _, _, _, _, _ => by rw [readValue]; rfl
  | array (item :: items), depth + 1, hfits, level, steps, hsteps, rest, _ => by
      have htext : prettyText level (array (item :: items)) ++ rest =
          '[' :: (lineAt (level + 1) ++ (prettyText (level + 1) item ++
            (prettyItems (level + 1) items ++ (lineAt level ++ ']' :: rest)))) := by
        simp [prettyText]
      have hlong : 2 * (prettyItems (level + 1) (item :: items)).length ≤ steps := by
        simp only [prettyText, prettyItems, List.length_append, List.length_cons] at hsteps ⊢
        omega
      obtain ⟨c, tail, hskip, hc⟩ := exists_skipBlanks_item hfits.1 (level + 1)
        (prettyItems (level + 1) items ++ (lineAt level ++ ']' :: rest))
      rw [htext, readValue_bracket hskip hc, readItems_prettyItems (item :: items) hfits
        (level + 1) level hlong (prettyItems_cons _ _ _ _)]
      rfl
  | object _, 0, hfits, _, _, _, _, _ => hfits.elim
  | object [], _ + 1, _, _, _, _, _, _ => by rw [readValue]; rfl
  | object ((key, value) :: members), depth + 1, hfits, level, steps, hsteps, rest, _ => by
      have htext : prettyText level (object ((key, value) :: members)) ++ rest =
          '{' :: (lineAt (level + 1) ++ (Quoted.encode key.toList ++ ':' :: ' ' ::
            (prettyText (level + 1) value ++
              (prettyMembers (level + 1) members ++ (lineAt level ++ '}' :: rest))))) := by
        simp [prettyText]
      have hlong : 2 * (prettyMembers (level + 1) ((key, value) :: members)).length ≤ steps := by
        simp only [prettyText, prettyMembers, List.length_append, List.length_cons] at hsteps ⊢
        omega
      rw [htext, readValue_brace (by rw [skipBlanks_lineAt, encode_append, skipBlanks_cons rfl])
        (by decide), readMembers_prettyMembers ((key, value) :: members) hfits
        (level + 1) level hlong (prettyMembers_cons _ _ _ _ _)]
      rfl

/-- The items of a list are read back from behind the comma before the first. -/
theorem readItems_prettyItems : ∀ (items : List Json) {depth : Nat}, ItemsFit depth items →
    ∀ (level outer : Nat) {steps : Nat}, 2 * (prettyItems level items).length ≤ steps →
      ∀ {rest text : List Char},
        prettyItems level items ++ (lineAt outer ++ ']' :: rest) = ',' :: text →
          readItems steps depth text = some (rereadItems items, rest)
  | [], _, _, _, _, _, _, _, _, htext => by cases htext
  | item :: items, depth, hfits, level, outer, steps, hsteps, rest, text, htext => by
      rw [prettyItems_cons] at htext
      obtain rfl := (List.cons.inj htext).2.symm
      have hlong : 2 * (prettyItems level items).length + 2 * (prettyText level item).length + 2 ≤
          steps := by
        simp only [prettyItems, List.length_append, List.length_cons] at hsteps
        omega
      obtain ⟨steps, rfl⟩ := Nat.exists_eq_add_of_le' (Nat.le_of_add_left_le hlong)
      have hitem := @readValue_prettyText item depth hfits.1 level steps (by omega) _
        (ends_of_items level outer items (']' :: rest))
      rw [readItems_congr (skipBlanks_lineAt level _)]
      cases items with
      | nil => exact readItems_close hitem (skipBlanks_lineAt outer _)
      | cons next items =>
          rw [readItems_comma hitem (by rw [prettyItems_cons, skipBlanks_cons rfl]),
            readItems_prettyItems (next :: items) hfits.2 level outer (by omega)
              (prettyItems_cons _ _ _ _)]
          rfl

/-- The members of an object are read back from behind the comma before the first. -/
theorem readMembers_prettyMembers : ∀ (members : List (String × Json)) {depth : Nat},
    MembersFit depth members → ∀ (level outer : Nat) {steps : Nat},
      2 * (prettyMembers level members).length ≤ steps → ∀ {rest text : List Char},
        prettyMembers level members ++ (lineAt outer ++ '}' :: rest) = ',' :: text →
          readMembers steps depth text = some (rereadMembers members, rest)
  | [], _, _, _, _, _, _, _, _, htext => by cases htext
  | (key, value) :: members, depth, hfits, level, outer, steps, hsteps, rest, text, htext => by
      rw [prettyMembers_cons] at htext
      obtain rfl := (List.cons.inj htext).2.symm
      have hlong : 2 * (prettyMembers level members).length +
          2 * (prettyText level value).length + 2 ≤ steps := by
        simp only [prettyMembers, List.length_append, List.length_cons] at hsteps
        omega
      obtain ⟨steps, rfl⟩ := Nat.exists_eq_add_of_le' (Nat.le_of_add_left_le hlong)
      have hvalue := @readValue_prettyText value depth hfits.1 level steps (by omega) _
        (ends_of_members level outer members ('}' :: rest))
      rw [← readValue_congr (skipBlanks_blank _)] at hvalue
      rw [readMembers_congr (skipBlanks_lineAt level _)]
      cases members with
      | nil =>
          rw [readMembers_close hvalue (skipBlanks_lineAt outer _), String.ofList_toList]
          rfl
      | cons next members =>
          rw [readMembers_comma hvalue (by rw [prettyMembers_cons, skipBlanks_cons rfl]),
            readMembers_prettyMembers (next :: members) hfits.2 level outer (by omega)
              (prettyMembers_cons _ _ _ _ _), String.ofList_toList]
          rfl

end

/-- A value that is not nested too deep is read back from its written form. -/
theorem read?_pretty {value : Json} (hfits : Fits depthLimit value) :
    read? value.pretty.toList = some value.reread := by
  have hread := readValue_prettyText value hfits 0 (Nat.le_succ_of_le (Nat.le_succ _))
    Numeral.ends_nil
  rw [List.append_nil] at hread
  rw [read?, pretty, String.toList_ofList, hread]
  rfl

end Json

end FieldBridge
