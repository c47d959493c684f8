import FieldBridge.Json.Numeral
import FieldBridge.Proofs.ShortestDecimals

/-!
# Written numbers

The text of a binary64 number is a number from its first character to its last.  Each form
of the text has its digits and its exponent gathered as one decimal: the shortest one, or
one with zeros moved from the exponent into the digits.  Both have a nearest number, so the
text has a value.
-/

namespace FieldBridge

namespace Json.Numeral

/-- The text is a number from its first character to its last. -/
def Reads (text : List Char) (value : Json) : Prop :=
  ∃ parts, parts? text = some parts ∧ parts.rest = [] ∧ parts.value? = some value

/-- The digits are not left out, and a zero before further digits is. -/
def Leads (whole : List Char) : Prop :=
  ∃ c rest, whole = c :: rest ∧ (c = '0' → rest = [])

/-- Digits that fit 64 bits are all gathered. -/
theorem gather_eq {value taken : Nat} {digits : List Char}
    (hfits : Nat.ofDigitChars 10 digits value ≤ largest) :
    gather value taken digits =
      ⟨Nat.ofDigitChars 10 digits value, taken + digits.length, 0⟩ := by
  induction digits generalizing value taken with
  | nil => rfl
  | cons c digits ih =>
      rw [Nat.ofDigitChars_cons] at hfits ⊢
      have hnext : value * 10 + (c.toNat - 48) = 10 * value + (c.toNat - '0'.toNat) := by
        rw [Nat.mul_comm]
        rfl
      have hgrows : 10 * value + (c.toNat - '0'.toNat) ≤
          Nat.ofDigitChars 10 digits (10 * value + (c.toNat - '0'.toNat)) := by
        rw [Nat.ofDigitChars_eq_ofDigitChars_zero]
        have := Nat.le_mul_of_pos_left (10 * value + (c.toNat - '0'.toNat))
          (Nat.pow_pos (n := digits.length) (by decide : 0 < 10))
        omega
      unfold gather
      dsimp only
      rw [hnext, if_pos (le_trans hgrows hfits), ih hfits, List.length_cons]
      congr 1
      omega

theorem natOf_eq (digits : List Char) : natOf digits = Nat.ofDigitChars 10 digits 0 := by
  rw [natOf, Nat.ofDigitChars_eq_foldl]
  congr 1
  funext value c
  rw [Nat.mul_comm]
  rfl

/-- With a fraction or an exponent the digits make one decimal. -/
theorem value?_eq {parts : Parts} (hshape : parts.fraction ≠ none ∨ parts.exponent ≠ none)
    (hfits : Nat.ofDigitChars 10 (parts.whole ++ parts.fraction.getD []) 0 ≤ largest) :
    parts.value? =
      float? parts.negative (Nat.ofDigitChars 10 (parts.whole ++ parts.fraction.getD []) 0)
        (parts.exponent.getD 0 - ((parts.fraction.getD []).length : Int)) := by
  obtain ⟨negative, whole, fraction, exponent, rest⟩ := parts
  dsimp only at hshape hfits ⊢
  rw [Nat.ofDigitChars_append] at hfits ⊢
  have hwhole : Nat.ofDigitChars 10 whole 0 ≤ largest := by
    refine le_trans ?_ hfits
    rw [@Nat.ofDigitChars_eq_ofDigitChars_zero (fraction.getD [])]
    exact le_trans (Nat.le_mul_of_pos_left _ (Nat.pow_pos (by decide))) (Nat.le_add_right _ _)
  unfold Parts.value?
  dsimp only
  rw [gather_eq hwhole]
  split
  · next => simp_all
  · dsimp only
    rw [gather_eq hfits]
    dsimp only
    congr 1
    omega

def Digits (text : List Char) : Prop :=
  ∀ c ∈ text, c.isDigit = true

theorem takeWhile_digits {digits rest : List Char} (hdigits : Digits digits)
    (hrest : ∀ c ∈ rest.head?, c.isDigit = false) :
    (digits ++ rest).takeWhile Char.isDigit = digits := by
  rw [List.takeWhile_append_of_pos hdigits]
  cases rest with
  | nil => simp
  | cons c rest => simp [hrest c rfl]

theorem dropWhile_digits {digits rest : List Char} (hdigits : Digits digits)
    (hrest : ∀ c ∈ rest.head?, c.isDigit = false) :
    (digits ++ rest).dropWhile Char.isDigit = rest := by
  rw [List.dropWhile_append_of_pos hdigits]
  cases rest with
  | nil => rfl
  | cons c rest => simp [hrest c rfl]

theorem unsigned?_eq {whole tail rest : List Char} {fraction : Option (List Char)}
    {exponent : Option Int} (negative : Bool) (hwhole : Digits whole) (hleads : Leads whole)
    (htail : ∀ c ∈ tail.head?, c.isDigit = false)
    (hfraction : fraction? tail = some (fraction, rest))
    (hexponent : exponent? rest = some (exponent, [])) :
    unsigned? negative (whole ++ tail) = some ⟨negative, whole, fraction, exponent, []⟩ := by
  rw [unsigned?, takeWhile_digits hwhole htail, dropWhile_digits hwhole htail]
  obtain ⟨c, more, rfl, hzero⟩ := hleads
  split
  · next hnil => cases hnil
  · next hlong => simp_all
  · rw [hfraction]
    dsimp only
    rw [hexponent]

theorem fraction?_point {digits rest : List Char} (hdigits : Digits digits) (hne : digits ≠ [])
    (hrest : ∀ c ∈ rest.head?, c.isDigit = false) :
    fraction? ('.' :: (digits ++ rest)) = some (some digits, rest) := by
  simp only [fraction?, takeWhile_digits hdigits hrest, dropWhile_digits hdigits hrest]

def exponentText (exponent : Int) : List Char :=
  'e' :: (if exponent < 0 then '-' else '+') :: Nat.toDigits 10 exponent.natAbs

theorem digits_toDigits (n : Nat) : Digits (Nat.toDigits 10 n) := fun _ =>
  Nat.isDigit_of_mem_toDigits (by decide) (by decide)

theorem exponentDigits?_toDigits (negative : Bool) (n : Nat) :
    exponentDigits? negative (Nat.toDigits 10 n) =
      some (some (if negative then -(n : Int) else n), []) := by
  have htake := @takeWhile_digits _ [] (digits_toDigits n) (by simp)
  have hdrop := @dropWhile_digits _ [] (digits_toDigits n) (by simp)
  rw [List.append_nil] at htake hdrop
  unfold exponentDigits?
  rw [htake, hdrop]
  split
  · next hnil => exact absurd hnil Nat.toDigits_ne_nil
  · rw [natOf_eq, Nat.ofDigitChars_ten_toDigits]

theorem exponent?_exponentText (exponent : Int) :
    exponent? (exponentText exponent) = some (some exponent, []) := by
  unfold exponentText
  split
  · change exponentDigits? true _ = _
    rw [exponentDigits?_toDigits, if_pos rfl, ← Int.eq_neg_natAbs_of_nonpos (by omega)]
  · change exponentDigits? false _ = _
    rw [exponentDigits?_toDigits, if_neg (by simp), Int.natAbs_of_nonneg (by omega)]

/-- The text is a number of the binary64 format, apart from its sign. -/
def IsFloat (negative : Bool) (text : List Char) : Prop :=
  ∃ parts number, unsigned? negative text = some parts ∧ parts.rest = [] ∧
    parts.value? = some (float number)

theorem parts?_of_unsigned? {text : List Char} {parts : Parts}
    (hparts : unsigned? false text = some parts) : parts? text = some parts := by
  unfold parts?
  split
  · simp [unsigned?] at hparts
  · exact hparts

theorem isFloat_of_parts {whole tail rest : List Char} {fraction : Option (List Char)}
    {exponent : Option Int} (negative : Bool) (hwhole : Digits whole) (hleads : Leads whole)
    (htail : ∀ c ∈ tail.head?, c.isDigit = false)
    (hfraction : fraction? tail = some (fraction, rest))
    (hexponent : exponent? rest = some (exponent, []))
    (hshape : fraction ≠ none ∨ exponent ≠ none)
    (hfits : Nat.ofDigitChars 10 (whole ++ fraction.getD []) 0 ≤ Nat.pow 10 17)
    (hdecimal : ∃ number, Binary64.ofDecimal? (Nat.ofDigitChars 10 (whole ++ fraction.getD []) 0)
      (exponent.getD 0 - ((fraction.getD []).length : Int)) = some number) :
    IsFloat negative (whole ++ tail) := by
  obtain ⟨number, hnumber⟩ := hdecimal
  have hparts := unsigned?_eq negative hwhole hleads htail hfraction hexponent
  refine ⟨_, number.withSign negative, hparts, rfl, ?_⟩
  rw [value?_eq hshape (le_trans hfits (by decide))]
  unfold float?
  rw [hnumber, Option.map_some]

/-- Digits around a point, with seventeen of them at most. -/
theorem isFloat_point {whole fraction : List Char} (negative : Bool) (hwhole : Digits whole)
    (hleads : Leads whole) (hfraction : Digits fraction) (hne : fraction ≠ [])
    (hfits : Nat.ofDigitChars 10 (whole ++ fraction) 0 ≤ Nat.pow 10 17) :
    IsFloat negative (whole ++ '.' :: fraction) := by
  have hpoint := @fraction?_point _ [] hfraction hne (by simp)
  rw [List.append_nil] at hpoint
  refine isFloat_of_parts negative hwhole hleads (by simp) hpoint rfl (Or.inl (by simp)) hfits ?_
  have hlength := List.length_pos_iff.mpr hne
  exact Binary64.exists_ofDecimal?_down hfits (by simp; omega)

end Json.Numeral

namespace Decimal

open Json

theorem exists_toDigits {n : Nat} (hn : n ≠ 0) :
    ∃ c rest, Nat.toDigits 10 n = c :: rest ∧ c ≠ '0' := by
  induction n using Nat.strongRecOn with
  | ind n ih =>
      rw [Nat.toDigits_eq_if (by decide)]
      split
      · exact ⟨_, [], rfl, fun hzero => hn (Nat.digitChar_eq_zero.mp hzero)⟩
      · obtain ⟨c, rest, hdigits, hc⟩ := ih (n / 10) (by omega) (by omega)
        exact ⟨c, rest ++ [(n % 10).digitChar], by rw [hdigits, List.cons_append], hc⟩

theorem leads_append {n : Nat} (hn : n ≠ 0) (more : List Char) :
    Numeral.Leads (Nat.toDigits 10 n ++ more) := by
  obtain ⟨c, rest, hdigits, hc⟩ := exists_toDigits hn
  exact ⟨c, rest ++ more, by rw [hdigits, List.cons_append], fun hzero => absurd hzero hc⟩

theorem digits_replicate (count : Nat) : Numeral.Digits (List.replicate count '0') := by
  intro c hc
  rw [List.eq_of_mem_replicate hc]
  decide

theorem ofDigitChars_zeros (count : Nat) (digits : List Char) :
    Nat.ofDigitChars 10 (List.replicate count '0' ++ digits) 0 = Nat.ofDigitChars 10 digits 0 := by
  rw [Nat.ofDigitChars_append, Nat.ofDigitChars_replicate_zero, Nat.mul_zero]

section

variable (negative : Bool) {n : Nat}

theorem isFloat_zero : Numeral.IsFloat negative "0.0".toList :=
  Numeral.isFloat_point negative (digits_replicate 1) ⟨'0', [], rfl, fun _ => rfl⟩
    (digits_replicate 1) (by simp) (by decide)

/-- Zeros behind the digits and one behind the point. -/
theorem isFloat_zeros (hne : n ≠ 0) {up : Nat} (hplaces : up + (Nat.toDigits 10 n).length ≤ 16) :
    Numeral.IsFloat negative
      (Nat.toDigits 10 n ++ List.replicate up '0' ++ '.' :: ['0']) := by
  have hdigits := Numeral.digits_toDigits n
  have hzeros : List.replicate up '0' ++ ['0'] = List.replicate (up + 1) '0' :=
    List.replicate_succ'.symm
  refine Numeral.isFloat_point negative (List.forall_mem_append.mpr ⟨hdigits, digits_replicate up⟩)
    (leads_append hne _) (digits_replicate 1) (by simp) ?_
  rw [List.append_assoc, hzeros, Nat.ofDigitChars_append, Nat.ofDigitChars_ten_toDigits,
    Nat.ofDigitChars_replicate_zero]
  have hvalue := (Nat.length_toDigits_le_iff (by decide) Nat.length_toDigits_pos).mp
    (Nat.le_refl (Nat.toDigits 10 n).length)
  calc 10 ^ (up + 1) * n
      ≤ 10 ^ (up + 1) * 10 ^ (Nat.toDigits 10 n).length :=
        Nat.mul_le_mul_left _ hvalue.le
    _ = 10 ^ (up + 1 + (Nat.toDigits 10 n).length) := (Nat.pow_add _ _ _).symm
    _ ≤ 10 ^ 17 := Nat.pow_le_pow_right (by decide) (by omega)

/-- The point among the digits. -/
theorem isFloat_split (hne : n ≠ 0) (hmost : n ≤ Nat.pow 10 17) {point : Nat}
    (hpoint : 0 < point) (hless : point < (Nat.toDigits 10 n).length) :
    Numeral.IsFloat negative ((Nat.toDigits 10 n).take point ++
      '.' :: (Nat.toDigits 10 n).drop point) := by
  have hdigits := Numeral.digits_toDigits n
  obtain ⟨c, rest, hcons, hc⟩ := exists_toDigits hne
  obtain ⟨before, rfl⟩ : ∃ before, point = before + 1 := ⟨point - 1, by omega⟩
  refine Numeral.isFloat_point negative (fun d hd => hdigits d (List.mem_of_mem_take hd))
    ⟨c, rest.take before, by rw [hcons, List.take_succ_cons], fun hzero => absurd hzero hc⟩
    (fun d hd => hdigits d (List.mem_of_mem_drop hd)) ?_ ?_
  · rw [Ne, List.drop_eq_nil_iff]
    omega
  · rw [List.take_append_drop, Nat.ofDigitChars_ten_toDigits]
    exact hmost

/-- Zeros between the point and the digits. -/
theorem isFloat_small (hmost : n ≤ Nat.pow 10 17) (count : Nat) :
    Numeral.IsFloat negative
      (['0'] ++ '.' :: (List.replicate count '0' ++ Nat.toDigits 10 n)) := by
  have hdigits := Numeral.digits_toDigits n
  refine Numeral.isFloat_point negative (digits_replicate 1) ⟨'0', [], rfl, fun _ => rfl⟩
    (List.forall_mem_append.mpr ⟨digits_replicate count, hdigits⟩) (by simp) ?_
  rw [← List.append_assoc, ← List.replicate_one, List.replicate_append_replicate,
    ofDigitChars_zeros, Nat.ofDigitChars_ten_toDigits]
  exact hmost

/-- One digit before the point, none or more behind it, and an exponent. -/
theorem isFloat_exponent (hmost : n ≤ Nat.pow 10 17) (point : Int) {c : Char}
    {more : List Char} (hdigits : Nat.toDigits 10 n = c :: more)
    (hdecimal : ∃ number, Binary64.ofDecimal? n (point - more.length) = some number) :
    Numeral.IsFloat negative
      (c :: ((if more = [] then [] else '.' :: more) ++ Numeral.exponentText point)) := by
  have hall := Numeral.digits_toDigits n
  have hvalue : Nat.ofDigitChars 10 (c :: more) 0 = n := by
    rw [← hdigits, Nat.ofDigitChars_ten_toDigits]
  rw [hdigits] at hall
  have hwhole : Numeral.Digits [c] := fun d hd => hall d (by simp_all)
  have hleads : Numeral.Leads [c] := ⟨c, [], rfl, fun _ => rfl⟩
  have hend : ∀ d ∈ (Numeral.exponentText point).head?, d.isDigit = false := by
    simp [Numeral.exponentText]
  split
  · next hnil =>
      subst hnil
      exact Numeral.isFloat_of_parts negative hwhole hleads hend rfl
        (Numeral.exponent?_exponentText point) (Or.inr (by simp)) (by simpa [hvalue] using hmost)
        (by simpa [hvalue] using hdecimal)
  · next hmore =>
      have hfraction := Numeral.fraction?_point (fun d hd => hall d (List.mem_cons_of_mem _ hd))
        hmore hend
      exact Numeral.isFloat_of_parts negative hwhole hleads (by simp) hfraction
        (Numeral.exponent?_exponentText point) (Or.inl (by simp)) (by simpa [hvalue] using hmost)
        (by simpa [hvalue] using hdecimal)

end

theorem toList_exponent (exponent : Int) :
    ("e" ++ (if exponent < 0 then "-" else "+") ++ toString exponent.natAbs).toList =
      Numeral.exponentText exponent := by
  rw [Nat.toString_eq_ofList_toDigits, Numeral.exponentText]
  split <;> simp

/-- The text of a decimal is a number, if the decimal itself has one. -/
theorem isFloat_text (negative : Bool) (decimal : Decimal)
    (hmost : (decimal.trimmed 17).digits ≤ Nat.pow 10 17)
    (hdecimal : (decimal.trimmed 17).digits ≠ 0 → ∃ number,
      Binary64.ofDecimal? (decimal.trimmed 17).digits (decimal.trimmed 17).exponent = some number) :
    Numeral.IsFloat negative decimal.text.toList := by
  unfold text
  generalize decimal.trimmed 17 = decimal at hmost hdecimal ⊢
  dsimp only
  rw [Nat.toString_eq_ofList_toDigits, String.length_ofList, String.toList_ofList]
  set digits := Nat.toDigits 10 decimal.digits with hdigits
  -- The forms of the text in the order in which they are tried.
  split
  · exact isFloat_zero negative
  next hne =>
  split
  · next hlarge =>
      have htext : (String.ofList digits ++ zeros decimal.exponent.toNat ++ ".0").toList =
          digits ++ List.replicate decimal.exponent.toNat '0' ++ '.' :: ['0'] := by
        simp [zeros]
      rw [htext]
      exact isFloat_zeros negative hne (by rw [← hdigits]; omega)
  split
  · next hpoint =>
      have htext : ∀ point, (String.ofList (digits.take point) ++ "." ++
          String.ofList (digits.drop point)).toList =
            digits.take point ++ '.' :: digits.drop point := by
        simp
      rw [htext]
      exact isFloat_split negative hne hmost (by omega) (by rw [← hdigits]; omega)
  split
  · have htext : ∀ count, ("0." ++ zeros count ++ String.ofList digits).toList =
        ['0'] ++ '.' :: (List.replicate count '0' ++ digits) := by
      simp [zeros]
    rw [htext]
    exact isFloat_small negative hmost _
  · obtain ⟨c, more, hcons, -⟩ := exists_toDigits hne
    have hlength : decimal.exponent + digits.length - 1 - (more.length : Int) =
        decimal.exponent := by
      rw [hdigits, hcons, List.length_cons]
      omega
    have hfloat := isFloat_exponent negative hmost (decimal.exponent + digits.length - 1) hcons
      (by rw [hlength]; exact hdecimal hne)
    rw [← toList_exponent] at hfloat
    rw [hdigits, hcons] at hfloat ⊢
    cases more with
    | nil => simpa using hfloat
    | cons d more => simpa using hfloat

end Decimal

namespace Binary64

open Json

/-- The text of a number is a number again, in one of the forms that have a point or an
exponent. -/
theorem exists_reads_text (number : Binary64) :
    ∃ again, Numeral.Reads number.text.toList (.float again) := by
  have hfloat : Numeral.IsFloat number.negative
      (if number.mantissa = 0 then "0.0" else number.shortest.text).toList := by
    split
    · exact Decimal.isFloat_zero number.negative
    · exact Decimal.isFloat_text number.negative number.shortest
        (le_trans (Decimal.digits_trimmed_le 17 _) (shortest_spec number).1)
        (exists_ofDecimal?_shortest number)
  obtain ⟨parts, again, hparts, hrest, hvalue⟩ := hfloat
  refine ⟨again, parts, ?_, hrest, hvalue⟩
  rw [text, String.toList_append]
  cases hsign : number.negative with
  | true =>
    rw [hsign] at hparts
    exact hparts
  | false =>
    rw [hsign] at hparts
    exact Numeral.parts?_of_unsigned? hparts

end Binary64

end FieldBridge
