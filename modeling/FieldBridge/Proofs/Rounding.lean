import Mathlib.Tactic.Ring
import Mathlib.Tactic.Linarith
import FieldBridge.Number.Shortest

/-!
# Rounding stays in range

A quotient that lies below the midpoint above a binary64 number rounds to a number that is
not larger.  With a few magnitudes computed once this shows which decimals have a nearest
number: all those with a negative exponent and at most seventeen digits, and of the others
all those that are not above the midpoint between the two largest numbers.  Above it the
digits and the power of ten, each rounded before they are multiplied, can leave the range.
-/

namespace FieldBridge

namespace Binary64

/-- A quotient below a whole number and a half is rounded to that whole number at most. -/
theorem roundQuotient_le {dividend divisor bound : Nat} (hpositive : 0 < divisor)
    (hbound : 2 * dividend < (2 * bound + 1) * divisor) :
    roundQuotient dividend divisor ≤ bound := by
  have hrest := Nat.mod_lt dividend hpositive
  have hsplit := Nat.div_add_mod dividend divisor
  unfold roundQuotient
  set quotient := dividend / divisor
  set rest := dividend % divisor
  have hquotient : quotient ≤ bound := by
    by_contra hlarge
    have hmul : (bound + 1) * divisor ≤ divisor * quotient := by
      rw [Nat.mul_comm]
      exact Nat.mul_le_mul_left _ (by omega)
    linarith [Nat.add_mul bound 1 divisor, Nat.add_mul (2 * bound) 1 divisor,
      Nat.mul_assoc 2 bound divisor]
  dsimp only
  split
  · next hup =>
      rcases Nat.lt_or_eq_of_le hquotient with hless | heq
      · exact hless
      · have hhalf : divisor ≤ 2 * rest := by omega
        rw [heq] at hsplit
        nlinarith
  · exact hquotient

theorem le_roundQuotient {dividend divisor bound : Nat} (hpositive : 0 < divisor)
    (hbound : bound * divisor ≤ dividend) :
    bound ≤ roundQuotient dividend divisor := by
  have hquotient := (Nat.le_div_iff_mul_le hpositive).mpr hbound
  unfold roundQuotient
  dsimp only
  split <;> omega

/-- At the scale that a whole part asks for it has no more than 53 bits, and all of them
unless the scale is the smallest. -/
theorem whole_lt_scale (whole : Nat) :
    whole < 2 ^ (whole.log2 - 52 + 53) :=
  lt_of_lt_of_le Nat.lt_log2_self (Nat.pow_le_pow_right (by decide) (by omega))

theorem scale_le_whole (whole : Nat) (hscale : 0 < whole.log2 - 52) :
    2 ^ (whole.log2 - 52 + 52) ≤ whole := by
  have hexponent : whole.log2 - 52 + 52 = whole.log2 := by omega
  rw [hexponent]
  refine Nat.log2_self_le fun hzero => ?_
  simp [hzero] at hscale

/-- The midpoint between a number and the next larger one, in halves of the smallest number. -/
def midpoint (number : Binary64) : Nat :=
  (2 * number.mantissa + 1) * 2 ^ number.scale

/-- A quotient below the midpoint above a number needs no larger scale than the number. -/
theorem scale_le_of_below {units divisor : Nat} (top : Binary64) (hpositive : 0 < divisor)
    (hbelow : 2 * units < top.midpoint * divisor) :
    (units / divisor).log2 - 52 ≤ top.scale := by
  by_contra hlarge
  have hwhole := scale_le_whole (units / divisor) (by omega)
  have hunits := (Nat.le_div_iff_mul_le hpositive).mp hwhole
  have hpower : 2 ^ (top.scale + 53) ≤ 2 ^ ((units / divisor).log2 - 52 + 52) :=
    Nat.pow_le_pow_right (by decide) (by omega)
  have hmantissa : 2 * top.mantissa + 1 ≤ 2 ^ 54 := by
    have := top.canonical.1
    simp only [Nat.pow_eq] at this
    omega
  have hcontra : 2 * units < 2 * units := by
    calc 2 * units < (2 * top.mantissa + 1) * 2 ^ top.scale * divisor := hbelow
      _ ≤ 2 ^ 54 * 2 ^ top.scale * divisor := by gcongr
      _ = 2 * (2 ^ (top.scale + 53) * divisor) := by ring
      _ ≤ 2 * (2 ^ ((units / divisor).log2 - 52 + 52) * divisor) := by gcongr
      _ ≤ 2 * units := by gcongr
  exact Nat.lt_irrefl _ hcontra

/-- The rounded mantissa at the scale of a quotient has 53 bits, or is the first that has
54, and it uses them all unless the scale is the smallest. -/
theorem roundQuotient_at_scale (units : Nat) {divisor : Nat} (hpositive : 0 < divisor) :
    let scale := (units / divisor).log2 - 52
    let mantissa := roundQuotient units (divisor * 2 ^ scale)
    mantissa ≤ 2 ^ 53 ∧ (2 ^ 52 ≤ mantissa ∨ scale = 0) := by
  intro scale mantissa
  have hunit : 0 < divisor * 2 ^ scale := by positivity
  constructor
  · have hunits := (Nat.div_lt_iff_lt_mul hpositive).mp (whole_lt_scale (units / divisor))
    refine roundQuotient_le hunit ?_
    calc 2 * units < 2 * (2 ^ (scale + 53) * divisor) := by gcongr
      _ = 2 * 2 ^ 53 * (divisor * 2 ^ scale) := by ring
      _ ≤ (2 * 2 ^ 53 + 1) * (divisor * 2 ^ scale) := by gcongr; omega
  · rcases Nat.eq_zero_or_pos scale with hzero | hscale
    · exact Or.inr hzero
    · have hunits := (Nat.le_div_iff_mul_le hpositive).mp (scale_le_whole _ hscale)
      refine Or.inl (le_roundQuotient hunit ?_)
      calc 2 ^ 52 * (divisor * 2 ^ scale) = 2 ^ (scale + 52) * divisor := by ring
        _ ≤ units := hunits

/-- The nearest number to a quotient whose dividend counts smallest numbers. -/
def ofUnits? (units divisor : Nat) : Option Binary64 :=
  let scale := (units / divisor).log2 - 52
  let mantissa := roundQuotient units (divisor * Nat.pow 2 scale)
  if h : IsBinary64 mantissa scale then some ⟨false, mantissa, scale, h⟩
  else if h : mantissa = Nat.pow 2 53 ∧ scale < 2045 then
    some ⟨false, Nat.pow 2 52, scale + 1,
      ⟨by decide, Nat.succ_le_of_lt h.2, Or.inl (Nat.le_refl _)⟩⟩
  else none

theorem ofQuotient?_eq_ofUnits? (dividend divisor : Nat) :
    ofQuotient? dividend divisor = ofUnits? (dividend * denominator) divisor := by
  rw [ofQuotient?, ofUnits?, denominator]

theorem denominator_pos : 0 < denominator := Nat.pow_pos (by decide)

-- Unfolding it would compare the powers of two in its value one by one.
attribute [local irreducible] denominator ofQuotient?

theorem exists_ofUnits? {units divisor scale mantissa : Nat}
    (hscale : (units / divisor).log2 - 52 = scale)
    (hmantissa : roundQuotient units (divisor * 2 ^ scale) = mantissa)
    (hbits : mantissa ≤ 2 ^ 53) (hfull : 2 ^ 52 ≤ mantissa ∨ scale = 0) (hrange : scale ≤ 2045)
    (hcarry : mantissa = 2 ^ 53 → scale < 2045) :
    ∃ number, ofUnits? units divisor = some number ∧
      number.numerator = mantissa * 2 ^ scale := by
  rw [ofUnits?]
  simp only [Nat.pow_eq, hscale, hmantissa]
  rcases Nat.lt_or_eq_of_le hbits with hless | heq
  · have hcanonical : IsBinary64 mantissa scale := ⟨hless, hrange, hfull⟩
    exact ⟨_, dif_pos hcanonical, rfl⟩
  · have hother : ¬ IsBinary64 mantissa scale := fun hcanonical =>
      Nat.lt_irrefl _ (heq ▸ hcanonical.1)
    refine ⟨_, (dif_neg hother).trans (dif_pos ⟨heq, hcarry heq⟩), ?_⟩
    calc 2 ^ 52 * 2 ^ (scale + 1) = 2 ^ 53 * 2 ^ scale := by ring
      _ = mantissa * 2 ^ scale := by rw [heq]

/-- A quotient below the midpoint above a number is rounded, and to that number at most. -/
theorem ofUnits?_of_lt {units divisor : Nat} (top : Binary64) (hpositive : 0 < divisor)
    (hbelow : 2 * units < top.midpoint * divisor) :
    ∃ number, ofUnits? units divisor = some number ∧ number.numerator ≤ top.numerator := by
  have hscale := scale_le_of_below top hpositive hbelow
  obtain ⟨hmantissa, hfull⟩ := roundQuotient_at_scale units hpositive
  have hround := exists_ofUnits? rfl rfl hmantissa hfull
  set scale := (units / divisor).log2 - 52
  set mantissa := roundQuotient units (divisor * 2 ^ scale)
  obtain ⟨htop, hrange, hnormal⟩ := top.canonical
  rcases Nat.eq_or_lt_of_le hscale with hsame | hless
  · have hle : mantissa ≤ top.mantissa := by
      refine roundQuotient_le (by positivity) ?_
      calc 2 * units < (2 * top.mantissa + 1) * 2 ^ top.scale * divisor := hbelow
        _ = (2 * top.mantissa + 1) * (divisor * 2 ^ scale) := by
          rw [hsame]
          ring
    obtain ⟨number, hnumber, hvalue⟩ := hround (hsame ▸ hrange) fun heq =>
      absurd (lt_of_le_of_lt hle htop) (by rw [heq]; decide)
    refine ⟨number, hnumber, ?_⟩
    rw [hvalue, hsame]
    exact Nat.mul_le_mul_right _ hle
  -- At a smaller scale every mantissa stays below the smallest one at the scale of the number.
  · obtain ⟨number, hnumber, hvalue⟩ := hround (by omega) fun _ => by omega
    refine ⟨number, hnumber, ?_⟩
    calc number.numerator = mantissa * 2 ^ scale := hvalue
      _ ≤ 2 ^ 53 * 2 ^ scale := Nat.mul_le_mul_right _ hmantissa
      _ = 2 ^ 52 * 2 ^ (scale + 1) := by ring
      _ ≤ top.mantissa * 2 ^ top.scale :=
        Nat.mul_le_mul (hnormal.resolve_right (by omega))
          (Nat.pow_le_pow_right (by decide) hless)

theorem numerator_of_ofUnits? {units divisor : Nat} {number : Binary64}
    (hnumber : ofUnits? units divisor = some number) :
    let scale := (units / divisor).log2 - 52
    number.numerator = roundQuotient units (divisor * 2 ^ scale) * 2 ^ scale := by
  intro scale
  rw [ofUnits?] at hnumber
  simp only [Nat.pow_eq] at hnumber
  split at hnumber
  · rw [← Option.some.inj hnumber]
    rfl
  · split at hnumber
    · next hcarry =>
        have hvalue : number.numerator = 2 ^ 52 * 2 ^ (scale + 1) := by
          rw [← Option.some.inj hnumber]
          simp only [numerator, Nat.pow_eq]
          rfl
        rw [hvalue, hcarry.1]
        ring
    · simp at hnumber

/-- A power of two that a quotient reaches is reached by the rounded quotient. -/
theorem two_pow_le_numerator {units divisor exponent : Nat} {number : Binary64}
    (hpositive : 0 < divisor) (hunits : 2 ^ exponent * divisor ≤ units)
    (hnumber : ofUnits? units divisor = some number) : 2 ^ exponent ≤ number.numerator := by
  have hvalue := numerator_of_ofUnits? hnumber
  obtain ⟨-, hfull⟩ := roundQuotient_at_scale units hpositive
  have hwhole := whole_lt_scale (units / divisor)
  have hquotient := (Nat.le_div_iff_mul_le hpositive).mpr hunits
  dsimp only at hvalue
  set scale := (units / divisor).log2 - 52
  rw [hvalue]
  rcases hfull with hfull | hzero
  · have hexponent : exponent ≤ 52 + scale := by
      have hless := lt_of_le_of_lt hquotient hwhole
      have := (Nat.pow_lt_pow_iff_right (by decide)).mp hless
      omega
    calc 2 ^ exponent ≤ 2 ^ (52 + scale) := Nat.pow_le_pow_right (by decide) hexponent
      _ = 2 ^ 52 * 2 ^ scale := by ring
      _ ≤ _ := Nat.mul_le_mul_right _ hfull
  · rw [hzero, Nat.pow_zero, Nat.mul_one, Nat.mul_one]
    exact le_roundQuotient hpositive hunits

theorem ofQuotient?_of_le {dividend divisor : Nat} (top : Binary64) (hpositive : 0 < divisor)
    (hle : dividend * denominator ≤ top.numerator * divisor) :
    ∃ number, ofQuotient? dividend divisor = some number ∧
      number.numerator ≤ top.numerator := by
  rw [ofQuotient?_eq_ofUnits?]
  refine ofUnits?_of_lt top hpositive ?_
  have hpower : 0 < 2 ^ top.scale := by positivity
  have hmidpoint : 2 * top.numerator < top.midpoint := by
    calc 2 * (top.mantissa * 2 ^ top.scale) = 2 * top.mantissa * 2 ^ top.scale := by ring
      _ < (2 * top.mantissa + 1) * 2 ^ top.scale := by gcongr; omega
  calc 2 * (dividend * denominator) ≤ 2 * top.numerator * divisor := by
        rw [Nat.mul_assoc]
        gcongr
    _ < top.midpoint * divisor := by gcongr

/-- The number of the largest magnitude with a sign. -/
def largest (negative : Bool) : Binary64 := ⟨negative, 2 ^ 53 - 1, 2045, by decide⟩

/-- The midpoint between the two largest numbers. -/
def lastMidpoint : Nat := (Nat.pow 2 54 - 3) * Nat.pow 2 970

/-- The magnitudes at the end of the range, computed. -/
theorem range_magnitudes :
    Nat.pow 10 largestTen * denominator ≤ (largest false).numerator ∧
      (largest false).numerator < Nat.pow 10 309 * denominator ∧
      Nat.pow 10 17 * Nat.pow 10 291 ≤ lastMidpoint ∧ lastMidpoint < Nat.pow 10 309 ∧
      lastMidpoint * (2 * denominator) = (2 ^ 54 - 3) * 2 * 2 ^ 2044 ∧
      Nat.pow 2 2148 = denominator * denominator := by
  decide +kernel

theorem exists_tenTo? {exponent : Nat} (hexponent : exponent ≤ largestTen) :
    ∃ ten, tenTo? exponent = some ten ∧ denominator ≤ ten.numerator := by
  obtain ⟨hlargest, -⟩ := range_magnitudes
  have htop : Nat.pow 10 exponent * denominator ≤ (largest false).numerator * 1 := by
    rw [Nat.mul_one]
    exact le_trans (Nat.mul_le_mul_right _ (Nat.pow_le_pow_right (by decide) hexponent)) hlargest
  obtain ⟨ten, hten, -⟩ := ofQuotient?_of_le (largest false) Nat.one_pos htop
  refine ⟨ten, by rw [tenTo?, ofNat?, hten], ?_⟩
  rw [ofQuotient?_eq_ofUnits?] at hten
  have hunits : denominator * 1 ≤ Nat.pow 10 exponent * denominator := by
    rw [Nat.mul_one]
    exact Nat.le_mul_of_pos_left _ (Nat.pow_pos (by decide))
  obtain ⟨place, hplace⟩ : ∃ place, denominator = 2 ^ place :=
    ⟨1074, by rw [denominator, Nat.pow_eq]⟩
  rw [hplace] at hunits hten ⊢
  exact two_pow_le_numerator Nat.one_pos hunits hten

theorem div?_eq (left right : Binary64) :
    left.div? right = ofQuotient? left.numerator right.numerator := rfl

theorem exists_divTen? (number : Binary64) {exponent : Nat} (hexponent : exponent ≤ largestTen) :
    ∃ smaller, number.divTen? exponent = some smaller := by
  obtain ⟨ten, hten, hvalue⟩ := exists_tenTo? hexponent
  have hpositive : 0 < ten.numerator := lt_of_lt_of_le denominator_pos hvalue
  have hle : number.numerator * denominator ≤ number.numerator * ten.numerator :=
    Nat.mul_le_mul_left _ hvalue
  obtain ⟨smaller, hsmaller, -⟩ := ofQuotient?_of_le number hpositive hle
  refine ⟨smaller, ?_⟩
  rw [divTen?, hten, Option.bind_some, div?_eq, hsmaller]

theorem scaleDown_zero (number : Binary64) (rest : Nat) :
    number.scaleDown rest 0 = number.divTen? rest := rfl

theorem scaleDown_succ (number : Binary64) (rest times : Nat) :
    number.scaleDown rest (times + 1) =
      if number.mantissa = 0 then some number
      else (number.divTen? largestTen).bind fun smaller => smaller.scaleDown rest times := rfl

theorem exists_scaleDown {rest : Nat} (hrest : rest ≤ largestTen) (times : Nat)
    (number : Binary64) : ∃ smaller, number.scaleDown rest times = some smaller := by
  induction times generalizing number with
  | zero =>
    rw [scaleDown_zero]
    exact exists_divTen? number hrest
  | succ times ih =>
    obtain ⟨smaller, hsmaller⟩ := exists_divTen? number (Nat.le_refl largestTen)
    obtain ⟨last, hlast⟩ := ih smaller
    rw [scaleDown_succ, hsmaller]
    split
    · exact ⟨number, rfl⟩
    · exact ⟨last, hlast⟩

/-- The most digits, of seventeen places at most, that a power of ten leaves below the
midpoint between the two largest numbers. -/
def mostDigits (exponent : Nat) : Nat :=
  min (Nat.pow 10 17) (lastMidpoint / Nat.pow 10 exponent)

/-- So many digits and a power of ten stay in range when both are rounded and multiplied:
the product lies below the midpoint above the largest number. -/
def KeepsRange (digits exponent : Nat) : Prop :=
  ∃ most ten : Binary64, tenTo? exponent = some ten ∧ digits * denominator ≤ most.numerator ∧
    2 * (most.numerator * ten.numerator) < (largest false).midpoint * denominator

/-- For small powers of ten seventeen digits are never too many. -/
theorem mostDigits_eq {exponent : Nat} (hexponent : exponent ≤ 291) :
    mostDigits exponent = Nat.pow 10 17 := by
  obtain ⟨-, -, hmidpoint, -⟩ := range_magnitudes
  refine Nat.min_eq_left ((Nat.le_div_iff_mul_le (Nat.pow_pos (by decide))).mpr ?_)
  exact le_trans (Nat.mul_le_mul_left _ (Nat.pow_le_pow_right (by decide) hexponent)) hmidpoint

/-- The powers of ten for which seventeen digits can be too many, and the last for which they
are not, computed one by one. -/
theorem computed_range {exponent : Nat} (hlow : 291 ≤ exponent) (hhigh : exponent ≤ largestTen) :
    KeepsRange (mostDigits exponent) exponent ∧
      ∀ ten, tenTo? exponent = some ten →
        Nat.pow 10 (exponent - 1) * denominator ≤ ten.numerator := by
  have hall : ∀ more < 18, (ofNat? (mostDigits (291 + more))).any (fun most =>
      (tenTo? (291 + more)).any fun ten =>
        mostDigits (291 + more) * denominator ≤ most.numerator ∧
          2 * (most.numerator * ten.numerator) < (largest false).midpoint * denominator ∧
            Nat.pow 10 (291 + more - 1) * denominator ≤ ten.numerator) = true := by
    decide +kernel
  have hrange := hall (exponent - 291) (by simp only [largestTen] at hhigh; omega)
  rw [Nat.add_sub_cancel' hlow] at hrange
  simp only [Option.any_eq_true, decide_eq_true_eq] at hrange
  obtain ⟨most, -, ten, hten, hmost, hproduct, hnear⟩ := hrange
  refine ⟨⟨most, ten, hten, hmost, hproduct⟩, fun other hother => ?_⟩
  obtain rfl := Option.some.inj (hten.symm.trans hother)
  exact hnear

theorem keepsRange_mostDigits {exponent : Nat} (hexponent : exponent ≤ largestTen) :
    KeepsRange (mostDigits exponent) exponent := by
  rcases Nat.lt_or_ge exponent 291 with hsmall | hlarge
  -- Below the powers that are computed the bound for the smallest of them suffices.
  · obtain ⟨⟨most, ten, hten, hmost, hproduct⟩, hnear⟩ :=
      computed_range (Nat.le_refl 291) (by decide)
    have hless : Nat.pow 10 exponent * denominator ≤ ten.numerator * 1 := by
      rw [Nat.mul_one]
      exact le_trans (Nat.mul_le_mul_right _ (Nat.pow_le_pow_right (by decide) (by omega)))
        (hnear ten hten)
    obtain ⟨smaller, hsmaller, hle⟩ := ofQuotient?_of_le ten Nat.one_pos hless
    rw [mostDigits_eq (Nat.le_refl 291), ← mostDigits_eq hsmall.le] at hmost
    refine ⟨most, smaller, by rw [tenTo?, ofNat?, hsmaller], hmost, lt_of_le_of_lt ?_ hproduct⟩
    exact Nat.mul_le_mul_left _ (Nat.mul_le_mul_left _ hle)
  · exact (computed_range hlarge hexponent).1

theorem mul?_eq (left right : Binary64) : left.mul? right =
    ofQuotient? (left.numerator * right.numerator) (denominator * denominator) := by
  have hproduct : left.mantissa * right.mantissa * Nat.pow 2 (left.scale + right.scale) =
      left.numerator * right.numerator := by
    simp only [numerator, Nat.pow_eq]
    ring
  obtain ⟨-, -, -, -, -, hsquare⟩ := range_magnitudes
  rw [mul?, hproduct, hsquare]

/-- Digits that keep in range with a power of ten have a number, and so has their product. -/
theorem KeepsRange.exists_product {most digits exponent : Nat} (hrange : KeepsRange most exponent)
    (hdigits : digits ≤ most) :
    ∃ number ten product, ofNat? digits = some number ∧ tenTo? exponent = some ten ∧
      number.mul? ten = some product := by
  obtain ⟨most, ten, hten, hmost, hproduct⟩ := hrange
  have hle : digits * denominator ≤ most.numerator * 1 := by
    rw [Nat.mul_one]
    exact le_trans (Nat.mul_le_mul_right _ hdigits) hmost
  obtain ⟨number, hnumber, hvalue⟩ := ofQuotient?_of_le most Nat.one_pos hle
  have hunit : 0 < denominator * denominator := Nat.mul_pos denominator_pos denominator_pos
  have hbelow : 2 * (number.numerator * ten.numerator * denominator) <
      (largest false).midpoint * (denominator * denominator) := by
    calc 2 * (number.numerator * ten.numerator * denominator)
        ≤ 2 * (most.numerator * ten.numerator * denominator) := by gcongr
      _ = 2 * (most.numerator * ten.numerator) * denominator := by ring
      _ < (largest false).midpoint * denominator * denominator :=
        Nat.mul_lt_mul_of_pos_right hproduct denominator_pos
      _ = (largest false).midpoint * (denominator * denominator) := Nat.mul_assoc _ _ _
  obtain ⟨product, hsome, -⟩ := ofUnits?_of_lt (largest false) hunit hbelow
  refine ⟨number, ten, product, by rw [ofNat?, hnumber], hten, ?_⟩
  rw [mul?_eq, ofQuotient?_eq_ofUnits?, hsome]

/-- Digits that are not above the last midpoint with their power of ten have a number. -/
theorem exists_ofDecimal?_up {digits exponent : Nat} (hpositive : 0 < digits)
    (hdigits : digits ≤ Nat.pow 10 17)
    (hbelow : digits * Nat.pow 10 exponent ≤ lastMidpoint) :
    ∃ number, ofDecimal? digits exponent = some number := by
  have hexponent : exponent ≤ largestTen := by
    by_contra hlarge
    obtain ⟨-, -, -, hlast, -⟩ := range_magnitudes
    have hpower : Nat.pow 10 309 ≤ Nat.pow 10 exponent :=
      Nat.pow_le_pow_right (by decide) (Nat.lt_of_not_le hlarge)
    have hproduct := Nat.le_mul_of_pos_left (Nat.pow 10 exponent) hpositive
    exact Nat.lt_irrefl _ (lt_of_lt_of_le hlast (le_trans hpower (le_trans hproduct hbelow)))
  have hmost : digits ≤ mostDigits exponent :=
    Nat.le_min.mpr ⟨hdigits, (Nat.le_div_iff_mul_le (Nat.pow_pos (by decide))).mpr hbelow⟩
  obtain ⟨number, ten, product, hnumber, hten, hproduct⟩ :=
    (keepsRange_mostDigits hexponent).exists_product hmost
  refine ⟨product, ?_⟩
  rw [ofDecimal?, hnumber, Option.bind_some]
  dsimp only
  rw [if_pos hexponent, hten, Option.bind_some, hproduct]

theorem exists_ofDecimal?_down {digits : Nat} {exponent : Int} (hdigits : digits ≤ Nat.pow 10 17)
    (hexponent : exponent < 0) : ∃ number, ofDecimal? digits exponent = some number := by
  obtain ⟨number, -, -, hnumber, -, -⟩ :=
    (keepsRange_mostDigits (Nat.zero_le largestTen)).exists_product
      (hdigits.trans_eq (mostDigits_eq (Nat.zero_le 291)).symm)
  cases exponent with
  | ofNat up => exact absurd hexponent (by simp)
  | negSucc down =>
    rw [ofDecimal?, hnumber, Option.bind_some]
    refine exists_scaleDown ?_ _ number
    have := Nat.div_add_mod down largestTen
    simp only [largestTen] at this ⊢
    omega

end Binary64

end FieldBridge
