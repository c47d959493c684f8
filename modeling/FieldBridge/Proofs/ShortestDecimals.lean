import FieldBridge.Proofs.Rounding

/-!
# Shortest decimals have a nearest number

The shortest decimal of a number has seventeen digits at most and is not above the midpoint
above the number, and this stays so when its trailing zeros go into the exponent.  So it has
a nearest number, whatever the steps in which it is rounded.  The largest numbers are the
exception, since the midpoint above them is out of range: their decimal is computed.
-/

namespace FieldBridge

namespace Decimal

/-- The decimal is not above a quotient of whole numbers. -/
def AtMost (decimal : Decimal) (dividend divisor : Nat) : Prop :=
  decimal.digits * 10 ^ decimal.exponent.toNat * divisor ≤
    dividend * 10 ^ (-decimal.exponent).toNat

/-- A trailing zero that goes into the exponent does not raise the decimal. -/
theorem AtMost.shift {decimal : Decimal} {dividend divisor : Nat}
    (hle : decimal.AtMost dividend divisor) :
    AtMost ⟨decimal.digits / 10, decimal.exponent + 1⟩ dividend divisor := by
  unfold AtMost at hle ⊢
  have hdigits : decimal.digits / 10 * 10 ≤ decimal.digits := Nat.div_mul_le_self _ _
  dsimp only
  rcases lt_or_ge decimal.exponent 0 with hnegative | hpositive
  · obtain ⟨less, hless⟩ : ∃ less, (-decimal.exponent).toNat = less + 1 :=
      ⟨(-decimal.exponent).toNat - 1, by omega⟩
    have hup : (decimal.exponent + 1).toNat = 0 := by omega
    have hdown : (-(decimal.exponent + 1)).toNat = less := by omega
    have hzero : decimal.exponent.toNat = 0 := by omega
    rw [hzero, hless] at hle
    rw [hup, hdown]
    refine Nat.le_of_mul_le_mul_right ?_ (Nat.succ_pos 9)
    calc decimal.digits / 10 * 10 ^ 0 * divisor * 10
        = decimal.digits / 10 * 10 * (10 ^ 0 * divisor) := by ring
      _ ≤ decimal.digits * (10 ^ 0 * divisor) := Nat.mul_le_mul_right _ hdigits
      _ ≤ dividend * 10 ^ (less + 1) := by rw [← Nat.mul_assoc]; exact hle
      _ = dividend * 10 ^ less * 10 := by ring
  · have hup : (decimal.exponent + 1).toNat = decimal.exponent.toNat + 1 := by omega
    have hdown : (-(decimal.exponent + 1)).toNat = (-decimal.exponent).toNat := by omega
    rw [hup, hdown]
    calc decimal.digits / 10 * 10 ^ (decimal.exponent.toNat + 1) * divisor
        = decimal.digits / 10 * 10 * (10 ^ decimal.exponent.toNat * divisor) := by ring
      _ ≤ decimal.digits * (10 ^ decimal.exponent.toNat * divisor) :=
        Nat.mul_le_mul_right _ hdigits
      _ ≤ _ := by rw [← Nat.mul_assoc]; exact hle

theorem AtMost.trimmed {dividend divisor : Nat} :
    ∀ (fuel : Nat) {decimal : Decimal}, decimal.AtMost dividend divisor →
      (decimal.trimmed fuel).AtMost dividend divisor
  | 0, _, hle => hle
  | fuel + 1, decimal, hle => by
    unfold Decimal.trimmed
    split
    · exact AtMost.trimmed fuel hle.shift
    · exact hle

theorem digits_trimmed_le : ∀ (fuel : Nat) (decimal : Decimal),
    (decimal.trimmed fuel).digits ≤ decimal.digits
  | 0, _ => Nat.le_refl _
  | fuel + 1, decimal => by
    unfold trimmed
    split
    · exact le_trans (digits_trimmed_le fuel _) (Nat.div_le_self _ _)
    · exact Nat.le_refl _

end Decimal

namespace Binary64

attribute [local irreducible] denominator

theorem le_of_roundsFrom {number : Binary64} {dividend divisor : Nat}
    (hrounds : number.roundsFrom dividend divisor = true) :
    dividend * (2 * denominator) ≤ number.midpoint * divisor := by
  have hvalue : 4 * dividend * denominator ≤
      (4 * number.mantissa + 2) * (divisor * 2 ^ number.scale) := by
    rw [roundsFrom] at hrounds
    rw [denominator]
    simp only [Nat.pow_eq] at hrounds ⊢
    split at hrounds <;> simp only [Bool.and_eq_true, decide_eq_true_eq] at hrounds
    · exact hrounds.2
    · exact hrounds.2.le
  refine Nat.le_of_mul_le_mul_left ?_ (by decide : 0 < 2)
  calc 2 * (dividend * (2 * denominator)) = 4 * dividend * denominator := by ring
    _ ≤ (4 * number.mantissa + 2) * (divisor * 2 ^ number.scale) := hvalue
    _ = 2 * ((2 * number.mantissa + 1) * 2 ^ number.scale * divisor) := by ring

/-- A number lies below ten to the place of its point. -/
theorem numerator_lt_pointPlace (number : Binary64) :
    number.numerator * 10 ^ (-number.pointPlace).toNat <
      denominator * 10 ^ number.pointPlace.toNat := by
  unfold pointPlace
  dsimp only
  split
  -- The place is the number of digits of the whole part.
  · set whole := number.numerator / denominator with hwhole
    rw [Nat.toString_eq_ofList_toDigits, String.length_ofList]
    have hlength : 0 < (Nat.toDigits 10 whole).length := Nat.length_toDigits_pos
    have hless := (Nat.length_toDigits_le_iff (by decide) hlength).mp (Nat.le_refl _)
    have hnumerator := (Nat.div_lt_iff_lt_mul denominator_pos).mp (hwhole ▸ hless)
    simpa [Nat.mul_comm] using hnumerator
  -- Without a whole part it is found by the powers of ten that do not lift the number to one.
  · next hzero =>
      have hless : number.numerator < denominator := by
        have := Nat.div_eq_zero_iff.mp (not_not.mp hzero)
        exact this.resolve_left denominator_pos.ne'
      split
      · next places hplaces =>
          obtain ⟨hreached, -, hsmaller⟩ := List.find?_range_eq_some.mp hplaces
          cases places with
          | zero =>
              simp only [Nat.pow_eq, Nat.pow_zero, Nat.mul_one, decide_eq_true_eq] at hreached
              exact absurd hreached (Nat.not_le.mpr hless)
          | succ places =>
              have hbelow := hsmaller places (Nat.lt_succ_self _)
              simp only [Nat.pow_eq, Bool.not_eq_true', decide_eq_false_iff_not,
                Nat.not_le] at hbelow
              have hdown : (-(1 - ((places + 1 : Nat) : Int))).toNat = places := by omega
              have hup : (1 - ((places + 1 : Nat) : Int)).toNat = 0 := by omega
              rw [hdown, hup, Nat.pow_zero, Nat.mul_one]
              exact hbelow
      · next hnone =>
          have hbelow := List.find?_range_eq_none.mp hnone 324 (by decide)
          simp only [Nat.pow_eq, Bool.not_eq_true', decide_eq_false_iff_not, Nat.not_le] at hbelow
          have hdown : (-(-324 : Int)).toNat = 324 := by decide
          have hup : (-324 : Int).toNat = 0 := by decide
          rw [hdown, hup, Nat.pow_zero, Nat.mul_one]
          exact hbelow

theorem pointPlace_eq {number : Binary64} {places : Nat}
    (hreached : 10 ^ places ≤ number.numerator / denominator)
    (hbelow : number.numerator / denominator < 10 ^ (places + 1)) :
    number.pointPlace = (places + 1 : Nat) := by
  have hwhole : number.numerator / denominator ≠ 0 :=
    (lt_of_lt_of_le (Nat.pow_pos (by decide)) hreached).ne'
  have hmost := (Nat.length_toDigits_le_iff (by decide) (Nat.succ_pos places)).mpr hbelow
  have hleast : places < (Nat.toDigits 10 (number.numerator / denominator)).length := by
    by_contra hless
    rcases Nat.eq_zero_or_pos places with rfl | hpositive
    · exact hless Nat.length_toDigits_pos
    · have := (Nat.length_toDigits_le_iff (by decide) hpositive).mp (Nat.le_of_not_lt hless)
      omega
  unfold pointPlace
  dsimp only
  rw [if_pos hwhole, Nat.toString_eq_ofList_toDigits, String.length_ofList]
  omega

/-- The digits of the number on the grid of an exponent, without what lies between. -/
def gridDigits (number : Binary64) (exponent : Int) : Nat :=
  number.numerator * Nat.pow 10 (-exponent).toNat / (denominator * Nat.pow 10 exponent.toNat)

theorem gridDigits_lt (number : Binary64) (count : Nat) :
    number.gridDigits (number.pointPlace - count) < 10 ^ count := by
  have hplace := numerator_lt_pointPlace number
  generalize hexponent : number.pointPlace - count = exponent
  have hunit : 0 < denominator * Nat.pow 10 exponent.toNat :=
    Nat.mul_pos denominator_pos (Nat.pow_pos (by decide))
  have hplaces : (-exponent).toNat + number.pointPlace.toNat =
      (-number.pointPlace).toNat + (exponent.toNat + count) := by omega
  unfold gridDigits
  rw [Nat.div_lt_iff_lt_mul hunit]
  simp only [Nat.pow_eq]
  refine Nat.lt_of_mul_lt_mul_right (a := 10 ^ number.pointPlace.toNat) ?_
  calc number.numerator * 10 ^ (-exponent).toNat * 10 ^ number.pointPlace.toNat
      = number.numerator * 10 ^ (-number.pointPlace).toNat * 10 ^ (exponent.toNat + count) := by
        rw [Nat.mul_assoc, ← Nat.pow_add, hplaces, Nat.pow_add, Nat.mul_assoc]
    _ < denominator * 10 ^ number.pointPlace.toNat * 10 ^ (exponent.toNat + count) :=
      Nat.mul_lt_mul_of_pos_right hplace (Nat.pow_pos (by decide))
    _ = 10 ^ count * (denominator * 10 ^ exponent.toNat) * 10 ^ number.pointPlace.toNat := by
        ring

/-- A decimal on the grid of an exponent that rounds to the number, the nearer of two. -/
def decimalAt? (number : Binary64) (exponent : Int) : Option Decimal :=
  let up := Nat.pow 10 exponent.toNat
  let down := Nat.pow 10 (-exponent).toNat
  let scaled := number.numerator * down
  let unit := denominator * up
  let low := number.gridDigits exponent
  let lower := scaled - low * unit
  let upper := (low + 1) * unit - scaled
  if number.roundsFrom (low * up) down then
    if number.roundsFrom ((low + 1) * up) down then
      if lower < upper ∨ (lower = upper ∧ low % 2 = 0) then some ⟨low, exponent⟩
      else some ⟨low + 1, exponent⟩
    else some ⟨low, exponent⟩
  else if number.roundsFrom ((low + 1) * up) down then some ⟨low + 1, exponent⟩
  else none

theorem decimalOf?_eq_decimalAt? {number : Binary64} {place : Int}
    (hplace : number.pointPlace = place) (count : Nat) :
    number.decimalOf? count = number.decimalAt? (place - count) := by
  unfold decimalOf? decimalAt? gridDigits
  rw [hplace]
  dsimp only
  split <;> simp_all

/-- A decimal on the grid is one of the neighbours of the number, and rounds to it. -/
theorem decimalAt?_spec {number : Binary64} {exponent : Int} {decimal : Decimal}
    (hdecimal : number.decimalAt? exponent = some decimal) :
    decimal.digits ≤ number.gridDigits exponent + 1 ∧
      number.roundsFrom (decimal.digits * Nat.pow 10 decimal.exponent.toNat)
        (Nat.pow 10 (-decimal.exponent).toNat) = true := by
  unfold decimalAt? at hdecimal
  dsimp only at hdecimal
  split at hdecimal
  · next hlower =>
      split at hdecimal
      · next hupper =>
          split at hdecimal <;> obtain rfl := Option.some.inj hdecimal
          · exact ⟨Nat.le_succ _, hlower⟩
          · exact ⟨Nat.le_refl _, hupper⟩
      · obtain rfl := Option.some.inj hdecimal
        exact ⟨Nat.le_succ _, hlower⟩
  · split at hdecimal
    · next hupper =>
        obtain rfl := Option.some.inj hdecimal
        exact ⟨Nat.le_refl _, hupper⟩
    · cases hdecimal

theorem decimalOf?_spec {number : Binary64} {count : Nat} {decimal : Decimal}
    (hdecimal : number.decimalOf? count = some decimal) :
    decimal.digits ≤ 10 ^ count ∧
      number.roundsFrom (decimal.digits * Nat.pow 10 decimal.exponent.toNat)
        (Nat.pow 10 (-decimal.exponent).toNat) = true := by
  rw [decimalOf?_eq_decimalAt? rfl] at hdecimal
  obtain ⟨hdigits, hrounds⟩ := decimalAt?_spec hdecimal
  exact ⟨le_trans hdigits (gridDigits_lt number count), hrounds⟩

/-- The shortest decimal has seventeen digits at most and is not above the midpoint above
the number. -/
theorem shortest_spec (number : Binary64) :
    number.shortest.digits ≤ 10 ^ 17 ∧
      number.shortest.AtMost number.midpoint (2 * denominator) := by
  unfold shortest
  cases hfound : (List.range 17).findSome? fun count => number.decimalOf? (count + 1) with
  | none => exact ⟨by decide, by simp [Decimal.AtMost]⟩
  | some decimal =>
      obtain ⟨count, hcount, hdecimal⟩ := List.exists_of_findSome?_eq_some hfound
      obtain ⟨hdigits, hrounds⟩ := decimalOf?_spec hdecimal
      rw [List.mem_range] at hcount
      exact ⟨le_trans hdigits (Nat.pow_le_pow_right (by decide) (by omega)),
        le_of_roundsFrom hrounds⟩

/-- The decimal of the largest numbers, the last of its exponent that stays in range. -/
theorem shortest_largest (negative : Bool) :
    (largest negative).shortest = ⟨17976931348623157, 292⟩ := by
  obtain ⟨hreached, hbelow, -⟩ := range_magnitudes
  have hplace : (largest negative).pointPlace = (308 + 1 : Nat) :=
    pointPlace_eq ((Nat.le_div_iff_mul_le denominator_pos).mpr hreached)
      ((Nat.div_lt_iff_lt_mul denominator_pos).mpr hbelow)
  unfold shortest
  rw [funext fun count => decimalOf?_eq_decimalAt? hplace (count + 1)]
  clear hreached hbelow hplace
  revert negative
  decide +kernel

/-- The midpoint above a number is not above the last one, unless the number is one of the two
of the largest magnitude. -/
theorem midpoint_le (number : Binary64) (hother : ¬ (number.mantissa = 2 ^ 53 - 1 ∧
    number.scale = 2045)) :
    number.midpoint ≤ lastMidpoint * (2 * denominator) := by
  obtain ⟨place, hplace⟩ : ∃ place, place = 2044 := ⟨_, rfl⟩
  have hlast : lastMidpoint * (2 * denominator) = (2 ^ 54 - 3) * 2 * 2 ^ place := by
    obtain ⟨-, -, -, -, hlast, -⟩ := range_magnitudes
    rw [hplace]
    exact hlast
  obtain ⟨hmantissa, hscale, -⟩ := number.canonical
  simp only [Nat.pow_eq] at hmantissa
  rw [hlast]
  rcases Nat.lt_or_eq_of_le hscale with hless | heq
  · exact Nat.mul_le_mul (by omega) (Nat.pow_le_pow_right (by decide) (by omega))
  · have hnext : number.scale = place + 1 := by omega
    calc (2 * number.mantissa + 1) * 2 ^ number.scale
        = (2 * number.mantissa + 1) * 2 * 2 ^ place := by rw [hnext, Nat.pow_succ']; ring
      _ ≤ (2 ^ 54 - 3) * 2 * 2 ^ place := Nat.mul_le_mul_right _ (by omega)

/-- The shortest decimal of a number has a nearest number. -/
theorem exists_ofDecimal?_shortest (number : Binary64)
    (hdigits : (number.shortest.trimmed 17).digits ≠ 0) :
    ∃ again, ofDecimal? (number.shortest.trimmed 17).digits
      (number.shortest.trimmed 17).exponent = some again := by
  obtain ⟨hmost, hle⟩ := shortest_spec number
  -- Nothing is known of decimals below the midpoint above the largest numbers, so theirs is
  -- computed.
  by_cases hlargest : number.mantissa = 2 ^ 53 - 1 ∧ number.scale = 2045
  · obtain ⟨negative, mantissa, scale, hcanonical⟩ := number
    dsimp only at hlargest
    obtain ⟨rfl, rfl⟩ := hlargest
    have hcomputed : (ofDecimal? 17976931348623157 292).isSome = true := by decide +kernel
    have htrimmed : (Decimal.mk 17976931348623157 292).trimmed 17 = ⟨17976931348623157, 292⟩ := by
      decide
    have hshortest := shortest_largest negative
    unfold largest at hshortest
    rw [hshortest, htrimmed]
    exact Option.isSome_iff_exists.mp hcomputed
  · have hmost := le_trans (Decimal.digits_trimmed_le 17 number.shortest) hmost
    have hle := Decimal.AtMost.trimmed 17 hle
    generalize number.shortest.trimmed 17 = decimal at hmost hle hdigits ⊢
    obtain ⟨digits, exponent⟩ := decimal
    rcases lt_or_ge exponent 0 with hnegative | hpositive
    · exact exists_ofDecimal?_down hmost hnegative
    · obtain ⟨up, rfl⟩ := Int.eq_ofNat_of_zero_le hpositive
      refine exists_ofDecimal?_up (Nat.pos_of_ne_zero hdigits) hmost ?_
      refine Nat.le_of_mul_le_mul_right ?_ (Nat.mul_pos (by decide : 0 < 2) denominator_pos)
      have hdown : (-(up : Int)).toNat = 0 := Int.toNat_of_nonpos (by omega)
      unfold Decimal.AtMost at hle
      dsimp only at hle
      rw [Int.toNat_natCast, hdown, Nat.pow_zero, Nat.mul_one] at hle
      exact le_trans hle (midpoint_le number hlargest)

end Binary64

end FieldBridge
