import FieldBridge.Number.Binary64

/-!
# Shortest decimals

A number is written with the fewest digits that are nearer to it than to any other
number; of two such decimals the nearer is taken.  Digit counts are tried in turn.
For each the two neighbours of the number on the grid of that many digits are
tested against the interval of values that round to the number.
-/

namespace FieldBridge

/-- Whole digits times a power of ten. -/
structure Decimal where
  digits : Nat
  exponent : Int
deriving DecidableEq, Repr

namespace Binary64

/-- Whether a quotient rounds to the magnitude of a number: it lies between the
midpoints to the neighbours, which belong to the number when its mantissa is even. -/
def roundsFrom (number : Binary64) (numerator denominator : Nat) : Bool :=
  let value := 4 * numerator * Nat.pow 2 1074
  let unit := denominator * Nat.pow 2 number.scale
  let below := if number.mantissa = Nat.pow 2 52 ∧ 0 < number.scale then 1 else 2
  let low := (4 * number.mantissa - below) * unit
  let high := (4 * number.mantissa + 2) * unit
  if number.mantissa % 2 = 0 then low ≤ value && value ≤ high
  else low < value && value < high

def numerator (number : Binary64) : Nat :=
  number.mantissa * Nat.pow 2 number.scale

def denominator : Nat := Nat.pow 2 1074

/-- The place of the decimal point before the first digit: the number lies below
ten to this power, and not below a tenth of it. -/
def pointPlace (number : Binary64) : Int :=
  let whole := number.numerator / denominator
  if whole ≠ 0 then (toString whole).length
  else
    match (List.range 325).find?
        fun places => denominator ≤ number.numerator * Nat.pow 10 places with
    | some places => 1 - places
    | none => -324

/-- A decimal with `count` digits that rounds to the number, if there is one: of the
neighbours on the grid the nearer, and the lower of two that are as near. -/
def decimalOf? (number : Binary64) (count : Nat) : Option Decimal :=
  let exponent := number.pointPlace - count
  let up := Nat.pow 10 exponent.toNat
  let down := Nat.pow 10 (-exponent).toNat
  let scaled := number.numerator * down
  let unit := denominator * up
  let low := scaled / unit
  let fits (digits : Nat) := number.roundsFrom (digits * up) down
  let lower := scaled - low * unit
  let upper := (low + 1) * unit - scaled
  match fits low, fits (low + 1) with
  | true, true =>
    if lower < upper ∨ (lower = upper ∧ low % 2 = 0) then some ⟨low, exponent⟩
    else some ⟨low + 1, exponent⟩
  | true, false => some ⟨low, exponent⟩
  | false, true => some ⟨low + 1, exponent⟩
  | false, false => none

/-- The shortest decimal of a number.  Seventeen digits always suffice. -/
def shortest (number : Binary64) : Decimal :=
  ((List.range 17).findSome? fun count => number.decimalOf? (count + 1)).getD ⟨0, 0⟩

end Binary64

namespace Decimal

/-- The digits without trailing zeros, which go into the exponent. -/
def trimmed : Nat → Decimal → Decimal
  | 0, decimal => decimal
  | fuel + 1, decimal =>
    if decimal.digits % 10 = 0 ∧ decimal.digits ≠ 0 then
      trimmed fuel ⟨decimal.digits / 10, decimal.exponent + 1⟩
    else decimal

def zeros (count : Nat) : String :=
  String.ofList (List.replicate count '0')

/-- A decimal as text: with a point, from 0.00001 up to sixteen places before the
point, and with an exponent outside these bounds. -/
def text (decimal : Decimal) : String :=
  let decimal := decimal.trimmed 17
  let digits := toString decimal.digits
  let point := decimal.exponent + digits.length
  if decimal.digits = 0 then "0.0"
  else if 0 ≤ decimal.exponent ∧ point ≤ 16 then digits ++ zeros decimal.exponent.toNat ++ ".0"
  else if 0 < point ∧ point ≤ 16 then
    String.ofList (digits.toList.take point.toNat) ++ "." ++
      String.ofList (digits.toList.drop point.toNat)
  else if -5 < point ∧ point ≤ 0 then "0." ++ zeros (-point).toNat ++ digits
  else
    let sign := if point - 1 < 0 then "-" else "+"
    let exponent := "e" ++ sign ++ toString (point - 1).natAbs
    match digits.toList with
    | [] => exponent
    | [digit] => String.ofList [digit] ++ exponent
    | digit :: more => String.ofList [digit, '.'] ++ String.ofList more ++ exponent

end Decimal

namespace Binary64

def text (number : Binary64) : String :=
  (if number.negative then "-" else "") ++
    if number.mantissa = 0 then "0.0" else number.shortest.text

end Binary64

end FieldBridge
