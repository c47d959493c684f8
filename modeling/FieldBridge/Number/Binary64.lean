/-!
# Binary64 numbers

The finite numbers of the binary64 format, kept as whole mantissas at a power of
two.  Exact quotients of whole numbers are rounded to the nearest of them, a tie to
the even mantissa; products and quotients of numbers are exact quotients, rounded
once.  Results beyond the largest number do not exist.
-/

namespace FieldBridge

/-- The bounds that make a mantissa and a scale the one way to write a number:
mantissas have 53 bits, all of them used unless the scale is the smallest. -/
def IsBinary64 (mantissa scale : Nat) : Prop :=
  mantissa < Nat.pow 2 53 ∧ scale ≤ 2045 ∧ (Nat.pow 2 52 ≤ mantissa ∨ scale = 0)

instance (mantissa scale : Nat) : Decidable (IsBinary64 mantissa scale) := by
  unfold IsBinary64
  infer_instance

/-- A finite binary64 number: the mantissa times two to the `scale - 1074`. -/
structure Binary64 where
  negative : Bool
  mantissa : Nat
  scale : Nat
  canonical : IsBinary64 mantissa scale
deriving DecidableEq, Repr

namespace Binary64

def zero : Binary64 := ⟨false, 0, 0, by decide⟩

instance : Inhabited Binary64 := ⟨zero⟩

def withSign (negative : Bool) (number : Binary64) : Binary64 :=
  { number with negative := negative }

/-- The quotient of two whole numbers, to the nearest whole number, a tie to even. -/
def roundQuotient (numerator denominator : Nat) : Nat :=
  let quotient := numerator / denominator
  let rest := numerator % denominator
  if denominator < 2 * rest ∨ (denominator = 2 * rest ∧ quotient % 2 = 1) then quotient + 1
  else quotient

/-- The nearest number to a quotient of whole numbers, unless it is too large. -/
def ofQuotient? (numerator denominator : Nat) : Option Binary64 :=
  let scaled := numerator * Nat.pow 2 1074
  let scale := (scaled / denominator).log2 - 52
  let mantissa := roundQuotient scaled (denominator * Nat.pow 2 scale)
  if h : IsBinary64 mantissa scale then some ⟨false, mantissa, scale, h⟩
  else if h : mantissa = Nat.pow 2 53 ∧ scale < 2045 then
    some ⟨false, Nat.pow 2 52, scale + 1,
      ⟨by decide, Nat.succ_le_of_lt h.2, Or.inl (Nat.le_refl _)⟩⟩
  else none

/-- The nearest number to a whole number, unless it is too large. -/
def ofNat? (n : Nat) : Option Binary64 :=
  ofQuotient? n 1

def mul? (left right : Binary64) : Option Binary64 :=
  ofQuotient? (left.mantissa * right.mantissa * Nat.pow 2 (left.scale + right.scale))
    (Nat.pow 2 2148)

/-- The quotient of the magnitudes of two numbers, the second of which is not zero. -/
def div? (left right : Binary64) : Option Binary64 :=
  ofQuotient? (left.mantissa * Nat.pow 2 left.scale) (right.mantissa * Nat.pow 2 right.scale)

def tenTo? (exponent : Nat) : Option Binary64 :=
  ofNat? (Nat.pow 10 exponent)

def largestTen : Nat := 308

def divTen? (number : Binary64) (exponent : Nat) : Option Binary64 :=
  (tenTo? exponent).bind number.div?

/-- A number divided so many times by the largest power of ten, and then by ten to
`rest`.  Zero stays what it is. -/
def scaleDown (number : Binary64) (rest : Nat) : Nat → Option Binary64
  | 0 => number.divTen? rest
  | times + 1 =>
    if number.mantissa = 0 then some number
    else (number.divTen? largestTen).bind fun smaller => smaller.scaleDown rest times

/-- Whole digits times a power of ten, in steps that each round once: the digits
become a number, which is multiplied or divided by powers of ten. -/
def ofDecimal? (digits : Nat) (exponent : Int) : Option Binary64 :=
  (ofNat? digits).bind fun number =>
    match exponent with
    | .ofNat up =>
      if up ≤ largestTen then (tenTo? up).bind number.mul?
      else if number.mantissa = 0 then some number
      else none
    | .negSucc down =>
      let times := down / largestTen
      number.scaleDown (down + 1 - times * largestTen) times

end Binary64

end FieldBridge
