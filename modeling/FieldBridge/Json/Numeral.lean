import FieldBridge.Json.Value

/-!
# JSON numbers

A whole number within 64 bits is an integer; every other number is a binary64
number.  Digits are gathered as long as they fit 64 bits.  Whole digits after that
count as a power of ten, and digits after that behind the point are passed over.
-/

namespace FieldBridge.Json.Numeral

def largest : Nat := Nat.pow 2 64 - 1

/-- Digits gathered onto a number, with how many fitted and how many were left. -/
structure Gathered where
  value : Nat
  taken : Nat
  left : Nat

def gather (value taken : Nat) : List Char → Gathered
  | [] => ⟨value, taken, 0⟩
  | digit :: digits =>
    let next := value * 10 + (digit.toNat - 48)
    if next ≤ largest then gather next (taken + 1) digits
    else ⟨value, taken, digits.length + 1⟩

/-- The parts of a number as written. -/
structure Parts where
  negative : Bool
  whole : List Char
  fraction : Option (List Char)
  exponent : Option Int
  rest : List Char

def natOf (digits : List Char) : Nat :=
  digits.foldl (fun value digit => value * 10 + (digit.toNat - 48)) 0

/-- The fraction at the start of a text: a point and at least one digit. -/
def fraction? : List Char → Option (Option (List Char) × List Char)
  | '.' :: rest =>
    match rest.takeWhile Char.isDigit with
    | [] => none
    | digits => some (some digits, rest.dropWhile Char.isDigit)
  | rest => some (none, rest)

def exponentDigits? (negative : Bool) (text : List Char) : Option (Option Int × List Char) :=
  match text.takeWhile Char.isDigit with
  | [] => none
  | digits =>
    let value : Int := natOf digits
    some (some (if negative then -value else value), text.dropWhile Char.isDigit)

/-- The exponent at the start of a text: a letter, a sign if any, and at least one
digit. -/
def exponent? : List Char → Option (Option Int × List Char)
  | c :: rest =>
    if c = 'e' ∨ c = 'E' then
      match rest with
      | '+' :: rest => exponentDigits? false rest
      | '-' :: rest => exponentDigits? true rest
      | rest => exponentDigits? false rest
    else some (none, c :: rest)
  | [] => some (none, [])

/-- The parts of the number at the start of a text without a sign.  A whole part of
several digits does not begin with zero. -/
def unsigned? (negative : Bool) (text : List Char) : Option Parts :=
  match text.takeWhile Char.isDigit with
  | [] => none
  | '0' :: _ :: _ => none
  | whole =>
    match fraction? (text.dropWhile Char.isDigit) with
    | none => none
    | some (fraction, rest) =>
      match exponent? rest with
      | none => none
      | some (exponent, rest) => some ⟨negative, whole, fraction, exponent, rest⟩

def parts? : List Char → Option Parts
  | '-' :: rest => unsigned? true rest
  | text => unsigned? false text

def float? (negative : Bool) (digits : Nat) (exponent : Int) : Option Json :=
  (Binary64.ofDecimal? digits exponent).map fun number => float (number.withSign negative)

/-- The value of a whole number without exponent.  Negative zero and numbers below
the smallest of 64 bits are no integers. -/
def whole? (negative : Bool) (value : Nat) : Option Json :=
  if !negative then some (integer value)
  else if value = 0 ∨ Nat.pow 2 63 < value then float? true value 0
  else some (integer (-value))

/-- The value of a number, unless it is too large. -/
def Parts.value? (parts : Parts) : Option Json :=
  let whole := gather 0 0 parts.whole
  match parts.fraction, parts.exponent with
  | none, none =>
    if whole.left = 0 then whole? parts.negative whole.value
    else float? parts.negative whole.value whole.left
  | fraction, exponent =>
    let all := gather whole.value 0 (fraction.getD [])
    float? parts.negative all.value
      ((whole.left : Int) - all.taken + exponent.getD 0)

end FieldBridge.Json.Numeral
