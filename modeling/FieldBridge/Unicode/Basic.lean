import FieldBridge.Unicode.Alphabetic
import FieldBridge.Unicode.Numeric
import FieldBridge.Unicode.Uppercase

/-!
# Character classes

The classes of characters that declarations are read by: letters, numerics,
white space and capitals.  ASCII is decided directly; every other character is
looked up in the ranges of its property.  The lemmas at the end keep the classes
apart: no white space is part of a word.
-/

namespace FieldBridge.Unicode

/-- Whether the code point of `c` lies in one of the ranges. -/
def within (ranges : List (Nat × Nat)) (c : Char) : Bool :=
  ranges.any fun range => range.1 ≤ c.toNat && c.toNat ≤ range.2

/-- The property Alphabetic. -/
def isAlphabetic (c : Char) : Bool :=
  if c.toNat < 128 then c.isAlpha else within alphabeticRanges c

/-- The general categories Nd, Nl and No. -/
def isNumeric (c : Char) : Bool :=
  if c.toNat < 128 then c.isDigit else within numericRanges c

/-- The property Uppercase. -/
def isUppercase (c : Char) : Bool :=
  if c.toNat < 128 then c.isUpper else within uppercaseRanges c

/-- The ranges of the property White_Space. -/
def whiteSpaceRanges : List (Nat × Nat) := [
  (0x09, 0x0d), (0x20, 0x20), (0x85, 0x85), (0xa0, 0xa0), (0x1680, 0x1680),
  (0x2000, 0x200a), (0x2028, 0x2029), (0x202f, 0x202f), (0x205f, 0x205f), (0x3000, 0x3000)]

/-- The property White_Space. -/
def isWhiteSpace (c : Char) : Bool :=
  within whiteSpaceRanges c

/-- A letter or an underscore, which may begin a word. -/
def startsWord (c : Char) : Bool :=
  c = '_' || isAlphabetic c

/-- A letter, a numeric or an underscore, which may continue a word. -/
def continuesWord (c : Char) : Bool :=
  c = '_' || isAlphabetic c || isNumeric c

theorem continuesWord_of_startsWord {c : Char} (hstart : startsWord c = true) :
    continuesWord c = true := by
  simp only [startsWord, continuesWord, Bool.or_eq_true] at hstart ⊢
  exact Or.inl hstart

theorem within_eq_true {ranges : List (Nat × Nat)} {c : Char} (hwithin : within ranges c = true) :
    ∃ range ∈ ranges, ∃ offset ∈ List.range (range.2 + 1 - range.1),
      c = Char.ofNat (range.1 + offset) := by
  simp only [within, List.any_eq_true, Bool.and_eq_true, decide_eq_true_eq] at hwithin
  obtain ⟨range, hrange, hle, hge⟩ := hwithin
  refine ⟨range, hrange, c.toNat - range.1, List.mem_range.2 (by omega), ?_⟩
  rw [Nat.add_sub_cancel' hle, Char.ofNat_toNat]

theorem continuesWord_of_isWhiteSpace {c : Char} (hblank : isWhiteSpace c = true) :
    continuesWord c = false := by
  have hranges : ∀ range ∈ whiteSpaceRanges, ∀ offset ∈ List.range (range.2 + 1 - range.1),
      continuesWord (Char.ofNat (range.1 + offset)) = false := by
    decide +kernel
  obtain ⟨range, hrange, offset, hoffset, rfl⟩ := within_eq_true hblank
  exact hranges range hrange offset hoffset

theorem isWhiteSpace_of_startsWord {c : Char} (hstart : startsWord c = true) :
    isWhiteSpace c = false := by
  cases hblank : isWhiteSpace c with
  | false => rfl
  | true =>
    have hcontinues := continuesWord_of_isWhiteSpace hblank
    rw [continuesWord_of_startsWord hstart] at hcontinues
    cases hcontinues

end FieldBridge.Unicode
