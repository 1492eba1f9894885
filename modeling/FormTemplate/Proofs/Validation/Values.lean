import FormTemplate.Validation
import Mathlib.Algebra.Order.Field.Power
import Mathlib.Algebra.Order.Field.Rat
import Mathlib.Data.Prod.Lex
import Mathlib.Data.Rat.Cast.Order

/-!
# The order of values

Numbers are compared as multiples of the least positive one, and dates part by part. Here both orders are said once more
by what the values are: a number is a rational number, and a date is its year, month and day, compared in this order.

* `Binary64.toRat` : the number that a floating-point number is;
* `Binary64.le_iff_toRat_le` : the order of numbers that are read is the order of the numbers;
* `Date.parts`, `Date.le_iff_parts_le` : the order of dates is the one of the calendar;
* `Comparable.AtMost` : the order of values, by what they are;
* `Comparable.le_iff_atMost` : checks compare values in this order.
-/

set_option autoImplicit false

namespace FormTemplate

/-! ## Numbers -/

namespace Number

theorem cast_twoTo (n : Nat) : ((twoTo n : Nat) : ℚ) = 2 ^ n := Nat.cast_pow 2 n

namespace Binary64

variable {x y : Binary64} {negative : Bool} {s : List Char}

/-- The number that a floating-point number is. -/
def toRat (x : Binary64) : ℚ := (if x.negative then -1 else 1) * (x.mantissa * 2 ^ x.exponent)

/-- A number is a multiple of the least positive one. -/
theorem toRat_eq (h : minExponent ≤ x.exponent) : x.toRat = x.scaled * 2 ^ minExponent := by
  have hpower : (2 : ℚ) ^ x.exponent = 2 ^ (x.exponent - minExponent).toNat * 2 ^ minExponent := by
    rw [← zpow_natCast, ← zpow_add₀ (by decide), Int.toNat_of_nonneg (by omega), Int.sub_add_cancel]
  have habs : (x.scaledAbs : ℚ) = x.mantissa * 2 ^ (x.exponent - minExponent).toNat := by
    rw [scaledAbs, Nat.cast_mul, cast_twoTo]
  unfold scaled toRat
  rw [hpower]
  cases x.negative
  · simp [habs, mul_assoc]
  · simp [habs, mul_assoc]

/-- **Numbers are compared by what they are.** -/
theorem le_iff_toRat_le (hx : minExponent ≤ x.exponent) (hy : minExponent ≤ y.exponent) :
    x.le y = true ↔ x.toRat ≤ y.toRat := by
  have hleast : (0 : ℚ) < 2 ^ minExponent := zpow_pos (by decide) _
  rw [le, decide_eq_true_iff, toRat_eq hx, toRat_eq hy, mul_le_mul_iff_of_pos_right hleast, Int.cast_le]

theorem minExponent_le_exponentOf (num den : Nat) : minExponent ≤ exponentOf num den := by
  simp only [exponentOf]
  split <;> omega

theorem minExponent_le_of_ofRatio {num den : Nat} (h : ofRatio negative num den = some x) :
    minExponent ≤ x.exponent := by
  have hleast := minExponent_le_exponentOf num den
  simp only [ofRatio] at h
  split at h
  · cases h
    exact Int.le_refl _
  · -- rounding up to the next power of two makes the exponent one larger
    split at h <;> split at h
    · cases h
    · cases h
      exact Int.le_add_one hleast
    · cases h
    · cases h
      exact hleast

/-- A number that is read has no exponent below the least. -/
theorem minExponent_le_of_readFinite? (h : readFinite? s = some x) : minExponent ≤ x.exponent := by
  obtain ⟨⟨m, e⟩, -, h⟩ := Option.bind_eq_some_iff.mp h
  simp only [ofDecimal] at h
  split at h
  · cases h
    exact Int.le_refl _
  · split at h
    · cases h
    · split at h
      · cases h
        exact Int.le_refl _
      · split at h <;> exact minExponent_le_of_ofRatio h

end Binary64

end Number

/-! ## Dates -/

namespace Calendar.Date

/-- Year, month and day, compared in this order. -/
def parts (d : Date) : ℤ ×ₗ ℕ ×ₗ ℕ := toLex (d.year, toLex (d.month, d.day))

theorem le_iff_parts_le {a b : Date} : a.le b = true ↔ a.parts ≤ b.parts := by
  simp [le, parts, Prod.Lex.toLex_le_toLex]

end Calendar.Date

/-! ## Values -/

namespace Comparable

variable {type : DataType} {s t : String} {x y : Comparable}

/-- The order of values: numbers by what they are, dates by the calendar. -/
def AtMost : Comparable → Comparable → Prop
  | .number x, .number y => x.toRat ≤ y.toRat
  | .date c, .date d => c.parts ≤ d.parts
  | _, _ => False

/-- **Values of one data type are compared by what they are.** -/
theorem le_iff_atMost (hx : comparable? type s = some x) (hy : comparable? type t = some y) :
    x.le y = true ↔ x.AtMost y := by
  cases type with
  | number =>
    obtain ⟨a, ha, rfl⟩ := Option.map_eq_some_iff.mp hx
    obtain ⟨b, hb, rfl⟩ := Option.map_eq_some_iff.mp hy
    exact Number.Binary64.le_iff_toRat_le (Number.Binary64.minExponent_le_of_readFinite? ha)
      (Number.Binary64.minExponent_le_of_readFinite? hb)
  | date =>
    obtain ⟨a, -, rfl⟩ := Option.map_eq_some_iff.mp hx
    obtain ⟨b, -, rfl⟩ := Option.map_eq_some_iff.mp hy
    exact Calendar.Date.le_iff_parts_le
  | text => cases hx
  | boolean => cases hx

end Comparable

end FormTemplate
