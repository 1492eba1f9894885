import FormTemplate.Number.Power

/-!
# Binary floating-point numbers

A finite number of the 64-bit binary format, kept as a sign, a mantissa below `2 ^ 53` and an exponent of two
not below `-1074`. The mantissa is at least `2 ^ 52` unless the exponent is the least one, so each number has
one form. All arithmetic is on exact integers.

* `Binary64.ofRatio` : the nearest number to a ratio, ties to the even mantissa; nothing if it is too large.
* `Binary64.ofDecimal` : the nearest number to `m * 10 ^ e`.
* `Binary64.le` : the order of the values; the two zeros are equal in it.
-/

set_option autoImplicit false

namespace FormTemplate.Number

/-- A finite floating-point number, worth `mantissa * 2 ^ exponent` with its sign. -/
structure Binary64 where
  negative : Bool
  mantissa : Nat
  exponent : Int
  deriving DecidableEq, Repr

/-- The least exponent of the format. -/
def minExponent : Int := -1074

/-- The greatest exponent of the format. -/
def maxExponent : Int := 971

/-- A quotient rounded to the nearest integer, a half to the even neighbour. -/
def roundHalfEven (num den : Nat) : Nat :=
  let q := num / den
  let r := num % den
  if 2 * r < den then q
  else if den < 2 * r then q + 1
  else if q % 2 = 0 then q else q + 1

/-- Numerator and denominator of `num / den / 2 ^ e`. -/
def scaleRatio (num den : Nat) (e : Int) : Nat × Nat :=
  if 0 ≤ e then (num, den * twoTo e.toNat) else (num * twoTo (-e).toNat, den)

namespace Binary64

/-- Zero with a sign. -/
def zero (negative : Bool) : Binary64 := ⟨negative, 0, minExponent⟩

/-- The exponent at which `num / den` has fifty-three binary digits, or the least exponent if that is more. -/
def exponentOf (num den : Nat) : Int :=
  let e : Int := max minExponent ((num.log2 : Int) - den.log2 - 53)
  let (n, d) := scaleRatio num den e
  if twoTo 53 ≤ n / d then e + 1 else e

/-- The number nearest to `num / den`, or nothing if it lies beyond the largest one. -/
def ofRatio (negative : Bool) (num den : Nat) : Option Binary64 :=
  if num = 0 then some (zero negative)
  else
    let e := exponentOf num den
    let (n, d) := scaleRatio num den e
    let m := roundHalfEven n d
    let (m, e) := if m = twoTo 53 then (twoTo 52, e + 1) else (m, e)
    if maxExponent < e then none else some ⟨negative, m, e⟩

/-- The number nearest to `m * 10 ^ e`. Exponents that settle the answer alone are not expanded. -/
def ofDecimal (negative : Bool) (m : Nat) (e : Int) : Option Binary64 :=
  if m = 0 then some (zero negative)
  else if 400 < e then none
  else if (m.log2 : Int) + 1 + 3 * e < -1080 then some (zero negative)
  else if 0 ≤ e then ofRatio negative (m * tenTo e.toNat) 1
  else ofRatio negative m (tenTo (-e).toNat)

/-- The absolute value times `2 ^ 1074`, an integer. -/
def scaledAbs (x : Binary64) : Nat := x.mantissa * twoTo (x.exponent - minExponent).toNat

/-- The value times `2 ^ 1074`. -/
def scaled (x : Binary64) : Int := if x.negative then -(x.scaledAbs : Int) else x.scaledAbs

/-- The order of the values. -/
def le (x y : Binary64) : Bool := x.scaled ≤ y.scaled

/-- Numerator and denominator of the absolute value. -/
def ratio (x : Binary64) : Nat × Nat :=
  if 0 ≤ x.exponent then (x.mantissa * twoTo x.exponent.toNat, 1) else (x.mantissa, twoTo (-x.exponent).toNat)

/-- The product, rounded. -/
def mul (x y : Binary64) : Option Binary64 :=
  ofRatio (x.negative != y.negative) (x.ratio.1 * y.ratio.1) (x.ratio.2 * y.ratio.2)

/-- The quotient by a number other than zero, rounded. -/
def div (x y : Binary64) : Option Binary64 :=
  ofRatio (x.negative != y.negative) (x.ratio.1 * y.ratio.2) (x.ratio.2 * y.ratio.1)

/-! ## Order -/

theorem le_refl (x : Binary64) : x.le x = true := by simp [le]

theorem le_trans {x y z : Binary64} (hxy : x.le y = true) (hyz : y.le z = true) : x.le z = true := by
  simp only [le, decide_eq_true_eq] at *
  omega

end Binary64

end FormTemplate.Number
