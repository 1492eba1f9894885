import FormTemplate.Number.Binary64

/-!
# Shortest decimal text

The text of a floating-point number has the fewest digits that read back as the same number, and among those
the digits nearest to it. The reals that round to a number form an interval, closed exactly if the mantissa is
even; a decimal grid meets it if one of the two grid points around the number lies in it.

* `Binary64.shortest` : the digits and the power of ten.
* `NumberFormat` : where positional notation ends and how an exponent is written.
* `NumberFormat.render` : the text of a number.
-/

set_option autoImplicit false

namespace FormTemplate.Number

namespace Binary64

/-- The ends of the interval of reals that round to a number, and the number itself, in quarters of the unit
`2 ^ exponent`. Below a power of two the neighbours are twice as close. -/
def interval (x : Binary64) : Nat × Nat × Nat :=
  let below := if x.mantissa = twoTo 52 ∧ minExponent < x.exponent then 1 else 2
  (4 * x.mantissa - below, 4 * x.mantissa, 4 * x.mantissa + 2)

/-- Whether `d * 10 ^ k` rounds to the number. -/
def reads (x : Binary64) (d : Nat) (k : Int) : Bool :=
  let (lo, _, hi) := x.interval
  let e := x.exponent - 2
  -- both sides are multiplied by what clears the negative powers
  let unit := twoTo e.toNat * tenTo (-k).toNat
  let point := d * tenTo k.toNat * twoTo (-e).toNat
  if x.mantissa % 2 = 0 then lo * unit ≤ point && point ≤ hi * unit
  else lo * unit < point && point < hi * unit

/-- The grid point at or below the absolute value, on the grid of multiples of `10 ^ k`. -/
def gridFloor (x : Binary64) (k : Int) : Nat :=
  let (n, d) := x.ratio
  (n * tenTo (-k).toNat) / (d * tenTo k.toNat)

/-- Whether the upper of the two grid points around the number is nearer, or as near and even. -/
def upperNearer (x : Binary64) (d : Nat) (k : Int) : Bool :=
  let (n, e) := x.ratio
  let twice := 2 * n * tenTo (-k).toNat
  let middle := (2 * d + 1) * e * tenTo k.toNat
  middle < twice || (middle == twice && d % 2 == 1)

/-- The digits on the grid of multiples of `10 ^ k` that round to the number, nearest first. -/
def onGrid? (x : Binary64) (k : Int) : Option Nat :=
  let d := x.gridFloor k
  match x.reads d k, x.reads (d + 1) k with
  | true, true => some (if x.upperNearer d k then d + 1 else d)
  | true, false => some d
  | false, true => some (d + 1)
  | false, false => none

/-- Tries ever finer grids; seventeen digits always suffice. -/
def searchGrid (x : Binary64) : Nat → Int → Nat × Int
  | 0, k => (x.gridFloor k, k)
  | steps + 1, k =>
    match x.onGrid? k with
    | some d => (d, k)
    | none => searchGrid x steps (k - 1)

/-- The least power of ten above the absolute value of a number other than zero. -/
def decimalMagnitude (x : Binary64) : Int :=
  let (n, d) := x.ratio
  let guess : Int := ((n.log2 : Int) - d.log2) * 1233 / 4096
  -- the guess is at most two below the answer
  let above (k : Int) : Bool := n * tenTo (-k).toNat < d * tenTo k.toNat
  if above (guess - 1) then guess - 1
  else if above guess then guess
  else if above (guess + 1) then guess + 1
  else guess + 2

/-- Removes zeros at the end of a number's digits. -/
def dropZeros : Nat → Nat → Int → Nat × Int
  | 0, d, k => (d, k)
  | steps + 1, d, k => if d % 10 = 0 ∧ d ≠ 0 then dropZeros steps (d / 10) (k + 1) else (d, k)

/-- The fewest digits, with their power of ten, that read back as the absolute value. -/
def shortest (x : Binary64) : Nat × Int :=
  if x.mantissa = 0 then (0, 0)
  else
    let (d, k) := x.searchGrid 20 (x.decimalMagnitude - 1)
    dropZeros 20 d k

end Binary64

/-! ## Notation -/

/-- How the digits of a number are laid out. -/
structure NumberFormat where
  /-- Positional notation is used from `10 ^ positionalFrom` … -/
  positionalFrom : Int
  /-- … to below `10 ^ positionalBelow`. -/
  positionalBelow : Int
  /-- Whether an exponent that is not negative carries a plus sign. -/
  plusSign : Bool

/-- The decimal digits of a natural number. -/
def natText (n : Nat) : List Char := (Nat.repr n).toList

/-- The decimal digits of an integer, with a sign if it is negative. -/
def intText (n : Int) : List Char :=
  if n < 0 then '-' :: natText n.natAbs else natText n.natAbs

/-- Digits in positional notation, always with a fraction. -/
def positional (ds : List Char) (k : Int) : List Char :=
  if 0 ≤ k then ds ++ List.replicate k.toNat '0' ++ ['.', '0']
  else
    let places := (-k).toNat
    if places < ds.length then ds.take (ds.length - places) ++ '.' :: ds.drop (ds.length - places)
    else ['0', '.'] ++ List.replicate (places - ds.length) '0' ++ ds

/-- Digits in scientific notation; the exponent belongs to the first digit. -/
def scientific (plusSign : Bool) (ds : List Char) (exponent : Int) : List Char :=
  let mantissa :=
    match ds with
    | [] => []
    | [d] => [d]
    | d :: rest => d :: '.' :: rest
  mantissa ++ 'e' :: (if 0 ≤ exponent && plusSign then '+' :: intText exponent else intText exponent)

/-- The text of a number. -/
def NumberFormat.render (f : NumberFormat) (x : Binary64) : List Char :=
  let (d, k) := x.shortest
  let ds := natText d
  let exponent : Int := k + ds.length - 1
  let body :=
    if d = 0 then ['0', '.', '0']
    else if f.positionalFrom ≤ exponent && exponent < f.positionalBelow then positional ds k
    else scientific f.plusSign ds exponent
  if x.negative then '-' :: body else body

end FormTemplate.Number
