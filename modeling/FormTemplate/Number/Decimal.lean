import FormTemplate.Number.Binary64

/-!
# Numbers written in decimal

A decimal number is an optional sign, digits with an optional point (one side of it may be empty, not both)
and an optional exponent. The words for infinity and for the undefined number are spelled in any case; they
name no finite number, and neither does a decimal beyond the largest one.

* `digits?` : the value of a nonempty run of ASCII digits.
* `readNat?` : an unsigned number with an optional plus sign.
* `readFinite?` : the finite number nearest to what a text writes.
-/

set_option autoImplicit false

namespace FormTemplate.Number

/-- The value of an ASCII digit. -/
def digitValue (c : Char) : Nat := c.toNat - '0'.toNat

/-- The number a run of digits writes. -/
def digitsValue (s : List Char) : Nat := s.foldl (fun n c => 10 * n + digitValue c) 0

/-- The number written by a nonempty text of ASCII digits only. -/
def digits? (s : List Char) : Option Nat :=
  if s.isEmpty || !s.all Char.isDigit then none else some (digitsValue s)

/-- An unsigned number with an optional plus sign. -/
def readNat? (s : List Char) : Option Nat :=
  match s with
  | '+' :: r => digits? r
  | _ => digits? s

/-- A sign in front of a text. -/
def splitSign : List Char → Bool × List Char
  | '-' :: r => (true, r)
  | '+' :: r => (false, r)
  | s => (false, s)

/-- An exponent part: nothing, or `e` with a signed run of digits. -/
def readExponent? : List Char → Option Int
  | [] => some 0
  | c :: r =>
    if c == 'e' || c == 'E' then
      let (negative, ds) := splitSign r
      (digits? ds).map fun n => if negative then -(n : Int) else n
    else none

/-- An unsigned decimal as digits and a power of ten. -/
def readDecimal? (s : List Char) : Option (Nat × Int) :=
  let whole := s.takeWhile Char.isDigit
  let rest := s.dropWhile Char.isDigit
  let (fraction, tail) :=
    match rest with
    | '.' :: r => (r.takeWhile Char.isDigit, r.dropWhile Char.isDigit)
    | _ => ([], rest)
  if whole.isEmpty && fraction.isEmpty then none
  else (readExponent? tail).map fun e => (digitsValue (whole ++ fraction), e - fraction.length)

/-- The finite number nearest to what a text writes. -/
def readFinite? (s : List Char) : Option Binary64 :=
  let (negative, r) := splitSign s
  (readDecimal? r).bind fun (m, e) => Binary64.ofDecimal negative m e

end FormTemplate.Number
