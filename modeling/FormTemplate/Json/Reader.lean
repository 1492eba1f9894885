import FormTemplate.Json.Basic
import FormTemplate.Number.Decimal
import FormTemplate.Text.Hex

/-!
# Reading JSON text

The grammar is the strict one: no comments, no trailing commas, four white-space characters, no control
character inside a string. What is well formed and yet denotes no value is read as `Json.unusable`.

A real number is computed from at most nineteen or twenty leading digits and one multiplication or division by
a power of ten, each rounded once; this decides the last binary digit of long decimals.

* `Json.parse?` : the value of a whole text.
* `Json.parseUsable?` : the value of a whole text that is usable throughout.
* `Json.orRefusal` : what is read of a text, or what is said of its refusal.
-/

set_option autoImplicit false

namespace FormTemplate.Json

/-- The white space of JSON. -/
def isSpace (c : Char) : Bool := c == ' ' || c == '\n' || c == '\t' || c == '\r'

/-- A text without the white space at its start. -/
def skipSpace (s : List Char) : List Char := s.dropWhile isSpace

/-! ## Strings -/

/-- What stands between quotes: a character, or a code unit written in hexadecimal. -/
inductive StringPart where
  | char (c : Char)
  | unit (n : Nat)
  deriving DecidableEq, Repr

/-- The character of a one-letter escape. -/
def unescape? (c : Char) : Option Char :=
  if c == '"' || c == '\\' || c == '/' then some c
  else if c == 'b' then some '\x08'
  else if c == 'f' then some '\x0c'
  else if c == 'n' then some '\n'
  else if c == 'r' then some '\r'
  else if c == 't' then some '\t'
  else none

/-- The parts of a string up to its closing quote, and the text after the quote. -/
def readParts? : List Char → Option (List StringPart × List Char)
  | [] => none
  | '"' :: r => some ([], r)
  | '\\' :: 'u' :: a :: b :: c :: d :: r =>
    (Text.hexValue? [a, b, c, d]).bind fun n => (readParts? r).map fun (ps, rest) => (.unit n :: ps, rest)
  | '\\' :: e :: r => (unescape? e).bind fun c => (readParts? r).map fun (ps, rest) => (.char c :: ps, rest)
  | c :: r =>
    if c.toNat < 0x20 || c == '\\' then none
    else (readParts? r).map fun (ps, rest) => (.char c :: ps, rest)

/-- Whether a code unit is the first half of a pair. -/
def isHighSurrogate (n : Nat) : Bool := 0xD800 ≤ n && n ≤ 0xDBFF

/-- Whether a code unit is the second half of a pair. -/
def isLowSurrogate (n : Nat) : Bool := 0xDC00 ≤ n && n ≤ 0xDFFF

/-- The character of a pair of code units. -/
def pairChar (high low : Nat) : Char := Char.ofNat (0x10000 + (high - 0xD800) * 0x400 + (low - 0xDC00))

/-- The characters of the parts, unless half a pair stands alone. -/
def joinParts? : List StringPart → Option (List Char)
  | [] => some []
  | .char c :: r => (joinParts? r).map (c :: ·)
  | .unit m :: .unit n :: r =>
    if isHighSurrogate m && isLowSurrogate n then (joinParts? r).map (pairChar m n :: ·)
    else if isHighSurrogate m || isLowSurrogate m then none
    else (joinParts? (.unit n :: r)).map (Char.ofNat m :: ·)
  | .unit m :: r =>
    if isHighSurrogate m || isLowSurrogate m then none else (joinParts? r).map (Char.ofNat m :: ·)

/-- A string after its opening quote; its text is absent where half a pair stands alone. -/
def readString? (s : List Char) : Option (Option String × List Char) :=
  (readParts? s).map fun (ps, rest) => ((joinParts? ps).map String.ofList, rest)

/-! ## Numbers -/

/-- The parts of a written number. -/
structure Numeral where
  negative : Bool
  whole : List Char
  fraction : List Char
  /-- Sign and digits of the exponent. -/
  exponent : Option (Bool × List Char)
  /-- Whether the number has neither a fraction nor an exponent. -/
  isInteger : Bool
  deriving DecidableEq, Repr

/-- The greatest unsigned integer of sixty-four bits. -/
def maxUnsigned : Nat := UInt64.size - 1

/-- The greatest exponent that is computed with. -/
def maxExponentValue : Nat := 2147483647

/-- Appends digits to a number while it stays within sixty-four bits; gives the digits that are left. -/
def absorbDigits : Nat → List Char → Nat × List Char
  | n, [] => (n, [])
  | n, c :: r =>
    let next := 10 * n + Number.digitValue c
    if maxUnsigned < next then (n, c :: r) else absorbDigits next r

/-- The floating-point power of ten with an exponent up to 308. -/
def powerOfTen (k : Nat) : Number.Binary64 :=
  match Number.Binary64.ofDecimal false 1 k with
  | some p => p
  | none => .zero false

/-- Scales a number by a power of ten; nothing if the result is too large. Exponents below `-308` take several
divisions, after the third of which nothing is left. -/
def scaleByTen : Nat → Number.Binary64 → Int → Option Number.Binary64
  | steps, x, e =>
    if 0 ≤ e then
      if e ≤ 308 then x.mul (powerOfTen e.toNat) else if x.mantissa = 0 then some x else none
    else if -308 ≤ e then x.div (powerOfTen (-e).toNat)
    else if x.mantissa = 0 then some x
    else
      match steps with
      | 0 => some (.zero x.negative)
      | n + 1 => (x.div (powerOfTen 308)).bind fun y => scaleByTen n y (e + 308)

/-- The real number that a numeral denotes, if it is not too large. -/
def Numeral.real? (n : Numeral) : Option Number.Binary64 :=
  let (sig, dropped) := absorbDigits 0 n.whole
  let (sig, unread) := absorbDigits sig n.fraction
  let shift : Int := (dropped.length : Int) - (n.fraction.length - unread.length : Nat)
  let signed : Option Number.Binary64 → Option Number.Binary64 := fun x => x.map ({ · with negative := n.negative })
  match n.exponent with
  | none => signed ((Number.Binary64.ofRatio false sig 1).bind fun x => scaleByTen 3 x shift)
  | some (down, ds) =>
    let e := Number.digitsValue ds
    if maxExponentValue < e then
      if sig ≠ 0 && !down then none else some (.zero n.negative)
    else
      let e : Int := if down then shift - e else shift + e
      signed ((Number.Binary64.ofRatio false sig 1).bind fun x => scaleByTen 3 x e)

/-- The value of a numeral: an integer if it has no fraction and no exponent and fits, else a real number. -/
def Numeral.value (n : Numeral) : Json :=
  let m := Number.digitsValue n.whole
  if n.isInteger && !n.negative && m ≤ maxUnsigned then .num (.int m)
  else if n.isInteger && n.negative && m ≠ 0 && m ≤ UInt64.size / 2 then .num (.int (-m))
  else
    match n.real? with
    | some x => .num (.real x)
    | none => .unusable

/-- A run of digits at the start of a text, and the text after it. -/
def spanDigits (s : List Char) : List Char × List Char := (s.takeWhile Char.isDigit, s.dropWhile Char.isDigit)

/-- The digits before the point: a zero alone, or digits that do not start with one. -/
def readWhole? (s : List Char) : Option (List Char × List Char) :=
  match s with
  | '0' :: r => some (['0'], r)
  | _ =>
    let (ds, r) := spanDigits s
    if ds.isEmpty then none else some (ds, r)

/-- A numeral at the start of a text, and the text after it. -/
def readNumeral? (s : List Char) : Option (Numeral × List Char) := do
  let (negative, r) := match s with
    | '-' :: r => (true, r)
    | _ => (false, s)
  let (whole, r) ← readWhole? r
  let (fraction, r) ← match r with
    | '.' :: r =>
      let (ds, r) := spanDigits r
      if ds.isEmpty then none else some (ds, r)
    | _ => some ([], r)
  let (exponent, r) ← match r with
    | [] => some (none, r)
    | c :: t =>
      if c == 'e' || c == 'E' then
        let (down, t) := Number.splitSign t
        let (ds, t) := spanDigits t
        if ds.isEmpty then none else some (some (down, ds), t)
      else some (none, r)
  return (⟨negative, whole, fraction, exponent, fraction.isEmpty && exponent.isNone⟩, r)

/-! ## Values -/

/-- Steps over a word. -/
def readWord? (word : List Char) (s : List Char) : Option (List Char) :=
  if s.take word.length == word then some (s.drop word.length) else none

mutual

/-- A value at the start of a text, and the text after it. At least every second step takes a character, so
`fuel` beyond twice the length of the text is never used up. -/
def readValue? (fuel : Nat) (s : List Char) : Option (Json × List Char) :=
  match fuel with
  | 0 => none
  | fuel + 1 =>
    match skipSpace s with
    | [] => none
    | '"' :: r =>
      (readString? r).map fun (t, rest) => ((match t with | some t => .str t | none => .unusable), rest)
    | '[' :: r =>
      match skipSpace r with
      | ']' :: rest => some (.arr [], rest)
      | _ => (readItems? fuel r).map fun (vs, rest) => (.arr vs, rest)
    | '\x7b' :: r =>
      match skipSpace r with
      | '\x7d' :: rest => some (.obj [], rest)
      | _ =>
        (readMembers? fuel r).map fun (ms, rest) =>
          ((match ms with | some ms => .obj ms | none => .unusable), rest)
    | 'n' :: r => (readWord? ['u', 'l', 'l'] r).map fun rest => (.null, rest)
    | 't' :: r => (readWord? ['r', 'u', 'e'] r).map fun rest => (.bool true, rest)
    | 'f' :: r => (readWord? ['a', 'l', 's', 'e'] r).map fun rest => (.bool false, rest)
    | c :: r => (readNumeral? (c :: r)).map fun (n, rest) => (n.value, rest)

/-- The items of an array that has one, with the closing bracket. -/
def readItems? (fuel : Nat) (s : List Char) : Option (List Json × List Char) :=
  match fuel with
  | 0 => none
  | fuel + 1 =>
    (readValue? fuel s).bind fun (v, r) =>
      match skipSpace r with
      | ']' :: rest => some ([v], rest)
      | ',' :: rest => (readItems? fuel rest).map fun (vs, rest) => (v :: vs, rest)
      | _ => none

/-- The members of an object that has one, with the closing brace. The members are absent where a key has half
a surrogate pair. -/
def readMembers? (fuel : Nat) (s : List Char) : Option (Option (List (String × Json)) × List Char) :=
  match fuel with
  | 0 => none
  | fuel + 1 =>
    match skipSpace s with
    | '"' :: r =>
      (readString? r).bind fun (key, r) =>
        match skipSpace r with
        | ':' :: r =>
          (readValue? fuel r).bind fun (v, r) =>
            match skipSpace r with
            | '\x7d' :: rest => some (key.map fun k => [(k, v)], rest)
            | ',' :: rest =>
              (readMembers? fuel rest).map fun (ms, rest) =>
                (key.bind fun k => ms.map fun ms => (k, v) :: ms, rest)
            | _ => none
        | _ => none
    | _ => none

end

/-- The value of a whole text. -/
def parse? (s : List Char) : Option Json :=
  match readValue? (2 * s.length + 2) s with
  | some (v, rest) => if (skipSpace rest).isEmpty then some v else none
  | none => none

/-- The value of a whole text that is usable throughout and not nested too deeply. -/
def parseUsable? (s : List Char) : Option Json :=
  (parse? s).bind fun v => if v.fits maxDepth then some v else none

/-! ## Refusals -/

/-- What is said of a text that is refused. It leaves open what is wrong with the text, and where. -/
def refusal : String := "<json error>"

/-- What a text holds, or what is said of the text if it is refused. -/
def orRefusal {α : Type} : Option α → Except String α
  | some a => .ok a
  | none => .error refusal

@[simp] theorem orRefusal_some {α : Type} (a : α) : orRefusal (some a) = .ok a := rfl

@[simp] theorem orRefusal_none {α : Type} : orRefusal (none : Option α) = .error refusal := rfl

end FormTemplate.Json
