import FormTemplate.Calendar.Date
import FormTemplate.Number.Shortest

/-!
# Timestamps

An instant in universal time, as the date, the time of day and a fraction of a second. A leap second belongs to the
second before it, whose fraction then goes on beyond the whole second; it is written as a second of its own, the
sixtieth at the end of a minute. A written timestamp carries an offset from universal time; reading removes it.

* `Timestamp.read?` : the instant that a text writes. The date and the time of day are separated by `T`, `t`
  or a space, and white space may stand in front of each number and separator.
* `Timestamp.ofClock` : the instant of a system clock.
* `Timestamp.render` : the text of an instant, with as many triples of fraction digits as it needs.
-/

set_option autoImplicit false

namespace FormTemplate.Calendar

/-- An instant in universal time. -/
structure Timestamp where
  date : Date
  hour : Fin 24
  minute : Fin 60
  second : Fin 60
  /-- The fraction of the second, which in a leap second is a whole second or more. -/
  nanosecond : Fin 2000000000
  deriving DecidableEq, Repr

/-- The start of 1970, from which clocks count. -/
def Timestamp.epoch : Timestamp := ⟨⟨1970, 1, 1⟩, 0, 0, 0, 0⟩

/-! ## Reading -/

/-- A fraction of a second in nanoseconds; digits after the ninth are dropped. -/
def readFraction? (s : List Char) : Option (Nat × List Char) :=
  match s with
  | '.' :: r =>
    (readDigits? 9 r).map fun (n, rest) =>
      (n * Number.tenTo (9 - (r.length - rest.length)), rest.dropWhile Char.isDigit)
  | _ => some (0, s)

/-- Two digits with nothing in front of them. -/
def readTwo? : List Char → Option (Nat × List Char)
  | a :: b :: r => if a.isDigit && b.isDigit then some (Number.digitsValue [a, b], r) else none
  | _ => none

/-- The hours and minutes of an offset, in minutes. -/
def readOffsetMinutes? (s : List Char) : Option (Nat × List Char) := do
  let (hours, r) ← readTwo? s
  let r := r.dropWhile fun c => c == ':' || Text.isBlank c
  let (minutes, r) ← readTwo? r
  if 60 ≤ minutes || 24 ≤ hours then none else return (60 * hours + minutes, r)

/-- An offset from universal time in minutes: `Z`, the word for universal time, or signed hours and minutes. -/
def readOffset? (s : List Char) : Option (Int × List Char) :=
  if (s.take 3).map Char.toUpper == ['U', 'T', 'C'] then some (0, s.drop 3)
  else
    match s with
    | 'Z' :: r | 'z' :: r => some (0, r)
    | '+' :: r => (readOffsetMinutes? r).map fun (n, r) => ((n : Int), r)
    | '-' :: r | '\u2212' :: r => (readOffsetMinutes? r).map fun (n, r) => (-(n : Int), r)
    | _ => none

/-- The second and the fraction that a written second and a written fraction stand for. -/
def secondOf? (second nanosecond : Nat) : Option (Fin 60 × Fin 2000000000) :=
  if hfraction : nanosecond < 1000000000 then
    if hsecond : second < 60 then some (⟨second, hsecond⟩, ⟨nanosecond, by omega⟩)
    else if second = 60 then some (59, ⟨1000000000 + nanosecond, by omega⟩)
    else none
  else none

/-- The instant whose local date and time of day have an offset in minutes. -/
def Timestamp.ofLocal? (date : Date) (hour minute : Nat) (second : Fin 60) (nanosecond : Fin 2000000000)
    (offset : Int) : Option Timestamp :=
  let minutes : Int := 60 * hour + minute - offset
  let day := date.dayNumber + minutes / 1440
  let ofDay : Fin 1440 := ⟨(minutes % 1440).toNat, by omega⟩
  let date := if minutes / 1440 = 0 then date else Date.ofDayNumber day
  if date.isValid then some ⟨date, ⟨ofDay / 60, by omega⟩, ⟨ofDay % 60, by omega⟩, second, nanosecond⟩ else none

/-- The instant that a whole text writes; white space may follow. -/
def Timestamp.read? (s : List Char) : Option Timestamp := do
  let (date, r) ← readDatePart? true s
  let r ← match r with
    | 'T' :: r | 't' :: r | ' ' :: r => some r
    | _ => none
  let (hour, r) ← readPair? r
  let r ← expect? ':' (Text.trimStart r)
  let (minute, r) ← readPair? r
  let r ← expect? ':' (Text.trimStart r)
  let (second, r) ← readPair? r
  let (nanosecond, r) ← readFraction? r
  let (offset, r) ← readOffset? (Text.trimStart r)
  let (second, nanosecond) ← secondOf? second nanosecond
  if 24 ≤ hour || 60 ≤ minute || !(Text.trimStart r).isEmpty then none
  else Timestamp.ofLocal? date hour minute second nanosecond offset

/-- The instant a number of nanoseconds after the start of 1970. -/
def Timestamp.ofClock (nanoseconds : Int) : Timestamp :=
  let seconds := nanoseconds / 1000000000
  let ofDay : Fin 86400 := ⟨(seconds % 86400).toNat, by omega⟩
  { date := Date.ofDayNumber (epoch.date.dayNumber + seconds / 86400)
    hour := ⟨ofDay / 3600, by omega⟩
    minute := ⟨ofDay / 60 % 60, by omega⟩
    second := ⟨ofDay % 60, by omega⟩
    nanosecond := ⟨(nanoseconds % 1000000000).toNat, by omega⟩ }

/-! ## Writing -/

/-- A number in at least `width` digits. -/
def padded (width n : Nat) : List Char :=
  let ds := Number.natText n
  List.replicate (width - ds.length) '0' ++ ds

/-- A year: four digits, or a sign and at least four digits outside the years 0 to 9999. -/
def yearText (y : Int) : List Char :=
  if 0 ≤ y && y ≤ 9999 then padded 4 y.natAbs
  else (if y < 0 then '-' else '+') :: padded 4 y.natAbs

/-- A fraction of a second in no, three, six or nine digits. -/
def fractionText (nanosecond : Nat) : List Char :=
  if nanosecond = 0 then []
  else if nanosecond % 1000000 = 0 then '.' :: padded 3 (nanosecond / 1000000)
  else if nanosecond % 1000 = 0 then '.' :: padded 6 (nanosecond / 1000)
  else '.' :: padded 9 nanosecond

/-- The second and the fraction that are written of an instant: in a leap second, those of the second after it. -/
def Timestamp.writtenSecond (t : Timestamp) : Nat × Nat :=
  if t.nanosecond.val < 1000000000 then (t.second.val, t.nanosecond.val)
  else (t.second.val + 1, t.nanosecond.val - 1000000000)

/-- The text of an instant. -/
def Timestamp.render (t : Timestamp) : List Char :=
  yearText t.date.year ++ '-' :: padded 2 t.date.month ++ '-' :: padded 2 t.date.day ++
    'T' :: padded 2 t.hour ++ ':' :: padded 2 t.minute ++ ':' :: padded 2 t.writtenSecond.1 ++
    fractionText t.writtenSecond.2 ++ ['Z']

end FormTemplate.Calendar
