import FormTemplate.Number.Decimal
import FormTemplate.Text.Blank

/-!
# Calendar dates

Dates of the Gregorian calendar, extended to all years from `-262143` to `262142`. A date is written as year,
month and day joined by hyphens. White space may stand in front of each number. A year with a sign has any
number of digits, one without has at most four; months and days have at most two.

* `Date.read?` : the date that a text writes, with nothing after it.
* `Date.le` : the order of dates.
* `Date.dayNumber`, `Date.ofDayNumber` : days counted from the first of March of year zero.
-/

set_option autoImplicit false

namespace FormTemplate.Calendar

/-- A calendar date. -/
structure Date where
  year : Int
  month : Nat
  day : Nat
  deriving DecidableEq, Repr

/-- Whether a year has a twenty-ninth of February. -/
def isLeap (year : Int) : Bool := year % 4 == 0 && (year % 100 != 0 || year % 400 == 0)

/-- The number of days of a month. -/
def daysInMonth (year : Int) (month : Nat) : Nat :=
  match month with
  | 2 => if isLeap year then 29 else 28
  | 4 | 6 | 9 | 11 => 30
  | _ => 31

/-- The first and the last year. -/
def firstYear : Int := -262143
@[inherit_doc firstYear]
def lastYear : Int := 262142

namespace Date

/-- Whether the parts name a day of the calendar. -/
def isValid (d : Date) : Bool :=
  firstYear ≤ d.year && d.year ≤ lastYear && 1 ≤ d.month && d.month ≤ 12 && 1 ≤ d.day &&
    d.day ≤ daysInMonth d.year d.month

/-- The date with these parts, if there is one. -/
def ofParts? (year : Int) (month day : Nat) : Option Date :=
  let d : Date := ⟨year, month, day⟩
  if d.isValid then some d else none

/-- The order of dates. -/
def le (a b : Date) : Bool :=
  a.year < b.year || (a.year == b.year && (a.month < b.month || (a.month == b.month && a.day ≤ b.day)))

/-- The number of days since the first of March of year zero. -/
def dayNumber (d : Date) : Int :=
  let y : Int := if d.month ≤ 2 then d.year - 1 else d.year
  let m : Int := (d.month + 9) % 12
  let era := y / 400
  let yearOfEra := y % 400
  let dayOfYear := (153 * m + 2) / 5 + d.day - 1
  era * 146097 + (yearOfEra * 365 + yearOfEra / 4 - yearOfEra / 100 + dayOfYear)

/-- The date that many days after the first of March of year zero. -/
def ofDayNumber (n : Int) : Date :=
  let era := n / 146097
  let dayOfEra := n % 146097
  let yearOfEra := (dayOfEra - dayOfEra / 1460 + dayOfEra / 36524 - dayOfEra / 146096) / 365
  let dayOfYear := dayOfEra - (365 * yearOfEra + yearOfEra / 4 - yearOfEra / 100)
  let m := (5 * dayOfYear + 2) / 153
  let day := dayOfYear - (153 * m + 2) / 5 + 1
  let month := if m < 10 then m + 3 else m - 9
  ⟨yearOfEra + era * 400 + (if month ≤ 2 then 1 else 0), month.toNat, day.toNat⟩

end Date

/-! ## Reading -/

/-- A nonempty run of at most `limit` digits at the start of a text, and the text after it. -/
def readDigits? (limit : Nat) (s : List Char) : Option (Nat × List Char) :=
  let ds := (s.take limit).takeWhile Char.isDigit
  if ds.isEmpty then none else some (Number.digitsValue ds, s.drop ds.length)

/-- A run of digits of any length at the start of a text, and the text after it. -/
def readLongDigits? (s : List Char) : Option (Nat × List Char) := readDigits? s.length s

/-- A year: any number of digits after a sign, at most four without one. -/
def readYear? (s : List Char) : Option (Int × List Char) :=
  match Text.trimStart s with
  | '-' :: r => (readLongDigits? r).map fun (n, r) => (-(n : Int), r)
  | '+' :: r => (readLongDigits? r).map fun (n, r) => ((n : Int), r)
  | r => (readDigits? 4 r).map fun (n, r) => ((n : Int), r)

/-- A number of at most two digits, after white space. -/
def readPair? (s : List Char) : Option (Nat × List Char) := readDigits? 2 (Text.trimStart s)

/-- Steps over one given character. -/
def expect? (c : Char) : List Char → Option (List Char)
  | [] => none
  | d :: r => if d == c then some r else none

/-- A date at the start of a text, and the text after it. Where `loose` holds, white space may also stand in
front of the hyphens. -/
def readDatePart? (loose : Bool) (s : List Char) : Option (Date × List Char) := do
  let gap := fun r => if loose then Text.trimStart r else r
  let (year, r) ← readYear? s
  let r ← expect? '-' (gap r)
  let (month, r) ← readPair? r
  let r ← expect? '-' (gap r)
  let (day, r) ← readPair? r
  let date ← Date.ofParts? year month day
  return (date, r)

/-- The date that a whole text writes. -/
def Date.read? (s : List Char) : Option Date :=
  match readDatePart? false s with
  | some (d, []) => some d
  | _ => none

end FormTemplate.Calendar
