import FormTemplate.Calendar.Date
import FormTemplate.Field
import FormTemplate.Pattern

/-!
# Checking values

A value is checked against the constraints of its field in a fixed order: length, shape, type, pattern, least and
greatest value. The first that fails is reported. A value of white space alone passes always. A bound that
cannot be read in the data type of the field, and a pattern that is no regular expression, ask nothing.

* `comparable?` : the values with an order.
* `normalize` : a value as it is checked and stored.
* `validateWith`, `validate` : the outcome for a value, with and without a cache of patterns.
-/

set_option autoImplicit false

namespace FormTemplate

/-- A value that does not satisfy the constraints of its field. -/
structure Mismatch where
  slug : String
  message : String
  deriving DecidableEq, Repr

/-- The text of a mismatch. -/
def Mismatch.display (m : Mismatch) : String := m.slug ++ ": " ++ m.message

/-! ## Values -/

/-- A value as it is checked and stored: numbers and dates lose the white space around them. -/
def normalize (type : DataType) (value : String) : String :=
  match type with
  | .number | .date => Text.trim value
  | .text | .boolean => value

/-- A value with an order. -/
inductive Comparable where
  | number (x : Number.Binary64)
  | date (d : Calendar.Date)
  deriving DecidableEq, Repr

/-- The order of two values of one sort. -/
def Comparable.le : Comparable → Comparable → Bool
  | .number x, .number y => x.le y
  | .date c, .date d => c.le d
  | _, _ => false

/-- The value that a text writes in a data type: a finite number or a calendar date. White space around it does
not matter. -/
def comparable? (type : DataType) (text : String) : Option Comparable :=
  match type with
  | .number => (Number.readFinite? (Text.trimChars text.toList)).map .number
  | .date => (Calendar.Date.read? (Text.trimChars text.toList)).map .date
  | .text | .boolean => none

/-! ## Shapes -/

/-- Whether a character can stand in the parts of an address. -/
def isAddressChar (c : Char) : Bool := c != '@' && !Text.isBlank c

/-- Two parts around an at sign, without white space, the second with a dot inside. -/
def isEmail (s : List Char) : Bool :=
  match s.dropWhile isAddressChar with
  | '@' :: domain =>
    !(s.takeWhile isAddressChar).isEmpty && domain.all isAddressChar && (domain.drop 1).dropLast.contains '.'
  | _ => false

/-- Steps over the scheme of a web address, in any case. The long s counts as an `s`. -/
def afterScheme? (s : List Char) : Option (List Char) :=
  match s with
  | h :: t₁ :: t₂ :: p :: r =>
    if h.toLower == 'h' && t₁.toLower == 't' && t₂.toLower == 't' && p.toLower == 'p' then
      match r with
      | ':' :: '/' :: '/' :: rest => some rest
      | c :: ':' :: '/' :: '/' :: rest => if c.toLower == 's' || c == '\u017f' then some rest else none
      | _ => none
    else none
  | _ => none

/-- A scheme and a text without white space that starts with none of a few signs. -/
def isUrl (s : List Char) : Bool :=
  match afterScheme? s with
  | some (c :: rest) =>
    !(Text.isBlank c || c == '/' || c == '$' || c == '.' || c == '?' || c == '#') && !rest.any Text.isBlank
  | _ => false

/-! ## Checks -/

/-- The mismatch of a field. -/
def Field.mismatch (f : Field) (message : String) : Mismatch := ⟨f.slug, message⟩

/-- What is wrong with the length of a value. -/
def Field.lengthFault? (f : Field) (value : String) : Option Mismatch :=
  match f.constraints.length with
  | some max =>
    if max.toNat < value.length then
      some (f.mismatch (f.label ++ " must be at most " ++ max.toNat.repr ++ " characters"))
    else none
  | none => none

/-- What is wrong with the shape of a value. -/
def Field.shapeFault? (f : Field) (value : String) : Option Mismatch :=
  match f.kind with
  | .email =>
    if isEmail (Text.trimChars value.toList) then none
    else some (f.mismatch (f.label ++ " must be an email address"))
  | .url =>
    if isUrl (Text.trimChars value.toList) then none
    else some (f.mismatch (f.label ++ " must be a web address"))
  | _ => none

/-- What is wrong with the type of a value. -/
def Field.typeFault? (f : Field) (value : String) : Option Mismatch :=
  match f.dataType with
  | .number =>
    if (comparable? .number value).isSome then none else some (f.mismatch (f.label ++ " must be a number"))
  | .date =>
    if (comparable? .date value).isSome then none
    else some (f.mismatch (f.label ++ " must be a date (YYYY-MM-DD)"))
  | .text | .boolean => none

/-- What is wrong with a value that a compiled pattern, if there is one, does not match. -/
def Field.patternFault? (f : Field) (regex : Option Pattern.Regex) (value : String) : Option Mismatch :=
  match regex with
  | none => none
  | some r =>
    if r.search value.toList then none
    else
      some (f.mismatch (f.constraints.patternMessage.getD (f.label ++ " does not match the expected format")))

/-- What is wrong with a value below the least one. -/
def Field.minimumFault? (f : Field) (value : Comparable) : Option Mismatch :=
  match f.constraints.minimum with
  | none => none
  | some text =>
    match comparable? f.dataType text with
    | none => none
    | some bound =>
      if bound.le value then none else some (f.mismatch (f.label ++ " must be at least " ++ text))

/-- What is wrong with a value above the greatest one. -/
def Field.maximumFault? (f : Field) (value : Comparable) : Option Mismatch :=
  match f.constraints.maximum with
  | none => none
  | some text =>
    match comparable? f.dataType text with
    | none => none
    | some bound =>
      if value.le bound then none else some (f.mismatch (f.label ++ " must be at most " ++ text))

/-- What is wrong with a value outside its bounds. -/
def Field.boundsFault? (f : Field) (value : String) : Option Mismatch :=
  match comparable? f.dataType value with
  | none => none
  | some v => (f.minimumFault? v).or (f.maximumFault? v)

/-- The compiled pattern of a field, and the cache that knows it. -/
def Field.pattern (f : Field) (cache : PatternCache) : Option Pattern.Regex × PatternCache :=
  match f.constraints.pattern with
  | none => (none, cache)
  | some p => cache.get p

/-- The outcome for a value, and the cache behind it. -/
def validateWith (f : Field) (value : String) (cache : PatternCache) : Except Mismatch Unit × PatternCache :=
  if Text.isBlankText value then (.ok (), cache)
  else
    match ((f.lengthFault? value).or (f.shapeFault? value)).or (f.typeFault? value) with
    | some m => (.error m, cache)
    | none =>
      let (regex, cache) := f.pattern cache
      match (f.patternFault? regex value).or (f.boundsFault? value) with
      | some m => (.error m, cache)
      | none => (.ok (), cache)

/-- The outcome for a value. -/
def validate (f : Field) (value : String) : Except Mismatch Unit := (validateWith f value {}).1

end FormTemplate
