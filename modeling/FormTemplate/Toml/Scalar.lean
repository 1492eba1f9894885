import FormTemplate.Calendar.Date
import FormTemplate.Text.Hex
import FormTemplate.Toml.Basic

/-!
# TOML strings, numbers, dates and times

Each reader takes what it reads from the start of a text and gives the rest.

* `Toml.readString?` : the four kinds of strings.
* `Toml.readDateTime?`, `Toml.readFloat?`, `Toml.readInteger?` : what starts with a digit or a sign.
-/

set_option autoImplicit false

namespace FormTemplate.Toml

/-! ## Characters -/

/-- Spaces and tabs. -/
def isSpace (c : Char) : Bool := c == ' ' || c == '\t'

/-- The characters of comments and strings: all but control characters, of which only the tab is one. -/
def isPrintable (c : Char) : Bool := c == '\t' || (' ' ≤ c && c != '\x7f')

/-- A text without the spaces and tabs at its start. -/
def skipSpaces (s : List Char) : List Char := s.dropWhile isSpace

/-- The text after a line break. -/
def afterBreak? : List Char → Option (List Char)
  | '\n' :: r => some r
  | '\r' :: '\n' :: r => some r
  | _ => none

/-! ## Strings -/

/-- The character of an escape, after the backslash. -/
def readEscape? : List Char → Option (Char × List Char)
  | 'b' :: r => some ('\x08', r)
  | 't' :: r => some ('\t', r)
  | 'n' :: r => some ('\n', r)
  | 'f' :: r => some ('\x0c', r)
  | 'r' :: r => some ('\r', r)
  | '"' :: r => some ('"', r)
  | '\\' :: r => some ('\\', r)
  | 'u' :: r => readCode? 4 r
  | 'U' :: r => readCode? 8 r
  | _ => none
where
  /-- The character with a number of some hexadecimal digits. -/
  readCode? (digits : Nat) (r : List Char) : Option (Char × List Char) :=
    if r.length < digits then none
    else
      (Text.hexValue? (r.take digits)).bind fun n =>
        if n.isValidChar then some (Char.ofNat n, r.drop digits) else none

/-- The characters up to the quote that closes a string on one line. -/
def readBasic? : Nat → List Char → Option (List Char × List Char)
  | 0, _ => none
  | _ + 1, [] => none
  | _ + 1, '"' :: r => some ([], r)
  | n + 1, '\\' :: r => do
    let (c, r) ← readEscape? r
    let (t, r) ← readBasic? n r
    return (c :: t, r)
  | n + 1, c :: r => if isPrintable c then (readBasic? n r).map fun (t, r) => (c :: t, r) else none

/-- The characters up to the apostrophe that closes a string on one line. -/
def readLiteral? (s : List Char) : Option (List Char × List Char) :=
  let text := s.takeWhile (· != '\'')
  match s.dropWhile (· != '\'') with
  | [] => none
  | _ :: r => if text.all isPrintable then some (text, r) else none

/-- The text after the white space and the line breaks at its start. -/
def skipBreaks : Nat → List Char → List Char
  | 0, s => s
  | n + 1, s =>
    match afterBreak? (skipSpaces s) with
    | some r => skipBreaks n r
    | none => skipSpaces s

/-- The text after a backslash that ends a line, and after the white space in front of the next character. -/
def afterContinuation? (s : List Char) : Option (List Char) :=
  (afterBreak? (skipSpaces s)).map fun r => skipBreaks (r.length + 1) r

/-- Closes a string of several lines, behind three quotes: up to two more belong to it. -/
def closeLines (quote : Char) : List Char → List Char × List Char
  | a :: b :: r =>
    if a == quote && b == quote then ([a, b], r) else if a == quote then ([a], b :: r) else ([], a :: b :: r)
  | [a] => if a == quote then ([a], []) else ([], [a])
  | [] => ([], [])

/-- The characters up to the quotes that close a string of several lines; `escapes` holds for the kind with
escapes. -/
def readLines? (quote : Char) (escapes : Bool) : Nat → List Char → Option (List Char × List Char)
  | 0, _ => none
  | _ + 1, [] => none
  | n + 1, c :: r =>
    if [c, c, c].isPrefixOf (c :: r) && c == quote then some (closeLines quote (r.drop 2))
    else if escapes && c == '\\' then
      match afterContinuation? r with
      | some r => readLines? quote escapes n r
      | none => do
        let (d, r) ← readEscape? r
        let (t, r) ← readLines? quote escapes n r
        return (d :: t, r)
    else
      match afterBreak? (c :: r) with
      | some r => (readLines? quote escapes n r).map fun (t, r) => ('\n' :: t, r)
      | none => if isPrintable c then (readLines? quote escapes n r).map fun (t, r) => (c :: t, r) else none

/-- A string of several lines, without the line break that it starts with. -/
def readAllLines? (quote : Char) (escapes : Bool) (s : List Char) : Option (List Char × List Char) :=
  let s := (afterBreak? s).getD s
  readLines? quote escapes (s.length + 1) s

/-- A string on one line. -/
def readShort? : List Char → Option (List Char × List Char)
  | '"' :: r => readBasic? (r.length + 1) r
  | '\'' :: r => readLiteral? r
  | _ => none

/-- A string of any kind. -/
def readString? : List Char → Option (List Char × List Char)
  | '"' :: '"' :: '"' :: r => readAllLines? '"' true r
  | '\'' :: '\'' :: '\'' :: r => readAllLines? '\'' false r
  | s => readShort? s

/-! ## Numbers -/

/-- Digits, of which each pair may have an underscore between them; they are given without underscores. -/
def readDigits (isDigit : Char → Bool) : List Char → List Char × List Char
  | [] => ([], [])
  | [c] => if isDigit c then ([c], []) else ([], [c])
  | c :: d :: r =>
    if !isDigit c then ([], c :: d :: r)
    else if d == '_' && (r.head?.map isDigit).getD false then
      let (t, rest) := readDigits isDigit r
      (c :: t, rest)
    else
      let (t, rest) := readDigits isDigit (d :: r)
      (c :: t, rest)

/-- Digits, at least one. -/
def readSomeDigits? (isDigit : Char → Bool) (s : List Char) : Option (List Char × List Char) :=
  match readDigits isDigit s with
  | ([], _) => none
  | result => some result

/-- A sign, if there is one. -/
def readSign : List Char → List Char × List Char
  | '+' :: r => (['+'], r)
  | '-' :: r => (['-'], r)
  | r => ([], r)

/-- A sign, if there is one, and decimal digits; a zero in front of others stands for itself. -/
def readDecimal? (s : List Char) : Option (List Char × List Char) :=
  match readSign s with
  | (sign, '0' :: r) => some (sign ++ ['0'], r)
  | (sign, r) => (readSomeDigits? Char.isDigit r).map fun (ds, r) => (sign ++ ds, r)

/-- Steps over one of some characters. -/
def readOneOf? (cs : List Char) : List Char → Option (Char × List Char)
  | [] => none
  | c :: r => if cs.contains c then some (c, r) else none

/-- The fraction of a number, with its point. -/
def readFraction? (s : List Char) : Option (List Char × List Char) := do
  let (point, r) ← readOneOf? ['.'] s
  let (ds, r) ← readSomeDigits? Char.isDigit r
  return (point :: ds, r)

/-- The exponent of a number, with its letter. -/
def readExponent? (s : List Char) : Option (List Char × List Char) := do
  let (letter, r) ← readOneOf? ['e', 'E'] s
  let (sign, r) := readSign r
  let (ds, r) ← readSomeDigits? Char.isDigit r
  return (letter :: sign ++ ds, r)

/-- A number with a fraction or an exponent. One above the range of the format is refused. -/
def readPlainFloat? (s : List Char) : Option (Toml × List Char) := do
  let (whole, r) ← readDecimal? s
  let (tail, r) ← match readFraction? r with
    | none => readExponent? r
    | some (fraction, r) =>
      match readExponent? r with
      | none => some (fraction, r)
      | some (exponent, r) => some (fraction ++ exponent, r)
  let text := whole ++ tail
  if text.head? == some '-' || (Number.readFinite? text).isSome then
    return (.float (String.ofList text), r)
  else none

/-- A number with a fraction or an exponent, an infinity or what is no number. -/
def readFloat? (s : List Char) : Option (Toml × List Char) :=
  match readPlainFloat? s with
  | some result => some result
  | none =>
    match readSign s with
    | (sign, 'i' :: 'n' :: 'f' :: r) => some (.float (String.ofList (sign ++ ['i', 'n', 'f'])), r)
    | (sign, 'n' :: 'a' :: 'n' :: r) => some (.float (String.ofList (sign ++ ['n', 'a', 'n'])), r)
    | _ => none

/-- The number of digits in a base. -/
def digitsValueIn (base : Nat) (ds : List Char) : Nat :=
  ds.foldl (fun n c => base * n + (Text.hexDigit? c).getD 0) 0

/-- An integer of sixty-four bits with a sign. -/
def ofInt? (n : Int) : Option Toml := if Int64.minValue.toInt ≤ n && n ≤ Int64.maxValue.toInt then some (.integer n) else none

/-- An integer in a base, after the sign of the base. -/
def readBased? (base : Nat) (isDigit : Char → Bool) (s : List Char) : Option (Toml × List Char) := do
  let (ds, r) ← readSomeDigits? isDigit s
  return (← ofInt? (digitsValueIn base ds), r)

/-- An integer. -/
def readInteger? : List Char → Option (Toml × List Char)
  | '0' :: 'x' :: r => readBased? 16 (fun c => (Text.hexDigit? c).isSome) r
  | '0' :: 'o' :: r => readBased? 8 (fun c => '0' ≤ c && c ≤ '7') r
  | '0' :: 'b' :: r => readBased? 2 (fun c => c == '0' || c == '1') r
  | s => do
    let (text, r) ← readDecimal? s
    let (negative, ds) := match text with
      | '-' :: ds => (true, ds)
      | '+' :: ds => (false, ds)
      | ds => (false, ds)
    let n : Int := digitsValueIn 10 ds
    return (← ofInt? (if negative then -n else n), r)

/-! ## Dates and times -/

/-- A number of exactly so many digits. -/
def readFixed? (digits : Nat) (s : List Char) : Option (Nat × List Char) :=
  if digits ≤ s.length && (s.take digits).all Char.isDigit then
    some (Number.digitsValue (s.take digits), s.drop digits)
  else none

/-- A number of two digits in a range. -/
def readTwo? (least greatest : Nat) (s : List Char) : Option (Nat × List Char) :=
  (readFixed? 2 s).filter fun (n, _) => least ≤ n && n ≤ greatest

/-- The text after a date. -/
def afterDate? (s : List Char) : Option (List Char) := do
  let (year, r) ← readFixed? 4 s
  let (_, r) ← readOneOf? ['-'] r
  let (month, r) ← readTwo? 1 12 r
  let (_, r) ← readOneOf? ['-'] r
  let (day, r) ← readTwo? 1 31 r
  if day ≤ Calendar.daysInMonth year month then return r else none

/-- The text after a fraction of a second, if there is one. -/
def afterSecondFraction (s : List Char) : List Char :=
  match s with
  | '.' :: r => if (r.takeWhile Char.isDigit).isEmpty then s else r.dropWhile Char.isDigit
  | _ => s

/-- The text after a time of day. -/
def afterTime? (s : List Char) : Option (List Char) := do
  let (_, r) ← readTwo? 0 23 s
  let (_, r) ← readOneOf? [':'] r
  let (_, r) ← readTwo? 0 59 r
  let (_, r) ← readOneOf? [':'] r
  let (_, r) ← readTwo? 0 60 r
  return afterSecondFraction r

/-- The text after an offset from universal time. -/
def afterOffset? (s : List Char) : Option (List Char) :=
  match readOneOf? ['Z', 'z', '+', '-'] s with
  | none => none
  | some (c, r) =>
    if c == 'Z' || c == 'z' then some r
    else do
      let (_, r) ← readTwo? 0 23 r
      let (_, r) ← readOneOf? [':'] r
      let (_, r) ← readTwo? 0 59 r
      return r

/-- The text after a time of day and an offset that belong to a date. -/
def afterTimeOfDate? (s : List Char) : Option (List Char) := do
  let (_, r) ← readOneOf? ['T', 't', ' '] s
  let r ← afterTime? r
  return (afterOffset? r).getD r

/-- A date, a time of day or both. -/
def readDateTime? (s : List Char) : Option (Toml × List Char) := do
  let r ← match afterDate? s with
    | some r => some ((afterTimeOfDate? r).getD r)
    | none => afterTime? s
  return (.dateTime (String.ofList (s.take (s.length - r.length))), r)

end FormTemplate.Toml
