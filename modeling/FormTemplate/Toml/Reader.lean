import FormTemplate.Toml.Scalar

/-!
# Reading TOML

A text is a sequence of lines; a value may span several. Spaces and tabs, and a comment at the end of a line, do
not matter. A byte order mark may come first.

* `Toml.readKey?` : a key, dotted or not.
* `Toml.readValue?` : a value, with the arrays and tables inside it.
* `Toml.parse?` : the entries of a whole text.
-/

set_option autoImplicit false

namespace FormTemplate.Toml

/-! ## Keys -/

/-- The characters of keys without quotes. -/
def isBareChar (c : Char) : Bool := c.isAlphanum || c == '_' || c == '-'

/-- The number of parts of a key and the levels of arrays and tables in a value stay below this. -/
def maxLevels : Nat := 80

/-- One part of a key. -/
def readPart? (s : List Char) : Option (String × List Char) :=
  match s with
  | '"' :: _ | '\'' :: _ => (readShort? s).map fun (t, r) => (String.ofList t, r)
  | _ =>
    let part := s.takeWhile isBareChar
    if part.isEmpty then none else some (String.ofList part, s.dropWhile isBareChar)

/-- The parts of a key with dots between them, and the text after the spaces behind it. -/
def readParts? : Nat → List Char → Option (List String × List Char)
  | 0, _ => none
  | n + 1, s => do
    let (part, r) ← readPart? (skipSpaces s)
    match skipSpaces r with
    | '.' :: r =>
      let (parts, r) ← readParts? n r
      return (part :: parts, r)
    | r => return ([part], r)

/-- A key as the parts before the last one and the last part. -/
def readKey? (s : List Char) : Option (List String × String × List Char) := do
  let (parts, r) ← readParts? (maxLevels - 1) s
  let last ← parts.getLast?
  return (parts.dropLast, last, r)

/-! ## Values -/

/-- The text after a comment. -/
def afterComment? : List Char → Option (List Char)
  | '#' :: r =>
    let rest := r.dropWhile (fun c => c != '\n' && c != '\r')
    if (r.take (r.length - rest.length)).all isPrintable then some rest else none
  | s => some s

/-- The text after the spaces, line breaks and comments at its start. -/
def skipLines? : Nat → List Char → Option (List Char)
  | 0, s => some s
  | n + 1, s => do
    let r ← afterComment? (skipSpaces s)
    match afterBreak? r with
    | some r => skipLines? n r
    | none => return r

/-- What stands between the items of an array. -/
def skipGap? (s : List Char) : Option (List Char) := skipLines? (s.length + 1) s

/-- A truth value. -/
def readBoolean? : List Char → Option (Toml × List Char)
  | 't' :: 'r' :: 'u' :: 'e' :: r => some (.boolean true, r)
  | 'f' :: 'a' :: 'l' :: 's' :: 'e' :: r => some (.boolean false, r)
  | _ => none

/-- A value without values inside. -/
def readScalar? (s : List Char) : Option (Toml × List Char) :=
  ((((readString? s).map fun (t, r) => (Toml.string (String.ofList t), r)).or (readBoolean? s)).or
    (readDateTime? s)).or ((readFloat? s).or (readInteger? s))

mutual

/-- A value at the start of a text, below `levels` levels; each step takes a character. -/
def readValue? (fuel levels : Nat) (s : List Char) : Option (Toml × List Char) :=
  match fuel with
  | 0 => none
  | fuel + 1 =>
    match s with
    | '[' :: r =>
      if maxLevels ≤ levels + 1 then none
      else (readItems? fuel (levels + 1) r).map fun (items, r) => (.array items, r)
    | '\x7b' :: r =>
      if maxLevels ≤ levels + 1 then none
      else
        match skipSpaces r with
        | '\x7d' :: r => some (.table .braced [], r)
        | r => (readMembers? fuel (levels + 1) (.braced, []) r).map fun (t, r) => (.table t.1 t.2, r)
    | _ => readScalar? s

/-- The items of an array with the closing bracket; a comma may follow the last item. -/
def readItems? (fuel levels : Nat) (s : List Char) : Option (List Toml × List Char) :=
  match fuel with
  | 0 => none
  | fuel + 1 =>
    (skipGap? s).bind fun s =>
      match s with
      | ']' :: r => some ([], r)
      | s =>
        (readValue? fuel levels s).bind fun (v, r) =>
          (skipGap? r).bind fun r =>
            match r with
            | ']' :: r => some ([v], r)
            | ',' :: r => (readItems? fuel levels r).map fun (vs, r) => (v :: vs, r)
            | _ => none

/-- The members of a table with the closing brace, added to a table; there is at least one. -/
def readMembers? (fuel levels : Nat) (t : Table) (s : List Char) : Option (Table × List Char) :=
  match fuel with
  | 0 => none
  | fuel + 1 =>
    (readKey? s).bind fun (parents, key, r) =>
      match r with
      | '=' :: r =>
        (readValue? fuel levels (skipSpaces r)).bind fun (v, r) =>
          (t.add parents key v).bind fun t =>
            match skipSpaces r with
            | '\x7d' :: r => some (t, r)
            | ',' :: r => readMembers? fuel levels t r
            | _ => none
      | _ => none

end

/-! ## Lines -/

/-- The text after the end of a line, behind which only a comment may stand. -/
def afterLine? (s : List Char) : Option (List Char) :=
  (afterComment? (skipSpaces s)).bind fun r => if r.isEmpty then some [] else afterBreak? r

/-- The tables after one more line, and the text behind it. -/
def readLine? (d : Draft) (s : List Char) : Option (Draft × List Char) :=
  match s with
  | '[' :: '[' :: r => do
    let (parents, key, r) ← readKey? r
    match r with
    | ']' :: ']' :: r => return (← d.startItem parents key, ← afterLine? r)
    | _ => none
  | '[' :: r => do
    let (parents, key, r) ← readKey? r
    match r with
    | ']' :: r => return (← d.startTable parents key, ← afterLine? r)
    | _ => none
  | _ => do
    let (parents, key, r) ← readKey? s
    match r with
    | '=' :: r =>
      let r := skipSpaces r
      let (v, r) ← readValue? (r.length + 1) 0 r
      return (← d.add parents key v, ← afterLine? r)
    | _ => none

/-- The tables of all lines of a text; each line takes a character. -/
def readAll? : Nat → Draft → List Char → Option Draft
  | 0, _, _ => none
  | n + 1, d, s => do
    let r ← afterComment? (skipSpaces s)
    match afterBreak? r with
    | some r => readAll? n d r
    | none =>
      if r.isEmpty then return d
      else
        let (d, r) ← readLine? d r
        readAll? n d r

/-- The entries of a whole text. -/
def parse? (s : List Char) : Option (List (String × Toml)) :=
  let s := match s with
    | '\ufeff' :: r => r
    | _ => s
  ((readAll? (s.length + 1) {} s).bind Draft.close).map (·.2)

end FormTemplate.Toml
