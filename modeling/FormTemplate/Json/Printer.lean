import FormTemplate.Dict
import FormTemplate.Json.Basic
import FormTemplate.Number.Shortest
import FormTemplate.Text.Hex
import FormTemplate.Text.Join

/-!
# JSON text of a value

The compact form has no white space. The indented form has one member or item on each line, two spaces deeper
than what encloses it. A string escapes the quote, the backslash and control characters, and nothing else.

* `Json.compact`, `Json.pretty` : the two forms.
* `Json.stringText` : a quoted string.
* `Json.canonical` : a value with sorted keys, where the last of several equal keys counts.
-/

set_option autoImplicit false

namespace FormTemplate.Json

/-- A real number is positional from `0.00001` to below `10 ^ 16`; other exponents carry their sign. -/
def numberFormat : Number.NumberFormat := ⟨-5, 16, true⟩

/-- The text of a number. -/
def numberText : JsonNumber → List Char
  | .int n => Number.intText n
  | .real x => numberFormat.render x

/-- The short escape of a control character that has one. -/
def shortEscape? (c : Char) : Option Char :=
  if c == '\x08' then some 'b'
  else if c == '\t' then some 't'
  else if c == '\n' then some 'n'
  else if c == '\x0c' then some 'f'
  else if c == '\r' then some 'r'
  else none

/-- A control character between quotes. -/
def escapeControl (c : Char) : List Char :=
  match shortEscape? c with
  | some e => ['\\', e]
  | none => '\\' :: 'u' :: Text.hexLower4 c.toNat

/-- A character between quotes. -/
def escapeChar (c : Char) : List Char :=
  if c == '"' || c == '\\' then ['\\', c]
  else if c.toNat < 0x20 then escapeControl c
  else [c]

/-- A text between quotes, with a rule for its characters. -/
def quote (escape : Char → List Char) (s : List Char) : List Char := '"' :: s.flatMap escape ++ ['"']

/-- The text of a string. -/
def stringText (s : String) : List Char := quote escapeChar s.toList

mutual

/-- The text of a value without white space. -/
def compact : Json → List Char
  | .null | .unusable => ['n', 'u', 'l', 'l']
  | .bool true => ['t', 'r', 'u', 'e']
  | .bool false => ['f', 'a', 'l', 's', 'e']
  | .num n => numberText n
  | .str s => stringText s
  | .arr items => '[' :: Text.join [','] (compactItems items) ++ [']']
  | .obj members => '\x7b' :: Text.join [','] (compactMembers members) ++ ['\x7d']

@[inherit_doc compact]
def compactItems : List Json → List (List Char)
  | [] => []
  | v :: r => compact v :: compactItems r

@[inherit_doc compact]
def compactMembers : List (String × Json) → List (List Char)
  | [] => []
  | (k, v) :: r => (stringText k ++ ':' :: compact v) :: compactMembers r

end

/-- The start of a line at a depth. -/
def newLine (depth : Nat) : List Char := '\n' :: List.replicate (2 * depth) ' '

mutual

/-- The text of a value with a line for each member and item; `depth` is the depth of the value itself. -/
def prettyAt (depth : Nat) : Json → List Char
  | .arr [] => ['[', ']']
  | .arr items =>
    '[' :: newLine (depth + 1) ++ Text.join (',' :: newLine (depth + 1)) (prettyItems (depth + 1) items) ++
      newLine depth ++ [']']
  | .obj [] => ['\x7b', '\x7d']
  | .obj members =>
    '\x7b' :: newLine (depth + 1) ++ Text.join (',' :: newLine (depth + 1)) (prettyMembers (depth + 1) members) ++
      newLine depth ++ ['\x7d']
  | v => compact v

@[inherit_doc prettyAt]
def prettyItems (depth : Nat) : List Json → List (List Char)
  | [] => []
  | v :: r => prettyAt depth v :: prettyItems depth r

@[inherit_doc prettyAt]
def prettyMembers (depth : Nat) : List (String × Json) → List (List Char)
  | [] => []
  | (k, v) :: r => (stringText k ++ ':' :: ' ' :: prettyAt depth v) :: prettyMembers depth r

end

/-- The compact text as a string. -/
def compactString (j : Json) : String := String.ofList j.compact

/-- The indented text as a string. -/
def prettyString (j : Json) : String := String.ofList (prettyAt 0 j)

/-! ## Canonical form -/

mutual

/-- A value with the keys of every object sorted and unrepeated. -/
def canonical : Json → Json
  | .arr items => .arr (canonicalItems items)
  | .obj members => .obj (Dict.ofList (canonicalMembers members)).entries
  | v => v

@[inherit_doc canonical]
def canonicalItems : List Json → List Json
  | [] => []
  | v :: r => canonical v :: canonicalItems r

@[inherit_doc canonical]
def canonicalMembers : List (String × Json) → List (String × Json)
  | [] => []
  | (k, v) :: r => (k, canonical v) :: canonicalMembers r

end

end FormTemplate.Json
