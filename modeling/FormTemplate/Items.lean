import FormTemplate.Dict
import FormTemplate.Items.Repair
import FormTemplate.Json.Printer
import FormTemplate.Text.Blank

/-!
# Lists of items

The value of a repeater is a list of items, each of which maps the slugs of nested fields to texts. It is kept
as a JSON array of objects. Quotes, apostrophes, angle brackets and ampersands are written as escapes with four
digits, so the text can stand inside markup and attribute values.

Reading is lenient: white space alone is the empty list, entries that are no objects are skipped, values that
are no strings are taken by their JSON text, and bare code units in values are repaired.

* `Items.encode` : the text of a list.
* `Items.decode` : the list of a text, or why there is none.
* `Items.truncate` : the first items.
-/

set_option autoImplicit false

namespace FormTemplate

/-- One item: the texts of nested fields by slug. -/
abbrev Item := Dict String

/-- Why a text is no list of items. -/
inductive ItemsError where
  /-- The text is JSON, but no array. -/
  | notAnArray
  /-- The text is no JSON, with what the reader says of it. -/
  | malformed (reason : String)
  deriving DecidableEq, Repr

/-- The text of a refusal. -/
def ItemsError.message : ItemsError → String
  | .notAnArray => "Invalid array payload: expected a JSON array"
  | .malformed reason => "Invalid array payload: " ++ reason

namespace Items

/-! ## Writing -/

/-- A character between the quotes of a list's strings. -/
def escapeChar (c : Char) : List Char :=
  if c == '"' then "\\u0022".toList
  else if c == '<' then "\\u003C".toList
  else if c == '>' then "\\u003E".toList
  else if c == '&' then "\\u0026".toList
  else if c == '\'' then "\\u0027".toList
  else if c == '\\' then ['\\', '\\']
  else if c.toNat < 0x20 then Json.escapeControl c
  else [c]

/-- A string of a list. -/
def stringText (s : String) : List Char := Json.quote escapeChar s.toList

/-- The text of an item. -/
def itemText (item : Item) : List Char :=
  '\x7b' :: Text.join [','] (item.entries.map fun e => stringText e.1 ++ ':' :: stringText e.2) ++ ['\x7d']

/-- The characters of a list's text. -/
def encodeChars (items : List Item) : List Char :=
  '[' :: Text.join [','] (items.map itemText) ++ [']']

/-- The text of a list of items. -/
def encode (items : List Item) : String := String.ofList (encodeChars items)

/-! ## Reading -/

/-- The text that a JSON value stands for in an item. -/
def valueText : Json → String
  | .str s => s
  | .null => ""
  | v => v.canonical.compactString

/-- The item of a JSON value, if it is an object. -/
def itemOf? : Json → Option Item
  | .obj members => some (Dict.ofList (members.map fun m => (m.1, repair (valueText m.2))))
  | _ => none

/-- The list of items of a text. -/
def decode (payload : String) : Except ItemsError (List Item) :=
  if Text.isBlankText payload then .ok []
  else
    match Json.orRefusal (Json.parseUsable? payload.toList) with
    | .error reason => .error (.malformed reason)
    | .ok (.arr entries) => .ok (entries.filterMap itemOf?)
    | .ok _ => .error .notAnArray

/-- The first items of a list. -/
def truncate (max : Nat) (items : List Item) : List Item := items.take max

end Items

end FormTemplate
