import FormTemplate.Marker.Candidate

/-!
# Field markers

Once read, a marker gets its place: whether it declares a field or opens or closes a block, and whether it
belongs to the top level or to a repeater. The first part of a dotted slug names the repeater. The attribute
`block` opens (`begin`) or closes (`end`) a block, or makes the enclosing table row the block (`tbs:row`).

A closing marker is reported only if its block is open; opening an open block again changes nothing. After a
table row was declared for a name, dotted markers of that name belong to the row.

* `Marker` : a marker with its place.
* `Scopes.place` : the place of the next marker, and what is open after it.
* `Marker.scan` : the markers of a text.
-/

set_option autoImplicit false

namespace FormTemplate

/-- Where the field of a marker belongs. -/
inductive MarkerScope where
  | topLevel
  | repeater (name : String)
  | tableRow (name : String)
  deriving DecidableEq, Repr

/-- The name of the repeater of a scope. -/
def MarkerScope.repeaterName? : MarkerScope → Option String
  | .topLevel => none
  | .repeater name => some name
  | .tableRow name => some name

/-- What a marker does. -/
inductive MarkerKind where
  /-- Declares a field. -/
  | field
  /-- Opens a block, or declares a table row. -/
  | blockBegin
  /-- Closes a block. -/
  | blockEnd
  deriving DecidableEq, Repr

/-- A marker of a template, with its place. -/
structure Marker where
  /-- The slug as it is written. -/
  slug : String
  /-- The attributes in the order of the text, with keys in lower case. -/
  attributes : List (String × String)
  scope : MarkerScope
  kind : MarkerKind
  /-- The byte position of the opening bracket. -/
  offset : Nat
  deriving DecidableEq, Repr

/-- The value of the last attribute with a key. -/
def lastAttribute? (attributes : List (String × String)) (key : String) : Option String :=
  (attributes.reverse.find? (·.1 == key)).map (·.2)

/-- The part of a slug before its first dot. -/
def slugHead (slug : String) : String := String.ofList (slug.toList.takeWhile (· != '.'))

/-- The part of a slug after its first dot, if it has one. -/
def slugTail? (slug : String) : Option String :=
  match slug.toList.dropWhile (· != '.') with
  | [] => none
  | _ :: r => some (String.ofList r)

namespace Marker

/-- The value of an attribute; of several with one key the last counts. -/
def attribute? (m : Marker) (key : String) : Option String := lastAttribute? m.attributes key

/-- The slug without the name of its repeater. -/
def fieldName (m : Marker) : String := (slugTail? m.slug).getD m.slug

/-! ## Places -/

/-- What the attribute `block` asks for. -/
inductive BlockRole where
  | opens
  | closes
  | tableRow
  | plain
  deriving DecidableEq, Repr

/-- The attributes of a token, with keys in lower case. -/
def attributesOf (t : Token) : List (String × String) :=
  t.attributes.map fun a => (String.ofList (a.key.text.map Char.toLower), a.value.string)

/-- The role that the last `block` attribute asks for, whatever its case and the white space around it. -/
def blockRole (attributes : List (String × String)) : BlockRole :=
  match lastAttribute? attributes "block" with
  | none => .plain
  | some value =>
    let word := (Text.trimChars value.toList).map Char.toLower
    if word == "begin".toList then .opens
    else if word == "end".toList then .closes
    else if word == "tbs:row".toList then .tableRow
    else .plain

/-- The names of the open blocks, in the order of their opening, and of the table rows so far. -/
structure Scopes where
  opened : List String := []
  tableRows : List String := []
  deriving DecidableEq, Repr

/-- Whether a slug has a dot. -/
def isDotted (slug : String) : Bool := (slugTail? slug).isSome

/-- The place of a marker, if it is reported, and what is open after it. -/
def Scopes.place (s : Scopes) (slug : String) (attributes : List (String × String)) :
    Scopes × Option (MarkerScope × MarkerKind) :=
  let name := slugHead slug
  match blockRole attributes with
  | .opens =>
    ({ s with opened := if s.opened.contains name then s.opened else s.opened ++ [name] },
      some (.topLevel, .blockBegin))
  | .closes =>
    if s.opened.contains name then ({ s with opened := s.opened.erase name }, some (.topLevel, .blockEnd))
    else (s, none)
  | .tableRow =>
    ({ s with tableRows := if s.tableRows.contains name then s.tableRows else name :: s.tableRows },
      some (.tableRow name, if isDotted slug then .field else .blockBegin))
  | .plain =>
    if isDotted slug then
      (s, some (if s.tableRows.contains name then .tableRow name else .repeater name, .field))
    else (s, some (.topLevel, .field))

/-- The markers of tokens, given what is open before them; `found` holds the markers before, last first. -/
def placeAll (found : List Marker) (s : Scopes) : List Token → List Marker
  | [] => found.reverse
  | t :: rest =>
    let slug := t.slug.string
    let attributes := attributesOf t
    match s.place slug attributes with
    | (s', none) => placeAll found s' rest
    | (s', some (scope, kind)) => placeAll (⟨slug, attributes, scope, kind, t.start⟩ :: found) s' rest

/-- The markers of a text, in order. -/
def scan (text : String) : List Marker := placeAll [] {} (tokens text.toList)

end Marker

end FormTemplate
