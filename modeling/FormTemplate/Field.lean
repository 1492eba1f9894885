import FormTemplate.Slug
import FormTemplate.Value

/-!
# Fields

A field is one fillable place of a template. Its kind is what the template asks for; the data type says which
values are comparable, and the stored kind which of the older value kinds holds them.

* `FieldKind`, `DataType` : kinds and data types, with their names.
* `Constraints`, `Hints`, `Rendering` : the optional attributes, by purpose.
* `Field`, `Field.new` : a field, and the field of a slug without attributes.
* `SchemaError` : the two ways in which a slug is refused.
-/

set_option autoImplicit false

namespace FormTemplate

/-- Why a slug is refused. -/
inductive SchemaError where
  | invalidSlug (slug : String)
  | duplicateSlug (slug : String)
  deriving DecidableEq, Repr

/-- The text of a refusal. -/
def SchemaError.message : SchemaError → String
  | .invalidSlug slug => "Invalid slug: '" ++ slug ++ "'"
  | .duplicateSlug slug => "Duplicate slug: '" ++ slug ++ "'"

/-! ## Kinds -/

/-- What a field asks for. -/
inductive FieldKind where
  | text
  | textarea
  | html
  | number
  | date
  | email
  | url
  deriving DecidableEq, Repr

/-- Which values a field has, as far as they can be compared. -/
inductive DataType where
  | text
  | number
  | boolean
  | date
  deriving DecidableEq, Repr

namespace FieldKind

/-- The name of a kind. -/
def name : FieldKind → String
  | .text => "text"
  | .textarea => "textarea"
  | .html => "html"
  | .number => "number"
  | .date => "date"
  | .email => "email"
  | .url => "url"

/-- The kind with a name, spelled exactly. -/
def ofName? (name : String) : Option FieldKind :=
  if name == "text" then some .text
  else if name == "textarea" then some .textarea
  else if name == "html" then some .html
  else if name == "number" then some .number
  else if name == "date" then some .date
  else if name == "email" then some .email
  else if name == "url" then some .url
  else none

/-- The kind that a template names, in any case and with white space around it; every other name stands for a
text of several lines. -/
def ofAttribute (name : String) : FieldKind :=
  (ofName? (String.ofList ((Text.trimChars name.toList).map Char.toLower))).getD .textarea

/-- The data type of a kind. -/
def dataType : FieldKind → DataType
  | .number => .number
  | .date => .date
  | _ => .text

/-- The kind under which values of a field are stored. -/
def valueKind : FieldKind → ValueKind
  | .html => .rich
  | .textarea => .textarea
  | _ => .single

theorem ofName?_name (k : FieldKind) : ofName? k.name = some k := by
  cases k <;> decide

end FieldKind

namespace DataType

/-- The name of a data type. -/
def name : DataType → String
  | .text => "text"
  | .number => "number"
  | .boolean => "boolean"
  | .date => "date"

/-- The data type with a name, spelled exactly. -/
def ofName? (name : String) : Option DataType :=
  if name == "text" then some .text
  else if name == "number" then some .number
  else if name == "boolean" then some .boolean
  else if name == "date" then some .date
  else none

theorem ofName?_name (t : DataType) : ofName? t.name = some t := by
  cases t <;> decide

end DataType

/-! ## Attributes -/

/-- What a value has to satisfy. -/
structure Constraints where
  pattern : Option String := none
  /-- What to say where the pattern does not match. -/
  patternMessage : Option String := none
  minimum : Option String := none
  maximum : Option String := none
  /-- The greatest number of characters. -/
  length : Option UInt32 := none
  deriving DecidableEq, Repr

/-- Whether nothing is asked of a value. A message alone asks nothing. -/
def Constraints.isEmpty (c : Constraints) : Bool :=
  c.pattern.isNone && c.minimum.isNone && c.maximum.isNone && c.length.isNone

/-- What is shown next to the input. -/
structure Hints where
  title : Option String := none
  placeholder : Option String := none
  description : Option String := none
  deriving DecidableEq, Repr

/-- What only the renderer of a document reads. -/
structure Rendering where
  caseTransform : Option String := none
  dateFormat : Option String := none
  deriving DecidableEq, Repr

/-- One fillable place. -/
structure Field where
  slug : String
  label : String
  kind : FieldKind
  dataType : DataType
  hints : Hints := {}
  constraints : Constraints := {}
  rendering : Rendering := {}
  deriving DecidableEq, Repr

/-- A field of a kind without attributes, labelled by its slug. -/
def Field.new (slug : String) (kind : FieldKind) : Except SchemaError Field :=
  if Slug.isValid slug then
    .ok { slug := slug, label := Slug.humanize slug, kind := kind, dataType := kind.dataType }
  else .error (.invalidSlug slug)

end FormTemplate
