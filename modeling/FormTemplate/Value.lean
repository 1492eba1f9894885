/-!
# Stored values

A document keeps one text per field. Its kind says how the text is to be read: plain, several lines, markup, or
a list of items in an encoding of its own.

* `ValueKind` : the four kinds, with their names.
* `FieldValue` : a slug with the kind and the text stored for it.
* `ValueKind.ofName?_name` : a kind is known by its name.
-/

set_option autoImplicit false

namespace FormTemplate

/-- How a stored text is to be read. -/
inductive ValueKind where
  | single
  | textarea
  | rich
  | array
  deriving DecidableEq, Repr

/-- The name of a kind. -/
def ValueKind.name : ValueKind → String
  | .single => "single"
  | .textarea => "textarea"
  | .rich => "rich"
  | .array => "array"

/-- The kind with a name, spelled exactly. -/
def ValueKind.ofName? (name : String) : Option ValueKind :=
  if name == "single" then some .single
  else if name == "textarea" then some .textarea
  else if name == "rich" then some .rich
  else if name == "array" then some .array
  else none

theorem ValueKind.ofName?_name (k : ValueKind) : ofName? k.name = some k := by
  cases k <;> decide

/-- The value stored under a slug. -/
structure FieldValue where
  slug : String
  kind : ValueKind
  value : String
  deriving DecidableEq, Repr

end FormTemplate
