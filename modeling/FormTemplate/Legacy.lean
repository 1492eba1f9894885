import FormTemplate.Json.Printer
import FormTemplate.Schema

/-!
# The flattened view of a schema

Older renderers know four kinds of values and no data types. Their view of a schema lists the fields and then
the repeaters; a repeater carries the slugs, labels and kinds of its fields by slug. Where a slug is repeated
inside a repeater, it keeps its first place and its last definition.

* `Schema.legacyView` : the flattened view.
* `LegacyField.toJson` : an entry of it as JSON.
-/

set_option autoImplicit false

namespace FormTemplate

/-- A field inside a repeater, as older renderers see it. -/
structure LegacyItem where
  slug : String
  label : String
  kind : ValueKind
  deriving DecidableEq, Repr

/-- A field or repeater, as older renderers see it. Only a repeater has items. -/
structure LegacyField where
  slug : String
  label : String
  kind : ValueKind
  items : Option (List (String × LegacyItem))
  deriving DecidableEq, Repr

/-- Puts an item under its slug: in place of the one that is there, else at the end. -/
def putItem : List (String × LegacyItem) → LegacyItem → List (String × LegacyItem)
  | [], item => [(item.slug, item)]
  | e :: rest, item => if e.1 == item.slug then (e.1, item) :: rest else e :: putItem rest item

/-- The view of a field inside a repeater. -/
def Field.legacyItem (f : Field) : LegacyItem := ⟨f.slug, f.label, f.kind.valueKind⟩

/-- The view of a top-level field. -/
def Field.legacyView (f : Field) : LegacyField := ⟨f.slug, f.label, f.kind.valueKind, none⟩

/-- The view of a repeater. -/
def Repeater.legacyView (r : Repeater) : LegacyField :=
  ⟨r.slug, r.label, .array, some ((r.fields.map Field.legacyItem).foldl putItem [])⟩

/-- The view of a schema: its fields, then its repeaters. -/
def Schema.legacyView (s : Schema) : List LegacyField :=
  s.fields.map Field.legacyView ++ s.repeaters.map Repeater.legacyView

/-! ## Writing -/

/-- The value of an item entry. -/
def LegacyItem.toJson (i : LegacyItem) : Json :=
  .obj [("slug", .str i.slug), ("label", .str i.label), ("type", .str i.kind.name)]

/-- The value of an entry. -/
def LegacyField.toJson (f : LegacyField) : Json :=
  .obj ([("slug", .str f.slug), ("label", .str f.label), ("type", .str f.kind.name)] ++
    match f.items with
    | none => []
    | some items => [("item_schema", .obj (items.map fun e => (e.1, e.2.toJson)))])

/-- The value of a view. -/
def legacyToJson (fields : List LegacyField) : Json := .arr (fields.map LegacyField.toJson)

end FormTemplate
