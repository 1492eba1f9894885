import FormTemplate.Document
import FormTemplate.Json.Printer
import FormTemplate.Json.Reader

/-!
# Values and submissions as JSON

* `FieldValue.toJson`, `FieldValue.listOfJson?` : stored values.
* `Submission.dictOfJson?` : what is submitted, by slug: a string or a list of objects with string values.
* `FieldValue.readList?`, `Submission.readDict?` : the same for whole texts.
-/

set_option autoImplicit false

namespace FormTemplate

/-! ## Stored values -/

/-- The value of a stored value. -/
def FieldValue.toJson (v : FieldValue) : Json :=
  .obj [("slug", .str v.slug), ("type", .str v.kind.name), ("value", .str v.value)]

/-- The value of stored values by slug. -/
def FieldValue.dictToJson (values : Dict FieldValue) : Json :=
  .obj (values.entries.map fun e => (e.1, e.2.toJson))

/-- The stored value of a value. -/
def FieldValue.ofJson? (j : Json) : Option FieldValue :=
  match j.record? ["slug", "type", "value"] with
  | some [slug, kind, value] => do
    let slug ← Json.required? Json.string? slug
    let kind ← Json.required? (fun v => v.constant?.bind ValueKind.ofName?) kind
    let value ← Json.required? Json.string? value
    return ⟨slug, kind, value⟩
  | _ => none

/-- The stored values of an array. -/
def FieldValue.listOfJson? (j : Json) : Option (List FieldValue) := j.items?.bind (·.mapM FieldValue.ofJson?)

/-- The stored values that a text lists. -/
def FieldValue.readList? (text : String) : Option (List FieldValue) :=
  (Json.parse? text.toList).bind FieldValue.listOfJson?

/-! ## Submissions -/

/-- The dictionary of an object whose values can all be read; of equal keys the last counts. -/
def Dict.ofJson? {α : Type} (read : Json → Option α) : Json → Option (Dict α)
  | .obj members => (members.mapM fun (e : String × Json) => (read e.2).map fun v => (e.1, v)).map Dict.ofList
  | _ => none

/-- The item of an object with string values. -/
def Item.ofJson? (j : Json) : Option Item := Dict.ofJson? Json.string? j

/-- The items of an array. -/
def Item.listOfJson? (j : Json) : Option (List Item) := j.items?.bind (·.mapM Item.ofJson?)

/-- What a value submits under a slug. -/
def Submission.ofJson? : Json → Option Submission
  | .str s => some (.text s)
  | j => (Item.listOfJson? j).map .items

/-- What an object submits by slug. -/
def Submission.dictOfJson? (j : Json) : Option (Dict Submission) := Dict.ofJson? Submission.ofJson? j

/-- What a text submits by slug. -/
def Submission.readDict? (text : String) : Option (Dict Submission) :=
  (Json.parseUsable? text.toList).bind Submission.dictOfJson?

end FormTemplate
