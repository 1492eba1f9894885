import FormTemplate.Json.Printer
import FormTemplate.Json.Reader
import FormTemplate.Schema

/-!
# Schemas as JSON

A field is one object: its slug, label, kind and data type, then those of its optional attributes that are
present. Reading ignores members it does not know, refuses a repeated member, and takes null for an absent
optional attribute. It does not check slugs.

* `Field.toJson`, `Repeater.toJson`, `Schema.toJson`, `SchemaSummary.toJson` : the values written.
* `Field.ofJson?`, `Schema.ofJson?` : the definitions read from a value.
* `Schema.read?` : the schema that a text holds.
* `Schema.readVersion?` : the version alone, which more texts have.
-/

set_option autoImplicit false

namespace FormTemplate

/-! ## Writing -/

/-- A string member, if there is a value for it. -/
def stringMember (key : String) : Option String → List (String × Json)
  | none => []
  | some v => [(key, .str v)]

/-- The value of a field. -/
def Field.toJson (f : Field) : Json :=
  .obj ([("slug", .str f.slug), ("label", .str f.label), ("type", .str f.kind.name),
      ("data_type", .str f.dataType.name)] ++
    stringMember "title" f.hints.title ++
    stringMember "placeholder" f.hints.placeholder ++
    stringMember "description" f.hints.description ++
    stringMember "pattern" f.constraints.pattern ++
    stringMember "patternmsg" f.constraints.patternMessage ++
    stringMember "minvalue" f.constraints.minimum ++
    stringMember "maxvalue" f.constraints.maximum ++
    (match f.constraints.length with
      | none => []
      | some n => [("length", .num (.int n.toNat))]) ++
    stringMember "ope" f.rendering.caseTransform ++
    stringMember "frm" f.rendering.dateFormat)

/-- The value of a repeater. -/
def Repeater.toJson (r : Repeater) : Json :=
  .obj [("slug", .str r.slug), ("label", .str r.label), ("block", .str r.block.name),
    ("fields", .arr (r.fields.map Field.toJson))]

/-- The value of a schema's origin. -/
def SchemaMeta.toJson (m : SchemaMeta) : Json :=
  .obj [("template_type", .str m.templateType.name), ("template_id", .str m.templateId),
    ("parsed_at", .str (String.ofList m.parsedAt.render))]

/-- The value of a schema. -/
def Schema.toJson (s : Schema) : Json :=
  .obj [("version", .num (.int s.version.toNat)), ("fields", .arr (s.fields.map Field.toJson)),
    ("repeaters", .arr (s.repeaters.map Repeater.toJson)), ("meta", s.source.toJson)]

/-- The value of a summary. -/
def SchemaSummary.toJson (s : SchemaSummary) : Json :=
  .obj [("field_count", .num (.int s.fieldCount)), ("repeater_names", .arr (s.repeaterNames.map Json.str))]

/-- The text under which a schema is kept. -/
def Schema.text (s : Schema) : String := s.toJson.compactString

/-! ## Reading -/

/-- A number of thirty-two bits. -/
def word? (j : Json) : Option UInt32 := (j.natBelow? UInt32.size).map UInt32.ofNat

/-- The keys of a field. -/
def Field.keys : List String :=
  ["slug", "label", "type", "data_type", "title", "placeholder", "description", "pattern", "patternmsg",
    "minvalue", "maxvalue", "length", "ope", "frm"]

/-- The field of a value, which encloses at most `depth` further levels. Members that are not known have to be
usable too. -/
def Field.ofJson? (depth : Nat) (j : Json) : Option Field :=
  match j with
  | .obj members => do
    let part := Json.member? members
    let slug ← Json.required? Json.string? (← part "slug")
    let label ← Json.required? Json.string? (← part "label")
    let kind ← Json.required? (fun v => v.constant?.bind FieldKind.ofName?) (← part "type")
    let dataType ← Json.required? (fun v => v.constant?.bind DataType.ofName?) (← part "data_type")
    let title ← Json.optional? Json.string? (← part "title")
    let placeholder ← Json.optional? Json.string? (← part "placeholder")
    let description ← Json.optional? Json.string? (← part "description")
    let pattern ← Json.optional? Json.string? (← part "pattern")
    let patternMessage ← Json.optional? Json.string? (← part "patternmsg")
    let minimum ← Json.optional? Json.string? (← part "minvalue")
    let maximum ← Json.optional? Json.string? (← part "maxvalue")
    let length ← Json.optional? word? (← part "length")
    let caseTransform ← Json.optional? Json.string? (← part "ope")
    let dateFormat ← Json.optional? Json.string? (← part "frm")
    if members.all fun m => Field.keys.contains m.1 || m.2.fits depth then
      return ⟨slug, label, kind, dataType, ⟨title, placeholder, description⟩,
        ⟨pattern, patternMessage, minimum, maximum, length⟩, ⟨caseTransform, dateFormat⟩⟩
    else none
  | _ => none

/-- The fields of an array that stands `level` levels below the whole text. -/
def fieldsOfJson? (level : Nat) (j : Json) : Option (List Field) :=
  j.items?.bind (·.mapM (Field.ofJson? (Json.maxDepth - level - 2)))

/-- The repeater of a value that stands two levels below the whole text. -/
def Repeater.ofJson? (j : Json) : Option Repeater :=
  match j.record? ["slug", "label", "block", "fields"] with
  | some [slug, label, block, fields] => do
    let slug ← Json.required? Json.string? slug
    let label ← Json.required? Json.string? label
    let block ← Json.orDefault? .freeBlock (fun v => v.constant?.bind BlockStyle.ofName?) block
    let fields ← Json.orDefault? [] (fieldsOfJson? 3) fields
    return ⟨slug, label, block, fields⟩
  | _ => none

/-- The instant of a string. -/
def timestamp? (j : Json) : Option Calendar.Timestamp :=
  j.string?.bind fun s => Calendar.Timestamp.read? s.toList

/-- The origin of a value. -/
def SchemaMeta.ofJson? (j : Json) : Option SchemaMeta :=
  match j.record? ["template_type", "template_id", "parsed_at"] with
  | some [templateType, templateId, parsedAt] => do
    let templateType ← Json.required? (fun v => v.constant?.bind TemplateType.ofName?) templateType
    let templateId ← Json.required? Json.string? templateId
    let parsedAt ← Json.required? timestamp? parsedAt
    return ⟨templateType, templateId, parsedAt⟩
  | _ => none

/-- The schema of a value. -/
def Schema.ofJson? (j : Json) : Option Schema :=
  match j.record? ["version", "fields", "repeaters", "meta"] with
  | some [version, fields, repeaters, source] => do
    let version ← Json.required? word? version
    let fields ← Json.orDefault? [] (fieldsOfJson? 1) fields
    let repeaters ← Json.orDefault? [] (fun v => v.items?.bind (·.mapM Repeater.ofJson?)) repeaters
    let source ← Json.required? SchemaMeta.ofJson? source
    return ⟨version, fields, repeaters, source⟩
  | _ => none

/-- The schema that a text holds. -/
def Schema.read? (text : String) : Option Schema := (Json.parse? text.toList).bind Schema.ofJson?

/-- The version that a text holds, whatever else it holds. -/
def Schema.readVersion? (text : String) : Option UInt32 := do
  let j ← Json.parse? text.toList
  match j.record? ["version"] with
  | some [version] => Json.required? word? version
  | _ => none

end FormTemplate
