import FormTemplate.Calendar.Timestamp
import FormTemplate.Field

/-!
# Schemas

The schema of a template lists its fields and its repeaters. A repeater is a group of fields that occurs once
for each item of a list. Fields and repeaters share one name space; the fields of a repeater have their own.

* `Repeater`, `Schema` : the definitions.
* `InPlace` : calls that change a value in place, or are refused.
* `Repeater.push`, `Schema.pushField`, `Schema.pushRepeater` : additions that refuse a used slug.
* `Schema.check` : the rules of the name spaces, for schemas of any origin.
* `Schema.summary` : what a listing shows of a schema.
-/

set_option autoImplicit false

namespace FormTemplate

/-- How the items of a repeater are laid out. -/
inductive BlockStyle where
  /-- Between a begin and an end marker. -/
  | freeBlock
  /-- The enclosing row of a table. -/
  | tableRow
  deriving DecidableEq, Repr

/-- The name of a layout. -/
def BlockStyle.name : BlockStyle → String
  | .freeBlock => "free-block"
  | .tableRow => "table-row"

/-- The layout with a name, spelled exactly. -/
def BlockStyle.ofName? (name : String) : Option BlockStyle :=
  if name == "free-block" then some .freeBlock
  else if name == "table-row" then some .tableRow
  else none

/-- Calls that change a value in place. A call gives a result or is refused, and the value is what the call has left of it
in both cases. -/
abbrev InPlace (σ : Type) : Type → Type := ExceptT SchemaError (StateM σ)

namespace InPlace

variable {σ : Type}

/-- What a call on a value gives, and the value behind it. -/
def on (call : InPlace σ Unit) (a : σ) : Except SchemaError Unit × σ := Id.run (StateT.run (ExceptT.run call) a)

/-- The value behind a call that is not refused. -/
def result (call : InPlace σ Unit) (a : σ) : Except SchemaError σ := (call.on a).1.map fun _ => (call.on a).2

end InPlace

/-- A group of fields that occurs once for each item of a list. -/
structure Repeater where
  slug : String
  label : String
  block : BlockStyle
  fields : List Field
  deriving DecidableEq, Repr

namespace Repeater

/-- A repeater without fields, labelled by its slug. -/
def new (slug : String) (block : BlockStyle) : Except SchemaError Repeater :=
  if Slug.isValid slug then .ok ⟨slug, Slug.humanize slug, block, []⟩ else .error (.invalidSlug slug)

/-- The field with a slug. -/
def field? (r : Repeater) (slug : String) : Option Field := r.fields.find? (·.slug == slug)

/-- Appends a field in place unless its slug is used. -/
def push (f : Field) : InPlace Repeater Unit := do
  if ((← get).field? f.slug).isSome then throw (.duplicateSlug f.slug)
  modify fun r => { r with fields := r.fields ++ [f] }

/-- A repeater with a field appended, unless its slug is used. -/
def pushField (r : Repeater) (f : Field) : Except SchemaError Repeater := (push f).result r

end Repeater

/-- The container format of a template. -/
inductive TemplateType where
  | docx
  | odt
  | unknown
  deriving DecidableEq, Repr

namespace TemplateType

/-- The name of a format; the unknown format has the empty name. -/
def name : TemplateType → String
  | .docx => "docx"
  | .odt => "odt"
  | .unknown => ""

/-- The format with a name, spelled exactly. -/
def ofName? (name : String) : Option TemplateType :=
  if name == "docx" then some .docx
  else if name == "odt" then some .odt
  else if name == "" then some .unknown
  else none

/-- The format of a file extension, in any case. -/
def ofExtension (ext : String) : TemplateType :=
  let lower := ext.toList.map Char.toLower
  if lower == ['d', 'o', 'c', 'x'] then .docx
  else if lower == ['o', 'd', 't'] then .odt
  else .unknown

end TemplateType

/-- Where a schema comes from. -/
structure SchemaMeta where
  templateType : TemplateType
  templateId : String
  parsedAt : Calendar.Timestamp
  deriving DecidableEq, Repr

/-- The fillable structure of a template. -/
structure Schema where
  version : UInt32
  fields : List Field
  repeaters : List Repeater
  source : SchemaMeta
  deriving DecidableEq, Repr

/-- What a listing shows of a schema. -/
structure SchemaSummary where
  fieldCount : Nat
  repeaterNames : List String
  deriving DecidableEq, Repr

namespace Schema

/-- The version of schemas built from templates. -/
def currentVersion : UInt32 := 2

/-- A schema without fields. -/
def new (source : SchemaMeta) : Schema := ⟨currentVersion, [], [], source⟩

/-- The top-level field with a slug. -/
def field? (s : Schema) (slug : String) : Option Field := s.fields.find? (·.slug == slug)

/-- The repeater with a slug. -/
def repeater? (s : Schema) (slug : String) : Option Repeater := s.repeaters.find? (·.slug == slug)

/-- Whether a top-level field or a repeater has a slug. -/
def containsSlug (s : Schema) (slug : String) : Bool := (s.field? slug).isSome || (s.repeater? slug).isSome

/-- Whether nothing is declared. -/
def isEmpty (s : Schema) : Bool := s.fields.isEmpty && s.repeaters.isEmpty

/-- Appends a top-level field in place unless its slug is used. -/
def pushField (f : Field) : InPlace Schema Unit := do
  if (← get).containsSlug f.slug then throw (.duplicateSlug f.slug)
  modify fun s => { s with fields := s.fields ++ [f] }

/-- Appends a repeater in place unless its slug is used. -/
def pushRepeater (r : Repeater) : InPlace Schema Unit := do
  if (← get).containsSlug r.slug then throw (.duplicateSlug r.slug)
  modify fun s => { s with repeaters := s.repeaters ++ [r] }

/-- A schema with a top-level field appended, unless its slug is used. -/
def addField (s : Schema) (f : Field) : Except SchemaError Schema := (pushField f).result s

/-- A schema with a repeater appended, unless its slug is used. -/
def addRepeater (s : Schema) (r : Repeater) : Except SchemaError Schema := (pushRepeater r).result s

/-- The number of fields and the names of the repeaters. -/
def summary (s : Schema) : SchemaSummary := ⟨s.fields.length, s.repeaters.map (·.slug)⟩

/-- The slugs of the shared name space, fields first. -/
def topSlugs (s : Schema) : List String := s.fields.map (·.slug) ++ s.repeaters.map (·.slug)

/-- Goes through the slugs of a name space and stops at the first that is no slug or was seen before. -/
def checkSlugs : List String → List String → Except SchemaError Unit
  | _, [] => .ok ()
  | seen, slug :: rest =>
    if !Slug.isValid slug then .error (.invalidSlug slug)
    else if seen.contains slug then .error (.duplicateSlug slug)
    else checkSlugs (slug :: seen) rest

/-- Goes through the name spaces of the repeaters. -/
def checkRepeaters : List Repeater → Except SchemaError Unit
  | [] => .ok ()
  | r :: rest =>
    match checkSlugs [] (r.fields.map (·.slug)) with
    | .error e => .error e
    | .ok () => checkRepeaters rest

/-- Accepts a schema whose name spaces hold slugs only and none of them twice. -/
def check (s : Schema) : Except SchemaError Unit :=
  match checkSlugs [] s.topSlugs with
  | .error e => .error e
  | .ok () => checkRepeaters s.repeaters

end Schema

end FormTemplate
