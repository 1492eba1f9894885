import FormTemplate.Dict
import FormTemplate.Marker
import FormTemplate.Schema

/-!
# From markers to a schema

A field takes its attributes from the marker that declares it. Markers are taken in order; a name belongs to
whatever uses it first, a field or a repeater, and later uses of it in the other role are dropped. A table holds what
each name belongs to, and the position of a repeater. Within a repeater the first marker of a field counts. A schema
made this way keeps the rules of the name spaces, so nothing is dropped when its parts are put together.

* `isUsableBound` : the texts that can bound the values of a data type.
* `Field.ofMarker` : the field that a marker declares under a slug.
* `Claim`, `Draft` : what a name belongs to, and what has been declared so far.
* `Draft.addMarker` : what one marker adds.
* `Schema.ofMarkers`, `Schema.ofText` : the schema of a list of markers and of a template text.
-/

set_option autoImplicit false

namespace FormTemplate

/-! ## Fields -/

/-- Whether a text without white space around it can bound the values of a data type: a finite number, or a
calendar date. -/
def isUsableBound (type : DataType) (v : String) : Bool :=
  match type with
  | .number => (Number.readFinite? v.toList).isSome
  | .date => (Calendar.Date.read? v.toList).isSome
  | .text | .boolean => false

/-- A bound for the values of a data type, without the white space around it. -/
def usableBound? (type : DataType) (value : Option String) : Option String :=
  (value.bind Text.nonBlank?).filter (isUsableBound type)

/-- A length above zero. -/
def usableLength? (value : Option String) : Option UInt32 :=
  value.bind fun v =>
    match Number.readNat? (Text.trimChars v.toList) with
    | some n => if 0 < n ∧ n < UInt32.size then some (UInt32.ofNat n) else none
    | none => none

/-- The field that a marker declares under a slug. -/
def Field.ofMarker (m : Marker) (slug : String) : Except SchemaError Field :=
  let kind := match m.attribute? "type" with
    | some name => FieldKind.ofAttribute name
    | none => .textarea
  let text (key : String) := (m.attribute? key).bind Text.nonBlank?
  match Field.new slug kind with
  | .error e => .error e
  | .ok f =>
    .ok { f with
      label := ((text "title").or (text "label")).getD f.label
      hints := ⟨text "title", text "placeholder", text "description"⟩
      constraints :=
        { pattern := text "pattern"
          patternMessage := text "patternmsg"
          minimum := usableBound? f.dataType (m.attribute? "minvalue")
          maximum := usableBound? f.dataType (m.attribute? "maxvalue")
          length := usableLength? (m.attribute? "length") }
      rendering := ⟨m.attribute? "ope", m.attribute? "frm"⟩ }

/-! ## Drafts -/

/-- What a name belongs to. -/
inductive Claim where
  | field
  /-- The repeater at a position. -/
  | repeater (index : Nat)
  deriving DecidableEq, Repr

/-- The fields and repeaters that markers have declared so far, and what their names belong to. -/
structure Draft where
  fields : List Field := []
  repeaters : List Repeater := []
  claims : Dict Claim := .empty
  deriving DecidableEq, Repr

namespace Draft

/-- Changes the repeater at a position. -/
def changeAt (d : Draft) (index : Nat) (change : Repeater → Repeater) : Draft :=
  { d with repeaters := d.repeaters.modify index change }

/-- Sees to it that there is a repeater of a name as it is written, and gives its position; nothing if the name is
unusable or belongs to a field. A table row leaves its mark on the repeater. -/
def claimRepeater (d : Draft) (name : String) (style : BlockStyle) : Draft × Option Nat :=
  match Slug.sanitize? name with
  | none => (d, none)
  | some slug =>
    match d.claims.get? slug with
    | some (.repeater index) =>
      match style with
      | .tableRow => (d.changeAt index ({ · with block := .tableRow }), some index)
      | .freeBlock => (d, some index)
    | some .field => (d, none)
    | none =>
      match Repeater.new slug style with
      | .error _ => (d, none)
      | .ok r =>
        let index := d.repeaters.length
        ({ d with repeaters := d.repeaters ++ [r], claims := d.claims.insert slug (.repeater index) }, some index)

/-- The repeater behind the addition of a field. It makes no difference why there is no field, or why it is refused. -/
def pushKept (f : Except SchemaError Field) (r : Repeater) : Repeater :=
  match f with
  | .error _ => r
  | .ok f => ((Repeater.push f).on r).2

/-- What a marker that opens a block adds. A title that is not empty becomes the label. -/
def addBlock (d : Draft) (m : Marker) : Draft :=
  let (name, style) := match m.scope with
    | .tableRow name => (name, BlockStyle.tableRow)
    | _ => (slugHead m.slug, .freeBlock)
  match d.claimRepeater name style with
  | (d, none) => d
  | (d, some index) =>
    match (m.attribute? "title").filter (! ·.isEmpty) with
    | none => d
    | some title => d.changeAt index ({ · with label := title })

/-- What a marker of a top-level field adds. -/
def addTopLevel (d : Draft) (m : Marker) : Draft :=
  match Slug.sanitize? m.slug with
  | none => d
  | some slug =>
    if d.claims.contains slug then d
    else
      match Field.ofMarker m slug with
      | .ok f => { d with fields := d.fields ++ [f], claims := d.claims.insert slug .field }
      | .error _ => d

/-- What a marker of a field inside a repeater adds. -/
def addNested (d : Draft) (m : Marker) (name : String) (style : BlockStyle) : Draft :=
  match d.claimRepeater name style with
  | (d, none) => d
  | (d, some index) =>
    match Slug.sanitize? m.fieldName with
    | none => d
    | some slug => d.changeAt index (pushKept (Field.ofMarker m slug))

/-- What a marker adds. -/
def addMarker (d : Draft) (m : Marker) : Draft :=
  match m.kind with
  | .blockEnd => d
  | .blockBegin => d.addBlock m
  | .field =>
    match m.scope with
    | .topLevel => d.addTopLevel m
    | .repeater name => d.addNested m name .freeBlock
    | .tableRow name => d.addNested m name .tableRow

/-- What a list of markers declares. -/
def ofMarkers (ms : List Marker) : Draft := ms.foldl addMarker {}

end Draft

/-! ## Schemas -/

/-- A schema under construction and the refusals so far. -/
structure Assembly where
  schema : Schema
  refusals : List SchemaError := []

/-- Goes on with the schema that an addition leaves, and notes its refusal. -/
def Assembly.keep (a : Assembly) (add : InPlace Schema Unit) : Assembly :=
  match add.on a.schema with
  | (.ok (), s) => { a with schema := s }
  | (.error e, s) => { schema := s, refusals := a.refusals ++ [e] }

/-- Adds the fields and then the repeaters of a draft to an empty schema. -/
def Draft.assemble (d : Draft) (source : SchemaMeta) : Assembly :=
  let a := d.fields.foldl (fun a f => a.keep (Schema.pushField f)) { schema := Schema.new source }
  d.repeaters.foldl (fun a r => a.keep (Schema.pushRepeater r)) a

/-- The schema that a list of markers declares. -/
def Schema.ofMarkers (source : SchemaMeta) (ms : List Marker) : Schema :=
  ((Draft.ofMarkers ms).assemble source).schema

/-- The schema that a template text declares. -/
def Schema.ofText (source : SchemaMeta) (text : String) : Schema := .ofMarkers source (Marker.scan text)

end FormTemplate
