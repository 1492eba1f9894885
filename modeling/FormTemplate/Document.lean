import FormTemplate.Blob
import FormTemplate.Items
import FormTemplate.Markup
import FormTemplate.Schema
import FormTemplate.Validation

/-!
# Saving documents

Each save makes the list of values anew from the schema, the values submitted and the values stored before.
Fields come first, then repeaters, both in the order of the schema, then whatever else was stored or submitted,
in the order of slugs and kept as rich text. What was not submitted keeps its stored value; a submission of the
wrong form is reported and changes nothing; a value that fails its checks is reported and stored nevertheless.

* `sanitizeValue` : a value cleaned for its kind.
* `rebuild` : the values of a save, with what is unknown and what is wrong.
* `saveDocument` : the blob of a save.
-/

set_option autoImplicit false

namespace FormTemplate

/-- Limits on stored values. -/
structure CodecOptions where
  /-- The greatest number of items that is kept of a list. -/
  maxItems : Nat := 20
  deriving DecidableEq, Repr

/-- A value cleaned for its kind: lists are cut, rich text loses what is unsafe. -/
def sanitizeValue (kind : ValueKind) (value : String) (options : CodecOptions) : Except ItemsError String :=
  match kind with
  | .array => (Items.decode value).map fun items => Items.encode (Items.truncate options.maxItems items)
  | .rich => .ok (Markup.strip value)
  | .single | .textarea => .ok value

/-- What is submitted under a slug. -/
inductive Submission where
  | text (s : String)
  | items (items : List Item)
  deriving DecidableEq, Repr

/-- What has been gathered in the course of a save. -/
structure Progress where
  patterns : PatternCache := {}
  mismatches : List Mismatch := []

/-- Notes a mismatch. -/
def Progress.report (st : Progress) (m : Mismatch) : Progress := { st with mismatches := st.mismatches ++ [m] }

/-- Puts the mismatches behind the first `before` under another slug. -/
def Progress.retag (st : Progress) (before : Nat) (slug : String) : Progress :=
  { st with mismatches := st.mismatches.take before ++ (st.mismatches.drop before).map ({ · with slug := slug }) }

/-! ## Fields -/

/-- A submitted text as it is stored for a field. Faults are reported under the slug of the field. -/
def cleanText (options : CodecOptions) (f : Field) (raw : String) (st : Progress) :
    Except ItemsError String × Progress :=
  let value := normalize f.dataType raw
  let (outcome, patterns) := validateWith f value st.patterns
  let st := { st with patterns := patterns }
  let st := match outcome with
    | .ok () => st
    | .error m => st.report m
  (sanitizeValue f.kind.valueKind value options, st)

/-- The value stored before, or the empty text. -/
def keptText (previous : Option FieldValue) : String := (previous.map (·.value)).getD ""

/-- The text stored for a field. -/
def fieldText (options : CodecOptions) (f : Field) (submitted : Option Submission)
    (previous : Option FieldValue) (st : Progress) : String × Progress :=
  match submitted with
  | none => (keptText previous, st)
  | some (.items _) =>
    (keptText previous, st.report ⟨f.slug, f.label ++ " expects a single value, not a list"⟩)
  | some (.text raw) =>
    match cleanText options f raw st with
    | (.ok value, st) => (value, st)
    | (.error e, st) => (keptText previous, st.report ⟨f.slug, e.message⟩)

/-! ## Repeaters -/

/-- The declared entries of an item, cleaned in the order of their keys. What is reported of an entry is put under the
slug of the repeater, the number of the item and the key. -/
def cleanEntries (options : CodecOptions) (r : Repeater) (index : Nat) :
    List (String × String) → Progress → Except ItemsError (List (String × String)) × Progress
  | [], st => (.ok [], st)
  | (key, raw) :: rest, st =>
    match r.field? key with
    | none => cleanEntries options r index rest st
    | some f =>
      let before := st.mismatches.length
      match cleanText options f raw st with
      | (.error e, st) => (.error e, st)
      | (.ok value, st) =>
        match cleanEntries options r index rest (st.retag before (r.slug ++ "." ++ index.repr ++ "." ++ key)) with
        | (.error e, st) => (.error e, st)
        | (.ok entries, st) => (.ok ((key, value) :: entries), st)

/-- The items of a list, cleaned in their order. -/
def cleanItems (options : CodecOptions) (r : Repeater) :
    Nat → List Item → Progress → Except ItemsError (List Item) × Progress
  | _, [], st => (.ok [], st)
  | index, item :: rest, st =>
    match cleanEntries options r index item.entries st with
    | (.error e, st) => (.error e, st)
    | (.ok entries, st) =>
      match cleanItems options r (index + 1) rest st with
      | (.error e, st) => (.error e, st)
      | (.ok items, st) => (.ok (Dict.ofList entries :: items), st)

/-- The list stored before, or the empty list. -/
def keptList (previous : Option FieldValue) : String := (previous.map (·.value)).getD (Items.encode [])

/-- The list that a submission gives, be it as items or as their text. -/
def Submission.list : Submission → Except ItemsError (List Item)
  | .items l => .ok l
  | .text raw => Items.decode raw

/-- The text stored for a repeater. -/
def repeaterText (options : CodecOptions) (r : Repeater) (submitted : Option Submission)
    (previous : Option FieldValue) (st : Progress) : Except ItemsError String × Progress :=
  match submitted with
  | none => (.ok (keptList previous), st)
  | some submission =>
    match submission.list with
    | .error e => (.ok (keptList previous), st.report ⟨r.slug, e.message⟩)
    | .ok items =>
      match cleanItems options r 0 (Items.truncate options.maxItems items) st with
      | (.error e, st) => (.error e, st)
      | (.ok items, st) => (.ok (Items.encode items), st)

/-! ## Slugs that the schema does not declare -/

/-- A submission for a slug that the schema does not declare, as it is stored. -/
def undeclaredText (options : CodecOptions) : Submission → Except ItemsError String
  | .text raw => sanitizeValue .rich raw options
  | .items items =>
    .ok (Items.encode ((Items.truncate options.maxItems items).map (·.mapValues fun _ v => Markup.strip v)))

/-- Adds the submissions for slugs that the schema does not declare to the values kept for such slugs. -/
def addUndeclared (options : CodecOptions) (schema : Schema) :
    List (String × Submission) → Dict String → Except ItemsError (Dict String)
  | [], kept => .ok kept
  | (slug, submission) :: rest, kept =>
    if schema.containsSlug slug || !Slug.isValid slug then addUndeclared options schema rest kept
    else
      match undeclaredText options submission with
      | .error e => .error e
      | .ok value => addUndeclared options schema rest (kept.insert slug value)

/-- The stored texts of slugs that the schema does not declare. -/
def keptUndeclared (schema : Schema) (previous : Dict FieldValue) : Dict String :=
  (previous.filter fun slug _ => !schema.containsSlug slug).mapValues fun _ v => v.value

/-! ## Saving -/

/-- The values of a save. -/
structure Rebuilt where
  values : List FieldValue
  /-- The slugs that are kept although the schema does not declare them. -/
  unknown : List String
  mismatches : List Mismatch
  deriving DecidableEq, Repr

/-- The values of fields in order. -/
def fieldValues (options : CodecOptions) (submitted : Dict Submission) (previous : Dict FieldValue) :
    List Field → Progress → List FieldValue × Progress
  | [], st => ([], st)
  | f :: rest, st =>
    let (text, st) := fieldText options f (submitted.get? f.slug) (previous.get? f.slug) st
    let (values, st) := fieldValues options submitted previous rest st
    (⟨f.slug, f.kind.valueKind, text⟩ :: values, st)

/-- The values of repeaters in order. -/
def repeaterValues (options : CodecOptions) (submitted : Dict Submission) (previous : Dict FieldValue) :
    List Repeater → Progress → Except ItemsError (List FieldValue) × Progress
  | [], st => (.ok [], st)
  | r :: rest, st =>
    match repeaterText options r (submitted.get? r.slug) (previous.get? r.slug) st with
    | (.error e, st) => (.error e, st)
    | (.ok text, st) =>
      match repeaterValues options submitted previous rest st with
      | (.error e, st) => (.error e, st)
      | (.ok values, st) => (.ok (⟨r.slug, .array, text⟩ :: values), st)

/-- The values of a save: what the schema declares, then everything else in the order of slugs. -/
def rebuild (schema : Schema) (submitted : Dict Submission) (previous : Dict FieldValue)
    (options : CodecOptions) : Except ItemsError Rebuilt :=
  let (fields, st) := fieldValues options submitted previous schema.fields {}
  match repeaterValues options submitted previous schema.repeaters st with
  | (.error e, _) => .error e
  | (.ok repeaters, st) =>
    match addUndeclared options schema submitted.entries (keptUndeclared schema previous) with
    | .error e => .error e
    | .ok unknown =>
      .ok {
        values := fields ++ repeaters ++ unknown.entries.map fun e => ⟨e.1, .rich, e.2⟩
        unknown := unknown.keys
        mismatches := st.mismatches }

/-- What a save gives. -/
structure SavedDocument where
  blob : String
  unknown : List String
  mismatches : List Mismatch
  deriving DecidableEq, Repr

/-- The blob of a save, from the blob stored before, if there is one. -/
def saveDocument (schema : Schema) (submitted : Dict Submission) (previousBlob : Option String)
    (options : CodecOptions) : Except ItemsError SavedDocument :=
  let previous := (previousBlob.map Blob.decode).getD .empty
  (rebuild schema submitted previous options).map fun r => ⟨Blob.encode r.values, r.unknown, r.mismatches⟩

end FormTemplate
