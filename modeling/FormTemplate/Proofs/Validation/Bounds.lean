import FormTemplate.Proofs.Marker.Roles
import FormTemplate.Proofs.Schema.Built
import FormTemplate.Proofs.Text.Trim
import FormTemplate.Proofs.Validation.Conforming

/-!
# The bounds that are kept

A field takes its bounds from the marker that declares it, and a check reads them anew for each value. A bound that is kept
but cannot be read would let every value pass, so the two have to agree on what a bound is. They do: the text that is kept
is trimmed already, and trimming it once more, as a check does, changes nothing.

* `isUsableBound_trim` : a bound is kept if a check can read it;
* `Marker.Bounds` : what a marker gives as a bound, by its last attribute of a key;
* `Field.BoundedBy` : a field has the bounds that its marker gives, and all of them are heeded;
* `Field.boundedBy_ofMarker` : the field of a marker is bounded by it;
* `Schema.bounded_ofText` : so are all fields that a template text declares.
-/

set_option autoImplicit false

namespace FormTemplate

variable {f : Field} {m : Marker} {slug text value : String} {type : DataType}

/-! ## Bounds that can be read -/

/-- **A trimmed text is kept as a bound exactly if a check can read it.** -/
theorem isUsableBound_trim (type : DataType) (raw : String) :
    isUsableBound type (Text.trim raw) = (comparable? type (Text.trim raw)).isSome := by
  unfold isUsableBound comparable?
  rw [Text.trim, String.toList_ofList, Text.trimChars_trimChars]
  cases type with
  | number => rw [Option.isSome_map]
  | date => rw [Option.isSome_map]
  | text => rfl
  | boolean => rfl

/-- There is no value in a blank text. -/
theorem comparable?_empty (type : DataType) : comparable? type "" = none := by
  cases type <;> decide

theorem nonBlank?_eq_some_iff : Text.nonBlank? value = some text ↔ text = Text.trim value ∧ text ≠ "" := by
  unfold Text.nonBlank?
  by_cases hempty : Text.trim value = ""
  · simp only [hempty, String.isEmpty_iff, if_true]
    constructor
    · exact nofun
    · exact fun h => absurd h.1 h.2
  · simp only [String.isEmpty_iff, hempty, if_false, Option.some_inj]
    constructor
    · rintro rfl
      exact ⟨rfl, hempty⟩
    · exact fun h => h.1.symm

/-- **What is kept as a bound** is a trimmed text that a check can read. -/
theorem usableBound?_eq_some_iff {given : Option String} : usableBound? type given = some text ↔
    ∃ raw, given = some raw ∧ text = Text.trim raw ∧ (comparable? type text).isSome := by
  rw [usableBound?, Option.filter_eq_some_iff, Option.bind_eq_some_iff]
  constructor
  · rintro ⟨⟨raw, hgiven, hraw⟩, husable⟩
    obtain ⟨rfl, -⟩ := nonBlank?_eq_some_iff.mp hraw
    exact ⟨raw, hgiven, rfl, isUsableBound_trim type raw ▸ husable⟩
  · rintro ⟨raw, hgiven, rfl, hread⟩
    have hnonempty : Text.trim raw ≠ "" := by
      intro hempty
      rw [hempty, comparable?_empty] at hread
      cases hread
    exact ⟨⟨raw, hgiven, nonBlank?_eq_some_iff.mpr ⟨rfl, hnonempty⟩⟩, by rwa [isUsableBound_trim]⟩

/-- A marker gives a text as a bound: the last attribute with the key writes it, with white space around it, and it
can be read in the data type. -/
def Marker.Bounds (m : Marker) (key : String) (type : DataType) (text : String) : Prop :=
  ∃ before raw after, m.attributes = before ++ (key, raw) :: after ∧ (∀ a ∈ after, a.1 ≠ key) ∧
    text = Text.trim raw ∧ (comparable? type text).isSome

theorem Marker.usableBound?_attribute?_iff {key : String} :
    usableBound? type (m.attribute? key) = some text ↔ m.Bounds key type text := by
  rw [usableBound?_eq_some_iff, Bounds]
  constructor
  · rintro ⟨raw, hraw, htext⟩
    obtain ⟨before, after, hsplit, hafter⟩ := lastAttribute?_eq_some_iff.mp hraw
    exact ⟨before, raw, after, hsplit, hafter, htext⟩
  · rintro ⟨before, raw, after, hsplit, hafter, htext⟩
    exact ⟨raw, lastAttribute?_eq_some_iff.mpr ⟨before, after, hsplit, hafter⟩, htext⟩

/-! ## Bounds of fields -/

/-- A field has the bounds that a marker gives, and a check heeds all that it has. -/
structure Field.BoundedBy (f : Field) (m : Marker) : Prop where
  minimum : ∀ text, f.constraints.minimum = some text ↔ m.Bounds "minvalue" f.dataType text
  maximum : ∀ text, f.constraints.maximum = some text ↔ m.Bounds "maxvalue" f.dataType text
  /-- Every value that the check of bounds lets pass is at least the least one. -/
  heeds_minimum : ∀ text, f.constraints.minimum = some text → ∃ least, comparable? f.dataType text = some least ∧
    ∀ value v, comparable? f.dataType value = some v → f.boundsFault? value = none → least.AtMost v
  /-- Every value that the check of bounds lets pass is at most the greatest one. -/
  heeds_maximum : ∀ text, f.constraints.maximum = some text → ∃ greatest, comparable? f.dataType text = some greatest ∧
    ∀ value v, comparable? f.dataType value = some v → f.boundsFault? value = none → v.AtMost greatest

/-- The check of bounds lets pass what meets both. -/
theorem Field.boundsFault?_eq_none_iff :
    f.boundsFault? value = none ↔ Requirement.minimum.Met f value ∧ Requirement.maximum.Met f value := by
  rw [boundsFault?_eq, Option.or_eq_none_iff, (reports_minimum f value).eq_none_iff,
    (reports_maximum f value).eq_none_iff]

theorem Field.constraints_ofMarker (h : Field.ofMarker m slug = .ok f) :
    f.constraints.minimum = usableBound? f.dataType (m.attribute? "minvalue") ∧
      f.constraints.maximum = usableBound? f.dataType (m.attribute? "maxvalue") := by
  unfold Field.ofMarker at h
  dsimp only at h
  split at h
  · cases h
  · cases h
    exact ⟨rfl, rfl⟩

/-- **The field of a marker has the bounds that the marker gives, and heeds them.** -/
theorem Field.boundedBy_ofMarker (h : Field.ofMarker m slug = .ok f) : f.BoundedBy m := by
  obtain ⟨hleast, hgreatest⟩ := constraints_ofMarker h
  have hminimum : ∀ text, f.constraints.minimum = some text ↔ m.Bounds "minvalue" f.dataType text := fun text => by
    rw [hleast, Marker.usableBound?_attribute?_iff]
  have hmaximum : ∀ text, f.constraints.maximum = some text ↔ m.Bounds "maxvalue" f.dataType text := fun text => by
    rw [hgreatest, Marker.usableBound?_attribute?_iff]
  refine ⟨hminimum, hmaximum, fun text htext => ?least, fun text htext => ?greatest⟩
  case least =>
    obtain ⟨_, _, _, _, _, _, hread⟩ := (hminimum text).mp htext
    obtain ⟨least, hbound⟩ := Option.isSome_iff_exists.mp hread
    exact ⟨least, hbound, fun value v hv hpass => (boundsFault?_eq_none_iff.mp hpass).1 v hv text htext least hbound⟩
  case greatest =>
    obtain ⟨_, _, _, _, _, _, hread⟩ := (hmaximum text).mp htext
    obtain ⟨greatest, hbound⟩ := Option.isSome_iff_exists.mp hread
    exact ⟨greatest, hbound,
      fun value v hv hpass => (boundsFault?_eq_none_iff.mp hpass).2 v hv text htext greatest hbound⟩

/-- A field is the one that a marker declares under a slug, and has its bounds. -/
def Field.BoundedAs (f : Field) (p : String × Marker) : Prop := Field.ofMarker p.2 p.1 = .ok f ∧ f.BoundedBy p.2

/-! ## Schemas -/

theorem boundedAs_of_map {fields : List Field} {declarations : List (String × Marker)}
    (h : fields.map Except.ok = declarations.map fun p => Field.ofMarker p.2 p.1) :
    List.Forall₂ Field.BoundedAs fields declarations := by
  have hpairs : List.Forall₂ (fun f (p : String × Marker) => Except.ok f = Field.ofMarker p.2 p.1) fields
      declarations := by
    rw [← List.forall₂_eq_eq_eq, List.forall₂_map_left_iff, List.forall₂_map_right_iff] at h
    exact h
  exact hpairs.imp fun f p hp => ⟨hp.symm, Field.boundedBy_ofMarker hp.symm⟩

/-- **The bounds that are kept are those that can be used.** Of each marker, under each slug that is valid, there is a
field, with the bounds that the marker gives; and each field that a template text declares, by itself or in a repeater,
has those that the marker that declares it gives. None that is kept is passed over by a check. -/
theorem Schema.bounded_ofText :
    (∀ (m : Marker) slug, Slug.isValid slug = true → ∃ f, Field.ofMarker m slug = .ok f ∧ f.BoundedBy m) ∧
    ∀ source text, let s := Schema.ofText source text
      List.Forall₂ Field.BoundedAs s.fields (Marker.claimedFields (Marker.scan text)) ∧
      ∀ r ∈ s.repeaters, List.Forall₂ Field.BoundedAs r.fields
        (firstsBy Marker.nestedField? (Marker.addressed (Marker.scan text) r.slug)) := by
  refine ⟨fun m slug hslug => ?_, fun source text => ?_⟩
  · obtain ⟨f, hf, -⟩ := Field.ofMarker_of_isValid m hslug
    exact ⟨f, hf, Field.boundedBy_ofMarker hf⟩
  · intro s
    have hs : s = _ := Schema.ofMarkers_eq_declared source (Marker.scan text)
    rw [hs]
    refine ⟨boundedAs_of_map (Marker.fieldsOf_claimedFields _).1, fun r hr => ?_⟩
    obtain ⟨slug, -, rfl⟩ := List.mem_map.mp hr
    exact boundedAs_of_map (Marker.fieldsOf_nestedFields _).1

/-- Of two least sums the last counts, without the white space around it, and 99 is below it; a greatest sum without end
is none, and neither is a least day that the calendar does not have. -/
theorem Schema.bounded_ofText_order :
    let source : SchemaMeta := ⟨.docx, "order", ⟨⟨2000, 1, 1⟩, 0, 0, 0, 0⟩⟩
    let text := "[sum;type=number;minvalue=7;minvalue=' 1e2 ';maxvalue=inf][row.day;type=date;minvalue=2024-02-30]"
    let s := Schema.ofText source text
    let m : Marker := ⟨"sum", [("type", "number"), ("minvalue", " 1e2 ")], .topLevel, .field, 0⟩
    (s.fields.map fun f => (f.constraints.minimum, f.constraints.maximum, (f.boundsFault? "99").isSome)) =
      [(some "1e2", none, true)] ∧
    (s.repeaters.map fun r => r.fields.map (·.constraints.minimum)) = [[none]] ∧
    List.Forall₂ Field.BoundedAs s.fields (Marker.claimedFields (Marker.scan text)) ∧
    (∀ r ∈ s.repeaters, List.Forall₂ Field.BoundedAs r.fields
      (firstsBy Marker.nestedField? (Marker.addressed (Marker.scan text) r.slug))) ∧
    Slug.isValid "sum" = true ∧ ∃ f, Field.ofMarker m "sum" = .ok f ∧ f.BoundedBy m := by
  intro source text s m
  have hslug : Slug.isValid "sum" = true := by decide
  have hfields : (s.fields.map fun f => (f.constraints.minimum, f.constraints.maximum, (f.boundsFault? "99").isSome)) =
      [(some "1e2", none, true)] := by decide +kernel
  have hcolumns : (s.repeaters.map fun r => r.fields.map (·.constraints.minimum)) = [[none]] := by decide +kernel
  obtain ⟨hdeclared, hnested⟩ := bounded_ofText.2 source text
  exact ⟨hfields, hcolumns, hdeclared, hnested, hslug, bounded_ofText.1 m "sum" hslug⟩

end FormTemplate
