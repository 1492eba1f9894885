import FormTemplate.Proofs.Schema.Check
import FormTemplate.Proofs.Schema.Declared

/-!
# Schemas built from markers

The slugs that markers declare are distinct, so assembling a draft refuses none of its parts, and the schema of a list
of markers is what they declare, in closed form.

* `Draft.assemble_eq` : where no slug occurs twice, nothing is refused.
* `Schema.DeclaredBy` : the rule that a name belongs to its first use, as a property of a schema.
* `Schema.eq_ofMarkers_iff_declaredBy` : the schema of a list of markers is the one that follows the rule.
* `Schema.ofMarkers_check` : every schema built passes its check, and nothing is lost in assembling it.
-/

set_option autoImplicit false

namespace FormTemplate

/-! ## Assembling -/

/-- Fields are added one behind the other as long as the slugs of the result are distinct. -/
theorem Assembly.foldl_addField (fs : List Field) (a : Assembly)
    (h : ({ a.schema with fields := a.schema.fields ++ fs } : Schema).topSlugs.Nodup) :
    fs.foldl (fun a f => a.keep (Schema.pushField f)) a =
      { a with schema := { a.schema with fields := a.schema.fields ++ fs } } := by
  induction fs generalizing a with
  | nil => rw [List.foldl_nil, List.append_nil]
  | cons f rest ih =>
    have hnew : f.slug ∉ a.schema.topSlugs := by
      simp only [Schema.topSlugs, List.map_append, List.map_cons] at h ⊢
      grind [List.nodup_append]
    rw [List.foldl_cons, Assembly.keep, Schema.pushField_on, onUnlessUsed, if_neg hnew, ih]
    · simp
    · simpa using h

/-- Repeaters are added one behind the other as long as the slugs of the result are distinct. -/
theorem Assembly.foldl_addRepeater (rs : List Repeater) (a : Assembly)
    (h : ({ a.schema with repeaters := a.schema.repeaters ++ rs } : Schema).topSlugs.Nodup) :
    rs.foldl (fun a r => a.keep (Schema.pushRepeater r)) a =
      { a with schema := { a.schema with repeaters := a.schema.repeaters ++ rs } } := by
  induction rs generalizing a with
  | nil => rw [List.foldl_nil, List.append_nil]
  | cons r rest ih =>
    have hnew : r.slug ∉ a.schema.topSlugs := by
      simp only [Schema.topSlugs, List.map_append, List.map_cons] at h ⊢
      grind [List.nodup_append]
    rw [List.foldl_cons, Assembly.keep, Schema.pushRepeater_on, onUnlessUsed, if_neg hnew, ih]
    · simp
    · simpa using h

/-- **Where no slug occurs twice, assembling a draft refuses nothing.** -/
theorem Draft.assemble_eq (d : Draft) (source : SchemaMeta)
    (h : (d.fields.map (·.slug) ++ d.repeaters.map (·.slug)).Nodup) :
    d.assemble source =
      { schema := ⟨Schema.currentVersion, d.fields, d.repeaters, source⟩, refusals := [] } := by
  have hfields : (d.fields.map (·.slug)).Nodup := (List.nodup_append.mp h).1
  rw [Draft.assemble, Assembly.foldl_addField, Assembly.foldl_addRepeater]
  · simp [Schema.new]
  · simpa [Schema.new, Schema.topSlugs] using h
  · simpa [Schema.new, Schema.topSlugs] using hfields

/-! ## Declared schemas -/

theorem Marker.nodup_declared (ms : List Marker) :
    ((declaredFields ms).map (·.slug) ++ (declaredRepeaters ms).map (·.slug)).Nodup := by
  rw [slugs_declaredFields, slugs_declaredRepeaters]
  exact nodup_claimed

theorem Draft.assemble_ofMarkers (ms : List Marker) (source : SchemaMeta) :
    (ofMarkers ms).assemble source =
      { schema := ⟨Schema.currentVersion, (ofMarkers ms).fields, (ofMarkers ms).repeaters, source⟩
        refusals := [] } := by
  apply assemble_eq
  rw [(holds_ofMarkers ms).fields, (holds_ofMarkers ms).repeaters]
  exact Marker.nodup_declared ms

/-- **The schema of a list of markers has the fields and the repeaters that they declare.** -/
theorem Schema.ofMarkers_eq_declared (source : SchemaMeta) (ms : List Marker) :
    Schema.ofMarkers source ms =
      ⟨Schema.currentVersion, Marker.declaredFields ms, Marker.declaredRepeaters ms, source⟩ := by
  have h := Draft.holds_ofMarkers ms
  rw [Schema.ofMarkers, Draft.assemble_ofMarkers, h.fields, h.repeaters]

/-! ## First uses -/

theorem BlockStyle.eq_ite_iff {block : BlockStyle} {row : Bool} :
    block = (if row then .tableRow else .freeBlock) ↔ (block = .tableRow ↔ row = true) := by
  cases block <;> cases row <;> simp

/-- The repeater that the markers addressed to it make is the one with their fields, title and layout. -/
theorem Repeater.eq_ofMarkers_iff {r : Repeater} {ms : List Marker} :
    r = Repeater.ofMarkers r.slug ms ↔
      r.fields.map Except.ok = (firstsBy Marker.nestedField? ms).map (fun p => Field.ofMarker p.2 p.1) ∧
        r.label = (ms.filterMap Marker.blockTitle?).getLast?.getD (Slug.humanize r.slug) ∧
        (r.block = .tableRow ↔ ∃ m ∈ ms, m.scope.isTableRow = true) := by
  rw [Repeater.ext_iff, ← (Marker.fieldsOf_nestedFields ms).1, ← List.any_eq_true, ← BlockStyle.eq_ite_iff,
    List.map_inj_right fun _ _ h => Except.ok.inj h]
  constructor
  · rintro ⟨_, hlabel, hblock, hfields⟩
    exact ⟨hfields, hlabel, hblock⟩
  · rintro ⟨hfields, hlabel, hblock⟩
    exact ⟨rfl, hlabel, hblock, hfields⟩

namespace Schema

/-- A schema that follows the rule that a name belongs to its first use. -/
structure DeclaredBy (s : Schema) (source : SchemaMeta) (ms : List Marker) : Prop where
  version : s.version = currentVersion
  source : s.source = source
  /-- The fields are the names claimed as fields, each as its first marker declares it. -/
  fields : s.fields.map Except.ok = (Marker.claimedFields ms).map fun p => Field.ofMarker p.2 p.1
  /-- The repeaters are the names claimed as repeaters. -/
  repeaters : s.repeaters.map (·.slug) = Marker.claimedRepeaters ms
  /-- Of the markers of a nested field the first counts. -/
  nested : ∀ r ∈ s.repeaters, r.fields.map Except.ok =
    (firstsBy Marker.nestedField? (Marker.addressed ms r.slug)).map fun p => Field.ofMarker p.2 p.1
  /-- Of the titles that are not empty the last counts. -/
  label : ∀ r ∈ s.repeaters, r.label =
    ((Marker.addressed ms r.slug).filterMap Marker.blockTitle?).getLast?.getD (Slug.humanize r.slug)
  /-- A single table row makes the repeater one. -/
  block : ∀ r ∈ s.repeaters,
    r.block = .tableRow ↔ ∃ m ∈ Marker.addressed ms r.slug, m.scope.isTableRow = true

/-- **The schema of a list of markers is the one schema in which every name belongs to its first use.** -/
theorem eq_ofMarkers_iff_declaredBy (s : Schema) (source : SchemaMeta) (ms : List Marker) :
    s = Schema.ofMarkers source ms ↔ s.DeclaredBy source ms := by
  rw [ofMarkers_eq_declared]
  constructor
  · rintro rfl
    have hmade : ∀ r ∈ Marker.declaredRepeaters ms, r = Repeater.ofMarkers r.slug (Marker.addressed ms r.slug) := by
      intro r hr
      obtain ⟨slug, _, rfl⟩ := List.mem_map.mp hr
      rfl
    exact {
      version := rfl
      source := rfl
      fields := (Marker.fieldsOf_claimedFields ms).1
      repeaters := Marker.slugs_declaredRepeaters ms
      nested := fun r hr => (Repeater.eq_ofMarkers_iff.mp (hmade r hr)).1
      label := fun r hr => (Repeater.eq_ofMarkers_iff.mp (hmade r hr)).2.1
      block := fun r hr => (Repeater.eq_ofMarkers_iff.mp (hmade r hr)).2.2 }
  · intro h
    have hfields : s.fields = Marker.declaredFields ms :=
      (List.map_inj_right fun _ _ h => Except.ok.inj h).mp
        (h.fields.trans (Marker.fieldsOf_claimedFields ms).1.symm)
    have hmade : ∀ r ∈ s.repeaters, Repeater.ofMarkers r.slug (Marker.addressed ms r.slug) = r :=
      fun r hr => (Repeater.eq_ofMarkers_iff.mpr ⟨h.nested r hr, h.label r hr, h.block r hr⟩).symm
    have hrepeaters : s.repeaters = Marker.declaredRepeaters ms := by
      rw [Marker.declaredRepeaters, ← h.repeaters, List.map_map]
      exact (List.map_id _).symm.trans (List.map_congr_left fun r hr => (hmade r hr).symm)
    rw [← hfields, ← hrepeaters, ← h.version, ← h.source]

/-! ## Checks -/

/-- The schema of a list of markers follows the rules of the name spaces. -/
theorem wellFormed_ofMarkers (source : SchemaMeta) (ms : List Marker) :
    (Schema.ofMarkers source ms).WellFormed := by
  rw [ofMarkers_eq_declared]
  constructor
  · refine ⟨fun slug hslug => ?_, Marker.nodup_declared ms⟩
    rw [topSlugs, Marker.slugs_declaredFields, Marker.slugs_declaredRepeaters] at hslug
    exact Marker.isValid_of_mem_claims (Marker.mem_keys_claims.mpr (List.mem_append.mp hslug))
  · intro r hr
    obtain ⟨slug, _, rfl⟩ := List.mem_map.mp hr
    rw [Repeater.ofMarkers, (Marker.fieldsOf_nestedFields _).2]
    refine ⟨fun name hname => ?_, nodup_keys_firstsBy⟩
    obtain ⟨m, _, hm⟩ := mem_keys_firstsBy.mp hname
    exact Marker.isValid_of_nestedField? hm

/-- **Every schema built passes its check, and nothing that was collected is refused in assembling it.** -/
theorem ofMarkers_check (source : SchemaMeta) (ms : List Marker) (text : String) :
    (Schema.ofMarkers source ms).check = .ok () ∧
      (Schema.ofText source text).check = .ok () ∧
      ((Draft.ofMarkers ms).assemble source).refusals = [] ∧
      (Schema.ofMarkers source ms).fields = (Draft.ofMarkers ms).fields ∧
      (Schema.ofMarkers source ms).repeaters = (Draft.ofMarkers ms).repeaters := by
  have hcheck (ms : List Marker) : (Schema.ofMarkers source ms).check = .ok () :=
    check_eq_ok_iff.mpr (wellFormed_ofMarkers source ms)
  refine ⟨hcheck ms, hcheck (Marker.scan text), ?_, ?_, ?_⟩
  · rw [Draft.assemble_ofMarkers]
  · rw [Schema.ofMarkers, Draft.assemble_ofMarkers]
  · rw [Schema.ofMarkers, Draft.assemble_ofMarkers]

end Schema

end FormTemplate
