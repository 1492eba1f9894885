import FormTemplate.Proofs.Schema.Built

/-!
# Templates that grow

Stored documents refer to what a template declares by its slug. Markers that are appended to a template come behind all
others, and a name belongs to its first use, so they declare what is new behind what is there. On what is there they have
two effects only: a table row makes the repeater that it is addressed to a table row, and a title that is not empty becomes
its label.

* `prefix_firstsBy_append`, `Marker.prefix_claims_append` : the names in use stay, in their order;
* `Marker.Titles` : a marker gives a title to a repeater;
* `Repeater.Grows` : what appending may do to a repeater;
* `Repeater.grows_ofMarkers` : appending to the markers of a repeater does no more;
* `Schema.ofMarkers_append` : a schema whose template grows.
-/

set_option autoImplicit false

namespace FormTemplate

variable {ms more : List Marker} {slug : String}

/-! ## Names -/

/-- The first members of a list come first in every longer list. -/
theorem prefix_firstsBy_append {α : Type} (key : α → Option String) (l l' : List α) :
    firstsBy key l <+: firstsBy key (l ++ l') := by
  rw [firstsBy_append]
  exact List.prefix_append _ _

theorem prefix_fieldsOf {declarations longer : List (String × Marker)} (h : declarations <+: longer) :
    fieldsOf declarations <+: fieldsOf longer := h.filterMap _

namespace Marker

theorem prefix_claims_append : claims ms <+: claims (ms ++ more) := prefix_firstsBy_append _ _ _

theorem prefix_claimedFields_append : claimedFields ms <+: claimedFields (ms ++ more) := prefix_claims_append.filter _

theorem prefix_claimedRepeaters_append : claimedRepeaters ms <+: claimedRepeaters (ms ++ more) :=
  (prefix_claims_append.filter _).map _

theorem addressed_append : addressed (ms ++ more) slug = addressed ms slug ++ addressed more slug :=
  List.filter_append _ _

/-- A marker begins a block of a repeater and gives it a title that is not empty. -/
structure Titles (slug : String) (m : Marker) : Prop where
  begins : m.kind = .blockBegin
  addressee : m.addressee? = some slug
  title : ∃ title, m.attribute? "title" = some title ∧ title ≠ ""

theorem isSome_blockTitle?_iff {m : Marker} :
    m.blockTitle?.isSome = true ↔ m.kind = .blockBegin ∧ ∃ title, m.attribute? "title" = some title ∧ title ≠ "" := by
  unfold blockTitle?
  cases m.kind <;> cases m.attribute? "title" <;> simp [Option.filter_some, Option.isSome_iff_exists]

end Marker

/-! ## Repeaters -/

/-- What markers behind the ones of a repeater may do to it. -/
structure Repeater.Grows (more : List Marker) (r r' : Repeater) : Prop where
  slug : r'.slug = r.slug
  /-- The fields stay as they are, in front of new ones. -/
  fields : r.fields <+: r'.fields
  /-- The layout stays, or a free block becomes a table row. -/
  block : r'.block = r.block ∨ r.block = .freeBlock ∧ r'.block = .tableRow
  /-- The label stays, unless one of the new markers gives another title. -/
  label : r'.label = r.label ∨ ∃ m ∈ more, m.Titles r.slug

/-- The label of a repeater is its last title among the new markers, if there is one. -/
theorem Repeater.label_ofMarkers_append :
    (Repeater.ofMarkers slug (ms ++ more)).label =
      (more.filterMap Marker.blockTitle?).getLast?.getD (Repeater.ofMarkers slug ms).label := by
  simp only [Repeater.ofMarkers, List.filterMap_append, List.getLast?_append]
  cases (more.filterMap Marker.blockTitle?).getLast? <;> simp

/-- **Appending markers** adds fields behind those of a repeater and changes nothing else of it but its layout and its
label. -/
theorem Repeater.grows_ofMarkers :
    (Repeater.ofMarkers slug (Marker.addressed ms slug)).Grows more
      (Repeater.ofMarkers slug (Marker.addressed (ms ++ more) slug)) where
  slug := rfl
  fields := by
    rw [Marker.addressed_append]
    exact prefix_fieldsOf (prefix_firstsBy_append _ _ _)
  block := by
    simp only [Repeater.ofMarkers, Marker.addressed_append, List.any_append]
    cases (Marker.addressed ms slug).any (·.scope.isTableRow) <;>
      cases (Marker.addressed more slug).any (·.scope.isTableRow) <;> simp
  label := by
    rw [Marker.addressed_append, label_ofMarkers_append]
    cases htitles : (Marker.addressed more slug).filterMap Marker.blockTitle? with
    | nil => exact .inl rfl
    | cons title titles =>
      have hmem : title ∈ (Marker.addressed more slug).filterMap Marker.blockTitle? := by rw [htitles]; simp
      obtain ⟨m, hm, htitle⟩ := List.mem_filterMap.mp hmem
      obtain ⟨hm, haddressee⟩ := List.mem_filter.mp hm
      obtain ⟨hbegins, hgiven⟩ := Marker.isSome_blockTitle?_iff.mp (Option.isSome_of_eq_some htitle)
      exact .inr ⟨m, hm, hbegins, beq_iff_eq.mp haddressee, hgiven⟩

/-! ## Schemas -/

/-- The repeaters of a schema are those of the claimed names, each made by the markers addressed to it. -/
theorem Schema.mem_repeaters_ofMarkers {source : SchemaMeta} {r : Repeater} :
    r ∈ (Schema.ofMarkers source ms).repeaters ↔
      ∃ slug ∈ Marker.claimedRepeaters ms, Repeater.ofMarkers slug (Marker.addressed ms slug) = r := by
  rw [ofMarkers_eq_declared]
  exact List.mem_map

/-- **What a template declares stays when markers are appended to it.** The fields come first, as they were, and so do the
repeaters by their slugs. Each of them keeps its fields in front of new ones; it may become a table row, and it keeps its
label unless one of the new markers begins its block with a title. -/
theorem Schema.ofMarkers_append (source : SchemaMeta) (ms more : List Marker) :
    let s := Schema.ofMarkers source ms
    let s' := Schema.ofMarkers source (ms ++ more)
    s.fields <+: s'.fields ∧ s.repeaters.map (·.slug) <+: s'.repeaters.map (·.slug) ∧
      ∀ r ∈ s.repeaters, ∃ r', s'.repeater? r.slug = some r' ∧ r.Grows more r' := by
  intro s s'
  have hs : s = _ := Schema.ofMarkers_eq_declared source ms
  have hs' : s' = _ := Schema.ofMarkers_eq_declared source (ms ++ more)
  have hslugs : s.repeaters.map (·.slug) <+: s'.repeaters.map (·.slug) := by
    rw [hs, hs', Marker.slugs_declaredRepeaters, Marker.slugs_declaredRepeaters]
    exact Marker.prefix_claimedRepeaters_append
  refine ⟨?_, hslugs, fun r hr => ?_⟩
  · rw [hs, hs']
    exact prefix_fieldsOf Marker.prefix_claimedFields_append
  · obtain ⟨slug, hslug, rfl⟩ := mem_repeaters_ofMarkers.mp hr
    have hmem : Repeater.ofMarkers slug (Marker.addressed (ms ++ more) slug) ∈ s'.repeaters :=
      mem_repeaters_ofMarkers.mpr ⟨slug, Marker.prefix_claimedRepeaters_append.subset hslug, rfl⟩
    exact ⟨_, (wellFormed_ofMarkers source _).repeater?_eq_some_iff.mpr ⟨hmem, rfl⟩, Repeater.grows_ofMarkers⟩

/-- A letter gets a title and a table row for its list, another column, a list under the name of its field, which is
dropped, and another field. -/
theorem Schema.ofMarkers_append_letter :
    let source : SchemaMeta := ⟨.docx, "letter", ⟨⟨2000, 1, 1⟩, 0, 0, 0, 0⟩⟩
    let ms := Marker.scan "[name][Items.sku]"
    let more := Marker.scan "[items;block=begin;title=Lines][ITEMS.qty;block='tbs:row'][name.first][place]"
    (Schema.ofMarkers source (ms ++ more)).fields.map (·.slug) = ["name", "place"] ∧
      ∃ r ∈ (Schema.ofMarkers source ms).repeaters, r.slug = "items" ∧
        ∃ r', (Schema.ofMarkers source (ms ++ more)).repeater? r.slug = some r' ∧ r.Grows more r' ∧
          r'.label = "Lines" ∧ r'.block = .tableRow ∧ r'.fields.map (·.slug) = ["sku", "qty"] := by
  intro source ms more
  have hr : ∃ r ∈ (Schema.ofMarkers source ms).repeaters, r.slug = "items" := by decide +kernel
  have hgrown : ((Schema.ofMarkers source (ms ++ more)).repeater? "items").all fun r' =>
      r'.label = "Lines" ∧ r'.block = .tableRow ∧ r'.fields.map (·.slug) = ["sku", "qty"] := by decide +kernel
  obtain ⟨r, hmem, hslug⟩ := hr
  obtain ⟨r', hr', hgrows⟩ := (ofMarkers_append source ms more).2.2 r hmem
  refine ⟨by decide +kernel, r, hmem, hslug, r', hr', hgrows, ?_⟩
  rw [hslug] at hr'
  simpa [hr'] using hgrown

end FormTemplate
