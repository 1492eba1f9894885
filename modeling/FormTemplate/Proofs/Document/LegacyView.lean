import FormTemplate.Legacy
import FormTemplate.Proofs.Document.Rows
import Mathlib.Data.List.Forall2

/-!
# Older renderers see what is saved

The flattened view and the save go through a schema apart from each other: one lists slugs, kinds and, by slug, the
items of each repeater; the other looks slugs up and leaves out the keys of rows that it does not find. For a checked
schema they agree. The view loses no item, and a save starts with one value for each entry of the view, in order and of
its kind; the rows that it stores have keys of the entry's items only.

* `Repeater.legacyView_eq` : where no slug is repeated inside a repeater, no item takes the place of another;
* `Repeater.mem_keys_row_iff` : the keys of a stored row;
* `LegacyField.Announces` : a stored value is what an entry of the view announces;
* `rebuild_followsView` : the values of a save start with those that the view announces.
-/

set_option autoImplicit false

namespace FormTemplate

variable {schema : Schema} {r : Repeater}

/-! ## The view of a repeater -/

/-- An item with a slug of its own is put at the end. -/
theorem putItem_of_not_mem {item : LegacyItem} {l : List (String × LegacyItem)} (h : item.slug ∉ l.map (·.1)) :
    putItem l item = l ++ [(item.slug, item)] := by
  induction l with
  | nil => rfl
  | cons e rest ih =>
    rw [List.map_cons, List.mem_cons, not_or] at h
    have hne : ¬(e.1 == item.slug) = true := by simpa using Ne.symm h.1
    rw [putItem, if_neg hne, ih h.2, List.cons_append]

theorem foldl_putItem {items : List LegacyItem} {l : List (String × LegacyItem)}
    (h : (l.map (·.1) ++ items.map (·.slug)).Nodup) :
    items.foldl putItem l = l ++ items.map fun item => (item.slug, item) := by
  induction items generalizing l with
  | nil => exact (List.append_nil l).symm
  | cons item rest ih =>
    -- the items in `l` were put before, and all slugs still to come differ from theirs
    have hnew : item.slug ∉ l.map (·.1) := fun hmem =>
      (List.nodup_append.mp h).2.2 _ hmem _ List.mem_cons_self rfl
    have hrest : ((l ++ [(item.slug, item)]).map (·.1) ++ rest.map (·.slug)).Nodup := by
      simpa using h
    rw [List.foldl_cons, putItem_of_not_mem hnew, ih hrest, List.append_assoc]
    rfl

/-- **Where no slug is repeated inside a repeater, its view lists all its fields in order**, each by its slug. -/
theorem Repeater.legacyView_eq (h : (r.fields.map (·.slug)).Nodup) :
    r.legacyView = ⟨r.slug, r.label, .array, some (r.fields.map fun f => (f.slug, f.legacyItem))⟩ := by
  have hslugs : ((r.fields.map Field.legacyItem).map (·.slug)).Nodup := by
    rw [List.map_map]
    exact h
  rw [Repeater.legacyView, foldl_putItem (l := []) hslugs, List.map_map]
  rfl

theorem Schema.WellFormed.legacyView_eq (h : schema.WellFormed) :
    schema.legacyView = schema.fields.map Field.legacyView ++ schema.repeaters.map fun r =>
      ⟨r.slug, r.label, .array, some (r.fields.map fun f => (f.slug, f.legacyItem))⟩ := by
  rw [Schema.legacyView]
  congr 1
  exact List.map_congr_left fun r hr => Repeater.legacyView_eq (h.nested r hr).nodup

/-! ## The keys of rows -/

/-- **A stored row has those keys of the submitted row that are slugs of the repeater.** -/
theorem Repeater.mem_keys_row_iff {item : Item} {key : String} :
    key ∈ (r.row item).keys ↔ key ∈ r.fields.map (·.slug) ∧ key ∈ item.keys := by
  rw [Dict.mem_keys_iff, Dict.mem_keys_iff, ← Option.isSome_iff_exists, ← Option.isSome_iff_exists, r.get?_row,
    ← Repeater.isSome_field?]
  cases r.field? key <;> simp

/-! ## What is saved -/

/-- A value is one that an entry of the view announces: it has the slug and the kind of the entry, and if a list is
submitted for it, it holds rows, all of whose keys are keys of the entry's items. -/
structure LegacyField.Announces (e : LegacyField) (submitted? : Option Submission) (v : FieldValue) : Prop where
  slug : v.slug = e.slug
  kind : v.kind = e.kind
  rows : ∀ {listed submission items}, e.items = some listed → submitted? = some submission →
    submission.list = .ok items →
      ∃ rows, Items.decode v.value = .ok rows ∧ ∀ row ∈ rows, ∀ key ∈ row.keys, key ∈ listed.map (·.1)

theorem Field.announces_stored (f : Field) (submitted? : Option Submission) (text : String) :
    f.legacyView.Announces submitted? ⟨f.slug, f.kind.valueKind, text⟩ :=
  ⟨rfl, rfl, fun h => by cases h⟩

theorem Repeater.announces_stored (r : Repeater) (options : CodecOptions) (submitted? : Option Submission)
    (previous? : Option FieldValue) :
    LegacyField.Announces ⟨r.slug, r.label, .array, some (r.fields.map fun f => (f.slug, f.legacyItem))⟩ submitted?
      ⟨r.slug, .array, r.stored options submitted? previous?⟩ := by
  refine ⟨rfl, rfl, ?_⟩
  rintro listed submission items ⟨⟩ rfl hitems
  refine ⟨_, r.decode_stored options previous? hitems, ?_⟩
  intro row hrow key hkey
  obtain ⟨item, -, rfl⟩ := List.mem_map.mp hrow
  rw [List.map_map]
  exact (Repeater.mem_keys_row_iff.mp hkey).1

/-- **The view of a checked schema and its saves agree.** The view lists the fields and then the repeaters, each with
all its fields in order; and whatever is submitted and was stored, a save succeeds and starts with the values that the
entries of the view announce, in order. -/
theorem rebuild_followsView (hcheck : schema.check = .ok ()) :
    (schema.legacyView = schema.fields.map Field.legacyView ++ schema.repeaters.map fun r =>
        ⟨r.slug, r.label, .array, some (r.fields.map fun f => (f.slug, f.legacyItem))⟩) ∧
      ∀ (submitted : Dict Submission) (previous : Dict FieldValue) (options : CodecOptions),
        ∃ out leading rest, rebuild schema submitted previous options = .ok out ∧ out.values = leading ++ rest ∧
          List.Forall₂ (fun e v => e.Announces (submitted.get? e.slug) v) schema.legacyView leading := by
  have hview := (Schema.check_eq_ok_iff.mp hcheck).legacyView_eq
  refine ⟨hview, fun submitted previous options => ?_⟩
  obtain ⟨d, mismatches, hout, -⟩ := rebuild_ok schema submitted previous options
  refine ⟨_, _, _, hout, rfl, ?_⟩
  rw [hview]
  apply List.rel_append
  · rw [List.forall₂_map_left_iff, List.forall₂_map_right_iff, List.forall₂_same]
    exact fun f _ => f.announces_stored _ _
  · rw [List.forall₂_map_left_iff, List.forall₂_map_right_iff, List.forall₂_same]
    exact fun r _ => r.announces_stored options _ _

/-- An agenda whose points have fields that are not in the order of their slugs. -/
def agenda : Schema where
  version := Schema.currentVersion
  fields := [⟨"intro", "Intro", .html, .text, {}, {}, {}⟩]
  repeaters := [⟨"points", "Points", .freeBlock,
    [⟨"title", "Title", .text, .text, {}, {}, {}⟩, ⟨"body", "Body", .html, .text, {}, {}, {}⟩]⟩]
  source := ⟨.docx, "agenda", .epoch⟩

/-- A point with a key that is no slug of the repeater. -/
def submittedPoint : Dict Submission :=
  Dict.ofList [("points", .items [Dict.ofList [("body", "b"), ("colour", "red")]])]

/-- The keys of a submitted point that the view does not list are not stored. -/
theorem rebuild_followsView_agenda :
    agenda.check = .ok () ∧
      agenda.legacyView.map (fun e => (e.slug, e.kind, e.items.map fun items => items.map (·.1))) =
        [("intro", .rich, none), ("points", .array, some ["title", "body"])] ∧
      ∃ out intro points rest rows, rebuild agenda submittedPoint .empty {} = .ok out ∧
        out.values = ⟨"intro", .rich, intro⟩ :: ⟨"points", .array, points⟩ :: rest ∧
        Items.decode points = .ok rows ∧ ∀ row ∈ rows, ∀ key ∈ row.keys, key ∈ ["title", "body"] := by
  have hcheck : agenda.check = .ok () := rfl
  obtain ⟨hview, hsaves⟩ := rebuild_followsView hcheck
  refine ⟨hcheck, by rw [hview]; rfl, ?_⟩
  obtain ⟨out, leading, rest, hout, hvalues, hleading⟩ := hsaves submittedPoint .empty {}
  rw [hview] at hleading
  obtain ⟨⟨_, _, intro⟩, repeaters, hintro, hrepeaters, rfl⟩ := List.forall₂_cons_left_iff.mp hleading
  obtain ⟨⟨_, _, points⟩, others, hpoints, hothers, rfl⟩ := List.forall₂_cons_left_iff.mp hrepeaters
  obtain rfl := List.forall₂_nil_left_iff.mp hothers
  obtain ⟨rfl, rfl, -⟩ := hintro
  obtain ⟨rfl, rfl, hrows⟩ := hpoints
  have hsubmitted : submittedPoint.get? "points" =
      some (.items [Dict.ofList [("body", "b"), ("colour", "red")]]) := by decide +kernel
  obtain ⟨rows, hdecode, hkeys⟩ := hrows rfl hsubmitted rfl
  exact ⟨out, intro, points, rest, rows, hout, hvalues, hdecode, hkeys⟩

end FormTemplate
