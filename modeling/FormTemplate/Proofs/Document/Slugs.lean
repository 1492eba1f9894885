import FormTemplate.Proofs.Document.Rebuild
import FormTemplate.Proofs.Text.Bytes

/-!
# No slug is lost

The slugs of a save come from three sources: the schema declares some, some were stored before, some are submitted,
and a slug can come from any of them at once. The save gives each slug one value: first the declared ones in the order
of the schema, stored and submitted or not, then in ascending order of their bytes all others that were stored or are
submitted. Only what is submitted under a text that is no slug is left out.

* `mem_keys_undeclared_iff` : the undeclared slugs that get a value;
* `Rebuilt.Merges` : what the values of a save make of the three sources;
* `rebuild_merges` : every save of a checked schema does that.
-/

set_option autoImplicit false

namespace FormTemplate

variable {schema : Schema} {submitted : Dict Submission} {previous : Dict FieldValue} {options : CodecOptions}
variable {slug : String}

/-- An undeclared slug gets a value if it had one or gets one submitted; a submission counts under a proper slug
only. -/
theorem isSome_undeclaredStored?_iff {s : Option Submission} {p : Option FieldValue} :
    (undeclaredStored? options slug s p).isSome = true ↔
      p.isSome = true ∨ s.isSome = true ∧ Slug.isValid slug = true := by
  cases s with
  | none => simp [undeclaredStored?]
  | some s => by_cases hvalid : Slug.isValid slug = true <;> simp [undeclaredStored?, hvalid]

theorem undeclaredStored?_of_not_submitted {s : Option Submission} {v : FieldValue}
    (hs : ¬(s.isSome = true ∧ Slug.isValid slug = true)) :
    undeclaredStored? options slug s (some v) = some v.value := by
  cases s with
  | none => rfl
  | some s =>
    have hinvalid : ¬Slug.isValid slug = true := fun hvalid => hs ⟨rfl, hvalid⟩
    simp only [undeclaredStored?, hinvalid]
    rfl

/-- What a save keeps or adds beside the schema has a value for exactly these slugs. -/
theorem mem_keys_undeclared_iff {d : Dict String} (hget : ∀ slug, d.get? slug =
      if schema.containsSlug slug then none
      else undeclaredStored? options slug (submitted.get? slug) (previous.get? slug)) :
    slug ∈ d.keys ↔ slug ∉ schema.topSlugs ∧
      (previous.contains slug = true ∨ submitted.contains slug = true ∧ Slug.isValid slug = true) := by
  rw [Dict.mem_keys_iff, ← Option.isSome_iff_exists, hget, ← Schema.containsSlug_iff]
  split
  · rename_i hdeclared
    simp [hdeclared]
  · rename_i hundeclared
    rw [isSome_undeclaredStored?_iff]
    exact (and_iff_right hundeclared).symm

/-- The values of a save list the slugs of all three sources, in order, each once and with its kind. -/
structure Rebuilt.Merges (r : Rebuilt) (schema : Schema) (submitted : Dict Submission)
    (previous : Dict FieldValue) : Prop where
  /-- Fields come first, then repeaters, then what is unknown. -/
  entries : r.values.map (fun v => (v.slug, v.kind)) =
    schema.fields.map (fun f => (f.slug, f.kind.valueKind)) ++ schema.repeaters.map (fun p => (p.slug, .array)) ++
      r.unknown.map (·, .rich)
  nodup : (r.values.map (·.slug)).Nodup
  ascending : r.unknown.Pairwise fun a b => Text.bytes a < Text.bytes b
  /-- Unknown is what the schema does not declare and what was stored, or is submitted under a proper slug. -/
  mem_unknown : ∀ slug, slug ∈ r.unknown ↔ slug ∉ schema.topSlugs ∧
    (previous.contains slug = true ∨ submitted.contains slug = true ∧ Slug.isValid slug = true)
  /-- What was stored under an undeclared slug stays, unless something is submitted under it as a proper slug. -/
  kept : ∀ slug v, slug ∉ schema.topSlugs → previous.get? slug = some v →
    ¬(submitted.contains slug = true ∧ Slug.isValid slug = true) → ⟨slug, .rich, v.value⟩ ∈ r.values

/-- **A save of a checked schema loses no slug and lists none twice**, whatever is submitted and was stored. -/
theorem rebuild_merges (hcheck : schema.check = .ok ()) (submitted : Dict Submission)
    (previous : Dict FieldValue) (options : CodecOptions) :
    ∃ r, rebuild schema submitted previous options = .ok r ∧ r.Merges schema submitted previous := by
  have hschema := Schema.check_eq_ok_iff.mp hcheck
  obtain ⟨d, mismatches, hr, hget⟩ := rebuild_ok schema submitted previous options
  refine ⟨_, hr, ?_, ?_, d.keys_ascending, fun slug => mem_keys_undeclared_iff hget, ?_⟩
  · simp only [List.map_append, List.map_map, Dict.keys]
    rfl
  · simp only [List.map_append, List.map_map]
    show (schema.topSlugs ++ d.keys).Nodup
    refine List.nodup_append.mpr ⟨hschema.top.nodup, d.nodup_keys, ?_⟩
    rintro slug hdeclared other hother rfl
    exact ((mem_keys_undeclared_iff hget).mp hother).1 hdeclared
  · intro slug v hslug hv hnot
    have hstored : d.get? slug = some v.value := by
      rw [hget, if_neg (mt Schema.containsSlug_iff.mp hslug), hv]
      exact undeclaredStored?_of_not_submitted hnot
    exact List.mem_append_right _ (List.mem_map.mpr ⟨(slug, v.value), Dict.get?_eq_some_iff.mp hstored, rfl⟩)

/-- A letter with a name and rows. -/
def nameAndRows : Schema where
  version := Schema.currentVersion
  fields := [⟨"name", "Name", .text, .text, {}, {}, {}⟩]
  repeaters := [⟨"rows", "Rows", .freeBlock, []⟩]
  source := ⟨.docx, "letter", .epoch⟩

/-- A declared slug, one submitted again, one forgotten and one that is no slug, as they were stored. -/
def storedBefore : Dict FieldValue :=
  Dict.ofList [("rows", ⟨"rows", .array, "[]"⟩), ("motto", ⟨"motto", .single, "<b>m</b>"⟩),
    ("zone", ⟨"zone", .textarea, "<script>"⟩), ("No Slug", ⟨"No Slug", .rich, "n"⟩)]

/-- Texts and lists, declared and undeclared, of which two are submitted under what is no slug. -/
def submittedAtOnce : Dict Submission :=
  Dict.ofList [("name", .items []), ("motto", .items [.empty]), ("area", .text "<script>x</script>a"),
    ("No Slug", .text "x"), ("é", .text "x")]

/-- All three sources are merged at once. -/
theorem rebuild_merges_atOnce :
    nameAndRows.check = .ok () ∧
      ∃ r, rebuild nameAndRows submittedAtOnce storedBefore {} = .ok r ∧
        r.Merges nameAndRows submittedAtOnce storedBefore ∧ r.unknown = ["No Slug", "area", "motto", "zone"] ∧
        ⟨"zone", .rich, "<script>"⟩ ∈ r.values := by
  have hcheck : nameAndRows.check = .ok () := rfl
  obtain ⟨r, hr, hmerges⟩ := rebuild_merges hcheck submittedAtOnce storedBefore {}
  have hunknown : (rebuild nameAndRows submittedAtOnce storedBefore {}).toOption.map (·.unknown) =
      some ["No Slug", "area", "motto", "zone"] := by decide +kernel
  rw [hr] at hunknown
  have hzone := hmerges.kept "zone" ⟨"zone", .textarea, "<script>"⟩ (by decide +kernel) (by decide +kernel)
    (by decide +kernel)
  exact ⟨hcheck, r, hr, hmerges, Option.some.inj hunknown, hzone⟩

end FormTemplate
