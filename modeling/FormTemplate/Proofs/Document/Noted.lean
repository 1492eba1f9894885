import FormTemplate.Proofs.Document.Rebuild
import FormTemplate.Proofs.Validation.Conforming

/-!
# What a save notes

A save goes on when something is wrong with a submission, and notes it. What it notes of a declared slug depends only
on what the schema says of the slug and on what is submitted under it: nothing where nothing is submitted, one mismatch
where the submission cannot be used, and otherwise the outcomes of the checks. The compiled patterns that are carried
along never change an outcome. So a submission that cannot be used costs its own slug a mismatch and changes nothing
else.

* `Field.noted`, `Repeater.noted`, `Schema.noted` : the mismatches of a field, a repeater and a save;
* `rebuild_noted` : a save notes these;
* `Schema.Refuses` : the submissions that cannot be used;
* `rebuild_refused` : what a save makes of slugs whose submission is missing or cannot be used.
-/

set_option autoImplicit false

namespace FormTemplate

variable {cache : PatternCache} {f : Field} {r : Repeater} {schema : Schema} {slug : String}
variable {st st₁ st₂ : Progress} {ms ns : List Mismatch}

/-! ## What is noted -/

/-- What is wrong with a text that is submitted for a field, under a label. -/
def Field.faults (f : Field) (label raw : String) : List Mismatch :=
  match validate f (normalize f.dataType raw) with
  | .ok () => []
  | .error m => [{ m with slug := label }]

/-- What is noted of the submission for a field. -/
def Field.noted (f : Field) : Option Submission → List Mismatch
  | none => []
  | some (.items _) => [⟨f.slug, f.label ++ " expects a single value, not a list"⟩]
  | some (.text raw) => f.faults f.slug raw

/-- What is noted of an item. -/
def Repeater.notedEntries (r : Repeater) (index : Nat) (entries : List (String × String)) : List Mismatch :=
  entries.flatMap fun e =>
    ((r.field? e.1).map fun f => f.faults (r.slug ++ "." ++ index.repr ++ "." ++ e.1) e.2).getD []

/-- What is noted of items, numbered from `index`. -/
def Repeater.notedItems (r : Repeater) : Nat → List Item → List Mismatch
  | _, [] => []
  | index, item :: rest => r.notedEntries index item.entries ++ r.notedItems (index + 1) rest

/-- What is noted of the submission for a repeater. -/
def Repeater.noted (r : Repeater) (options : CodecOptions) : Option Submission → List Mismatch
  | none => []
  | some submission =>
    match submission.list with
    | .error e => [⟨r.slug, e.message⟩]
    | .ok items => r.notedItems 0 (Items.truncate options.maxItems items)

/-- A declared slug with what is noted of a submission for it. -/
structure Noting where
  slug : String
  noted : Option Submission → List Mismatch

/-- The declared slugs in the order of the schema. -/
def Schema.notings (schema : Schema) (options : CodecOptions) : List Noting :=
  schema.fields.map (fun f => ⟨f.slug, f.noted⟩) ++ schema.repeaters.map fun r => ⟨r.slug, r.noted options⟩

/-- What a save notes. -/
def Schema.noted (schema : Schema) (options : CodecOptions) (submitted : Dict Submission) : List Mismatch :=
  (schema.notings options).flatMap fun n => n.noted (submitted.get? n.slug)

/-- A check reports under the slug of the field. -/
theorem Field.slug_of_validate (f : Field) {value : String} {m : Mismatch} (h : validate f value = .error m) :
    m.slug = f.slug := by
  rw [validate_eq_findSome?] at h
  split at h
  · cases h
  · split at h
    · rename_i fault hfault
      cases h
      obtain ⟨_, _, _, _, _, _, rfl⟩ := (Requirement.findSome?_fault?_eq_some_iff f value).mp hfault
      rfl
    · cases h

/-- What is wrong with a text, put under another label. -/
theorem Field.map_faults (f : Field) (label other raw : String) :
    (f.faults label raw).map ({ · with slug := other }) = f.faults other raw := by
  unfold Field.faults
  cases validate f (normalize f.dataType raw) <;> rfl

/-! ## Steps of a save -/

/-- A step of a save: it notes `ms`, and patterns that were compiled from their texts still are. -/
structure Progress.Notes (st st' : Progress) (ms : List Mismatch) : Prop where
  sound : st'.patterns.Sound
  mismatches : st'.mismatches = st.mismatches ++ ms

namespace Progress.Notes

theorem refl (h : st.patterns.Sound) : st.Notes st [] := ⟨h, (List.append_nil _).symm⟩

theorem report (h : st.patterns.Sound) (m : Mismatch) : st.Notes (st.report m) [m] := ⟨h, rfl⟩

theorem trans (h : st.Notes st₁ ms) (h' : st₁.Notes st₂ ns) : st.Notes st₂ (ms ++ ns) :=
  ⟨h'.sound, by rw [h'.mismatches, h.mismatches, List.append_assoc]⟩

/-- What a step has noted can be put under another slug, and what was noted before stays under its own. -/
theorem retag (h : st.Notes st₁ ms) (slug : String) :
    st.Notes (st₁.retag st.mismatches.length slug) (ms.map ({ · with slug := slug })) where
  sound := h.sound
  mismatches := by rw [Progress.retag, h.mismatches, List.take_left, List.drop_left]

end Progress.Notes

section Steps

variable (options : CodecOptions) (submitted : Dict Submission) (previous : Dict FieldValue)
variable (s : Option Submission) (p : Option FieldValue)

theorem cleanText_notes (f : Field) (raw : String) (h : st.patterns.Sound) :
    st.Notes (cleanText options f raw st).2 (f.faults f.slug raw) := by
  have hsound := sound_validateWith f (normalize f.dataType raw) h
  have houtcome := validateWith_fst f (normalize f.dataType raw) h
  unfold cleanText Field.faults
  dsimp only
  rw [houtcome]
  cases hcheck : validate f (normalize f.dataType raw) with
  | ok _ => exact ⟨hsound, (List.append_nil _).symm⟩
  | error m =>
    rw [← f.slug_of_validate hcheck]
    exact ⟨hsound, rfl⟩

theorem fieldText_notes (f : Field) (h : st.patterns.Sound) :
    st.Notes (fieldText options f s p st).2 (f.noted s) := by
  cases s with
  | none => exact .refl h
  | some submission =>
    cases submission with
    | items l => exact .report h _
    | text raw =>
      obtain ⟨st', hclean⟩ := cleanText_ok options f raw st
      have hnotes := cleanText_notes options f raw h
      rw [hclean] at hnotes
      simp only [fieldText, hclean]
      exact hnotes

theorem fieldValues_notes (fields : List Field) (h : st.patterns.Sound) :
    st.Notes (fieldValues options submitted previous fields st).2
      (fields.flatMap fun f => f.noted (submitted.get? f.slug)) := by
  induction fields generalizing st with
  | nil => exact .refl h
  | cons f rest ih =>
    have hfield := fieldText_notes options (submitted.get? f.slug) (previous.get? f.slug) f h
    exact hfield.trans (ih hfield.sound)

theorem cleanEntries_notes (r : Repeater) (index : Nat) (entries : List (String × String))
    (h : st.patterns.Sound) :
    st.Notes (cleanEntries options r index entries st).2 (r.notedEntries index entries) := by
  induction entries generalizing st with
  | nil => exact .refl h
  | cons e rest ih =>
    obtain ⟨key, raw⟩ := e
    unfold cleanEntries
    rw [Repeater.notedEntries, List.flatMap_cons, ← Repeater.notedEntries]
    cases hf : r.field? key with
    | none => exact ih h
    | some f =>
      obtain ⟨st₁, h₁⟩ := cleanText_ok options f raw st
      have hclean := (cleanText_notes options f raw h).retag (r.slug ++ "." ++ index.repr ++ "." ++ key)
      rw [h₁, f.map_faults] at hclean
      obtain ⟨st₂, h₂⟩ := cleanEntries_ok options r index rest
        (st₁.retag st.mismatches.length (r.slug ++ "." ++ index.repr ++ "." ++ key))
      have hrest := ih hclean.sound
      rw [h₂] at hrest
      simp only [h₁, h₂]
      exact hclean.trans hrest

theorem cleanItems_notes (r : Repeater) (index : Nat) (items : List Item) (h : st.patterns.Sound) :
    st.Notes (cleanItems options r index items st).2 (r.notedItems index items) := by
  induction items generalizing index st with
  | nil => exact .refl h
  | cons item rest ih =>
    have hentries := cleanEntries_notes options r index item.entries h
    obtain ⟨st₁, h₁⟩ := cleanEntries_ok options r index item.entries st
    rw [h₁] at hentries
    obtain ⟨st₂, h₂⟩ := cleanItems_ok options r (index + 1) rest st₁
    have hrest := ih (index + 1) hentries.sound
    rw [h₂] at hrest
    simp only [cleanItems, h₁, h₂]
    exact hentries.trans hrest

theorem repeaterText_notes (r : Repeater) (h : st.patterns.Sound) :
    st.Notes (repeaterText options r s p st).2 (r.noted options s) := by
  unfold repeaterText Repeater.noted
  cases s with
  | none => exact .refl h
  | some submission =>
    cases hl : submission.list with
    | error e => simpa only [hl] using .report h _
    | ok items =>
      have hitems := cleanItems_notes options r 0 (Items.truncate options.maxItems items) h
      obtain ⟨st', hclean⟩ := cleanItems_ok options r 0 (Items.truncate options.maxItems items) st
      rw [hclean] at hitems
      simpa only [hl, hclean] using hitems

theorem repeaterValues_notes (repeaters : List Repeater) (h : st.patterns.Sound) :
    st.Notes (repeaterValues options submitted previous repeaters st).2
      (repeaters.flatMap fun r => r.noted options (submitted.get? r.slug)) := by
  induction repeaters generalizing st with
  | nil => exact .refl h
  | cons r rest ih =>
    have hrepeater := repeaterText_notes options (submitted.get? r.slug) (previous.get? r.slug) r h
    obtain ⟨st₁, h₁⟩ := repeaterText_ok options r (submitted.get? r.slug) (previous.get? r.slug) st
    rw [h₁] at hrepeater
    obtain ⟨st₂, h₂⟩ := repeaterValues_ok options submitted previous rest st₁
    have hrest := ih hrepeater.sound
    rw [h₂] at hrest
    simp only [repeaterValues, h₁, h₂]
    exact hrepeater.trans hrest

end Steps

/-- **A save succeeds, and what it notes depends on the schema and the submissions only.** -/
theorem rebuild_noted (schema : Schema) (submitted : Dict Submission) (previous : Dict FieldValue)
    (options : CodecOptions) :
    ∃ r, rebuild schema submitted previous options = .ok r ∧ r.mismatches = schema.noted options submitted := by
  have hsound : ({} : Progress).patterns.Sound := PatternCache.sound_empty
  have hfields := fieldValues_notes options submitted previous schema.fields hsound
  obtain ⟨st₁, h₁⟩ := fieldValues_eq options submitted previous schema.fields {}
  rw [h₁] at hfields
  have hrepeaters := repeaterValues_notes options submitted previous schema.repeaters hfields.sound
  obtain ⟨st₂, h₂⟩ := repeaterValues_ok options submitted previous schema.repeaters st₁
  rw [h₂] at hrepeaters
  obtain ⟨d, hd, -⟩ := addUndeclared_keptUndeclared options schema submitted previous
  refine ⟨_, by simp only [rebuild, h₁, h₂, hd]; rfl, ?_⟩
  have hall := (hfields.trans hrepeaters).mismatches
  rw [Schema.noted, Schema.notings, List.flatMap_append, List.flatMap_map, List.flatMap_map]
  exact hall

/-! ## The slug of a mismatch -/

/-- The declared slug that a mismatch is about. The mismatches of nested fields add the number of the item and the
key behind a dot. -/
def Mismatch.topSlug (m : Mismatch) : String := String.ofList (m.slug.toList.takeWhile (· != '.'))

theorem Slug.ne_dot_of_isValid (h : Slug.isValid slug = true) : ∀ c ∈ slug.toList, (c != '.') = true := by
  intro c hc
  simp only [Slug.isValid, Bool.and_eq_true, List.all_eq_true] at h
  have hslug := h.2 c hc
  rw [bne_iff_ne]
  rintro rfl
  exact absurd hslug (by decide)

theorem Mismatch.topSlug_of_append (h : Slug.isValid slug = true) {m : Mismatch} (rest : List Char)
    (hm : m.slug.toList = slug.toList ++ rest) (hrest : rest.takeWhile (· != '.') = []) : m.topSlug = slug := by
  rw [topSlug, hm, List.takeWhile_append_of_pos (Slug.ne_dot_of_isValid h), hrest, List.append_nil,
    String.ofList_toList]

theorem Mismatch.topSlug_of_slug (h : Slug.isValid slug = true) {m : Mismatch} (hm : m.slug = slug) :
    m.topSlug = slug :=
  topSlug_of_append h [] (by rw [hm, List.append_nil]) rfl

theorem Mismatch.topSlug_of_nested (h : Slug.isValid slug = true) {m : Mismatch} (rest : String)
    (hm : m.slug = slug ++ "." ++ rest) : m.topSlug = slug :=
  topSlug_of_append h ('.' :: rest.toList)
    (by rw [hm, String.append_assoc, String.toList_append, String.toList_append]; rfl) rfl

theorem Field.slug_of_mem_faults {label raw : String} {m : Mismatch} (h : m ∈ f.faults label raw) :
    m.slug = label := by
  unfold Field.faults at h
  split at h
  · cases h
  · rw [List.mem_singleton.mp h]

theorem Field.topSlug_of_mem_noted (hslug : Slug.isValid f.slug = true) {s : Option Submission} {m : Mismatch}
    (h : m ∈ f.noted s) : m.topSlug = f.slug := by
  cases s with
  | none => cases h
  | some submission =>
    cases submission with
    | items l => exact Mismatch.topSlug_of_slug hslug (by rw [List.mem_singleton.mp h])
    | text raw => exact Mismatch.topSlug_of_slug hslug (Field.slug_of_mem_faults h)

theorem Repeater.topSlug_of_mem_notedEntries (hslug : Slug.isValid r.slug = true) {index : Nat}
    {entries : List (String × String)} {m : Mismatch} (h : m ∈ r.notedEntries index entries) :
    m.topSlug = r.slug := by
  obtain ⟨e, -, hm⟩ := List.mem_flatMap.mp h
  cases hf : r.field? e.1 with
  | none => simp [hf] at hm
  | some f =>
    rw [hf] at hm
    refine Mismatch.topSlug_of_nested hslug (index.repr ++ "." ++ e.1) ?_
    rw [Field.slug_of_mem_faults hm]
    simp only [String.append_assoc]

theorem Repeater.topSlug_of_mem_noted (hslug : Slug.isValid r.slug = true) {options : CodecOptions}
    {s : Option Submission} {m : Mismatch} (h : m ∈ r.noted options s) : m.topSlug = r.slug := by
  have hitems : ∀ (items : List Item) (index : Nat), m ∈ r.notedItems index items → m.topSlug = r.slug := by
    intro items
    induction items with
    | nil => intro index hm; cases hm
    | cons item rest ih =>
      intro index hm
      rcases List.mem_append.mp hm with hm | hm
      · exact r.topSlug_of_mem_notedEntries hslug hm
      · exact ih _ hm
  cases s with
  | none => cases h
  | some submission =>
    simp only [Repeater.noted] at h
    split at h
    · exact Mismatch.topSlug_of_slug hslug (by rw [List.mem_singleton.mp h])
    · exact hitems _ _ h

/-- Every mismatch of a save of a well-formed schema is about the slug that notes it. -/
theorem Schema.WellFormed.topSlug_of_mem_noted (h : schema.WellFormed) {options : CodecOptions} {n : Noting}
    (hn : n ∈ schema.notings options) {s : Option Submission} {m : Mismatch} (hm : m ∈ n.noted s) :
    m.topSlug = n.slug := by
  rcases List.mem_append.mp hn with hn | hn
  · obtain ⟨f, hf, rfl⟩ := List.mem_map.mp hn
    exact f.topSlug_of_mem_noted (h.top.isValid _ (List.mem_append_left _ (List.mem_map_of_mem hf))) hm
  · obtain ⟨r, hr, rfl⟩ := List.mem_map.mp hn
    exact r.topSlug_of_mem_noted (h.top.isValid _ (List.mem_append_right _ (List.mem_map_of_mem hr))) hm

theorem Schema.map_slug_notings (schema : Schema) (options : CodecOptions) :
    (schema.notings options).map (·.slug) = schema.topSlugs := by
  rw [Schema.notings, List.map_append, List.map_map, List.map_map]
  rfl

/-- The notings of a well-formed schema around that of one slug are those of other slugs. -/
theorem Schema.WellFormed.notings_split (h : schema.WellFormed) {options : CodecOptions} {n : Noting}
    (hn : n ∈ schema.notings options) :
    ∃ before after, schema.notings options = before ++ n :: after ∧ ∀ k ∈ before ++ after, k.slug ≠ n.slug := by
  obtain ⟨before, after, hsplit⟩ := List.append_of_mem hn
  have hnodup := schema.map_slug_notings options ▸ h.top.nodup
  rw [hsplit, List.map_append, List.map_cons] at hnodup
  obtain ⟨-, hcons, hdisjoint⟩ := List.nodup_append.mp hnodup
  refine ⟨before, after, hsplit, fun k hk heq => ?_⟩
  rcases List.mem_append.mp hk with hk | hk
  · exact hdisjoint _ (List.mem_map_of_mem hk) _ List.mem_cons_self heq
  · exact (List.nodup_cons.mp hcons).1 (heq ▸ List.mem_map_of_mem hk)

/-- **What a save notes of one slug stands in one piece**, and around it stands what the save notes without the
submission for that slug. -/
theorem Schema.WellFormed.noted_split (h : schema.WellFormed) {options : CodecOptions} {n : Noting}
    (hn : n ∈ schema.notings options) (submitted : Dict Submission) :
    ∃ before after, schema.noted options submitted = before ++ n.noted (submitted.get? n.slug) ++ after ∧
      schema.noted options (submitted.erase n.slug) = before ++ n.noted none ++ after ∧
      ∀ m ∈ before ++ after, m.topSlug ≠ n.slug := by
  obtain ⟨before, after, hsplit, hother⟩ := h.notings_split hn
  have herase : ∀ l : List Noting, (∀ k ∈ l, k ∈ before ++ after) →
      (l.map fun k => k.noted ((submitted.erase n.slug).get? k.slug)) =
        l.map fun k => k.noted (submitted.get? k.slug) := by
    intro l hl
    refine List.map_congr_left fun k hk => ?_
    rw [Dict.get?_erase, if_neg (hother k (hl k hk)).symm]
  refine ⟨(before.map fun k => k.noted (submitted.get? k.slug)).flatten,
    (after.map fun k => k.noted (submitted.get? k.slug)).flatten, ?_, ?_, ?_⟩
  · rw [Schema.noted, hsplit, List.flatMap_append, List.flatMap_cons, List.append_assoc]
    rfl
  · rw [Schema.noted, hsplit, List.flatMap_append, List.flatMap_cons, List.append_assoc, List.flatMap_def,
      List.flatMap_def, herase before fun k hk => List.mem_append_left _ hk,
      herase after fun k hk => List.mem_append_right _ hk, Dict.get?_erase, if_pos rfl]
  · intro m hm
    rw [← List.flatten_append, ← List.map_append, ← List.flatMap_def] at hm
    obtain ⟨k, hk, hm⟩ := List.mem_flatMap.mp hm
    have hmem : k ∈ schema.notings options := by
      rw [hsplit]
      exact (List.mem_append.mp hk).elim (List.mem_append_left _) fun hk =>
        List.mem_append_right _ (List.mem_cons_of_mem _ hk)
    rw [h.topSlug_of_mem_noted hmem hm]
    exact hother k hk

/-! ## Submissions that cannot be used -/

/-- A submission that cannot be used for a declared slug, with what is noted of it. -/
inductive Schema.Refuses (schema : Schema) : String → Submission → Mismatch → Prop where
  /-- A field takes no list. -/
  | list {f : Field} (hf : f ∈ schema.fields) (items : List Item) :
      schema.Refuses f.slug (.items items) ⟨f.slug, f.label ++ " expects a single value, not a list"⟩
  /-- A repeater takes no text that is no list of items. -/
  | text {r : Repeater} (hr : r ∈ schema.repeaters) {raw : String} {e : ItemsError} (h : Items.decode raw = .error e) :
      schema.Refuses r.slug (.text raw) ⟨r.slug, e.message⟩

/-- What a declared slug has without a submission: the stored text, or the empty text or list. -/
def Schema.kept (schema : Schema) (slug : String) (previous : Option FieldValue) : FieldValue :=
  ⟨slug, schema.kindOf slug,
    (previous.map (·.value)).getD (if (schema.field? slug).isSome then "" else "[]")⟩

theorem Schema.storedText?_kept (h : schema.containsSlug slug = true) (options : CodecOptions)
    (previous : Option FieldValue) :
    schema.storedText? options slug none previous = some (schema.kept slug previous).value := by
  rcases schema.role slug with ⟨f, hf⟩ | ⟨hf, r, hr⟩ | ⟨hf, hr⟩
  · rw [Schema.storedText?_of_field hf, Schema.kept, hf]
    rfl
  · rw [Schema.storedText?_of_repeater hf hr, Schema.kept, hf]
    rfl
  · simp [Schema.containsSlug, hf, hr] at h

theorem Schema.exists_noting (h : slug ∈ schema.topSlugs) (options : CodecOptions) :
    ∃ n ∈ schema.notings options, n.slug = slug ∧ n.noted none = [] := by
  rcases List.mem_append.mp h with h | h
  · obtain ⟨f, hf, rfl⟩ := List.mem_map.mp h
    exact ⟨_, List.mem_append_left _ (List.mem_map_of_mem hf), rfl, rfl⟩
  · obtain ⟨r, hr, rfl⟩ := List.mem_map.mp h
    exact ⟨_, List.mem_append_right _ (List.mem_map_of_mem hr), rfl, rfl⟩

namespace Schema.Refuses

variable {s : Submission} {m : Mismatch}

theorem slug_eq (h : schema.Refuses slug s m) : m.slug = slug := by
  cases h <;> rfl

/-- Of a submission that cannot be used one mismatch is noted. -/
theorem exists_noting (h : schema.Refuses slug s m) (options : CodecOptions) :
    ∃ n ∈ schema.notings options, n.slug = slug ∧ n.noted none = [] ∧ n.noted (some s) = [m] := by
  cases h with
  | list hf items => exact ⟨_, List.mem_append_left _ (List.mem_map_of_mem hf), rfl, rfl, rfl⟩
  | @text r hr raw e herror =>
    have hlist : (Submission.text raw).list = .error e := herror
    exact ⟨_, List.mem_append_right _ (List.mem_map_of_mem hr), rfl, rfl, by simp only [Repeater.noted, hlist]⟩

/-- A submission that cannot be used stores what none stores. -/
theorem storedText?_eq (h : schema.Refuses slug s m) (hschema : schema.WellFormed) (options : CodecOptions)
    (previous : Option FieldValue) :
    schema.storedText? options slug (some s) previous = schema.storedText? options slug none previous := by
  cases h with
  | list hf items =>
    have hrole := hschema.field?_eq_some_iff.mpr ⟨hf, rfl⟩
    rw [Schema.storedText?_of_field hrole, Schema.storedText?_of_field hrole]
    rfl
  | @text r hr raw e herror =>
    have hfield := hschema.field?_repeater hr
    have hrole := hschema.repeater?_eq_some_iff.mpr ⟨hr, rfl⟩
    have hlist : (Submission.text raw).list = .error e := herror
    rw [Schema.storedText?_of_repeater hfield hrole, Schema.storedText?_of_repeater hfield hrole]
    simp only [Repeater.stored, hlist]

end Schema.Refuses

/-- A save differs from another in one mismatch, the only one that either notes of a slug. -/
structure Rebuilt.Adds (r r' : Rebuilt) (slug : String) (m : Mismatch) : Prop where
  values : r.values = r'.values
  unknown : r.unknown = r'.unknown
  mismatches : ∃ before after, r.mismatches = before ++ m :: after ∧ r'.mismatches = before ++ after ∧
    ∀ n ∈ before ++ after, n.topSlug ≠ slug

/-- A declared slug that stores what it stores without a submission has the kept value. -/
theorem Schema.WellFormed.kept_mem (h : schema.WellFormed) (hslug : slug ∈ schema.topSlugs)
    {submitted : Dict Submission} {previous : Dict FieldValue} {options : CodecOptions} {r : Rebuilt}
    (hr : rebuild schema submitted previous options = .ok r)
    (hsame : schema.storedText? options slug (submitted.get? slug) (previous.get? slug) =
      schema.storedText? options slug none (previous.get? slug)) :
    schema.kept slug (previous.get? slug) ∈ r.values := by
  obtain ⟨_, hspec, hvalues⟩ := rebuild_spec h submitted previous options
  cases hspec.symm.trans hr
  refine (hvalues _).mpr ⟨rfl, ?_⟩
  exact hsame.trans (Schema.storedText?_kept (Schema.containsSlug_iff.mpr hslug) options _)

/-- **A bad submission never fails a save and touches nothing but its slug.** A save of any schema succeeds. If the
schema is checked, a declared slug without a submission keeps its value, and nothing is noted of it; a declared slug
whose submission cannot be used keeps its value too, and the save is the one without that submission, with one mismatch
under the slug added. -/
theorem rebuild_refused (schema : Schema) (submitted : Dict Submission) (previous : Dict FieldValue)
    (options : CodecOptions) :
    ∃ r, rebuild schema submitted previous options = .ok r ∧
      (schema.check = .ok () → ∀ slug ∈ schema.topSlugs,
        (submitted.get? slug = none →
          schema.kept slug (previous.get? slug) ∈ r.values ∧ ∀ m ∈ r.mismatches, m.topSlug ≠ slug) ∧
        ∀ s m, submitted.get? slug = some s → schema.Refuses slug s m →
          schema.kept slug (previous.get? slug) ∈ r.values ∧ m.slug = slug ∧
          ∃ r', rebuild schema (submitted.erase slug) previous options = .ok r' ∧ r.Adds r' slug m) := by
  obtain ⟨r, hr, hnoted⟩ := rebuild_noted schema submitted previous options
  refine ⟨r, hr, fun hcheck slug hslug => ⟨fun hnone => ?_, fun s m hs hrefused => ?_⟩⟩
  · have hschema := Schema.check_eq_ok_iff.mp hcheck
    obtain ⟨n, hn, rfl, hempty⟩ := Schema.exists_noting hslug options
    obtain ⟨before, after, hsplit, -, hother⟩ := hschema.noted_split hn submitted
    rw [hnone, hempty, List.append_nil] at hsplit
    refine ⟨hschema.kept_mem hslug hr (by rw [hnone]), ?_⟩
    rw [hnoted, hsplit]
    exact hother
  · have hschema := Schema.check_eq_ok_iff.mp hcheck
    obtain ⟨n, hn, rfl, hempty, hone⟩ := hrefused.exists_noting options
    obtain ⟨before, after, hsplit, herased, hother⟩ := hschema.noted_split hn submitted
    obtain ⟨r', hr', hnoted'⟩ := rebuild_noted schema (submitted.erase n.slug) previous options
    have hsame : schema.storedText? options n.slug (submitted.get? n.slug) (previous.get? n.slug) =
        schema.storedText? options n.slug none (previous.get? n.slug) := by
      rw [hs, hrefused.storedText?_eq hschema]
    have hagree : ∀ slug, schema.storedText? options slug (submitted.get? slug) (previous.get? slug) =
        schema.storedText? options slug ((submitted.erase n.slug).get? slug) (previous.get? slug) := by
      intro slug
      rw [Dict.get?_erase]
      split
      · rename_i heq
        rw [← heq, hsame]
      · rfl
    obtain ⟨hvalues, hunknown⟩ := hschema.rebuild_congr hr hr' hagree
    refine ⟨hschema.kept_mem hslug hr hsame, hrefused.slug_eq, r', hr', hvalues, hunknown, before, after, ?_, ?_, hother⟩
    · rw [hnoted, hsplit, hs, hone, List.append_assoc]
      rfl
    · rw [hnoted', herased, hempty, List.append_nil]

/-- A letter with a name, rows of numbers and notes. -/
def numberedLetter : Schema where
  version := Schema.currentVersion
  fields := [⟨"name", "Name", .text, .text, {}, {}, {}⟩]
  repeaters := [⟨"rows", "Rows", .freeBlock, [⟨"n", "N", .number, .number, {}, {}, {}⟩]⟩,
    ⟨"notes", "Notes", .freeBlock, []⟩]
  source := ⟨.docx, "letter", .epoch⟩

/-- A list for the name, a row whose number is none, and notes that are no array. -/
def badLetter : Dict Submission :=
  Dict.ofList [("name", .items []), ("rows", .text "[\x7b\"n\":\"x\"\x7d]"), ("notes", .text "\x7b\x7d")]

/-- The name that was stored. -/
def storedName : Dict FieldValue := Dict.ofList [("name", ⟨"name", .single, " Ada\n"⟩)]

/-- The list for the name and the notes are refused, next to a row with a fault. -/
theorem rebuild_refused_badLetter :
    numberedLetter.check = .ok () ∧
      ∃ r, rebuild numberedLetter badLetter storedName {} = .ok r ∧ ⟨"name", .single, " Ada\n"⟩ ∈ r.values ∧
        ⟨"notes", .array, "[]"⟩ ∈ r.values ∧
        r.mismatches = [⟨"name", "Name expects a single value, not a list"⟩, ⟨"rows.0.n", "N must be a number"⟩,
          ⟨"notes", "Invalid array payload: expected a JSON array"⟩] ∧
        ∃ r', rebuild numberedLetter (badLetter.erase "name") storedName {} = .ok r' ∧
          r.Adds r' "name" ⟨"name", "Name expects a single value, not a list"⟩ := by
  have hcheck : numberedLetter.check = .ok () := rfl
  obtain ⟨r, hr, hslugs⟩ := rebuild_refused numberedLetter badLetter storedName {}
  have hname : numberedLetter.Refuses "name" (.items []) ⟨"name", "Name expects a single value, not a list"⟩ :=
    .list (f := ⟨"name", "Name", .text, .text, {}, {}, {}⟩) List.mem_cons_self []
  have hnotes : numberedLetter.Refuses "notes" (.text "\x7b\x7d")
      ⟨"notes", "Invalid array payload: expected a JSON array"⟩ :=
    .text (r := ⟨"notes", "Notes", .freeBlock, []⟩) (by decide) (e := .notAnArray) (by rfl)
  obtain ⟨hkept, -, hadds⟩ := (hslugs hcheck "name" (by decide)).2 _ _ (by decide +kernel) hname
  obtain ⟨hkeptNotes, -, -⟩ := (hslugs hcheck "notes" (by decide)).2 _ _ (by decide +kernel) hnotes
  have hmismatches : (rebuild numberedLetter badLetter storedName {}).toOption.map (·.mismatches) =
      some [⟨"name", "Name expects a single value, not a list"⟩, ⟨"rows.0.n", "N must be a number"⟩,
        ⟨"notes", "Invalid array payload: expected a JSON array"⟩] := by decide +kernel
  rw [hr] at hmismatches
  exact ⟨hcheck, r, hr, hkept, hkeptNotes, Option.some.inj hmismatches, hadds⟩

end FormTemplate
