import FormTemplate.Document
import FormTemplate.Proofs.Dict
import FormTemplate.Proofs.Schema.Check

/-!
# What a save stores

A save goes through fields, repeaters and undeclared slugs with a state that carries compiled patterns and
mismatches. The state never reaches the values: what is stored under a slug depends only on what the schema says
of the slug, what is submitted under it and what was stored under it. And a save always succeeds, because the
kinds of fields never ask for a list and undeclared texts are kept as rich text.

* `Schema.kindOf`, `Schema.storedText?` : the kind and the text that a save stores under a slug;
* `rebuild_ok` : a save succeeds, with its values in the order of the schema;
* `rebuild_spec` : the values of a save of a well-formed schema are exactly those of `Schema.storedText?`;
* `Schema.WellFormed.rebuild_congr` : so saves for which these agree store the same.
-/

set_option autoImplicit false

namespace FormTemplate

/-! ## Fields -/

/-- A submitted text as a field stores it. -/
def Field.cleaned (f : Field) (raw : String) : String :=
  match f.kind.valueKind with
  | .rich => Markup.strip (normalize f.dataType raw)
  | _ => normalize f.dataType raw

/-- The text that a field stores. -/
def Field.stored (f : Field) (submitted : Option Submission) (previous : Option FieldValue) : String :=
  match submitted with
  | some (.text raw) => f.cleaned raw
  | _ => keptText previous

theorem FieldKind.valueKind_ne_array (k : FieldKind) : k.valueKind ≠ .array := by
  cases k <;> decide

theorem sanitizeValue_valueKind (options : CodecOptions) (f : Field) (raw : String) :
    sanitizeValue f.kind.valueKind (normalize f.dataType raw) options = .ok (f.cleaned raw) := by
  unfold sanitizeValue Field.cleaned
  cases hk : f.kind.valueKind with
  | single | textarea | rich => rfl
  | array => exact absurd hk f.kind.valueKind_ne_array

/-- Cleaning a text succeeds, and the state changes nothing of it. -/
theorem cleanText_ok (options : CodecOptions) (f : Field) (raw : String) (st : Progress) :
    ∃ st', cleanText options f raw st = (.ok (f.cleaned raw), st') := by
  refine ⟨(cleanText options f raw st).2, Prod.ext ?_ rfl⟩
  unfold cleanText
  exact sanitizeValue_valueKind options f raw

theorem fieldText_eq (options : CodecOptions) (f : Field) (submitted : Option Submission)
    (previous : Option FieldValue) (st : Progress) :
    ∃ st', fieldText options f submitted previous st = (f.stored submitted previous, st') := by
  unfold fieldText Field.stored
  cases submitted with
  | none => exact ⟨st, rfl⟩
  | some s =>
    cases s with
    | items l => exact ⟨_, rfl⟩
    | text raw =>
      obtain ⟨st', h⟩ := cleanText_ok options f raw st
      exact ⟨st', by simp only [h]⟩

theorem fieldValues_eq (options : CodecOptions) (submitted : Dict Submission) (previous : Dict FieldValue)
    (fields : List Field) (st : Progress) :
    ∃ st', fieldValues options submitted previous fields st =
      (fields.map fun f =>
        ⟨f.slug, f.kind.valueKind, f.stored (submitted.get? f.slug) (previous.get? f.slug)⟩, st') := by
  induction fields generalizing st with
  | nil => exact ⟨st, rfl⟩
  | cons f rest ih =>
    obtain ⟨st₁, h₁⟩ := fieldText_eq options f (submitted.get? f.slug) (previous.get? f.slug) st
    obtain ⟨st₂, h₂⟩ := ih st₁
    exact ⟨st₂, by simp only [fieldValues, h₁, h₂, List.map_cons]⟩

/-! ## Repeaters -/

/-- The declared entries of an item, cleaned. -/
def Repeater.cleanedEntries (r : Repeater) (entries : List (String × String)) : List (String × String) :=
  entries.filterMap fun e => (r.field? e.1).map fun f => (e.1, f.cleaned e.2)

/-- The items of a list, cleaned. -/
def Repeater.cleanedItems (r : Repeater) (items : List Item) : List Item :=
  items.map fun item => Dict.ofList (r.cleanedEntries item.entries)

/-- The text that a repeater stores. -/
def Repeater.stored (r : Repeater) (options : CodecOptions) (submitted : Option Submission)
    (previous : Option FieldValue) : String :=
  match submitted with
  | none => keptList previous
  | some submission =>
    match submission.list with
    | .error _ => keptList previous
    | .ok items => Items.encode (r.cleanedItems (Items.truncate options.maxItems items))

theorem cleanEntries_ok (options : CodecOptions) (r : Repeater) (index : Nat)
    (entries : List (String × String)) (st : Progress) :
    ∃ st', cleanEntries options r index entries st = (.ok (r.cleanedEntries entries), st') := by
  induction entries generalizing st with
  | nil => exact ⟨st, rfl⟩
  | cons e rest ih =>
    obtain ⟨key, raw⟩ := e
    unfold cleanEntries Repeater.cleanedEntries
    rw [List.filterMap_cons]
    cases hf : r.field? key with
    | none =>
      obtain ⟨st', h⟩ := ih st
      exact ⟨st', h⟩
    | some f =>
      obtain ⟨st₁, h₁⟩ := cleanText_ok options f raw st
      obtain ⟨st₂, h₂⟩ := ih (st₁.retag st.mismatches.length (r.slug ++ "." ++ index.repr ++ "." ++ key))
      exact ⟨st₂, by simp only [h₁, h₂]; rfl⟩

theorem cleanItems_ok (options : CodecOptions) (r : Repeater) (index : Nat) (items : List Item)
    (st : Progress) : ∃ st', cleanItems options r index items st = (.ok (r.cleanedItems items), st') := by
  induction items generalizing index st with
  | nil => exact ⟨st, rfl⟩
  | cons item rest ih =>
    obtain ⟨st₁, h₁⟩ := cleanEntries_ok options r index item.entries st
    obtain ⟨st₂, h₂⟩ := ih (index + 1) st₁
    exact ⟨st₂, by simp only [cleanItems, h₁, h₂]; rfl⟩

theorem repeaterText_ok (options : CodecOptions) (r : Repeater) (submitted : Option Submission)
    (previous : Option FieldValue) (st : Progress) :
    ∃ st', repeaterText options r submitted previous st = (.ok (r.stored options submitted previous), st') := by
  unfold repeaterText Repeater.stored
  cases submitted with
  | none => exact ⟨st, rfl⟩
  | some submission =>
    cases hl : submission.list with
    | error e => exact ⟨st.report ⟨r.slug, e.message⟩, by simp only [hl]⟩
    | ok items =>
      obtain ⟨st', h⟩ := cleanItems_ok options r 0 (Items.truncate options.maxItems items) st
      exact ⟨st', by simp only [hl, h]⟩

theorem repeaterValues_ok (options : CodecOptions) (submitted : Dict Submission)
    (previous : Dict FieldValue) (repeaters : List Repeater) (st : Progress) :
    ∃ st', repeaterValues options submitted previous repeaters st =
      (.ok (repeaters.map fun r =>
        ⟨r.slug, .array, r.stored options (submitted.get? r.slug) (previous.get? r.slug)⟩), st') := by
  induction repeaters generalizing st with
  | nil => exact ⟨st, rfl⟩
  | cons r rest ih =>
    obtain ⟨st₁, h₁⟩ := repeaterText_ok options r (submitted.get? r.slug) (previous.get? r.slug) st
    obtain ⟨st₂, h₂⟩ := ih st₁
    exact ⟨st₂, by simp only [repeaterValues, h₁, h₂, List.map_cons]⟩

/-! ## Slugs that the schema does not declare -/

/-- A submission for a slug that the schema does not declare, as it is stored. -/
def Submission.undeclared (options : CodecOptions) : Submission → String
  | .text raw => Markup.strip raw
  | .items l => Items.encode ((Items.truncate options.maxItems l).map (·.mapValues fun _ v => Markup.strip v))

/-- The text that is stored under a slug that the schema does not declare, if there is one. -/
def undeclaredStored? (options : CodecOptions) (slug : String) (submitted : Option Submission)
    (previous : Option FieldValue) : Option String :=
  match submitted with
  | some s => if Slug.isValid slug then some (s.undeclared options) else previous.map (·.value)
  | none => previous.map (·.value)

theorem undeclaredText_ok (options : CodecOptions) (s : Submission) :
    undeclaredText options s = .ok (s.undeclared options) := by
  cases s <;> rfl

theorem get?_keptUndeclared (schema : Schema) (previous : Dict FieldValue) (slug : String) :
    (keptUndeclared schema previous).get? slug =
      if schema.containsSlug slug then none else (previous.get? slug).map (·.value) := by
  unfold keptUndeclared
  rw [Dict.get?_mapValues, Dict.get?_filter_key]
  cases schema.containsSlug slug <;> rfl

/-- The submissions for undeclared slugs replace what is kept for them, and change nothing else. -/
theorem addUndeclared_ok (options : CodecOptions) (schema : Schema) (l : List (String × Submission))
    (kept : Dict String) :
    ∃ d, addUndeclared options schema l kept = .ok d ∧ ∀ slug, d.get? slug =
      if schema.containsSlug slug || !Slug.isValid slug then kept.get? slug
      else ((Dict.lookup slug l.reverse).map (·.undeclared options)).or (kept.get? slug) := by
  induction l generalizing kept with
  | nil => exact ⟨kept, rfl, fun slug => by simp [Dict.lookup]⟩
  | cons e rest ih =>
    obtain ⟨key, s⟩ := e
    simp only [addUndeclared, undeclaredText_ok, List.reverse_cons, Dict.lookup_append, Dict.lookup]
    split
    · rename_i hskip
      obtain ⟨d, hd, hget⟩ := ih kept
      refine ⟨d, hd, fun slug => ?_⟩
      rw [hget]
      split
      · rfl
      · rename_i htaken
        have hne : ¬key = slug := fun heq => htaken (heq ▸ hskip)
        rw [if_neg hne, Option.or_none]
    · rename_i htaken
      obtain ⟨d, hd, hget⟩ := ih (kept.insert key (s.undeclared options))
      refine ⟨d, hd, fun slug => ?_⟩
      rw [hget, Dict.get?_insert]
      by_cases heq : key = slug
      · rw [heq] at htaken
        rw [if_neg htaken, if_neg htaken, if_pos heq, if_pos heq]
        cases Dict.lookup slug rest.reverse <;> rfl
      · rw [if_neg heq, if_neg heq, Option.or_none]

theorem addUndeclared_keptUndeclared (options : CodecOptions) (schema : Schema)
    (submitted : Dict Submission) (previous : Dict FieldValue) :
    ∃ d, addUndeclared options schema submitted.entries (keptUndeclared schema previous) = .ok d ∧
      ∀ slug, d.get? slug =
        if schema.containsSlug slug then none
        else undeclaredStored? options slug (submitted.get? slug) (previous.get? slug) := by
  obtain ⟨d, hd, hget⟩ := addUndeclared_ok options schema submitted.entries (keptUndeclared schema previous)
  refine ⟨d, hd, fun slug => ?_⟩
  rw [hget, get?_keptUndeclared, Dict.lookup_reverse submitted.sorted]
  show _ = if schema.containsSlug slug then none else
    undeclaredStored? options slug (Dict.lookup slug submitted.entries) (previous.get? slug)
  unfold undeclaredStored?
  cases schema.containsSlug slug with
  | true => rfl
  | false =>
    cases Slug.isValid slug with
    | true => cases Dict.lookup slug submitted.entries <;> rfl
    | false => cases Dict.lookup slug submitted.entries <;> rfl

/-! ## The values of a save -/

/-- The kind under which a schema stores the value of a slug. -/
def Schema.kindOf (schema : Schema) (slug : String) : ValueKind :=
  match schema.field? slug with
  | some f => f.kind.valueKind
  | none => if (schema.repeater? slug).isSome then .array else .rich

/-- The text that a save stores under a slug, from what is submitted and what was stored under it. -/
def Schema.storedText? (schema : Schema) (options : CodecOptions) (slug : String)
    (submitted : Option Submission) (previous : Option FieldValue) : Option String :=
  match schema.field? slug with
  | some f => some (f.stored submitted previous)
  | none =>
    match schema.repeater? slug with
    | some r => some (r.stored options submitted previous)
    | none => undeclaredStored? options slug submitted previous

section Roles

variable {schema : Schema} {slug : String}

/-- A slug is a field, a repeater or undeclared. -/
theorem Schema.role (schema : Schema) (slug : String) :
    (∃ f, schema.field? slug = some f) ∨ (schema.field? slug = none ∧ ∃ r, schema.repeater? slug = some r) ∨
      (schema.field? slug = none ∧ schema.repeater? slug = none) := by
  cases schema.field? slug with
  | some f => exact .inl ⟨f, rfl⟩
  | none =>
    cases schema.repeater? slug with
    | some r => exact .inr (.inl ⟨rfl, r, rfl⟩)
    | none => exact .inr (.inr ⟨rfl, rfl⟩)

theorem Schema.storedText?_of_field {f : Field} (hf : schema.field? slug = some f) (options : CodecOptions)
    (submitted : Option Submission) (previous : Option FieldValue) :
    schema.storedText? options slug submitted previous = some (f.stored submitted previous) := by
  simp only [Schema.storedText?, hf]

theorem Schema.storedText?_of_repeater {r : Repeater} (hf : schema.field? slug = none)
    (hr : schema.repeater? slug = some r) (options : CodecOptions) (submitted : Option Submission)
    (previous : Option FieldValue) :
    schema.storedText? options slug submitted previous = some (r.stored options submitted previous) := by
  simp only [Schema.storedText?, hf, hr]

theorem Schema.storedText?_of_undeclared (hf : schema.field? slug = none) (hr : schema.repeater? slug = none)
    (options : CodecOptions) (submitted : Option Submission) (previous : Option FieldValue) :
    schema.storedText? options slug submitted previous = undeclaredStored? options slug submitted previous := by
  simp only [Schema.storedText?, hf, hr]

end Roles

/-- A save always succeeds. Fields come first, then repeaters, then undeclared slugs in their order. -/
theorem rebuild_ok (schema : Schema) (submitted : Dict Submission) (previous : Dict FieldValue)
    (options : CodecOptions) :
    ∃ (d : Dict String) (mismatches : List Mismatch), rebuild schema submitted previous options = .ok
        ⟨schema.fields.map (fun f =>
            ⟨f.slug, f.kind.valueKind, f.stored (submitted.get? f.slug) (previous.get? f.slug)⟩) ++
          schema.repeaters.map (fun r =>
            ⟨r.slug, .array, r.stored options (submitted.get? r.slug) (previous.get? r.slug)⟩) ++
          d.entries.map (fun e => ⟨e.1, .rich, e.2⟩), d.keys, mismatches⟩ ∧
      ∀ slug, d.get? slug =
        if schema.containsSlug slug then none
        else undeclaredStored? options slug (submitted.get? slug) (previous.get? slug) := by
  obtain ⟨st₁, h₁⟩ := fieldValues_eq options submitted previous schema.fields {}
  obtain ⟨st₂, h₂⟩ := repeaterValues_ok options submitted previous schema.repeaters st₁
  obtain ⟨d, hd, hget⟩ := addUndeclared_keptUndeclared options schema submitted previous
  exact ⟨d, st₂.mismatches, by simp only [rebuild, h₁, h₂, hd], hget⟩

/-- **A save of a well-formed schema succeeds, and what it stores under a slug depends only on what is submitted
and what was stored under that slug.** -/
theorem rebuild_spec {schema : Schema} (h : schema.WellFormed) (submitted : Dict Submission)
    (previous : Dict FieldValue) (options : CodecOptions) :
    ∃ r, rebuild schema submitted previous options = .ok r ∧
      ∀ v, v ∈ r.values ↔ v.kind = schema.kindOf v.slug ∧
        schema.storedText? options v.slug (submitted.get? v.slug) (previous.get? v.slug) = some v.value := by
  obtain ⟨d, mismatches, hr, hget⟩ := rebuild_ok schema submitted previous options
  refine ⟨_, hr, fun v => ?_⟩
  obtain ⟨slug, kind, text⟩ := v
  simp only [List.mem_append, List.mem_map, Schema.kindOf, Schema.storedText?]
  constructor
  · rintro ((⟨f, hf, heq⟩ | ⟨r, hr, heq⟩) | ⟨e, he, heq⟩)
    · cases heq
      rw [h.field?_eq_some_iff.mpr ⟨hf, rfl⟩]
      exact ⟨rfl, rfl⟩
    · cases heq
      rw [h.field?_repeater hr, h.repeater?_eq_some_iff.mpr ⟨hr, rfl⟩]
      exact ⟨rfl, rfl⟩
    · cases heq
      have hd := Dict.get?_eq_some_iff.mpr he
      rw [hget, Schema.containsSlug] at hd
      cases hf : schema.field? e.1 with
      | some f => simp [hf] at hd
      | none =>
        cases hr : schema.repeater? e.1 with
        | some r => simp [hf, hr] at hd
        | none => exact ⟨rfl, by simpa [hf, hr] using hd⟩
  · rintro ⟨hkind, htext⟩
    cases hf : schema.field? slug with
    | some f =>
      simp only [hf, Option.some.injEq] at hkind htext
      obtain ⟨hmem, rfl⟩ := h.field?_eq_some_iff.mp hf
      subst hkind htext
      exact .inl (.inl ⟨f, hmem, rfl⟩)
    | none =>
      cases hr : schema.repeater? slug with
      | some r =>
        simp only [hf, hr, Option.some.injEq] at hkind htext
        obtain ⟨hmem, rfl⟩ := h.repeater?_eq_some_iff.mp hr
        subst hkind htext
        exact .inl (.inr ⟨r, hmem, rfl⟩)
      | none =>
        simp only [hf, hr] at hkind htext
        subst hkind
        refine .inr ⟨(slug, text), Dict.get?_eq_some_iff.mp ?_, rfl⟩
        rw [hget, Schema.containsSlug, hf, hr]
        exact htext

/-- **What a save stores depends on its submissions and on what was stored only through the texts that it stores.** -/
theorem Schema.WellFormed.rebuild_congr {schema : Schema} (h : schema.WellFormed)
    {submitted submitted' : Dict Submission} {previous previous' : Dict FieldValue} {options : CodecOptions}
    {r r' : Rebuilt} (hr : rebuild schema submitted previous options = .ok r)
    (hr' : rebuild schema submitted' previous' options = .ok r')
    (htext : ∀ slug, schema.storedText? options slug (submitted.get? slug) (previous.get? slug) =
      schema.storedText? options slug (submitted'.get? slug) (previous'.get? slug)) :
    r.values = r'.values ∧ r.unknown = r'.unknown := by
  obtain ⟨d, _, hd, hget⟩ := rebuild_ok schema submitted previous options
  obtain ⟨d', _, hd', hget'⟩ := rebuild_ok schema submitted' previous' options
  cases hd.symm.trans hr
  cases hd'.symm.trans hr'
  have hfields : schema.fields.map (fun f => (⟨f.slug, f.kind.valueKind,
        f.stored (submitted.get? f.slug) (previous.get? f.slug)⟩ : FieldValue)) =
      schema.fields.map fun f => ⟨f.slug, f.kind.valueKind,
        f.stored (submitted'.get? f.slug) (previous'.get? f.slug)⟩ := by
    refine List.map_congr_left fun f hf => ?_
    have hrole := h.field?_eq_some_iff.mpr ⟨hf, rfl⟩
    have hsame := htext f.slug
    rw [Schema.storedText?_of_field hrole, Schema.storedText?_of_field hrole, Option.some.injEq] at hsame
    rw [hsame]
  have hrepeaters : schema.repeaters.map (fun r => (⟨r.slug, .array,
        r.stored options (submitted.get? r.slug) (previous.get? r.slug)⟩ : FieldValue)) =
      schema.repeaters.map fun r => ⟨r.slug, .array,
        r.stored options (submitted'.get? r.slug) (previous'.get? r.slug)⟩ := by
    refine List.map_congr_left fun r hr => ?_
    have hfield := h.field?_repeater hr
    have hrole := h.repeater?_eq_some_iff.mpr ⟨hr, rfl⟩
    have hsame := htext r.slug
    rw [Schema.storedText?_of_repeater hfield hrole, Schema.storedText?_of_repeater hfield hrole,
      Option.some.injEq] at hsame
    rw [hsame]
  have hunknown : d = d' := by
    refine Dict.ext_get? fun slug => ?_
    rw [hget, hget']
    rcases schema.role slug with ⟨f, hf⟩ | ⟨-, r, hr⟩ | ⟨hf, hr⟩
    · simp [Schema.containsSlug, hf]
    · simp [Schema.containsSlug, hr]
    · have hsame := htext slug
      rw [Schema.storedText?_of_undeclared hf hr, Schema.storedText?_of_undeclared hf hr] at hsame
      rw [hsame]
  rw [hfields, hrepeaters, hunknown]
  exact ⟨rfl, rfl⟩

end FormTemplate
