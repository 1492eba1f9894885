import FormTemplate.Proofs.Document.Save

/-!
# One slug and the others

All values of a document share one text. What a save computes for a declared slug depends only on what is
submitted and stored under that slug. But what is read for it is the last entry that any value of the save yields
on its own, and a value that holds delimiters can yield an entry for a slug that is not its own. So a submission
under one slug never takes the entry of another slug away, and it replaces the entry only by one that it forges.

* `Blob.Forges` : a value that yields an entry for the slug of another;
* `Saves.get?_decode_of_not_forges` : without such values, the entry of a slug is what its value yields;
* `saveDocument_isolation` : two saves that agree on a slug;
* `not_isolation_forged` : two such saves that read differently.
-/

set_option autoImplicit false

namespace FormTemplate

/-! ## Forged entries -/

namespace Blob

/-- The entry of a slug that a value yields when it is written and read alone. -/
def entryIn? (v : FieldValue) (slug : String) : Option FieldValue := (decode (encode [v])).get? slug

/-- A value yields an entry for a slug that is not its own. -/
def Forges (v : FieldValue) (slug : String) : Prop := v.slug ≠ slug ∧ (entryIn? v slug).isSome = true

instance (v : FieldValue) (slug : String) : Decidable (Forges v slug) := inferInstanceAs (Decidable (_ ∧ _))

/-- Only a value that holds a delimiter forges entries. -/
theorem not_forges_of_isPlain {v : FieldValue} (hv : IsPlain v.value.toList) (slug : String) :
    ¬Forges v slug := by
  rintro ⟨hne, hsome⟩
  obtain ⟨w, hw⟩ := Option.isSome_iff_exists.mp hsome
  have hmembers : ∀ w ∈ [v], Slug.isValid w.slug = true → IsPlain w.value.toList :=
    fun w hm _ => List.mem_singleton.mp hm ▸ hv
  rw [entryIn?, decode_encode_eq_bySlug, readValues_encodeChars hmembers] at hw
  obtain ⟨hmem, hslug⟩ := of_get?_bySlug hw
  rw [List.mem_singleton.mp (List.mem_filter.mp hmem).1] at hslug
  exact hne hslug

end Blob

/-- If only one member of a list yields anything, the list yields what that member does. -/
theorem findSome?_eq_of_mem {α β : Type} {f : α → Option β} {l : List α} {a : α} (ha : a ∈ l)
    (h : ∀ b ∈ l, b ≠ a → f b = none) : l.findSome? f = f a := by
  cases hf : l.findSome? f with
  | none => exact (List.findSome?_eq_none_iff.mp hf a ha).symm
  | some y =>
    obtain ⟨b, hb, hy⟩ := List.exists_of_findSome?_eq_some hf
    by_cases hba : b = a
    · rw [← hba, hy]
    · rw [h b hb hba] at hy
      cases hy

namespace Saves

variable {schema : Schema} {submitted : Dict Submission} {previousBlob : Option String}
variable {options : CodecOptions} {r : Rebuilt} {d : SavedDocument} {own : FieldValue} {slug : String}

/-- **The entry of a slug is the last one that a value of the save yields on its own.** -/
theorem get?_decode (h : Saves schema submitted previousBlob options r d) (slug : String) :
    (Blob.decode d.blob).get? slug = r.values.reverse.findSome? (Blob.entryIn? · slug) := by
  rw [h.blob]
  exact Blob.get?_decode_encode r.values slug

/-- No value takes away the entry that the value of a slug yields. -/
theorem get?_decode_ne_none (h : Saves schema submitted previousBlob options r d) (hown : own ∈ r.values)
    (hentry : Blob.entryIn? own slug ≠ none) : (Blob.decode d.blob).get? slug ≠ none := by
  intro hnone
  rw [h.get?_decode] at hnone
  exact hentry (List.findSome?_eq_none_iff.mp hnone own (List.mem_reverse.mpr hown))

/-- Without forged entries, the entry of a slug is the one that its own value yields. -/
theorem get?_decode_of_not_forges (h : Saves schema submitted previousBlob options r d) (hown : own ∈ r.values)
    (hforge : ∀ v ∈ r.values, ¬Blob.Forges v own.slug) :
    (Blob.decode d.blob).get? own.slug = Blob.entryIn? own own.slug := by
  rw [h.get?_decode]
  refine findSome?_eq_of_mem (List.mem_reverse.mpr hown) ?_
  intro v hv hne
  have hv := List.mem_reverse.mp hv
  have hslug : v.slug ≠ own.slug := fun heq => hne (h.eq_of_slug_eq hv hown heq)
  have hnone : ¬(Blob.entryIn? v own.slug).isSome = true := fun hsome => hforge v hv ⟨hslug, hsome⟩
  simpa using hnone

end Saves

/-! ## Two saves -/

/-- A declared slug always gets a text. -/
theorem Schema.storedText?_of_containsSlug {schema : Schema} {slug : String} (h : schema.containsSlug slug = true)
    (options : CodecOptions) (submitted : Option Submission) (previous : Option FieldValue) :
    ∃ text, schema.storedText? options slug submitted previous = some text := by
  rcases schema.role slug with ⟨f, hf⟩ | ⟨hf, r, hr⟩ | ⟨hf, hr⟩
  · exact ⟨_, Schema.storedText?_of_field hf options submitted previous⟩
  · exact ⟨_, Schema.storedText?_of_repeater hf hr options submitted previous⟩
  · simp [Schema.containsSlug, hf, hr] at h

/-- **Two saves that agree on a declared slug** compute the same value for it, and each blob reads, under the
slug, as the last entry that a value of its save yields on its own. So no save loses an entry that the common
value yields, and the entries agree unless a value of one of the saves forges one. -/
theorem saveDocument_isolation {schema : Schema} (hcheck : schema.check = .ok ()) {slug : String}
    (hslug : schema.containsSlug slug = true) {submitted submitted' : Dict Submission}
    (hagree : submitted.get? slug = submitted'.get? slug) (previousBlob : Option String)
    (options : CodecOptions) :
    ∃ own r r' d d',
      (rebuild schema submitted (valuesBefore previousBlob) options = .ok r ∧
        saveDocument schema submitted previousBlob options = .ok d) ∧
      (rebuild schema submitted' (valuesBefore previousBlob) options = .ok r' ∧
        saveDocument schema submitted' previousBlob options = .ok d') ∧
      (own.slug = slug ∧ own ∈ r.values ∧ own ∈ r'.values) ∧
      ((Blob.decode d.blob).get? slug = r.values.reverse.findSome? (Blob.entryIn? · slug) ∧
        (Blob.decode d'.blob).get? slug = r'.values.reverse.findSome? (Blob.entryIn? · slug)) ∧
      (Blob.entryIn? own slug ≠ none →
        (Blob.decode d.blob).get? slug ≠ none ∧ (Blob.decode d'.blob).get? slug ≠ none) ∧
      ((∀ v ∈ r.values ++ r'.values, ¬Blob.Forges v slug) →
        (Blob.decode d.blob).get? slug = (Blob.decode d'.blob).get? slug) := by
  obtain ⟨r, d, h⟩ := saveDocument_spec hcheck submitted previousBlob options
  obtain ⟨r', d', h'⟩ := saveDocument_spec hcheck submitted' previousBlob options
  obtain ⟨text, htext⟩ := Schema.storedText?_of_containsSlug hslug options (submitted.get? slug)
    ((valuesBefore previousBlob).get? slug)
  have hown : (⟨slug, schema.kindOf slug, text⟩ : FieldValue) ∈ r.values :=
    (h.mem_values _).mpr ⟨rfl, htext⟩
  have hown' : (⟨slug, schema.kindOf slug, text⟩ : FieldValue) ∈ r'.values :=
    (h'.mem_values _).mpr ⟨rfl, hagree ▸ htext⟩
  refine ⟨_, r, r', d, d', ⟨h.rebuilt, h.saved⟩, ⟨h'.rebuilt, h'.saved⟩, ⟨rfl, hown, hown'⟩,
    ⟨h.get?_decode slug, h'.get?_decode slug⟩, ?_, ?_⟩
  · intro hentry
    exact ⟨h.get?_decode_ne_none hown hentry, h'.get?_decode_ne_none hown' hentry⟩
  · intro hforge
    have hread := h.get?_decode_of_not_forges hown fun v hv => hforge v (List.mem_append_left _ hv)
    have hread' := h'.get?_decode_of_not_forges hown' fun v hv => hforge v (List.mem_append_right _ hv)
    exact hread.trans hread'.symm

/-- A schema with one line of text. -/
def nameOnly : Schema where
  version := Schema.currentVersion
  fields := [⟨"name", "Name", .text, .text, {}, {}, {}⟩]
  repeaters := []
  source := ⟨.docx, "card", .epoch⟩

/-- A submission of a name. -/
def ada : Dict Submission := Dict.ofList [("name", .text "Ada")]

/-- The same name next to a text that closes its own value and opens an empty one for some slug. -/
def forging (slug : String) : Dict Submission :=
  ada.insert "zz" (.text ("<!-- /field --><!-- field slug=\"" ++ slug ++ "\" type=\"single\" -->"))

/-- An entry that is forged for another slug leaves the name as it is. -/
theorem saveDocument_isolation_otherSlug :
    nameOnly.check = .ok () ∧ nameOnly.containsSlug "name" = true ∧
      (forging "a").get? "name" = ada.get? "name" ∧
      ∃ d d', saveDocument nameOnly (forging "a") none {} = .ok d ∧
        saveDocument nameOnly ada none {} = .ok d' ∧
        (Blob.decode d.blob).get? "name" = (Blob.decode d'.blob).get? "name" := by
  have hcheck : nameOnly.check = .ok () := rfl
  have hslug : nameOnly.containsSlug "name" = true := by decide +kernel
  have hagree : (forging "a").get? "name" = ada.get? "name" := by decide +kernel
  obtain ⟨own, r, r', d, d', ⟨hr, hd⟩, ⟨hr', hd'⟩, _, _, _, hread⟩ :=
    saveDocument_isolation hcheck hslug hagree none {}
  have hforge : ((rebuild nameOnly (forging "a") (valuesBefore none) {}).toOption.all fun r =>
      r.values.all fun v => !decide (Blob.Forges v "name")) = true := by decide +kernel
  have hplain : ((rebuild nameOnly ada (valuesBefore none) {}).toOption.all fun r =>
      r.values.all fun v => decide (Blob.IsPlain v.value.toList)) = true := by decide +kernel
  rw [hr] at hforge
  rw [hr'] at hplain
  refine ⟨hcheck, hslug, hagree, d, d', hd, hd', hread ?_⟩
  intro v hv
  rcases List.mem_append.mp hv with hv | hv
  · simpa using List.all_eq_true.mp hforge v hv
  · exact Blob.not_forges_of_isPlain (by simpa using List.all_eq_true.mp hplain v hv) "name"

/-- **Two saves that agree on a declared slug can read differently under it.** What is submitted under another
slug replaces the name that both submit. -/
theorem not_isolation_forged :
    ¬∀ (schema : Schema) (submitted submitted' : Dict Submission) (previousBlob : Option String)
      (options : CodecOptions) (slug : String), schema.check = .ok () → schema.containsSlug slug = true →
        submitted.get? slug = submitted'.get? slug →
          ∃ d d', saveDocument schema submitted previousBlob options = .ok d ∧
            saveDocument schema submitted' previousBlob options = .ok d' ∧
            (Blob.decode d.blob).get? slug = (Blob.decode d'.blob).get? slug := by
  intro hall
  obtain ⟨d, d', hd, hd', hread⟩ := hall nameOnly (forging "name") ada none {} "name" rfl
    (by decide +kernel) (by decide +kernel)
  have hne : ((saveDocument nameOnly (forging "name") none {}).toOption.map
      fun d => (Blob.decode d.blob).get? "name") ≠
      ((saveDocument nameOnly ada none {}).toOption.map
        fun d => (Blob.decode d.blob).get? "name") := by decide +kernel
  rw [hd, hd'] at hne
  exact hne (congrArg some hread)

end FormTemplate
