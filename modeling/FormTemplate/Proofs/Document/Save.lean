import FormTemplate.Proofs.Blob.RoundTrip
import FormTemplate.Proofs.Document.Rebuild
import FormTemplate.Proofs.Items.Encoding
import FormTemplate.Proofs.Text.Trim

/-!
# Saves

A save of a checked schema, seen through its blob. It starts from what the stored blob reads as, and what it
reads there has proper slugs and is plain. So a delimiter can only reach the new blob through a submitted text.

* `Saves` : what a save computes and writes;
* `saveDocument_spec` : every save of a checked schema does so;
* `Saves.readsBack_iff` : the blob reads as the values of the save exactly if they are all plain;
* `Saves.get?_decode_of_isPlain` : what the blob then gives for a slug.
-/

set_option autoImplicit false

namespace FormTemplate

/-- The values that a save starts from. -/
def valuesBefore (previousBlob : Option String) : Dict FieldValue := (previousBlob.map Blob.decode).getD .empty

/-- What was stored has a proper slug and neither opens nor closes a value. -/
theorem of_get?_valuesBefore {previousBlob : Option String} {slug : String} {v : FieldValue}
    (h : (valuesBefore previousBlob).get? slug = some v) :
    v.slug = slug ∧ Slug.isValid slug = true ∧ Blob.IsPlain v.value.toList := by
  cases previousBlob with
  | none => cases h
  | some blob => exact Blob.of_get?_decode h

/-- A save that computes the values `r` and gives the document `d`. -/
structure Saves (schema : Schema) (submitted : Dict Submission) (previousBlob : Option String)
    (options : CodecOptions) (r : Rebuilt) (d : SavedDocument) : Prop where
  rebuilt : rebuild schema submitted (valuesBefore previousBlob) options = .ok r
  saved : saveDocument schema submitted previousBlob options = .ok d
  blob : d.blob = Blob.encode r.values
  isValid : ∀ v ∈ r.values, Slug.isValid v.slug = true
  mem_values : ∀ v, v ∈ r.values ↔ v.kind = schema.kindOf v.slug ∧
    schema.storedText? options v.slug (submitted.get? v.slug) ((valuesBefore previousBlob).get? v.slug) =
      some v.value

/-- A slug is proper if a text is stored under it. -/
theorem Schema.WellFormed.isValid_of_storedText? {schema : Schema} (h : schema.WellFormed)
    {options : CodecOptions} {slug text : String} {submitted : Option Submission}
    {previousBlob : Option String}
    (ht : schema.storedText? options slug submitted ((valuesBefore previousBlob).get? slug) = some text) :
    Slug.isValid slug = true := by
  rcases schema.role slug with ⟨f, hf⟩ | ⟨-, r, hr⟩ | ⟨hf, hr⟩
  · exact h.isValid_of_containsSlug (by simp [Schema.containsSlug, hf])
  · exact h.isValid_of_containsSlug (by simp [Schema.containsSlug, hr])
  · have hprevious : ∀ {text}, ((valuesBefore previousBlob).get? slug).map (·.value) = some text →
        Slug.isValid slug = true := by
      intro text hp
      obtain ⟨v, hv, _⟩ := Option.map_eq_some_iff.mp hp
      exact (of_get?_valuesBefore hv).2.1
    rw [Schema.storedText?_of_undeclared hf hr] at ht
    unfold undeclaredStored? at ht
    split at ht
    · split at ht
      · assumption
      · exact hprevious ht
    · exact hprevious ht

/-- **A save of a checked schema succeeds and writes what it computes.** -/
theorem saveDocument_spec {schema : Schema} (hcheck : schema.check = .ok ()) (submitted : Dict Submission)
    (previousBlob : Option String) (options : CodecOptions) :
    ∃ r d, Saves schema submitted previousBlob options r d := by
  have hschema := Schema.check_eq_ok_iff.mp hcheck
  obtain ⟨r, hr, hvalues⟩ := rebuild_spec hschema submitted (valuesBefore previousBlob) options
  refine ⟨r, ⟨Blob.encode r.values, r.unknown, r.mismatches⟩, hr, ?_, rfl, ?_, hvalues⟩
  · show (rebuild schema submitted (valuesBefore previousBlob) options).map _ = _
    rw [hr]
    rfl
  · intro v hv
    exact hschema.isValid_of_storedText? ((hvalues v).mp hv).2

namespace Saves

variable {schema : Schema} {submitted : Dict Submission} {previousBlob : Option String}
variable {options : CodecOptions} {r : Rebuilt} {d : SavedDocument}

theorem eq_of_slug_eq (h : Saves schema submitted previousBlob options r d) {v w : FieldValue}
    (hv : v ∈ r.values) (hw : w ∈ r.values) (hslug : v.slug = w.slug) : v = w := by
  obtain ⟨hvk, hvt⟩ := (h.mem_values v).mp hv
  obtain ⟨hwk, hwt⟩ := (h.mem_values w).mp hw
  rw [hslug] at hvk hvt
  have hkind : v.kind = w.kind := hvk.trans hwk.symm
  have htext : v.value = w.value := Option.some.inj (hvt.symm.trans hwt)
  cases v
  cases w
  cases hslug
  cases hkind
  cases htext
  rfl

theorem readsBack_iff (h : Saves schema submitted previousBlob options r d) :
    Blob.ReadsBack d.blob r.values ↔ ∀ v ∈ r.values, Blob.IsPlain v.value.toList := by
  rw [h.blob]
  exact Blob.readsBack_encode_iff h.isValid fun v hv w hw => h.eq_of_slug_eq hv hw

/-- The blob of a save of plain values reads, under every slug, as the text that the save stores there. -/
theorem get?_decode_of_isPlain (h : Saves schema submitted previousBlob options r d)
    (hplain : ∀ v ∈ r.values, Blob.IsPlain v.value.toList) (slug : String) :
    (Blob.decode d.blob).get? slug =
      (schema.storedText? options slug (submitted.get? slug) ((valuesBefore previousBlob).get? slug)).map
        (⟨slug, schema.kindOf slug, ·⟩) := by
  ext v
  rw [h.readsBack_iff.mpr hplain slug v, h.mem_values, Option.map_eq_some_iff]
  constructor
  · rintro ⟨⟨hkind, htext⟩, rfl⟩
    exact ⟨v.value, htext, by rw [← hkind]⟩
  · rintro ⟨text, htext, rfl⟩
    exact ⟨⟨rfl, htext⟩, rfl⟩

end Saves

/-! ## Plain texts -/

theorem isPlain_normalize {raw : String} (h : Blob.IsPlain raw.toList) (type : DataType) :
    Blob.IsPlain (normalize type raw).toList := by
  have htrim : Blob.IsPlain (Text.trim raw).toList := by
    obtain ⟨before, after, hs, -, -⟩ := Text.exists_eq_append_trimChars raw.toList
    rw [hs] at h
    rw [Text.trim, String.toList_ofList]
    exact h.piece
  cases type with
  | number | date => exact htrim
  | text | boolean => exact h

variable {previousBlob : Option String} {slug : String}

theorem isPlain_keptText : Blob.IsPlain (keptText ((valuesBefore previousBlob).get? slug)).toList := by
  cases hv : (valuesBefore previousBlob).get? slug with
  | none => exact ⟨rfl, rfl⟩
  | some v => exact (of_get?_valuesBefore hv).2.2

theorem isPlain_keptList : Blob.IsPlain (keptList ((valuesBefore previousBlob).get? slug)).toList := by
  cases hv : (valuesBefore previousBlob).get? slug with
  | none => exact Items.isPlain_encode []
  | some v => exact (of_get?_valuesBefore hv).2.2

end FormTemplate
