import FormTemplate.Proofs.Document.Noted
import FormTemplate.Proofs.Document.ReadBack

/-!
# Saving again

A save that is tried again, on the blob that it has just written, finds its own values stored. What is submitted is
cleaned as before, what is not submitted or not usable is kept as the first save left it, and the checks look only at
what is submitted. So the second save gives the document of the first, as long as the blob reads back. A save without
a submission always does, because what it keeps was read from a blob.

* `Schema.storedText?_again` : what a slug stores when its own text is stored already;
* `rebuild_eq_of_storedText?` : a save depends on what was stored only through the texts that it stores;
* `saveDocument_again` : a save that is tried again gives the same document.
-/

set_option autoImplicit false

namespace FormTemplate

variable {schema : Schema} {options : CodecOptions} {submitted : Dict Submission} {previous previous' : Dict FieldValue}

/-! ## What is stored -/

section Stored

variable (options) (slug : String) (s : Option Submission) (p : Option FieldValue) (kind : ValueKind)

theorem Field.stored_again (f : Field) : f.stored s (some ⟨slug, kind, f.stored s p⟩) = f.stored s p := by
  cases s with
  | none => rfl
  | some s => cases s <;> rfl

theorem Repeater.stored_again (r : Repeater) :
    r.stored options s (some ⟨slug, kind, r.stored options s p⟩) = r.stored options s p := by
  cases s with
  | none => rfl
  | some s => cases hl : s.list <;> simp only [Repeater.stored, hl, keptList, Option.map_some, Option.getD_some]

theorem undeclaredStored?_again :
    undeclaredStored? options slug s ((undeclaredStored? options slug s p).map (⟨slug, kind, ·⟩)) =
      undeclaredStored? options slug s p := by
  cases s with
  | none => cases p <;> rfl
  | some s =>
    by_cases hvalid : Slug.isValid slug = true
    · simp only [undeclaredStored?, hvalid, if_true]
    · simp only [undeclaredStored?, hvalid]
      cases p <;> rfl

/-- **A slug stores the same text again** when that text is what is stored under it. -/
theorem Schema.storedText?_again (schema : Schema) :
    schema.storedText? options slug s ((schema.storedText? options slug s p).map (⟨slug, kind, ·⟩)) =
      schema.storedText? options slug s p := by
  rcases schema.role slug with ⟨f, hf⟩ | ⟨hf, r, hr⟩ | ⟨hf, hr⟩
  · rw [Schema.storedText?_of_field hf, Schema.storedText?_of_field hf, Option.map_some, Field.stored_again]
  · rw [Schema.storedText?_of_repeater hf hr, Schema.storedText?_of_repeater hf hr, Option.map_some,
      Repeater.stored_again]
  · rw [Schema.storedText?_of_undeclared hf hr, Schema.storedText?_of_undeclared hf hr, undeclaredStored?_again]

end Stored

/-! ## The second save -/

/-- **A save depends on what was stored only through the texts that it stores.** -/
theorem rebuild_eq_of_storedText? (h : schema.WellFormed)
    (htext : ∀ slug, schema.storedText? options slug (submitted.get? slug) (previous.get? slug) =
      schema.storedText? options slug (submitted.get? slug) (previous'.get? slug)) :
    rebuild schema submitted previous options = rebuild schema submitted previous' options := by
  obtain ⟨⟨values, unknown, mismatches⟩, hr, hnoted⟩ := rebuild_noted schema submitted previous options
  obtain ⟨⟨values', unknown', mismatches'⟩, hr', hnoted'⟩ := rebuild_noted schema submitted previous' options
  obtain ⟨hvalues, hunknown⟩ := h.rebuild_congr hr hr' htext
  obtain rfl : values = values' := hvalues
  obtain rfl : unknown = unknown' := hunknown
  obtain rfl : mismatches = mismatches' := hnoted.trans hnoted'.symm
  exact hr.trans hr'.symm

namespace Saves

variable {previousBlob : Option String} {r : Rebuilt} {d : SavedDocument}

/-- **A save of plain values that is tried again on its blob gives the same document.** -/
theorem again (h : Saves schema submitted previousBlob options r d) (hschema : schema.WellFormed)
    (hplain : ∀ v ∈ r.values, Blob.IsPlain v.value.toList) :
    saveDocument schema submitted (some d.blob) options = .ok d := by
  have hsame : rebuild schema submitted (Blob.decode d.blob) options =
      rebuild schema submitted (valuesBefore previousBlob) options := by
    refine rebuild_eq_of_storedText? hschema fun slug => ?_
    rw [h.get?_decode_of_isPlain hplain]
    exact schema.storedText?_again options slug _ _ _
  calc saveDocument schema submitted (some d.blob) options
      = (rebuild schema submitted (Blob.decode d.blob) options).map
          fun r => ⟨Blob.encode r.values, r.unknown, r.mismatches⟩ := rfl
    _ = saveDocument schema submitted previousBlob options := by rw [hsame]; rfl
    _ = .ok d := h.saved

/-- What a save without a submission stores was read from a blob, so it is plain. -/
theorem isPlain_of_empty (h : Saves schema .empty previousBlob options r d) :
    ∀ v ∈ r.values, Blob.IsPlain v.value.toList :=
  (h.isPlain_values_iff fun _ he => by cases he).mpr fun _ he => by cases he

end Saves

/-- **Saving again changes nothing.** A save of a checked schema succeeds; if its values are plain, or if nothing is
submitted, then the same save on the blob that it has written gives the same document: the same blob, the same
unknown slugs and the same mismatches. -/
theorem saveDocument_again (hcheck : schema.check = .ok ()) (submitted : Dict Submission)
    (previousBlob : Option String) (options : CodecOptions) :
    ∃ r d, rebuild schema submitted (valuesBefore previousBlob) options = .ok r ∧
      saveDocument schema submitted previousBlob options = .ok d ∧
      ((∀ v ∈ r.values, Blob.IsPlain v.value.toList) →
        saveDocument schema submitted (some d.blob) options = .ok d) ∧
      (submitted = .empty → saveDocument schema submitted (some d.blob) options = .ok d) := by
  have hschema := Schema.check_eq_ok_iff.mp hcheck
  obtain ⟨r, d, h⟩ := saveDocument_spec hcheck submitted previousBlob options
  refine ⟨r, d, h.rebuilt, h.saved, h.again hschema, ?_⟩
  rintro rfl
  exact h.again hschema h.isPlain_of_empty

/-- A list for a name, which is kept as it was, a rich text with an element to strip, and two undeclared slugs, one of
which is no slug. -/
def listForName : Dict Submission :=
  Dict.ofList [("name", .items [.empty]), ("bio", .text "Hi<script>x</script> <!-- field-->"), ("note", .text "\n"),
    ("Bad Slug", .text "<!-- /field -->")]

/-- A blob whose second value is cut off. -/
def cutBlob : String := storedBlob ++ "<!-- field slug=\"bio\" type=\"rich\" -->\nHi"

/-- What is refused, stripped or undeclared comes out the same again, and so does what is left of a damaged blob. -/
theorem saveDocument_again_listForName :
    profile.check = .ok () ∧
      (∃ d, saveDocument profile listForName (some storedBlob) {} = .ok d ∧
        d.unknown = ["motto", "note"] ∧ d.mismatches = [⟨"name", "Name expects a single value, not a list"⟩] ∧
        saveDocument profile listForName (some d.blob) {} = .ok d) ∧
      ∃ d, saveDocument profile .empty (some cutBlob) {} = .ok d ∧
        saveDocument profile .empty (some d.blob) {} = .ok d := by
  have hcheck : profile.check = .ok () := rfl
  obtain ⟨r, d, hr, hd, hagain, -⟩ := saveDocument_again hcheck listForName (some storedBlob) {}
  obtain ⟨-, e, -, he, -, hempty⟩ := saveDocument_again hcheck .empty (some cutBlob) {}
  have hplain : ((rebuild profile listForName (valuesBefore (some storedBlob)) {}).toOption.all fun r =>
      r.values.all fun v => decide (Blob.IsPlain v.value.toList)) = true := by decide +kernel
  have hnoted : (saveDocument profile listForName (some storedBlob) {}).toOption.map
      (fun d => (d.unknown, d.mismatches)) =
      some (["motto", "note"], [⟨"name", "Name expects a single value, not a list"⟩]) := by decide +kernel
  rw [hr] at hplain
  rw [hd] at hnoted
  obtain ⟨hunknown, hmismatches⟩ := Prod.mk.inj (Option.some.inj hnoted)
  refine ⟨hcheck, ⟨d, hd, hunknown, hmismatches, hagain ?_⟩, e, he, hempty rfl⟩
  simpa [Except.toOption] using hplain

end FormTemplate
