import FormTemplate.Proofs.Document.Save

/-!
# Saves of plain texts

Nothing that a save computes from plain texts opens or closes a value, with one exception: stripping markup joins
what stood on both sides of an element, and the joined text may hold a delimiter that none of the parts holds. So
a save of plain texts reads back exactly if no text of rich fields and undeclared slugs is joined into a delimiter.

* `Schema.strippedText?` : the texts that are stripped of markup;
* `saveDocument_readsBack_iff` : when a save of plain texts reads back;
* `not_readsBack_joined` : a save of plain texts that does not.
-/

set_option autoImplicit false

namespace FormTemplate

/-- A submission whose text neither opens nor closes a value. Lists are written without either, whatever their
items hold. -/
def Submission.IsPlain : Submission → Prop
  | .text raw => Blob.IsPlain raw.toList
  | .items _ => True

instance (s : Submission) : Decidable s.IsPlain :=
  match s with
  | .text raw => inferInstanceAs (Decidable (Blob.IsPlain raw.toList))
  | .items _ => inferInstanceAs (Decidable True)

/-- What stripping markup leaves of a submitted text, if the slug holds rich text. -/
def Schema.strippedText? (schema : Schema) (slug : String) : Submission → Option String
  | .items _ => none
  | .text raw =>
    match schema.field? slug with
    | some f => if f.kind.valueKind = .rich then some (Markup.strip (normalize f.dataType raw)) else none
    | none =>
      if (schema.repeater? slug).isNone && Slug.isValid slug then some (Markup.strip raw) else none

variable {schema : Schema} {options : CodecOptions} {slug text raw : String} {f : Field}
variable {submission : Submission} {previous : Option FieldValue}

/-! ## What is stored under a slug -/

theorem Field.cleaned_of_rich (h : f.kind.valueKind = .rich) :
    f.cleaned raw = Markup.strip (normalize f.dataType raw) := by
  simp only [Field.cleaned, h]

theorem Field.cleaned_of_ne_rich (h : f.kind.valueKind ≠ .rich) : f.cleaned raw = normalize f.dataType raw := by
  unfold Field.cleaned
  split
  · contradiction
  · rfl

/-- A stripped text is stored as it is. -/
theorem Schema.storedText?_of_strippedText? (h : schema.strippedText? slug submission = some text) :
    schema.storedText? options slug (some submission) previous = some text := by
  cases submission with
  | items l => cases h
  | text raw =>
    rcases schema.role slug with ⟨f, hf⟩ | ⟨hf, r, hr⟩ | ⟨hf, hr⟩
    · simp only [Schema.strippedText?, hf] at h
      split at h
      · rename_i hrich
        cases h
        rw [Schema.storedText?_of_field hf]
        exact congrArg some (Field.cleaned_of_rich hrich)
      · cases h
    · simp [Schema.strippedText?, hf, hr] at h
    · simp only [Schema.strippedText?, hf, hr, Option.isNone_none, Bool.true_and] at h
      split at h
      · rename_i hvalid
        cases h
        rw [Schema.storedText?_of_undeclared hf hr, undeclaredStored?, if_pos hvalid]
        rfl
      · cases h

/-- What a field stores of plain texts is plain, unless it has been stripped of markup. -/
theorem Field.isPlain_stored {s : Option Submission} (hs : ∀ t ∈ s, t.IsPlain)
    (hprevious : Blob.IsPlain (keptText previous).toList) :
    Blob.IsPlain (f.stored s previous).toList ∨
      f.kind.valueKind = .rich ∧
        ∃ raw, s = some (.text raw) ∧ f.stored s previous = Markup.strip (normalize f.dataType raw) := by
  unfold Field.stored
  split
  · rename_i raw
    by_cases hrich : f.kind.valueKind = .rich
    · exact .inr ⟨hrich, raw, rfl, Field.cleaned_of_rich hrich⟩
    · rw [Field.cleaned_of_ne_rich hrich]
      exact .inl (isPlain_normalize (hs _ rfl) _)
  · exact .inl hprevious

theorem Repeater.isPlain_stored (r : Repeater) {s : Option Submission}
    (hprevious : Blob.IsPlain (keptList previous).toList) :
    Blob.IsPlain (r.stored options s previous).toList := by
  unfold Repeater.stored
  split
  · exact hprevious
  · split
    · exact hprevious
    · exact Items.isPlain_encode _

theorem isPlain_undeclaredStored? {s : Option Submission} (hprevious : ∀ v ∈ previous, Blob.IsPlain v.value.toList)
    (h : undeclaredStored? options slug s previous = some text) :
    Blob.IsPlain text.toList ∨
      Slug.isValid slug = true ∧ ∃ raw, s = some (.text raw) ∧ text = Markup.strip raw := by
  have hkept : previous.map (·.value) = some text → Blob.IsPlain text.toList := by
    intro hp
    obtain ⟨v, hv, rfl⟩ := Option.map_eq_some_iff.mp hp
    exact hprevious v hv
  unfold undeclaredStored? at h
  split at h
  · rename_i t
    split at h
    · rename_i hvalid
      cases h
      cases t with
      | items l => exact .inl (Items.isPlain_encode _)
      | text raw => exact .inr ⟨hvalid, raw, rfl, rfl⟩
    · exact .inl (hkept h)
  · exact .inl (hkept h)

/-- Of plain texts, only a stripped one is stored as a text that is not plain. -/
theorem Schema.isPlain_storedText? {s : Option Submission} {previousBlob : Option String}
    (hs : ∀ t ∈ s, t.IsPlain)
    (h : schema.storedText? options slug s ((valuesBefore previousBlob).get? slug) = some text) :
    Blob.IsPlain text.toList ∨ ∃ t ∈ s, schema.strippedText? slug t = some text := by
  rcases schema.role slug with ⟨f, hf⟩ | ⟨hf, r, hr⟩ | ⟨hf, hr⟩
  · rw [Schema.storedText?_of_field hf] at h
    cases h
    rcases Field.isPlain_stored (f := f) hs isPlain_keptText with hplain | ⟨hrich, raw, rfl, htext⟩
    · exact .inl hplain
    · refine .inr ⟨_, rfl, ?_⟩
      rw [htext]
      simp only [Schema.strippedText?, hf, if_pos hrich]
  · rw [Schema.storedText?_of_repeater hf hr] at h
    cases h
    exact .inl (r.isPlain_stored isPlain_keptList)
  · rw [Schema.storedText?_of_undeclared hf hr] at h
    have hprevious : ∀ v ∈ (valuesBefore previousBlob).get? slug, Blob.IsPlain v.value.toList :=
      fun v hv => (of_get?_valuesBefore hv).2.2
    rcases isPlain_undeclaredStored? hprevious h with hplain | ⟨hvalid, raw, rfl, rfl⟩
    · exact .inl hplain
    · refine .inr ⟨_, rfl, ?_⟩
      simp only [Schema.strippedText?, hf, hr, hvalid]
      rfl

/-! ## What a save writes -/

/-- The values of a save of plain texts are plain exactly if the stripped texts are. -/
theorem Saves.isPlain_values_iff {submitted : Dict Submission} {previousBlob : Option String} {r : Rebuilt}
    {d : SavedDocument} (h : Saves schema submitted previousBlob options r d)
    (hplain : ∀ e ∈ submitted.entries, e.2.IsPlain) :
    (∀ v ∈ r.values, Blob.IsPlain v.value.toList) ↔
      ∀ e ∈ submitted.entries, ∀ text ∈ schema.strippedText? e.1 e.2, Blob.IsPlain text.toList := by
  constructor
  · intro hvalues e he text htext
    refine hvalues ⟨e.1, schema.kindOf e.1, text⟩ ((h.mem_values _).mpr ⟨rfl, ?_⟩)
    show schema.storedText? options e.1 (submitted.get? e.1) _ = some text
    rw [Dict.get?_eq_some_iff.mpr he]
    exact Schema.storedText?_of_strippedText? htext
  · intro hstripped v hv
    have hs : ∀ t ∈ submitted.get? v.slug, t.IsPlain :=
      fun t ht => hplain (v.slug, t) (Dict.get?_eq_some_iff.mp ht)
    rcases Schema.isPlain_storedText? hs ((h.mem_values v).mp hv).2 with hv | ⟨t, ht, htext⟩
    · exact hv
    · exact hstripped (v.slug, t) (Dict.get?_eq_some_iff.mp ht) _ htext

/-- **A save of plain texts reads back exactly if stripping markup joins none of them into a delimiter.** Reading
back means that the written blob gives the values of the save: the same slugs, with the same kinds and values. -/
theorem saveDocument_readsBack_iff {schema : Schema} (hcheck : schema.check = .ok ())
    {submitted : Dict Submission} (hplain : ∀ e ∈ submitted.entries, e.2.IsPlain) (previousBlob : Option String)
    (options : CodecOptions) :
    ∃ r d, rebuild schema submitted (valuesBefore previousBlob) options = .ok r ∧
      saveDocument schema submitted previousBlob options = .ok d ∧
      (Blob.ReadsBack d.blob r.values ↔
        ∀ e ∈ submitted.entries, ∀ text ∈ schema.strippedText? e.1 e.2, Blob.IsPlain text.toList) := by
  obtain ⟨r, d, h⟩ := saveDocument_spec hcheck submitted previousBlob options
  exact ⟨r, d, h.rebuilt, h.saved, h.readsBack_iff.trans (h.isPlain_values_iff hplain)⟩

/-! ## A joined delimiter -/

/-- A schema with one line of text and one rich text. -/
def profile : Schema where
  version := Schema.currentVersion
  fields := [⟨"name", "Name", .text, .text, {}, {}, {}⟩, ⟨"bio", "Bio", .html, .text, {}, {}, {}⟩]
  repeaters := []
  source := ⟨.docx, "profile", .epoch⟩

/-- An empty element parts what would close a value. -/
def partedCloser : Dict Submission := Dict.ofList [("bio", .text "a<!-- <script></script>/field -->b")]

/-- An empty element parts a comment that is no delimiter, and a line of text ends in half a delimiter. -/
def partedComment : Dict Submission :=
  Dict.ofList [("bio", .text "a<!-- <script></script>field-->b"), ("name", .text "--> <!-- field")]

/-- A blob with one value, which the schema does not declare. -/
def storedBlob : String := "<!-- field slug=\"motto\" type=\"single\" -->\n-->\n<!-- /field -->"

/-- What only comes close to a delimiter reads back. -/
theorem saveDocument_readsBack_partedComment :
    profile.check = .ok () ∧ (∀ e ∈ partedComment.entries, e.2.IsPlain) ∧
      ∃ r d, rebuild profile partedComment (valuesBefore (some storedBlob)) {} = .ok r ∧
        saveDocument profile partedComment (some storedBlob) {} = .ok d ∧ Blob.ReadsBack d.blob r.values := by
  have hcheck : profile.check = .ok () := rfl
  have hplain : ∀ e ∈ partedComment.entries, e.2.IsPlain := by decide +kernel
  obtain ⟨r, d, hr, hd, hread⟩ := saveDocument_readsBack_iff hcheck hplain (some storedBlob) {}
  exact ⟨hcheck, hplain, r, d, hr, hd, hread.mpr (by decide +kernel)⟩

/-- **Not every save of plain texts reads back.** Stripping can join a delimiter that no submitted text holds. -/
theorem not_readsBack_joined :
    ¬∀ (schema : Schema) (submitted : Dict Submission) (previousBlob : Option String) (options : CodecOptions),
      schema.check = .ok () → (∀ e ∈ submitted.entries, e.2.IsPlain) →
        ∃ r d, rebuild schema submitted (valuesBefore previousBlob) options = .ok r ∧
          saveDocument schema submitted previousBlob options = .ok d ∧ Blob.ReadsBack d.blob r.values := by
  intro hall
  have hcheck : profile.check = .ok () := rfl
  have hplain : ∀ e ∈ partedCloser.entries, e.2.IsPlain := by decide +kernel
  have hjoined : ¬∀ e ∈ partedCloser.entries, ∀ text ∈ profile.strippedText? e.1 e.2,
      Blob.IsPlain text.toList := by decide +kernel
  obtain ⟨r, d, hr, hd, hread⟩ := hall profile partedCloser none {} hcheck hplain
  obtain ⟨r', d', h⟩ := saveDocument_spec hcheck partedCloser none {}
  cases hr.symm.trans h.rebuilt
  cases hd.symm.trans h.saved
  exact hjoined ((h.isPlain_values_iff hplain).mp (h.readsBack_iff.mp hread))

end FormTemplate
