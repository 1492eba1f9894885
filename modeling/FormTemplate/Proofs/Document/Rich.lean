import FormTemplate.Proofs.Document.Origin
import FormTemplate.Proofs.Document.ReadBack
import FormTemplate.Proofs.Markup.Trimmed

/-!
# Stored rich text

A rich text is stripped when it is submitted, and not again when it is kept. A slug may change its kind between two
saves, and a slug that a schema no longer declares is kept as rich text. So a rich text is clean, or it goes back to a
text that some save stored as plain text, which is never stripped.

A value is read from the comments around it: neither they nor the values next to it can complete a tag, and no tag of a
value is cut short by them.

* `Blob.hasUnsafeTag_of_entryIn?` : an entry that a value yields holds a tag only if the value does;
* `SaveInput.StoresText.not_hasUnsafeTag` : a submitted text is clean once it is stored as rich text;
* `saveAll_rich` : over a run, every rich text is clean or goes back to a plain text;
* `not_staysClean` : a run that keeps a plain text as rich text.
-/

set_option autoImplicit false

namespace FormTemplate

open Markup (HasUnsafeTag)

/-! ## Tags in blobs -/

namespace Blob

variable {s : List Char} {v x : FieldValue} {slug : String}

/-- A value that is read holds a tag only if the text does. -/
theorem hasUnsafeTag_of_mem_readValues (h : v ∈ readValues s) (hv : HasUnsafeTag v.value.toList) : HasUnsafeTag s := by
  obtain ⟨e, he, hvalue⟩ := List.mem_filterMap.mp h
  obtain ⟨_, _, rfl⟩ := Option.map_eq_some_iff.mp hvalue
  rw [String.toList_ofList] at hv
  obtain ⟨before, after, hs⟩ := closedIn_of_mem_sections he
  obtain ⟨front, back, hbody, hback⟩ := exists_eq_append_stripFraming e.body
  have hends : Markup.endsWord (back ++ (closer ++ after)) = true := by
    rcases hback with rfl | rfl <;> rfl
  have hpiece := hv.piece (before ++ front) hends
  rw [hs, hbody]
  simpa only [List.append_assoc] using hpiece

/-- The comments around a value hold no tag, and the line feeds part it from them. -/
theorem hasUnsafeTag_valueText_iff (hslug : Slug.isValid v.slug = true) :
    HasUnsafeTag (valueText v) ↔ HasUnsafeTag v.value.toList := by
  have hlt : '<' ∉ headerText v := not_mem_headerText hslug (by decide) (by decide)
  have hheader : ¬HasUnsafeTag (headerText v ++ commentEnd) := by
    apply Markup.not_hasUnsafeTag_of_not_mem
    rw [List.mem_append, not_or]
    exact ⟨hlt, by decide⟩
  have hopener : ¬HasUnsafeTag "<!-- field".toList := by decide +kernel
  have hcloser : ¬HasUnsafeTag closer := by decide +kernel
  have htext : valueText v = "<!-- field".toList ++
      ' ' :: (headerText v ++ commentEnd ++ '\n' :: (v.value.toList ++ '\n' :: closer)) := by
    rw [valueText, show opener = "<!-- field".toList ++ [' '] by decide]
    simp only [List.append_assoc, List.cons_append, List.nil_append]
  have hspace : Text.isBlank ' ' = true := by decide
  have hnewline : Text.isBlank '\n' = true := by decide
  rw [htext, Markup.hasUnsafeTag_parted_iff hspace, Markup.hasUnsafeTag_parted_iff hnewline,
    Markup.hasUnsafeTag_parted_iff hnewline, or_iff_right hopener, or_iff_right hheader, or_iff_left hcloser]

/-- **An entry that a value yields holds a tag only if the value does.** -/
theorem hasUnsafeTag_of_entryIn? (h : entryIn? x slug = some v) (hv : HasUnsafeTag v.value.toList) :
    HasUnsafeTag x.value.toList := by
  rw [entryIn?, decode_encode_eq_bySlug] at h
  have htext := hasUnsafeTag_of_mem_readValues (of_get?_bySlug h).1 hv
  by_cases hslug : Slug.isValid x.slug = true
  · rw [encodeChars_singleton hslug] at htext
    exact (hasUnsafeTag_valueText_iff hslug).mp htext
  · rw [encodeChars_of_not_isValid hslug] at htext
    exact absurd htext Markup.not_hasUnsafeTag_nil

end Blob

/-! ## Texts of a save -/

variable {s : SaveInput} {saves : List SaveInput} {x : FieldValue}

/-- Whatever the data type of a field makes of a text before it is stripped leaves no other tags. -/
theorem hasUnsafeTag_strip_of_normalize {type : DataType} {raw : String}
    (h : HasUnsafeTag (Markup.strip (normalize type raw)).toList) : HasUnsafeTag (Markup.strip raw).toList := by
  cases type with
  | number | date => exact Markup.hasUnsafeTag_strip_of_trim h
  | text | boolean => exact h

theorem WrittenList.not_hasUnsafeTag {max : Nat} {text : String} (h : WrittenList max text) :
    ¬HasUnsafeTag text.toList := by
  cases h with
  | empty => exact Markup.not_hasUnsafeTag_nil
  | items _ =>
    rw [Items.encode, String.toList_ofList]
    exact Markup.not_hasUnsafeTag_of_not_mem (Items.not_mem_encodeChars (by decide) _)

/-- Nothing unsafe is left of any text that is submitted once it is stripped. -/
def SaveInput.StripsClean (s : SaveInput) : Prop :=
  ∀ slug raw, s.submitted.get? slug = some (.text raw) → ¬HasUnsafeTag (Markup.strip raw).toList

/-- A text that is stored as rich text has been stripped. -/
theorem SaveInput.StoresText.eq_strip (h : s.StoresText x) (hrich : x.kind = .rich) :
    ∃ raw type, s.submitted.get? x.slug = some (.text raw) ∧ x.value = Markup.strip (normalize type raw) := by
  obtain ⟨raw, hraw, hstored⟩ := h.text
  have hkind := h.kind.symm.trans hrich
  rcases s.schema.role x.slug with ⟨f, hf⟩ | ⟨hf, r, hr⟩ | ⟨hf, hr⟩
  · rw [Schema.storedText?_of_field hf] at hstored
    rw [Schema.kindOf, hf] at hkind
    exact ⟨raw, f.dataType, hraw, (Option.some.inj hstored).symm.trans (Field.cleaned_of_rich hkind)⟩
  · rw [Schema.kindOf, hf, hr] at hkind
    cases hkind
  · rw [Schema.storedText?_of_undeclared hf hr, undeclaredStored?] at hstored
    split at hstored
    · exact ⟨raw, .text, hraw, (Option.some.inj hstored).symm⟩
    · cases hstored

/-- **A text that strips clean is clean once it is stored as rich text.** -/
theorem SaveInput.StoresText.not_hasUnsafeTag (h : s.StoresText x) (hrich : x.kind = .rich) (hclean : s.StripsClean) :
    ¬HasUnsafeTag x.value.toList := by
  obtain ⟨raw, type, hraw, hvalue⟩ := h.eq_strip hrich
  rw [hvalue]
  exact fun htag => hclean x.slug raw hraw (hasUnsafeTag_strip_of_normalize htag)

/-! ## Runs -/

/-- A value that a save stores from a text submitted under its slug, for a field of plain text. -/
def SaveInput.StoresPlain (s : SaveInput) (x : FieldValue) : Prop :=
  s.StoresText x ∧ (x.kind = .single ∨ x.kind = .textarea)

theorem SaveInput.StoresText.rich_or_plain (h : s.StoresText x) : x.kind = .rich ∨ s.StoresPlain x := by
  have hnot := h.notList
  cases hkind : x.kind with
  | rich => exact .inl rfl
  | single => exact .inr ⟨h, .inl hkind⟩
  | textarea => exact .inr ⟨h, .inr hkind⟩
  | array => exact absurd hkind hnot

/-- **Over a run that starts without a blob, every rich text is clean,** if all texts that are submitted strip clean,
unless it is the entry that a text stored by some save as plain text yields on its own. -/
theorem saveAll_rich (hcheck : ∀ s ∈ saves, s.schema.check = .ok ()) (hclean : ∀ s ∈ saves, s.StripsClean) :
    ∃ final, saveAll saves none = .ok final ∧
      ∀ blob ∈ final, ∀ slug v, (Blob.decode blob).get? slug = some v → v.kind = .rich →
        ¬HasUnsafeTag v.value.toList ∨
          ∃ s ∈ saves, ∃ x, s.StoresPlain x ∧ (Blob.entryIn? x slug).map (·.value) = some v.value := by
  have htext : ∀ s ∈ saves, ∀ x slug v, s.StoresText x → Blob.entryIn? x slug = some v →
      ¬HasUnsafeTag v.value.toList ∨ s.StoresPlain x := by
    intro s hs x slug v hx hentry
    refine hx.rich_or_plain.imp (fun hrich htag => ?_) id
    exact hx.not_hasUnsafeTag hrich (hclean s hs) (Blob.hasUnsafeTag_of_entryIn? hentry htag)
  have hbefore : Traced saves (¬HasUnsafeTag ·.toList) SaveInput.StoresPlain (valuesBefore none) :=
    fun _ _ h => by cases h
  obtain ⟨final, hrun, hfinal⟩ := traced_saveAll (fun _ hs => hs) hcheck
    (fun _ _ _ hwritten => hwritten.not_hasUnsafeTag) htext hbefore
  refine ⟨final, hrun, ?_⟩
  rintro blob rfl slug v hv -
  exact hfinal slug v hv

/-! ## Texts that become rich -/

/-- Over a run every rich text is clean, without exception. -/
def StaysClean (saves : List SaveInput) : Prop :=
  ∀ blob, saveAll saves none = .ok (some blob) → ∀ slug v, (Blob.decode blob).get? slug = some v → v.kind = .rich →
    ¬HasUnsafeTag v.value.toList

/-- A note, of one kind or another. -/
def noteField (kind : FieldKind) : Field := ⟨"note", "Note", kind, .text, {}, {}, {}⟩

/-- A note that is nothing but a script. -/
def scriptNote (kind : FieldKind) : SaveInput :=
  ⟨letterSchema [noteField kind] [], Dict.ofList [("note", .text "<script>x</script>")], {}⟩

/-- A save of a letter for which nothing is submitted. -/
def nothingFor (fields : List Field) : SaveInput := ⟨letterSchema fields [], .empty, {}⟩

/-- A script that is submitted as rich text does not come back when its field is dropped. -/
theorem saveAll_rich_dropped :
    (∀ s ∈ [scriptNote .html, nothingFor []], s.schema.check = .ok ()) ∧
      (∀ s ∈ [scriptNote .html, nothingFor []], s.StripsClean) ∧ StaysClean [scriptNote .html, nothingFor []] := by
  have hcheck : ∀ s ∈ [scriptNote .html, nothingFor []], s.schema.check = .ok () := by
    simp only [List.forall_mem_cons]
    exact ⟨rfl, rfl, by simp⟩
  have hsubmitted : ∀ s ∈ [scriptNote .html, nothingFor []], ∀ e ∈ s.submitted.entries,
      s.schema.kindOf e.1 = .rich ∧ e.2 = .text "<script>x</script>" := by
    decide +kernel
  have hclean : ∀ s ∈ [scriptNote .html, nothingFor []], s.StripsClean := by
    intro s hs slug raw hraw
    cases (hsubmitted s hs _ (Dict.get?_eq_some_iff.mp hraw)).2
    decide +kernel
  obtain ⟨final, hrun, hrich⟩ := saveAll_rich hcheck hclean
  refine ⟨hcheck, hclean, fun blob hblob slug v hv hkind => ?_⟩
  have hfinal : final = some blob := Except.ok.inj (hrun.symm.trans hblob)
  rcases hrich blob hfinal slug v hv hkind with hv | ⟨s, hs, x, ⟨⟨hx, -, raw, hraw, -⟩, hplain⟩, -⟩
  · exact hv
  · rw [hx, (hsubmitted s hs _ (Dict.get?_eq_some_iff.mp hraw)).1] at hplain
    simp at hplain

/-- **A plain text can become a rich text that is not clean**: its slug is declared no longer, or becomes rich. -/
theorem not_staysClean :
    (∀ s ∈ [scriptNote .text, nothingFor [], nothingFor [noteField .html]],
        s.schema.check = .ok () ∧ s.StripsClean) ∧
      ¬StaysClean [scriptNote .text, nothingFor []] ∧ ¬StaysClean [scriptNote .text, nothingFor [noteField .html]] := by
  have hscript : HasUnsafeTag "<script>x</script>".toList := by decide +kernel
  have hrich : ∀ saves, ((saveAll saves none).toOption.bind id).bind (fun blob => (Blob.decode blob).get? "note") =
      some ⟨"note", .rich, "<script>x</script>"⟩ → ¬StaysClean saves := by
    intro saves hread hclean
    obtain ⟨blob, hrun, hnote⟩ := exists_blob_of_saveAll hread
    exact hclean blob hrun "note" _ hnote rfl hscript
  have hsubmitted : ∀ s ∈ [scriptNote .text, nothingFor [], nothingFor [noteField .html]],
      ∀ e ∈ s.submitted.entries, e.2 = .text "<script>x</script>" := by
    decide +kernel
  refine ⟨fun s hs => ⟨?_, fun slug raw hraw => ?_⟩, hrich _ (by decide +kernel), hrich _ (by decide +kernel)⟩
  · revert s
    simp only [List.forall_mem_cons]
    exact ⟨rfl, rfl, rfl, by simp⟩
  · cases hsubmitted s hs _ (Dict.get?_eq_some_iff.mp hraw)
    decide +kernel

end FormTemplate
