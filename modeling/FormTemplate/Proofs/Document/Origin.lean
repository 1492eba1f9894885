import FormTemplate.Proofs.Document.Isolation
import FormTemplate.Proofs.Document.Run

/-!
# Where stored texts come from

A text is stored because a save writes it of its own, because it was stored before, or because it is submitted under
a slug that is no repeater. What a save writes of its own is the empty text or a list within its limit; what was stored
before is kept byte for byte, whatever the schema makes of its slug. So every text that a run of saves leaves behind
goes back to the save that first stored it. A property that written lists have, and that the entries of submitted texts
have unless they come from a certain kind of value, holds of every stored text that does not come from such a value.

* `WrittenList` : the texts that a save writes of its own;
* `SaveInput.StoresText` : the values that a save stores from submitted texts, lists apart;
* `SaveInput.storedText?_eq` : where a text that a save stores comes from;
* `Traced` : every stored text has a property or goes back to the save that stored it;
* `Saves.traced`, `traced_saveAll` : a save keeps that account, and so does a run.
-/

set_option autoImplicit false

namespace FormTemplate

/-- A text that a save writes of its own: the empty text, or a list within the limit. -/
inductive WrittenList (max : Nat) : String → Prop where
  | empty : WrittenList max ""
  | items {items : List Item} (h : items.length ≤ max) : WrittenList max (Items.encode items)

theorem WrittenList.isPlain {max : Nat} {text : String} (h : WrittenList max text) : Blob.IsPlain text.toList := by
  cases h with
  | empty => exact ⟨rfl, rfl⟩
  | items _ => exact Items.isPlain_encode _

theorem length_truncate_le (max : Nat) (items : List Item) : (Items.truncate max items).length ≤ max :=
  List.length_take_le max items

variable {s : SaveInput} {saves : List SaveInput} {max : Nat} {slug text : String} {options : CodecOptions}
variable {submitted : Option Submission} {previous : Option FieldValue}

/-! ## Where a stored text comes from -/

/-- A value that a save stores from a text submitted under its slug, which the schema does not declare as a
repeater. -/
structure SaveInput.StoresText (s : SaveInput) (x : FieldValue) : Prop where
  kind : x.kind = s.schema.kindOf x.slug
  notList : x.kind ≠ .array
  text : ∃ raw, s.submitted.get? x.slug = some (.text raw) ∧
    s.schema.storedText? s.options x.slug (some (.text raw)) none = some x.value

/-- A text that is kept is the one stored before, where something was stored. -/
theorem keptText_eq (max : Nat) (previous : Option FieldValue) :
    WrittenList max (keptText previous) ∨ ∃ p, previous = some p ∧ keptText previous = p.value := by
  cases previous with
  | none => exact .inl .empty
  | some p => exact .inr ⟨p, rfl, rfl⟩

theorem keptList_eq (max : Nat) (previous : Option FieldValue) :
    WrittenList max (keptList previous) ∨ ∃ p, previous = some p ∧ keptList previous = p.value := by
  cases previous with
  | none => exact .inl (.items (Nat.zero_le max))
  | some p => exact .inr ⟨p, rfl, rfl⟩

/-- What a field stores is a submitted text or the text stored before. -/
theorem Field.stored_eq (f : Field) (max : Nat) (submitted : Option Submission) (previous : Option FieldValue) :
    (∃ raw, submitted = some (.text raw) ∧ f.stored submitted previous = f.stored submitted none) ∨
      WrittenList max (f.stored submitted previous) ∨
      ∃ p, previous = some p ∧ f.stored submitted previous = p.value := by
  cases submitted with
  | none => exact .inr (keptText_eq max previous)
  | some submission =>
    cases submission with
    | text raw => exact .inl ⟨raw, rfl, rfl⟩
    | items l => exact .inr (keptText_eq max previous)

/-- What a repeater stores is a written list or the text stored before. -/
theorem Repeater.stored_eq (r : Repeater) (options : CodecOptions) (submitted : Option Submission)
    (previous : Option FieldValue) :
    WrittenList options.maxItems (r.stored options submitted previous) ∨
      ∃ p, previous = some p ∧ r.stored options submitted previous = p.value := by
  unfold Repeater.stored
  split
  · exact keptList_eq options.maxItems previous
  · split
    · exact keptList_eq options.maxItems previous
    · refine .inl (.items ?_)
      rw [Repeater.cleanedItems, List.length_map]
      exact length_truncate_le options.maxItems _

/-- What is stored under an undeclared slug is a submitted text, a written list or the text stored before. -/
theorem undeclaredStored?_eq (h : undeclaredStored? options slug submitted previous = some text) :
    (∃ raw, submitted = some (.text raw) ∧ undeclaredStored? options slug submitted none = some text) ∨
      WrittenList options.maxItems text ∨ ∃ p, previous = some p ∧ text = p.value := by
  have hkept : previous.map (·.value) = some text → ∃ p, previous = some p ∧ text = p.value := by
    intro hmap
    obtain ⟨p, hp, hvalue⟩ := Option.map_eq_some_iff.mp hmap
    exact ⟨p, hp, hvalue.symm⟩
  cases submitted with
  | none => exact .inr (.inr (hkept h))
  | some submission =>
    by_cases hvalid : Slug.isValid slug = true
    · simp only [undeclaredStored?, hvalid, if_true] at h ⊢
      cases submission with
      | text raw => exact .inl ⟨raw, rfl, h⟩
      | items l =>
        refine .inr (.inl ?_)
        rw [← Option.some.inj h, Submission.undeclared]
        refine .items ?_
        rw [List.length_map]
        exact length_truncate_le options.maxItems l
    · simp only [undeclaredStored?, hvalid] at h
      exact .inr (.inr (hkept h))

/-- **A stored text is a written list, or was stored before, or is a submitted text under a slug that is no
repeater.** -/
theorem SaveInput.storedText?_eq (s : SaveInput)
    (h : s.schema.storedText? s.options slug (s.submitted.get? slug) previous = some text) :
    WrittenList s.options.maxItems text ∨ (∃ p, previous = some p ∧ text = p.value) ∨
      s.StoresText ⟨slug, s.schema.kindOf slug, text⟩ := by
  rcases s.schema.role slug with ⟨f, hf⟩ | ⟨hf, r, hr⟩ | ⟨hf, hr⟩
  · rw [Schema.storedText?_of_field hf] at h
    have hkind : s.schema.kindOf slug = f.kind.valueKind := by rw [Schema.kindOf, hf]
    rw [← Option.some.inj h]
    rcases f.stored_eq s.options.maxItems (s.submitted.get? slug) previous with ⟨raw, hraw, hstored⟩ | hwritten | hkept
    · refine .inr (.inr ⟨rfl, hkind ▸ f.kind.valueKind_ne_array, raw, hraw, ?_⟩)
      rw [Schema.storedText?_of_field hf, hstored, hraw]
    · exact .inl hwritten
    · exact .inr (.inl hkept)
  · rw [Schema.storedText?_of_repeater hf hr] at h
    rw [← Option.some.inj h]
    exact (r.stored_eq s.options (s.submitted.get? slug) previous).imp id .inl
  · rw [Schema.storedText?_of_undeclared hf hr] at h
    have hkind : s.schema.kindOf slug = .rich := by rw [Schema.kindOf, hf, hr]; rfl
    rcases undeclaredStored?_eq h with ⟨raw, hraw, hstored⟩ | hwritten | hkept
    · refine .inr (.inr ⟨rfl, by simp [hkind], raw, hraw, ?_⟩)
      rw [Schema.storedText?_of_undeclared hf hr, ← hraw]
      exact hstored
    · exact .inl hwritten
    · exact .inr (.inl hkept)

/-! ## Runs -/

/-- Saves in a row, the first from the stored blob if there is one. The result is the last blob. -/
def saveAll : List SaveInput → Option String → Except ItemsError (Option String)
  | [], blob => .ok blob
  | s :: rest, blob => do
    let d ← saveDocument s.schema s.submitted blob s.options
    saveAll rest (some d.blob)

/-- An entry that a run leaves stands in its last blob. -/
theorem exists_blob_of_saveAll {b : Option String} {v : FieldValue}
    (h : ((saveAll saves b).toOption.bind id).bind (fun blob => (Blob.decode blob).get? slug) = some v) :
    ∃ blob, saveAll saves b = .ok (some blob) ∧ (Blob.decode blob).get? slug = some v := by
  obtain ⟨blob, hblob, hv⟩ := Option.bind_eq_some_iff.mp h
  refine ⟨blob, ?_, hv⟩
  cases hrun : saveAll saves b with
  | error e => rw [hrun] at hblob; cases hblob
  | ok final =>
    rw [hrun] at hblob
    exact congrArg _ hblob

/-- Every stored text is fine, or it is the entry that a value of one of the saves, as `origin` tells, yields on its
own. -/
def Traced (saves : List SaveInput) (fine : String → Prop) (origin : SaveInput → FieldValue → Prop)
    (stored : Dict FieldValue) : Prop :=
  ∀ slug v, stored.get? slug = some v → fine v.value ∨
    ∃ s ∈ saves, ∃ x, origin s x ∧ (Blob.entryIn? x slug).map (·.value) = some v.value

/-- A plain value yields no entry but itself. -/
theorem Blob.eq_of_entryIn?_of_isPlain {x v : FieldValue} (hplain : Blob.IsPlain x.value.toList)
    (h : Blob.entryIn? x slug = some v) : v = x ∧ x.slug = slug := by
  have hmembers : ∀ w ∈ [x], Slug.isValid w.slug = true → Blob.IsPlain w.value.toList :=
    fun w hw _ => List.mem_singleton.mp hw ▸ hplain
  rw [Blob.entryIn?, Blob.decode_encode_eq_bySlug, Blob.readValues_encodeChars hmembers] at h
  obtain ⟨hmem, hslug⟩ := Blob.of_get?_bySlug h
  have hv : v = x := List.mem_singleton.mp (List.mem_filter.mp hmem).1
  exact ⟨hv, hv ▸ hslug⟩

section Traced

variable {fine : String → Prop} {origin : SaveInput → FieldValue → Prop}

/-- **A save keeps the account of the stored texts.** What it writes of its own and what it keeps is plain, so the
blob yields it as it is; any other entry is one that a text stored by this save yields. -/
theorem Saves.traced {previousBlob : Option String} {r : Rebuilt} {d : SavedDocument} (hs : s ∈ saves)
    (h : Saves s.schema s.submitted previousBlob s.options r d)
    (hwritten : ∀ text, WrittenList s.options.maxItems text → fine text)
    (htext : ∀ x slug v, s.StoresText x → Blob.entryIn? x slug = some v → fine v.value ∨ origin s x)
    (hbefore : Traced saves fine origin (valuesBefore previousBlob)) :
    Traced saves fine origin (Blob.decode d.blob) := by
  intro slug v hv
  rw [h.get?_decode] at hv
  obtain ⟨x, hx, hentry⟩ := List.exists_of_findSome?_eq_some hv
  obtain ⟨hkind, hstored⟩ := (h.mem_values x).mp (List.mem_reverse.mp hx)
  rcases s.storedText?_eq hstored with hlist | ⟨p, hp, hvalue⟩ | hsubmitted
  · obtain ⟨rfl, -⟩ := Blob.eq_of_entryIn?_of_isPlain hlist.isPlain hentry
    exact .inl (hwritten _ hlist)
  · have hplain : Blob.IsPlain x.value.toList := hvalue ▸ (of_get?_valuesBefore hp).2.2
    obtain ⟨rfl, rfl⟩ := Blob.eq_of_entryIn?_of_isPlain hplain hentry
    rw [hvalue]
    exact hbefore _ p hp
  · rw [← hkind] at hsubmitted
    exact (htext x slug v hsubmitted hentry).imp id fun horigin => ⟨s, hs, x, horigin, by rw [hentry]; rfl⟩

/-- **A run keeps the account** from its first save to its last. -/
theorem traced_saveAll {rest : List SaveInput} {b : Option String} (hrest : ∀ s ∈ rest, s ∈ saves)
    (hcheck : ∀ s ∈ rest, s.schema.check = .ok ())
    (hwritten : ∀ s ∈ rest, ∀ text, WrittenList s.options.maxItems text → fine text)
    (htext : ∀ s ∈ rest, ∀ x slug v, s.StoresText x → Blob.entryIn? x slug = some v → fine v.value ∨ origin s x)
    (hbefore : Traced saves fine origin (valuesBefore b)) :
    ∃ final, saveAll rest b = .ok final ∧ Traced saves fine origin (valuesBefore final) := by
  induction rest generalizing b with
  | nil => exact ⟨b, rfl, hbefore⟩
  | cons s rest ih =>
    rw [List.forall_mem_cons] at hrest hcheck hwritten htext
    obtain ⟨r, d, h⟩ := saveDocument_spec hcheck.1 s.submitted b s.options
    have hafter := h.traced hrest.1 hwritten.1 htext.1 hbefore
    obtain ⟨final, hrun, hfinal⟩ := ih (b := some d.blob) hrest.2 hcheck.2 hwritten.2 htext.2 hafter
    exact ⟨final, by rw [saveAll, h.saved]; exact hrun, hfinal⟩

end Traced

end FormTemplate
