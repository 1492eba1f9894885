import FormTemplate.Proofs.Blob.RoundTrip

/-!
# Normal forms

Whatever the text, what is read from it can be written again without loss: each value stands under its own slug, which
is proper, and neither opens nor closes a value. Dictionaries of this form are written in any order and read back whole.
So they are exactly those that texts hold, and writing what was read from a damaged text repairs the text.

* `IsNormal` : dictionaries of values that can be written and read back;
* `isNormal_decode` : what is read from a text is normal;
* `IsNormal.decode_encode` : the values of a normal dictionary, in any order, read back as the dictionary;
* `isNormal_iff` : the normal dictionaries are those that some text holds;
* `decode_normalForm` : what is read from a text, written again and read, stays the same.
-/

set_option autoImplicit false

namespace FormTemplate.Blob

variable {d : Dict FieldValue} {v : FieldValue} {vs : List FieldValue}

/-- Each value stands under its own slug, which is proper, and neither opens nor closes a value. -/
structure IsNormal (d : Dict FieldValue) : Prop where
  slug : ∀ key v, d.get? key = some v → v.slug = key
  valid : ∀ key v, d.get? key = some v → Slug.isValid key = true
  plain : ∀ key v, d.get? key = some v → IsPlain v.value.toList

/-- **What is read from a text is normal,** however damaged the text is. -/
theorem isNormal_decode (blob : String) : IsNormal (decode blob) where
  slug _ _ h := (of_get?_decode h).1
  valid _ _ h := (of_get?_decode h).2.1
  plain _ _ h := (of_get?_decode h).2.2

namespace IsNormal

/-- A value of a normal dictionary is found under its slug. -/
theorem get?_slug (h : IsNormal d) (hv : v ∈ d.values) : d.get? v.slug = some v := by
  obtain ⟨key, hkey⟩ := Dict.mem_values_iff.mp hv
  rwa [h.slug key v hkey]

/-- **A normal dictionary is read back from its values, in whatever order they are written.** -/
theorem decode_encode (h : IsNormal d) (hvs : vs.Perm d.values) : decode (encode vs) = d := by
  have hget : ∀ v ∈ vs, d.get? v.slug = some v := fun v hv => h.get?_slug (hvs.mem_iff.mp hv)
  -- values of one slug are equal, so it does not matter which of them comes last
  have hone : ∀ v ∈ vs, ∀ w ∈ vs, v.slug = w.slug → v = w := by
    intro v hv w hw hslug
    have hw' := hget w hw
    rw [← hslug, hget v hv] at hw'
    exact Option.some.inj hw'
  have hreads : ReadsBack (encode vs) vs :=
    (readsBack_encode_iff (fun v hv => h.valid v.slug v (hget v hv)) hone).mpr
      fun v hv => h.plain v.slug v (hget v hv)
  apply Dict.ext_get?
  intro key
  apply Option.ext
  intro v
  rw [hreads key v]
  constructor
  · rintro ⟨hv, rfl⟩
    exact hget v hv
  · intro hkey
    exact ⟨hvs.mem_iff.mpr (Dict.mem_values_iff.mpr ⟨key, hkey⟩), h.slug key v hkey⟩

end IsNormal

/-- The normal dictionaries are those that some text holds. -/
theorem isNormal_iff : IsNormal d ↔ ∃ blob, decode blob = d := by
  constructor
  · intro h
    exact ⟨encode d.values, h.decode_encode (List.Perm.refl _)⟩
  · rintro ⟨blob, rfl⟩
    exact isNormal_decode blob

/-- **Reading brings every text into a normal form.** Each value that is read stands under its own slug, which is
proper, and neither opens nor closes a value; and the values, written again in any order, read back as they were. -/
theorem decode_normalForm (blob : String) :
    IsNormal (decode blob) ∧ ∀ vs : List FieldValue, vs.Perm (decode blob).values → decode (encode vs) = decode blob :=
  ⟨isNormal_decode blob, fun _ hvs => (isNormal_decode blob).decode_encode hvs⟩

/-- A text with a value that is interrupted, one whose slug is not proper, one with signs of a comment, and a header
that does not end. -/
def tangled : String :=
  "<!-- field slug=\"a\" -->cut<!-- field slug=\"a\" type=\"odd\" -->1<!-- /field -->" ++
    "<!-- field slug=\"B\" -->x<!-- /field -->" ++
    "<!-- field slug=\"b\" type=\"single\" -->\n--> 2\n\n<!-- /field --><!-- field slug=\"b\""

/-- The values that such a text still holds, the last one first. -/
def untangled : List FieldValue := [⟨"b", .single, "--> 2\n"⟩, ⟨"a", .rich, "1"⟩]

theorem decode_normalForm_tangled :
    untangled.Perm (decode tangled).values ∧ decode (encode untangled) = decode tangled ∧
      (decode tangled).get? "b" = some ⟨"b", .single, "--> 2\n"⟩ := by
  have hvalues : (decode tangled).values = untangled.reverse := by decide +kernel
  have hperm : untangled.Perm (decode tangled).values := by
    rw [hvalues]
    exact (List.reverse_perm untangled).symm
  obtain ⟨hnormal, hagain⟩ := decode_normalForm tangled
  obtain ⟨key, hkey⟩ := Dict.mem_values_iff.mp (hperm.mem_iff.mp List.mem_cons_self)
  obtain rfl := hnormal.slug key _ hkey
  exact ⟨hperm, hagain untangled hperm, hkey⟩

end FormTemplate.Blob
