import FormTemplate.Proofs.Blob.Framing
import FormTemplate.Proofs.Dict

/-!
# Written values read back

Reading a written list takes the values one by one, and each value is looked at on its own: whatever a value
holds, it cannot reach into the text of its neighbours. A value comes back unchanged exactly if it neither
opens nor closes a value.

* `readValues_encodeChars_cons` : the values of a written list are those of its members, in order;
* `get?_decode_encode` : the entry of a slug is the last one that a member yields on its own;
* `of_get?_decode` : what is stored in a blob has a proper slug and neither opens nor closes a value;
* `readsBack_encode_iff` : a list with one value for each slug reads back exactly if all its values are plain;
* `decode_encode_roundTrip` : plain values read back, and no others do.
-/

set_option autoImplicit false

namespace FormTemplate.Blob

variable {s : List Char} {v : FieldValue} {vs : List FieldValue}

/-! ## Values in the order of the text -/

/-- The values of a text in the order in which they are read. -/
def readValues (s : List Char) : List FieldValue := (sections s).filterMap Section.value?

theorem decode_eq_bySlug (blob : String) : decode blob = bySlug (readValues blob.toList) := rfl

theorem decode_encode_eq_bySlug (vs : List FieldValue) :
    decode (encode vs) = bySlug (readValues (encodeChars vs)) := by
  rw [decode_eq_bySlug, encode, String.toList_ofList]

theorem readValues_encodeChars_nil : readValues (encodeChars []) = [] := by
  show (sections []).filterMap Section.value? = []
  rw [sections_nil]
  rfl

/-- **The values of a written list are those of its members, each read on its own.** -/
theorem readValues_encodeChars_cons (v : FieldValue) (vs : List FieldValue) :
    readValues (encodeChars (v :: vs)) = readValues (encodeChars [v]) ++ readValues (encodeChars vs) := by
  unfold readValues
  rw [sections_encodeChars_cons, List.filterMap_append]

/-! ## Framing -/

theorem stripFraming_framed (s : List Char) : stripFraming ('\n' :: s ++ ['\n']) = s := by
  simp [stripFraming]

/-- A value is a piece of the body that it is read from, and behind it stands a line feed or nothing. -/
theorem exists_eq_append_stripFraming (body : List Char) :
    ∃ before after, body = before ++ stripFraming body ++ after ∧ (after = [] ∨ after = ['\n']) := by
  have hlast : ∀ r : List Char, r.getLast? = some '\n' → r = r.dropLast ++ ['\n'] := by
    intro r h
    obtain ⟨ys, rfl⟩ := List.getLast?_eq_some_iff.mp h
    rw [List.dropLast_concat]
  unfold stripFraming
  split
  · rename_i r
    dsimp only
    split
    · rename_i h
      exact ⟨['\n'], ['\n'], congrArg ('\n' :: ·) (hlast r h), .inr rfl⟩
    · exact ⟨['\n'], [], by simp, .inl rfl⟩
  · dsimp only
    split
    · rename_i h
      exact ⟨[], ['\n'], hlast body h, .inr rfl⟩
    · exact ⟨[], [], by simp, .inl rfl⟩

theorem IsPlain.piece {before after : List Char} (h : IsPlain (before ++ s ++ after)) : IsPlain s :=
  ⟨Text.occurs_piece h.1, Text.occurs_piece h.2⟩

theorem isPlain_stripFraming {body : List Char} (h : IsPlain body) : IsPlain (stripFraming body) := by
  obtain ⟨before, after, hbody, -⟩ := exists_eq_append_stripFraming body
  rw [hbody] at h
  exact h.piece

/-! ## Single values -/

theorem isValid_of_headerKey? {header : List Char} {slug : String} {kind : ValueKind}
    (h : headerKey? header = some (slug, kind)) : Slug.isValid slug = true := by
  simp only [headerKey?] at h
  split at h
  · cases h
  · split at h
    · rename_i hvalid
      cases h
      exact hvalid
    · cases h

/-- What is read has a proper slug and neither opens nor closes a value. -/
theorem of_mem_readValues (h : v ∈ readValues s) : Slug.isValid v.slug = true ∧ IsPlain v.value.toList := by
  obtain ⟨e, he, hv⟩ := List.mem_filterMap.mp h
  obtain ⟨⟨slug, kind⟩, hkey, rfl⟩ := Option.map_eq_some_iff.mp hv
  refine ⟨isValid_of_headerKey? hkey, ?_⟩
  rw [String.toList_ofList]
  exact isPlain_stripFraming (isPlain_of_mem_sections he)

theorem encodeChars_singleton (hslug : Slug.isValid v.slug = true) : encodeChars [v] = valueText v := by
  unfold encodeChars
  rw [List.filter_cons, if_pos hslug]
  rfl

/-- A plain value with a proper slug reads as itself. -/
theorem readValues_encodeChars_of_isPlain (hslug : Slug.isValid v.slug = true) (hv : IsPlain v.value.toList) :
    readValues (encodeChars [v]) = [v] := by
  have hvalue : (⟨headerText v, '\n' :: v.value.toList ++ ['\n']⟩ : Section).value? = some v := by
    simp only [Section.value?, headerKey?_headerText hslug, stripFraming_framed, String.ofList_toList]
    rfl
  rw [readValues, encodeChars_singleton hslug, sections_valueText hslug hv, List.filterMap_cons_some hvalue,
    List.filterMap_nil]

/-- A value without a proper slug is not written. -/
theorem encodeChars_of_not_isValid (hslug : ¬Slug.isValid v.slug = true) : encodeChars [v] = [] := by
  unfold encodeChars
  rw [List.filter_cons, if_neg hslug]
  rfl

/-- Plain values with proper slugs read as themselves, in their order. -/
theorem readValues_encodeChars (h : ∀ v ∈ vs, Slug.isValid v.slug = true → IsPlain v.value.toList) :
    readValues (encodeChars vs) = vs.filter fun v => Slug.isValid v.slug := by
  induction vs with
  | nil => exact readValues_encodeChars_nil
  | cons v r ih =>
    rw [readValues_encodeChars_cons, ih fun w hw => h w (List.mem_cons_of_mem _ hw), List.filter_cons]
    split
    · rename_i hslug
      rw [readValues_encodeChars_of_isPlain hslug (h v List.mem_cons_self hslug)]
      rfl
    · rename_i hslug
      rw [encodeChars_of_not_isValid hslug]
      exact congrArg (· ++ _) readValues_encodeChars_nil

/-! ## Entries by slug -/

theorem get?_bySlug (vs : List FieldValue) (slug : String) :
    (bySlug vs).get? slug = vs.reverse.find? (·.slug = slug) := by
  rw [bySlug, Dict.get?_ofList, ← List.map_reverse]
  induction vs.reverse with
  | nil => rfl
  | cons v r ih =>
    rw [List.map_cons, Dict.lookup, ih, List.find?_cons]
    split <;> simp_all

theorem of_get?_bySlug {slug : String} (h : (bySlug vs).get? slug = some v) : v ∈ vs ∧ v.slug = slug := by
  rw [get?_bySlug] at h
  exact ⟨List.mem_reverse.mp (List.mem_of_find?_eq_some h), by simpa using List.find?_some h⟩

theorem bySlug_eq_foldl (vs : List FieldValue) :
    bySlug vs = vs.foldl (fun d v => d.insert v.slug v) .empty := by
  rw [bySlug, Dict.ofList, List.foldl_map]

/-- An entry of a blob stands under its own slug, which is proper, and neither opens nor closes a value. -/
theorem of_get?_decode {blob slug : String} (h : (decode blob).get? slug = some v) :
    v.slug = slug ∧ Slug.isValid slug = true ∧ IsPlain v.value.toList := by
  rw [decode_eq_bySlug] at h
  obtain ⟨hmem, hslug⟩ := of_get?_bySlug h
  obtain ⟨hvalid, hplain⟩ := of_mem_readValues hmem
  exact ⟨hslug, hslug ▸ hvalid, hplain⟩

/-- **The entry of a slug is the last one that a member of the list yields on its own.** -/
theorem get?_decode_encode (vs : List FieldValue) (slug : String) :
    (decode (encode vs)).get? slug = vs.reverse.findSome? fun v => (decode (encode [v])).get? slug := by
  induction vs with
  | nil => rw [decode_encode_eq_bySlug, readValues_encodeChars_nil]; rfl
  | cons v r ih =>
    rw [List.reverse_cons, List.findSome?_append, ← ih, decode_encode_eq_bySlug, decode_encode_eq_bySlug,
      readValues_encodeChars_cons, get?_bySlug, List.reverse_append, List.find?_append, ← get?_bySlug,
      ← get?_bySlug, List.findSome?_singleton, decode_encode_eq_bySlug]

/-! ## Lists that read back -/

/-- Reading a text gives exactly the values of a list: the same slugs, each with the same kind and value. -/
def ReadsBack (blob : String) (vs : List FieldValue) : Prop :=
  ∀ slug v, (decode blob).get? slug = some v ↔ v ∈ vs ∧ v.slug = slug

/-- **A written list with one value for each slug reads back exactly if all its values are plain.** -/
theorem readsBack_encode_iff (hslug : ∀ v ∈ vs, Slug.isValid v.slug = true)
    (hone : ∀ v ∈ vs, ∀ w ∈ vs, v.slug = w.slug → v = w) :
    ReadsBack (encode vs) vs ↔ ∀ v ∈ vs, IsPlain v.value.toList := by
  constructor
  · intro h v hv
    exact (of_get?_decode ((h v.slug v).mpr ⟨hv, rfl⟩)).2.2
  · intro h slug v
    rw [decode_encode_eq_bySlug, readValues_encodeChars fun v hv _ => h v hv, List.filter_eq_self.mpr hslug]
    constructor
    · exact of_get?_bySlug
    · rintro ⟨hv, rfl⟩
      cases hget : (bySlug vs).get? v.slug with
      | none =>
        rw [get?_bySlug] at hget
        have hnone := List.find?_eq_none.mp hget v (List.mem_reverse.mpr hv)
        simp at hnone
      | some w =>
        obtain ⟨hw, hws⟩ := of_get?_bySlug hget
        rw [hone w hw v hv hws]

/-! ## The round trip -/

/-- **Plain values read back, and no others do.** Whatever else they hold, values that neither open nor close a
value come back under their slugs, of which later ones count; values without a proper slug are left out. A
single value with a proper slug comes back exactly if it is plain. -/
theorem decode_encode_roundTrip :
    (∀ vs : List FieldValue, (∀ v ∈ vs, Slug.isValid v.slug = true → IsPlain v.value.toList) →
      decode (encode vs) =
        (vs.filter fun v => Slug.isValid v.slug).foldl (fun d v => d.insert v.slug v) .empty) ∧
    ∀ v : FieldValue, Slug.isValid v.slug = true →
      ((decode (encode [v])).get? v.slug = some v ↔ IsPlain v.value.toList) := by
  constructor
  · intro vs h
    rw [decode_encode_eq_bySlug, readValues_encodeChars h, bySlug_eq_foldl]
  · intro v hslug
    constructor
    · intro h
      exact (of_get?_decode h).2.2
    · intro hv
      rw [decode_encode_eq_bySlug, readValues_encodeChars_of_isPlain hslug hv, get?_bySlug]
      simp

/-- Values that come close to delimiters, two of them under one slug and one without a proper slug. -/
def nearDelimiters : List FieldValue :=
  [⟨"note", .textarea, "\n--> <!-- field"⟩, ⟨"Bad Slug", .single, "<!-- /field -->"⟩,
    ⟨"note", .rich, "\"<!-- /field --\n>\n"⟩]

/-- A value that closes itself does not come back, although its neighbours may come close to that. -/
theorem decode_encode_nearDelimiters :
    (∀ v ∈ nearDelimiters, Slug.isValid v.slug = true → IsPlain v.value.toList) ∧
      decode (encode nearDelimiters) =
        (nearDelimiters.filter fun v => Slug.isValid v.slug).foldl (fun d v => d.insert v.slug v) .empty ∧
      Slug.isValid "note" = true ∧
      (decode (encode [⟨"note", .rich, "<!-- /field -->"⟩])).get? "note" ≠
        some ⟨"note", .rich, "<!-- /field -->"⟩ := by
  have hplain : ∀ v ∈ nearDelimiters, Slug.isValid v.slug = true → IsPlain v.value.toList := by decide +kernel
  have hslug : Slug.isValid "note" = true := by decide +kernel
  have hcloser : ¬IsPlain "<!-- /field -->".toList := by decide +kernel
  refine ⟨hplain, decode_encode_roundTrip.1 nearDelimiters hplain, hslug, ?_⟩
  rw [ne_eq, decode_encode_roundTrip.2 ⟨"note", .rich, "<!-- /field -->"⟩ hslug]
  exact hcloser

end FormTemplate.Blob
