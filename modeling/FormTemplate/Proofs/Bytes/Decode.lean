import FormTemplate.Proofs.Blob.Framing
import FormTemplate.Proofs.Bytes.Slices

/-!
# Reading a blob by byte positions

The values of a blob once more, over the bytes of its text and with every piece cut out of it between two positions. A
pattern is found at a position between characters and ends at one, so the positions behind a comment, and those that are
found inside a piece, are such positions again.

* `headerTurn`, `bodyTurn`, `decodeTurn` : from a position to behind the next value, or to where reading goes on;
* `lt_of_decodeTurn` : no turn stays where it is;
* `runs_decodeTurn` : the loop runs to its end, with the values of the text.
-/

set_option autoImplicit false

namespace FormTemplate.Blob

open Text (Cursor Runs Turn slice? sliceFrom? find? byteLength cutAt? occurs of_passes)

variable {blob : String} {c d : Cursor} {i : Nat} {s t r before after : List Char}

/-! ## The loop -/

/-- Where reading has come to. -/
structure Decoding where
  position : Nat := 0
  fields : Dict FieldValue := .empty

/-- From the beginning of a body to behind its closing comment, or to the opening comment in it. -/
def bodyTurn (blob : String) (fields : Dict FieldValue) (header : String) (start : Nat) :
    Option (Turn Decoding (Dict FieldValue)) :=
  (sliceFrom? blob start).bind fun rest =>
    match find? closer rest with
    | none => some (.done fields)
    | some n =>
      (slice? blob start (start + n)).bind fun body =>
        match find? opener body with
        | some inner => some (.again ⟨start + inner, fields⟩)
        | none =>
          let stop := start + n + byteLength closer
          match headerKey? header.toList with
          | none => some (.again ⟨stop, fields⟩)
          | some (slug, kind) =>
            some (.again ⟨stop, fields.insert slug ⟨slug, kind, String.ofList (stripFraming body.toList)⟩⟩)

/-- From the beginning of a header to behind the value, or to where reading goes on if there is none. -/
def headerTurn (blob : String) (fields : Dict FieldValue) (start : Nat) : Option (Turn Decoding (Dict FieldValue)) :=
  (sliceFrom? blob start).bind fun rest =>
    match find? commentEnd rest with
    | none => some (.done fields)
    | some n =>
      (slice? blob start (start + n)).bind fun header =>
        if header.toList.contains '\n' || occurs opener header.toList then
          some (.again ⟨((find? opener header).map (start + ·)).getD start, fields⟩)
        else bodyTurn blob fields header (start + n + byteLength commentEnd)

/-- From a position to the next opening comment, and on from there. -/
def decodeTurn (blob : String) (s : Decoding) : Option (Turn Decoding (Dict FieldValue)) :=
  (sliceFrom? blob s.position).bind fun rest =>
    match find? opener rest with
    | none => some (.done s.fields)
    | some n => headerTurn blob s.fields (s.position + n + byteLength opener)

/-! ### Progress -/

theorem le_of_bodyTurn {fields : Dict FieldValue} {header : String} {s : Decoding}
    (h : bodyTurn blob fields header i = some (.again s)) : i ≤ s.position := by
  obtain ⟨rest, -, h⟩ := Option.bind_eq_some_iff.mp h
  split at h
  · cases h
  · obtain ⟨body, -, h⟩ := Option.bind_eq_some_iff.mp h
    split at h
    · cases h
      exact Nat.le_add_right _ _
    · simp only at h
      split at h
      · cases h
        simp only
        omega
      · cases h
        simp only
        omega

theorem le_of_headerTurn {fields : Dict FieldValue} {s : Decoding}
    (h : headerTurn blob fields i = some (.again s)) : i ≤ s.position := by
  obtain ⟨rest, -, h⟩ := Option.bind_eq_some_iff.mp h
  split at h
  · cases h
  · obtain ⟨header, -, h⟩ := Option.bind_eq_some_iff.mp h
    split at h
    · cases h
      cases find? opener header with
      | none => exact Nat.le_refl i
      | some inner => exact Nat.le_add_right i inner
    · have hle := le_of_bodyTurn h
      omega

/-- No turn stays where it is. -/
theorem lt_of_decodeTurn {s s' : Decoding} (h : decodeTurn blob s = some (.again s')) : s.position < s'.position := by
  obtain ⟨rest, -, h⟩ := Option.bind_eq_some_iff.mp h
  split at h
  · cases h
  · have hle := le_of_headerTurn h
    have hopener : 0 < byteLength opener := by decide
    omega

/-! ## Positions and cursors -/

variable (fields : Dict FieldValue)

theorem decodeTurn_none (hc : c.Of blob.toList) (h : cutAt? opener c.rest = none) :
    decodeTurn blob ⟨c.offset, fields⟩ = some (.done fields) := by
  rw [decodeTurn, Text.sliceFrom?_of hc, Option.bind_some, Text.find?_eq_none h]

theorem decodeTurn_some (hc : c.Of blob.toList) (h : cutAt? opener c.rest = some (before, after)) :
    decodeTurn blob ⟨c.offset, fields⟩ =
      headerTurn blob fields (c.offset + byteLength before + byteLength opener) := by
  rw [decodeTurn, Text.sliceFrom?_of hc, Option.bind_some, Text.find?_eq_some h]

/-- A turn can as well begin at the next opening comment. -/
theorem decodeTurn_opener (hc : c.Of blob.toList) (h : cutAt? opener c.rest = some (before, after)) :
    decodeTurn blob ⟨c.offset + byteLength before, fields⟩ = decodeTurn blob ⟨c.offset, fields⟩ := by
  have hhere : cutAt? opener (opener ++ after) = some ([], after) :=
    Text.cutAt?_append_of_some (show cutAt? opener opener = some ([], []) by decide) after
  have hturn := decodeTurn_some fields (of_passes hc (Text.passes_before h)) hhere
  rw [decodeTurn_some fields hc h, hturn, byteLength, Nat.add_zero]

theorem headerTurn_none (hc : c.Of blob.toList) (h : cutAt? commentEnd c.rest = none) :
    headerTurn blob fields c.offset = some (.done fields) := by
  rw [headerTurn, Text.sliceFrom?_of hc, Option.bind_some, Text.find?_eq_none h]

theorem headerTurn_some (hc : c.Of blob.toList) (h : cutAt? commentEnd c.rest = some (before, after)) :
    headerTurn blob fields c.offset =
      if before.contains '\n' || occurs opener before then
        some (.again ⟨((find? opener (String.ofList before)).map (c.offset + ·)).getD c.offset, fields⟩)
      else bodyTurn blob fields (String.ofList before) (c.offset + byteLength before + byteLength commentEnd) := by
  rw [headerTurn, Text.sliceFrom?_of hc, Option.bind_some, Text.find?_eq_some h]
  simp only
  rw [Text.slice?_of_passes hc (Text.passes_before h), Option.bind_some, String.toList_ofList]

theorem bodyTurn_none {header : String} (hc : c.Of blob.toList) (h : cutAt? closer c.rest = none) :
    bodyTurn blob fields header c.offset = some (.done fields) := by
  rw [bodyTurn, Text.sliceFrom?_of hc, Option.bind_some, Text.find?_eq_none h]

theorem bodyTurn_some {header : String} (hc : c.Of blob.toList) (h : cutAt? closer c.rest = some (before, after)) :
    bodyTurn blob fields header c.offset =
      match find? opener (String.ofList before) with
      | some inner => some (.again ⟨c.offset + inner, fields⟩)
      | none =>
        some (.again ⟨c.offset + byteLength before + byteLength closer,
          (Section.value? ⟨header.toList, before⟩).elim fields fun v => fields.insert v.slug v⟩) := by
  rw [bodyTurn, Text.sliceFrom?_of hc, Option.bind_some, Text.find?_eq_some h]
  simp only
  rw [Text.slice?_of_passes hc (Text.passes_before h), Option.bind_some, String.toList_ofList]
  cases find? opener (String.ofList before) with
  | some inner => rfl
  | none =>
    cases hkey : headerKey? header.toList with
    | none => simp [Section.value?, hkey]
    | some q => simp [Section.value?, hkey]

/-- The values that are read, each under its slug. -/
def insertAll (fields : Dict FieldValue) (vs : List FieldValue) : Dict FieldValue :=
  vs.foldl (fun d v => d.insert v.slug v) fields

theorem bySlug_eq (vs : List FieldValue) : bySlug vs = insertAll .empty vs := by
  rw [bySlug, Dict.ofList, List.foldl_map]
  rfl

/-- The induction follows the reading. -/
theorem runs_sections (hc : c.Of blob.toList) :
    Runs (decodeTurn blob) Decoding.position ⟨c.offset, fields⟩
      (insertAll fields ((sections c.rest).filterMap Section.value?)) := by
  generalize hs : c.rest = s
  fun_induction sections s generalizing c fields with
  | case1 s h =>
    subst hs
    exact .done (decodeTurn_none fields hc h)
  | case2 s before afterOpener h₁ h₂ =>
    subst hs
    have hheader := of_passes hc (Text.passes_through h₁)
    exact .done ((decodeTurn_some fields hc h₁).trans (headerTurn_none fields hheader h₂))
  | case3 s before afterOpener h₁ header afterHeader h₂ hmalformed ih =>
    subst hs
    have hheader := of_passes hc (Text.passes_through h₁)
    have hturn := (decodeTurn_some fields hc h₁).trans (headerTurn_some fields hheader h₂)
    rw [if_pos hmalformed] at hturn
    refine .again hturn (lt_of_decodeTurn hturn) ?_
    have hrest := ih fields hheader rfl
    cases hinner : cutAt? opener header with
    | none =>
      rw [Text.find?_eq_none hinner]
      exact hrest
    | some q =>
      -- the opening comment in the header is the next one, so reading may as well begin there
      obtain ⟨b, a⟩ := q
      have hnext := Text.cutAt?_append_of_some hinner (commentEnd ++ afterHeader)
      rw [← List.append_assoc, ← Text.eq_of_cutAt? h₂] at hnext
      rw [Text.find?_eq_some hinner]
      exact hrest.of_turn_eq lt_of_decodeTurn (decodeTurn_opener fields hheader hnext)
  | case4 s before afterOpener h₁ header afterHeader h₂ hwell h₃ =>
    subst hs
    have hheader := of_passes hc (Text.passes_through h₁)
    have hbody := of_passes hheader (Text.passes_through h₂)
    have hturn := (decodeTurn_some fields hc h₁).trans (headerTurn_some fields hheader h₂)
    rw [if_neg hwell] at hturn
    exact .done (hturn.trans (bodyTurn_none fields hbody h₃))
  | case5 s before afterOpener h₁ header afterHeader h₂ hwell body afterBody h₃ hinterrupted ih =>
    subst hs
    have hheader := of_passes hc (Text.passes_through h₁)
    have hbody := of_passes hheader (Text.passes_through h₂)
    obtain ⟨⟨b, a⟩, hinner⟩ := Option.isSome_iff_exists.mp hinterrupted
    have hturn := (decodeTurn_some fields hc h₁).trans (headerTurn_some fields hheader h₂)
    rw [if_neg hwell, bodyTurn_some fields hbody h₃, Text.find?_eq_some hinner] at hturn
    refine .again hturn (lt_of_decodeTurn hturn) ?_
    have hnext := Text.cutAt?_append_of_some hinner (closer ++ afterBody)
    rw [← List.append_assoc, ← Text.eq_of_cutAt? h₃] at hnext
    exact (ih fields hbody rfl).of_turn_eq lt_of_decodeTurn (decodeTurn_opener fields hbody hnext)
  | case6 s before afterOpener h₁ header afterHeader h₂ hwell body afterBody h₃ hplain ih =>
    subst hs
    have hheader := of_passes hc (Text.passes_through h₁)
    have hbody := of_passes hheader (Text.passes_through h₂)
    have hbehind := of_passes hbody (Text.passes_through h₃)
    have hnone : cutAt? opener body = none := Text.occurs_eq_false_iff.mp (Bool.eq_false_iff.mpr hplain)
    have hturn := (decodeTurn_some fields hc h₁).trans (headerTurn_some fields hheader h₂)
    rw [if_neg hwell, bodyTurn_some fields hbody h₃, Text.find?_eq_none hnone, String.toList_ofList] at hturn
    refine .again hturn (lt_of_decodeTurn hturn) ?_
    have hrest := fun fields => ih fields hbehind rfl
    cases hvalue : Section.value? ⟨header, body⟩ with
    | none =>
      rw [List.filterMap_cons_none hvalue]
      exact hrest fields
    | some v =>
      rw [List.filterMap_cons_some hvalue]
      exact hrest (fields.insert v.slug v)

/-- **Reading a blob runs to its end**, with the values of the text. -/
theorem runs_decodeTurn (blob : String) : Runs (decodeTurn blob) Decoding.position {} (decode blob) := by
  rw [decode, bySlug_eq]
  exact runs_sections .empty (c := Cursor.start blob.toList) ⟨[], rfl, rfl⟩

end FormTemplate.Blob
