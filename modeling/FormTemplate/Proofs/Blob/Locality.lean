import FormTemplate.Proofs.Blob.RoundTrip

/-!
# Locality

What stands around a value in a blob, damaged or not, does not reach into it. A text in front may end in the
middle of a header, a body or a comment: what it has left open takes in the opening comment of the value and is
passed over for that, and reading goes on at this comment. What stands behind is parted from the value by its
closing comment.

* `resumes` : reading goes on at an opening comment, whatever stands in front of it;
* `sections_append_valueText_append` : a written value parts the sections of a text on both sides;
* `decode_append_encode_append` : a plain value is read wherever it stands, and the texts around it are read as on
  their own.
-/

set_option autoImplicit false

namespace FormTemplate.Blob

open Text

variable {s p before afterOpener header afterHeader : List Char}

/-! ## Texts without a closing comment -/

theorem occurs_closer_of_not_occurs_commentEnd (h : occurs commentEnd s = false) : occurs closer s = false := by
  rw [Bool.eq_false_iff] at h ⊢
  intro hs
  obtain ⟨x, y, rfl⟩ := occurs_iff.mp hs
  exact h (occurs_iff.mpr ⟨x ++ "<!-- /field ".toList, y, by simp only [List.append_assoc]; rfl⟩)

/-- Without a closing comment nothing is read. -/
theorem sections_eq_nil_of_closer (h : occurs closer s = false) : sections s = [] := by
  fun_induction sections s with
  | case1 => rfl
  | case2 => rfl
  | case3 _ _ _ h₁ _ _ _ _ ih => exact ih (occurs_after_eq_false h₁ h)
  | case4 => rfl
  | case5 _ _ _ h₁ _ _ h₂ _ _ _ _ _ ih => exact ih (occurs_after_eq_false h₂ (occurs_after_eq_false h₁ h))
  | case6 _ _ _ h₁ _ _ h₂ _ _ _ h₃ _ ih =>
    have hafter := occurs_after_eq_false h₂ (occurs_after_eq_false h₁ h)
    rw [occurs_eq_false_iff.mp hafter] at h₃
    cases h₃

/-! ## Opening comments -/

theorem cutAt?_opener_opener_of_none (h : cutAt? opener p = none) (q : List Char) :
    cutAt? opener (p ++ (opener ++ q)) = some (p, q) := by
  show cutAt? opener (p ++ '<' :: ("!-- field ".toList ++ q)) = some (p, q)
  rw [cutAt?_restart (by decide) h]
  show (cutAt? opener (opener ++ q)).map _ = _
  rw [cutAt?_opener_opener, Option.map_some, List.append_nil]

theorem cutAt?_commentEnd_opener (q : List Char) :
    cutAt? commentEnd (opener ++ q) = (cutAt? commentEnd q).map fun c => (opener ++ c.1, c.2) :=
  cutAt?_separated (c := ' ') (s := "<!-- field".toList) (by decide) (by decide) q

theorem cutAt?_closer_opener (q : List Char) :
    cutAt? closer (opener ++ q) = (cutAt? closer q).map fun c => (opener ++ c.1, c.2) := by
  have hstart : closer.isPrefixOf (opener ++ q) = false := rfl
  -- Behind its first character an opening comment lacks the one that a closing comment starts with.
  have hrest : cutAt? ('<' :: closer.tail) (opener.tail ++ q) =
      (cutAt? ('<' :: closer.tail) q).map fun c => (opener.tail ++ c.1, c.2) :=
    cutAt?_append_of_head_not_mem (by decide) q
  rw [show opener ++ q = '<' :: (opener.tail ++ q) from rfl] at hstart ⊢
  rw [cutAt?, hstart, if_neg (by simp)]
  show (cutAt? ('<' :: closer.tail) (opener.tail ++ q)).map _ = (cutAt? ('<' :: closer.tail) q).map _
  rw [hrest]
  cases cutAt? ('<' :: closer.tail) q <;> rfl

/-! ## Behind a damaged text -/

theorem occurs_opener_append (x y : List Char) : occurs opener (x ++ (opener ++ y)) = true :=
  occurs_iff.mpr ⟨x, y, by rw [List.append_assoc]⟩

/-- Reading in front of an opening comment is not disturbed by what follows it, and reading goes on at the
comment. -/
def Resumes (p : List Char) : Prop := ∀ q, sections (p ++ (opener ++ q)) = sections p ++ sections (opener ++ q)

theorem resumes_of_cutAt?_eq_none (h₁ : cutAt? opener p = none) : Resumes p := by
  intro q
  rw [sections_eq_nil h₁, List.nil_append]
  apply sections_eq_of_after
  rw [cutAt?_opener_opener_of_none h₁, cutAt?_opener_opener]
  rfl

/-- A header that is still open holds the opening comment, so it is passed over. -/
theorem resumes_of_open_header (h₁ : cutAt? opener p = some (before, afterOpener))
    (h₂ : cutAt? commentEnd afterOpener = none) (hskip : Resumes afterOpener) : Resumes p := by
  intro q
  have h₁' := cutAt?_append_of_some h₁ (opener ++ q)
  have h₂' : cutAt? commentEnd (afterOpener ++ (opener ++ q)) =
      (cutAt? commentEnd q).map fun c => (afterOpener ++ (opener ++ c.1), c.2) := by
    show cutAt? commentEnd (afterOpener ++ '<' :: (opener.tail ++ q)) = _
    rw [cutAt?_restart (by decide) h₂]
    show (cutAt? commentEnd (opener ++ q)).map _ = _
    rw [cutAt?_commentEnd_opener]
    cases cutAt? commentEnd q <;> rfl
  rw [sections_of_unterminated h₁ h₂, List.nil_append]
  cases hq : cutAt? commentEnd q with
  | none =>
    rw [hq] at h₂'
    rw [sections_of_unterminated h₁' h₂', sections_of_unterminated (cutAt?_opener_opener q) hq]
  | some c =>
    rw [hq] at h₂'
    rw [sections_of_malformed h₁' h₂' (by rw [occurs_opener_append, Bool.or_true]), hskip q,
      sections_eq_nil_of_closer (occurs_closer_of_not_occurs_commentEnd (occurs_eq_false_iff.mpr h₂)),
      List.nil_append]

/-- A body that is still open holds the opening comment, so it is passed over. -/
theorem resumes_of_header (h₁ : cutAt? opener p = some (before, afterOpener))
    (h₂ : cutAt? commentEnd afterOpener = some (header, afterHeader))
    (hheader : ¬(header.contains '\n' || occurs opener header) = true) (hskip : Resumes afterHeader)
    (hnext : ∀ body afterBody, cutAt? closer afterHeader = some (body, afterBody) → Resumes afterBody) :
    Resumes p := by
  intro q
  have h₁' := cutAt?_append_of_some h₁ (opener ++ q)
  have h₂' := cutAt?_append_of_some h₂ (opener ++ q)
  cases h₃ : cutAt? closer afterHeader with
  | none =>
    have h₃' : cutAt? closer (afterHeader ++ (opener ++ q)) =
        (cutAt? closer q).map fun c => (afterHeader ++ (opener ++ c.1), c.2) := by
      show cutAt? closer (afterHeader ++ '<' :: (opener.tail ++ q)) = _
      rw [cutAt?_restart (by decide) h₃]
      show (cutAt? closer (opener ++ q)).map _ = _
      rw [cutAt?_closer_opener]
      cases cutAt? closer q <;> rfl
    rw [sections_of_unclosed h₁ h₂ hheader h₃, List.nil_append]
    cases hq : cutAt? closer q with
    | none =>
      rw [hq] at h₃'
      have hcloser : occurs closer (opener ++ q) = false := by
        rw [occurs_eq_false_iff, cutAt?_closer_opener, hq]
        rfl
      rw [sections_of_unclosed h₁' h₂' hheader h₃', sections_eq_nil_of_closer hcloser]
    | some c =>
      rw [hq] at h₃'
      rw [sections_of_interrupted h₁' h₂' hheader h₃' (occurs_opener_append _ _), hskip q,
        sections_eq_nil_of_closer (occurs_eq_false_iff.mpr h₃), List.nil_append]
  | some c =>
    obtain ⟨body, afterBody⟩ := c
    have h₃' := cutAt?_append_of_some h₃ (opener ++ q)
    by_cases hbody : occurs opener body = true
    · rw [sections_of_interrupted h₁' h₂' hheader h₃' hbody, sections_of_interrupted h₁ h₂ hheader h₃ hbody,
        hskip q]
    · rw [sections_of_wellFormed h₁' h₂' hheader h₃' hbody, sections_of_wellFormed h₁ h₂ hheader h₃ hbody,
        hnext body afterBody h₃ q, List.cons_append]

/-- Reading goes on at an opening comment behind every text. The induction is on the length of the text: what it
has left open, a header or a body, takes in the comment and is passed over for that. -/
theorem resumes (p : List Char) : Resumes p := by
  cases h₁ : cutAt? opener p with
  | none => exact resumes_of_cutAt?_eq_none h₁
  | some c =>
    obtain ⟨before, afterOpener⟩ := c
    have hlt₁ := length_cutAt?_after h₁ (by decide)
    cases h₂ : cutAt? commentEnd afterOpener with
    | none => exact resumes_of_open_header h₁ h₂ (resumes afterOpener)
    | some c =>
      obtain ⟨header, afterHeader⟩ := c
      have hlt₂ := length_cutAt?_after h₂ (by decide)
      by_cases hheader : (header.contains '\n' || occurs opener header) = true
      · intro q
        rw [sections_of_malformed (cutAt?_append_of_some h₁ _) (cutAt?_append_of_some h₂ _) hheader,
          sections_of_malformed h₁ h₂ hheader, resumes afterOpener q]
      · refine resumes_of_header h₁ h₂ hheader (resumes afterHeader) fun body afterBody h₃ => ?_
        have hlt₃ := length_cutAt?_after h₃ (by decide)
        exact resumes afterBody
termination_by p.length

/-- **A written value parts the sections of a text on both sides**, whatever stands around it. -/
theorem sections_append_valueText_append (p : List Char) (v : FieldValue) (q : List Char) :
    sections (p ++ valueText v ++ q) = sections p ++ sections (valueText v) ++ sections q := by
  have hstart : valueText v = opener ++ (headerText v ++ commentEnd ++ '\n' :: v.value.toList ++ '\n' :: closer) := by
    unfold valueText
    simp only [List.append_assoc, List.cons_append]
  rw [List.append_assoc, List.append_assoc, ← sections_valueText_append, hstart, List.append_assoc, resumes p]

/-! ## The entries around a value -/

theorem bySlug_append (vs ws : List FieldValue) : bySlug (vs ++ ws) = (bySlug vs).override (bySlug ws) := by
  rw [bySlug, List.map_append, Dict.ofList_append]
  rfl

theorem bySlug_concat (vs : List FieldValue) (v : FieldValue) :
    bySlug (vs ++ [v]) = (bySlug vs).insert v.slug v := by
  rw [bySlug_eq_foldl, bySlug_eq_foldl, List.foldl_append, List.foldl_cons, List.foldl_nil]

/-- The values of a text with a plain value in it. -/
theorem readValues_append_valueText_append {v : FieldValue} (hslug : Slug.isValid v.slug = true)
    (hv : IsPlain v.value.toList) (p q : List Char) :
    readValues (p ++ valueText v ++ q) = readValues p ++ [v] ++ readValues q := by
  have hread := readValues_encodeChars_of_isPlain hslug hv
  rw [encodeChars_singleton hslug] at hread
  unfold readValues at hread ⊢
  rw [sections_append_valueText_append, List.filterMap_append, List.filterMap_append, hread]

/-- **Damage stays local**: a plain value with a proper slug is read whatever stands around it, and what stands
around it is read as it would be on its own. Entries of the text in front give way to the value, and both to the
entries of the text behind. So nothing in front of a value swallows or alters it. -/
theorem decode_append_encode_append (p q : String) (v : FieldValue) (hslug : Slug.isValid v.slug = true)
    (hv : IsPlain v.value.toList) :
    decode (p ++ encode [v] ++ q) = ((decode p).insert v.slug v).override (decode q) ∧
      ((decode q).get? v.slug = none → (decode (p ++ encode [v] ++ q)).get? v.slug = some v) := by
  have hdecode : decode (p ++ encode [v] ++ q) = ((decode p).insert v.slug v).override (decode q) := by
    rw [decode_eq_bySlug, decode_eq_bySlug, decode_eq_bySlug, String.toList_append, String.toList_append, encode,
      String.toList_ofList, encodeChars_singleton hslug, readValues_append_valueText_append hslug hv, bySlug_append,
      bySlug_concat]
  refine ⟨hdecode, fun hq => ?_⟩
  rw [hdecode, Dict.get?_override, hq, Dict.get?_insert, if_pos rfl]
  rfl

/-- A text with a value whose slug comes again, and with damage at its end: an opening comment over two lines and
a value that is interrupted. -/
def damagedStart : String :=
  "<!-- field slug=\"motto\" type=\"rich\" -->\nold\n<!-- /field --><!-- field slug=\"a\"\n" ++
    "<!-- field slug=\"b\" -->lost --"

/-- A value that comes close to delimiters. -/
def damagedMotto : FieldValue := ⟨"motto", .single, "--> <!-- field"⟩

theorem decode_damagedStart_append :
    Slug.isValid damagedMotto.slug = true ∧ IsPlain damagedMotto.value.toList ∧
      decode (damagedStart ++ encode [damagedMotto] ++ "<!-- field slug=\"motto\" -->") =
        ((decode damagedStart).insert "motto" damagedMotto).override (decode "<!-- field slug=\"motto\" -->") ∧
      (decode "<!-- field slug=\"motto\" -->").get? "motto" = none ∧
      (decode (damagedStart ++ encode [damagedMotto] ++ "<!-- field slug=\"motto\" -->")).get? "motto" =
        some damagedMotto := by
  have hslug : Slug.isValid damagedMotto.slug = true := by decide +kernel
  have hplain : IsPlain damagedMotto.value.toList := by decide +kernel
  have hbehind : (decode "<!-- field slug=\"motto\" -->").get? "motto" = none := by decide +kernel
  obtain ⟨hdecode, hget⟩ :=
    decode_append_encode_append damagedStart "<!-- field slug=\"motto\" -->" damagedMotto hslug hplain
  exact ⟨hslug, hplain, hdecode, hbehind, hget hbehind⟩

end FormTemplate.Blob
