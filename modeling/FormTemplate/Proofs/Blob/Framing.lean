import FormTemplate.Proofs.Blob.Header
import FormTemplate.Proofs.Text.Search

/-!
# Framing

Where reading a blob can and cannot lose its place. A closing comment at the start of a line ends whatever has
been opened before it: a header does not reach over a line feed, and a body ends at the comment at the latest.
So the sections behind such a comment do not depend on what stands in front of it, damaged or not.

* `sections_append_closer` : a closing comment on its own line parts the sections of a text;
* `sections_valueText_append` : a written value, whatever its text, parts the sections in the same way;
* `sections_valueText` : a value that neither opens nor closes another is read as one section;
* `closedIn_of_mem_sections` : what is read as a body is a piece of the text in front of a closing comment;
* `isPlain_of_mem_sections` : what is read as a body neither opens nor closes a value.
-/

set_option autoImplicit false

namespace FormTemplate.Blob

open Text

variable {s t before afterOpener header afterHeader body afterBody : List Char}

/-! ## One step of reading -/

theorem sections_eq_nil (h : cutAt? opener s = none) : sections s = [] := by
  rw [sections]
  split
  · rfl
  · rename_i heq
    rw [h] at heq
    cases heq

theorem sections_nil : sections [] = [] := sections_eq_nil rfl

/-- Reading depends only on what follows the first opening comment. -/
theorem sections_eq_of_after (h : (cutAt? opener s).map (·.2) = (cutAt? opener t).map (·.2)) :
    sections s = sections t := by
  rw [sections, sections]
  cases hs : cutAt? opener s with
  | none =>
    rw [hs] at h
    rw [Option.map_eq_none_iff.mp h.symm]
  | some p =>
    obtain ⟨b, r⟩ := p
    rw [hs] at h
    obtain ⟨⟨b', r'⟩, ht, rfl⟩ := Option.map_eq_some_iff.mp h.symm
    rw [ht]

/-- Reading behind the first opening comment, if that comment ends. -/
theorem sections_of_cutAt? (h₁ : cutAt? opener s = some (before, afterOpener))
    (h₂ : cutAt? commentEnd afterOpener = some (header, afterHeader)) :
    sections s =
      if header.contains '\n' || occurs opener header then sections afterOpener
      else match cutAt? closer afterHeader with
        | none => []
        | some (body, afterBody) =>
          if occurs opener body then sections afterHeader else ⟨header, body⟩ :: sections afterBody := by
  rw [sections]
  split
  · rename_i heq
    rw [h₁] at heq
    cases heq
  · rename_i heq
    rw [h₁] at heq
    cases heq
    split
    · rename_i heq
      rw [h₂] at heq
      cases heq
    · rename_i heq
      rw [h₂] at heq
      cases heq
      cases cutAt? closer afterHeader <;> rfl

/-- An opening comment that does not end is not read. -/
theorem sections_of_unterminated (h₁ : cutAt? opener s = some (before, afterOpener))
    (h₂ : cutAt? commentEnd afterOpener = none) : sections s = [] := by
  rw [sections]
  split
  · rfl
  · rename_i heq
    rw [h₁] at heq
    cases heq
    split
    · rfl
    · rename_i heq
      rw [h₂] at heq
      cases heq

/-- A header that spans lines or holds an opening comment is passed over. -/
theorem sections_of_malformed (h₁ : cutAt? opener s = some (before, afterOpener))
    (h₂ : cutAt? commentEnd afterOpener = some (header, afterHeader))
    (hheader : (header.contains '\n' || occurs opener header) = true) : sections s = sections afterOpener := by
  rw [sections_of_cutAt? h₁ h₂, if_pos hheader]

/-- A body that does not end is not read. -/
theorem sections_of_unclosed (h₁ : cutAt? opener s = some (before, afterOpener))
    (h₂ : cutAt? commentEnd afterOpener = some (header, afterHeader))
    (hheader : ¬(header.contains '\n' || occurs opener header) = true)
    (h₃ : cutAt? closer afterHeader = none) : sections s = [] := by
  rw [sections_of_cutAt? h₁ h₂, if_neg hheader, h₃]

/-- A body that holds an opening comment is passed over. -/
theorem sections_of_interrupted (h₁ : cutAt? opener s = some (before, afterOpener))
    (h₂ : cutAt? commentEnd afterOpener = some (header, afterHeader))
    (hheader : ¬(header.contains '\n' || occurs opener header) = true)
    (h₃ : cutAt? closer afterHeader = some (body, afterBody)) (hbody : occurs opener body = true) :
    sections s = sections afterHeader := by
  rw [sections_of_cutAt? h₁ h₂, if_neg hheader, h₃]
  exact if_pos hbody

theorem sections_of_wellFormed (h₁ : cutAt? opener s = some (before, afterOpener))
    (h₂ : cutAt? commentEnd afterOpener = some (header, afterHeader))
    (hheader : ¬(header.contains '\n' || occurs opener header) = true)
    (h₃ : cutAt? closer afterHeader = some (body, afterBody)) (hbody : ¬occurs opener body = true) :
    sections s = ⟨header, body⟩ :: sections afterBody := by
  rw [sections_of_cutAt? h₁ h₂, if_neg hheader, h₃]
  exact if_neg hbody

/-! ## A closing comment on its own line -/

theorem newline_not_mem_opener : '\n' ∉ opener := by decide

theorem newline_not_mem_commentEnd : '\n' ∉ commentEnd := by decide

theorem newline_not_mem_closer : '\n' ∉ closer := by decide

/-- The search for an opening comment passes a closing comment. -/
theorem cutAt?_opener_closer (q : List Char) :
    cutAt? opener (closer ++ q) = (cutAt? opener q).map fun c => (closer ++ c.1, c.2) :=
  cutAt?_separated (c := '>') (s := "<!-- /field --".toList) (by decide) (by decide) q

theorem cutAt?_commentEnd_closer (q : List Char) :
    cutAt? commentEnd (closer ++ q) = some ("<!-- /field ".toList, q) :=
  cutAt?_append_of_some (show cutAt? commentEnd closer = some ("<!-- /field ".toList, []) by decide) q

theorem cutAt?_closer_closer (q : List Char) : cutAt? closer (closer ++ q) = some ([], q) :=
  cutAt?_append_of_some (show cutAt? closer closer = some ([], []) by decide) q

theorem sections_newline (q : List Char) : sections ('\n' :: q) = sections q := by
  apply sections_eq_of_after
  rw [← List.nil_append ('\n' :: q), cutAt?_separated newline_not_mem_opener rfl]
  cases cutAt? opener q <;> rfl

/-- What is read in front of a closing comment on its own line does not depend on what follows the comment. -/
def Parted (p : List Char) : Prop := ∃ l, ∀ q, sections (p ++ '\n' :: (closer ++ q)) = l ++ sections q

/-- A text is parted if reading it passes over to a parted text. -/
theorem Parted.of_eq {p p' : List Char} (hp : Parted p')
    (h : ∀ q, sections (p ++ '\n' :: (closer ++ q)) = sections (p' ++ '\n' :: (closer ++ q))) : Parted p := by
  obtain ⟨l, hl⟩ := hp
  exact ⟨l, fun q => (h q).trans (hl q)⟩

theorem Parted.of_eq_cons {p p' : List Char} {e : Section} (hp : Parted p')
    (h : ∀ q, sections (p ++ '\n' :: (closer ++ q)) = e :: sections (p' ++ '\n' :: (closer ++ q))) :
    Parted p := by
  obtain ⟨l, hl⟩ := hp
  exact ⟨e :: l, fun q => by rw [h q, hl q, List.cons_append]⟩

theorem parted_of_cutAt?_eq_none {p : List Char} (h₁ : cutAt? opener p = none) : Parted p := by
  refine ⟨[], fun q => sections_eq_of_after ?_⟩
  rw [cutAt?_separated newline_not_mem_opener h₁, cutAt?_opener_closer]
  cases cutAt? opener q <;> rfl

/-- A header that is still open ends with the closing comment, so it spans the line feed in front of it. -/
theorem parted_of_open_header {p : List Char} (h₁ : cutAt? opener p = some (before, afterOpener))
    (h₂ : cutAt? commentEnd afterOpener = none) (hskip : Parted afterOpener) : Parted p := by
  refine hskip.of_eq fun q => ?_
  apply sections_of_malformed (cutAt?_append_of_some h₁ _)
  · rw [cutAt?_separated newline_not_mem_commentEnd h₂, cutAt?_commentEnd_closer]
    rfl
  · simp

/-- A body that is still open ends with the closing comment. -/
theorem parted_of_header {p : List Char} (h₁ : cutAt? opener p = some (before, afterOpener))
    (h₂ : cutAt? commentEnd afterOpener = some (header, afterHeader))
    (hheader : ¬(header.contains '\n' || occurs opener header) = true) (hskip : Parted afterHeader)
    (hnext : ∀ body afterBody, cutAt? closer afterHeader = some (body, afterBody) → Parted afterBody) :
    Parted p := by
  have h₁' := fun q => cutAt?_append_of_some h₁ ('\n' :: (closer ++ q))
  have h₂' := fun q => cutAt?_append_of_some h₂ ('\n' :: (closer ++ q))
  cases h₃ : cutAt? closer afterHeader with
  | none =>
    have h₃' : ∀ q, cutAt? closer (afterHeader ++ '\n' :: (closer ++ q)) = some (afterHeader ++ ['\n'], q) := by
      intro q
      rw [cutAt?_separated newline_not_mem_closer h₃, cutAt?_closer_closer]
      rfl
    by_cases hbody : occurs opener (afterHeader ++ ['\n']) = true
    · exact hskip.of_eq fun q => sections_of_interrupted (h₁' q) (h₂' q) hheader (h₃' q) hbody
    · exact ⟨[⟨header, afterHeader ++ ['\n']⟩], fun q =>
        sections_of_wellFormed (h₁' q) (h₂' q) hheader (h₃' q) hbody⟩
  | some c =>
    obtain ⟨body, afterBody⟩ := c
    have h₃' := fun q => cutAt?_append_of_some h₃ ('\n' :: (closer ++ q))
    by_cases hbody : occurs opener body = true
    · exact hskip.of_eq fun q => sections_of_interrupted (h₁' q) (h₂' q) hheader (h₃' q) hbody
    · exact (hnext body afterBody h₃).of_eq_cons fun q =>
        sections_of_wellFormed (h₁' q) (h₂' q) hheader (h₃' q) hbody

/-- Every text is parted. The induction is on its length: whatever it has opened is either read whole, passed
over, or ended by the closing comment. -/
theorem parted (p : List Char) : Parted p := by
  cases h₁ : cutAt? opener p with
  | none => exact parted_of_cutAt?_eq_none h₁
  | some c =>
    obtain ⟨before, afterOpener⟩ := c
    have hlt₁ := length_cutAt?_after h₁ (by decide)
    cases h₂ : cutAt? commentEnd afterOpener with
    | none => exact parted_of_open_header h₁ h₂ (parted afterOpener)
    | some c =>
      obtain ⟨header, afterHeader⟩ := c
      have hlt₂ := length_cutAt?_after h₂ (by decide)
      by_cases hheader : (header.contains '\n' || occurs opener header) = true
      · exact (parted afterOpener).of_eq fun q =>
          sections_of_malformed (cutAt?_append_of_some h₁ _) (cutAt?_append_of_some h₂ _) hheader
      · refine parted_of_header h₁ h₂ hheader (parted afterHeader) fun body afterBody h₃ => ?_
        have hlt₃ := length_cutAt?_after h₃ (by decide)
        exact parted afterBody
termination_by p.length

/-- **A closing comment on its own line parts the sections of a text**, whatever stands in front of it. -/
theorem sections_append_closer (p q : List Char) :
    sections (p ++ '\n' :: closer ++ q) = sections (p ++ '\n' :: closer) ++ sections q := by
  obtain ⟨l, hl⟩ := parted p
  have hp := hl []
  rw [List.append_nil, sections_nil, List.append_nil] at hp
  rw [List.append_assoc, List.cons_append, hl q, hp]

/-! ## Written values -/

/-- **A written value parts the sections of a text**, whatever its own text holds. -/
theorem sections_valueText_append (v : FieldValue) (q : List Char) :
    sections (valueText v ++ q) = sections (valueText v) ++ sections q :=
  sections_append_closer (opener ++ headerText v ++ commentEnd ++ '\n' :: v.value.toList) q

theorem sections_encodeChars_cons (v : FieldValue) (vs : List FieldValue) :
    sections (encodeChars (v :: vs)) = sections (encodeChars [v]) ++ sections (encodeChars vs) := by
  unfold encodeChars
  rw [List.filter_cons, List.filter_cons]
  split
  · rw [List.filter_nil, List.map_cons, List.map_cons, List.map_nil, Text.join_singleton]
    cases (vs.filter fun v => Slug.isValid v.slug).map valueText with
    | nil => rw [Text.join_singleton, Text.join_nil, sections_nil, List.append_nil]
    | cons w ws =>
      rw [Text.join_cons_cons, List.append_assoc, sections_valueText_append, List.cons_append,
        List.cons_append, List.nil_append, sections_newline, sections_newline]
  · rw [List.filter_nil, List.map_nil, Text.join_nil, sections_nil, List.nil_append]

theorem cutAt?_opener_opener (q : List Char) : cutAt? opener (opener ++ q) = some ([], q) :=
  cutAt?_append_of_some (show cutAt? opener opener = some ([], []) by decide) q

theorem cutAt?_commentEnd_headerText {v : FieldValue} (h : Slug.isValid v.slug = true) (q : List Char) :
    cutAt? commentEnd (headerText v ++ (commentEnd ++ q)) = some (headerText v, q) := by
  rw [← List.append_assoc]
  exact cutAt?_of_head_not_mem (not_mem_headerText (c := '-') h (by decide) (by decide)) q

theorem headerText_wellFormed {v : FieldValue} (h : Slug.isValid v.slug = true) :
    ¬((headerText v).contains '\n' || occurs opener (headerText v)) = true := by
  have hopener : occurs opener (headerText v) = false :=
    occurs_eq_false_of_not_mem (c := '<') (by decide) (not_mem_headerText h (by decide) (by decide))
  rw [hopener, Bool.or_false, List.contains_iff_mem]
  exact not_mem_headerText h (by decide) (by decide)

/-- The line feeds around a value belong to no occurrence. -/
theorem occurs_framed {pattern : List Char} (hp : '\n' ∉ pattern) (hne : pattern ≠ []) (s : List Char) :
    occurs pattern ('\n' :: s ++ ['\n']) = occurs pattern s := by
  have hnil : occurs pattern [] = false := by
    cases pattern with
    | nil => exact absurd rfl hne
    | cons p ps => rfl
  rw [← List.nil_append ('\n' :: s), List.append_assoc, List.cons_append, occurs_separated hp,
    occurs_separated hp, hnil, Bool.false_or, Bool.or_false]

theorem cutAt?_closer_framed (h : occurs closer s = false) (q : List Char) :
    cutAt? closer ('\n' :: s ++ '\n' :: (closer ++ q)) = some ('\n' :: s ++ ['\n'], q) := by
  have hs : cutAt? closer ('\n' :: s) = none := by
    rw [← List.nil_append ('\n' :: s), cutAt?_separated newline_not_mem_closer rfl, occurs_eq_false_iff.mp h]
    rfl
  rw [cutAt?_separated newline_not_mem_closer hs, cutAt?_closer_closer]
  rfl

/-- A value that neither opens nor closes another is read as one section, its own. -/
theorem sections_valueText {v : FieldValue} (hslug : Slug.isValid v.slug = true) (hv : IsPlain v.value.toList) :
    sections (valueText v) = [⟨headerText v, '\n' :: v.value.toList ++ ['\n']⟩] := by
  have htext : valueText v =
      opener ++ (headerText v ++ (commentEnd ++ ('\n' :: v.value.toList ++ '\n' :: (closer ++ [])))) := by
    unfold valueText
    simp only [List.append_assoc, List.append_nil]
  have hbody : ¬occurs opener ('\n' :: v.value.toList ++ ['\n']) = true := by
    rw [occurs_framed newline_not_mem_opener (by decide), hv.1]
    decide
  rw [htext, sections_of_wellFormed (cutAt?_opener_opener _) (cutAt?_commentEnd_headerText hslug _)
    (headerText_wellFormed hslug) (cutAt?_closer_framed hv.2 []) hbody, sections_nil]

/-! ## Bodies -/

/-- The body of a section is a piece of the text, and behind it stands a closing comment. -/
def Section.ClosedIn (e : Section) (s : List Char) : Prop :=
  ∃ before after, s = before ++ e.body ++ (closer ++ after)

/-- What is closed behind a place that reading has come to is closed in the text. -/
theorem Section.ClosedIn.of_cutAt? {e : Section} {pattern rest : List Char}
    (hcut : cutAt? pattern s = some (before, rest)) (h : e.ClosedIn rest) : e.ClosedIn s := by
  obtain ⟨b, a, rfl⟩ := h
  refine ⟨before ++ pattern ++ b, a, ?_⟩
  rw [eq_of_cutAt? hcut, List.append_assoc _ b, ← List.append_assoc _ (b ++ e.body)]

theorem closedIn_of_mem_sections {e : Section} (h : e ∈ sections s) : e.ClosedIn s := by
  fun_induction sections s with
  | case1 => cases h
  | case2 => cases h
  | case3 _ _ _ h₁ _ _ _ _ ih => exact (ih h).of_cutAt? h₁
  | case4 => cases h
  | case5 _ _ _ h₁ _ _ h₂ _ _ _ _ _ ih => exact ((ih h).of_cutAt? h₂).of_cutAt? h₁
  | case6 _ _ _ h₁ header afterHeader h₂ _ body afterBody h₃ _ ih =>
    have hclosed : e.ClosedIn afterHeader := by
      rcases List.mem_cons.mp h with rfl | h
      · exact ⟨[], afterBody, by rw [eq_of_cutAt? h₃, List.nil_append, List.append_assoc]⟩
      · exact (ih h).of_cutAt? h₃
    exact (hclosed.of_cutAt? h₂).of_cutAt? h₁

/-- What is read as a body neither opens nor closes a value. -/
theorem isPlain_of_mem_sections {e : Section} (h : e ∈ sections s) : IsPlain e.body := by
  fun_induction sections s with
  | case1 => cases h
  | case2 => cases h
  | case3 _ _ _ _ _ _ _ _ ih => exact ih h
  | case4 => cases h
  | case5 _ _ _ _ _ _ _ _ _ _ _ _ ih => exact ih h
  | case6 _ _ _ _ _ _ _ _ body _ h₃ hbody ih =>
    rcases List.mem_cons.mp h with rfl | h
    · exact ⟨Bool.eq_false_iff.mpr hbody, occurs_before_eq_false (by decide) h₃⟩
    · exact ih h

end FormTemplate.Blob
