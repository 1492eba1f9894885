import FormTemplate.Blob

/-!
# Written headers

The inside of an opening comment as it is written names the slug and the kind, and reading finds both.

* `headerAttributes_attribute` : an attribute at the start of a header is read whole;
* `headerKey?_headerText` : the slug and the kind of a written header;
* `not_mem_headerText` : characters that a written header lacks.
-/

set_option autoImplicit false

namespace FormTemplate

theorem Slug.isSlugChar_of_isValid {slug : String} (h : Slug.isValid slug = true) :
    ∀ c ∈ slug.toList, Slug.isSlugChar c = true := by
  simp only [Slug.isValid, Bool.and_eq_true, List.all_eq_true] at h
  exact h.2

theorem ValueKind.isSlugChar_of_mem_name (k : ValueKind) : ∀ c ∈ k.name.toList, Slug.isSlugChar c = true :=
  List.all_eq_true.mp (by cases k <;> decide)

namespace Blob

/-! ## Attributes -/

theorem quotedValue?_quoted {value : List Char} (h : '"' ∉ value) (rest : List Char) :
    quotedValue? ('=' :: '"' :: (value ++ '"' :: rest)) = some (value, rest) := by
  have hp : ∀ c ∈ value, (c != '"') = true := by
    intro c hc
    rw [bne_iff_ne]
    rintro rfl
    exact h hc
  simp only [quotedValue?]
  rw [List.dropWhile_append_of_pos hp, List.takeWhile_append_of_pos hp]
  simp

/-- An attribute at the start of a header is read whole, and reading goes on behind it. -/
theorem headerAttributes_attribute {n : Char} {name value : List Char}
    (hn : (n :: name).all isNameChar = true) (hv : '"' ∉ value) (rest : List Char) :
    headerAttributes (n :: (name ++ '=' :: '"' :: (value ++ '"' :: rest))) =
      (n :: name, value) :: headerAttributes rest := by
  have hn := List.all_eq_true.mp hn
  have hhead : isNameChar n = true := hn n List.mem_cons_self
  have htail : ∀ c ∈ name, isNameChar c = true := fun c hc => hn c (List.mem_cons_of_mem _ hc)
  have hrun : (name ++ '=' :: '"' :: (value ++ '"' :: rest)).takeWhile isNameChar = name := by
    rw [List.takeWhile_append_of_pos htail, List.takeWhile_cons_of_neg (by decide), List.append_nil]
  have hrest : quotedValue? ((name ++ '=' :: '"' :: (value ++ '"' :: rest)).dropWhile isNameChar) =
      some (value, rest) := by
    rw [List.dropWhile_append_of_pos htail, List.dropWhile_cons_of_neg (by decide), quotedValue?_quoted hv]
  rw [headerAttributes, if_pos hhead]
  split
  · rename_i w r hq
    rw [hrest] at hq
    cases hq
    rw [hrun]
  · rename_i hq
    rw [hrest] at hq
    cases hq

theorem headerAttributes_space (rest : List Char) : headerAttributes (' ' :: rest) = headerAttributes rest := by
  rw [headerAttributes, if_neg (by decide)]

theorem headerAttributes_nil : headerAttributes [] = [] := by rw [headerAttributes]

/-! ## Written headers -/

theorem quote_not_mem_of_isSlugChar {s : List Char} (h : ∀ c ∈ s, Slug.isSlugChar c = true) : '"' ∉ s := by
  intro hm
  have := h _ hm
  revert this
  decide

theorem headerAttributes_headerText {v : FieldValue} (h : Slug.isValid v.slug = true) :
    headerAttributes (headerText v) =
      [("slug".toList, v.slug.toList), ("type".toList, v.kind.name.toList)] := by
  have hslug := quote_not_mem_of_isSlugChar (Slug.isSlugChar_of_isValid h)
  have hkind := quote_not_mem_of_isSlugChar v.kind.isSlugChar_of_mem_name
  have htext : headerText v = 's' :: (['l', 'u', 'g'] ++ '=' :: '"' :: (v.slug.toList ++ '"' ::
      ' ' :: 't' :: (['y', 'p', 'e'] ++ '=' :: '"' :: (v.kind.name.toList ++ '"' :: ' ' :: [])))) := by
    unfold headerText
    simp
  rw [htext, headerAttributes_attribute (by decide) hslug, headerAttributes_space,
    headerAttributes_attribute (by decide) hkind, headerAttributes_space, headerAttributes_nil]
  rfl

/-- **Reading a written header gives the slug and the kind.** -/
theorem headerKey?_headerText {v : FieldValue} (h : Slug.isValid v.slug = true) :
    headerKey? (headerText v) = some (v.slug, v.kind) := by
  simp only [headerKey?, headerAttributes_headerText h]
  simp [lastValue?, h, ValueKind.ofName?_name]

/-- A written header consists of slug characters, equals signs, quotes and spaces. -/
theorem not_mem_headerText {v : FieldValue} {c : Char} (h : Slug.isValid v.slug = true)
    (hslug : Slug.isSlugChar c = false) (hother : c ∉ ['=', '"', ' ']) : c ∉ headerText v := by
  have hall : ∀ s ∈ ["slug=\"", "\" type=\"", "\" "],
      s.toList.all (fun c => Slug.isSlugChar c || ['=', '"', ' '].contains c) = true := by decide +kernel
  have hfixed : ∀ s ∈ ["slug=\"", "\" type=\"", "\" "], ∀ c ∈ s.toList,
      Slug.isSlugChar c = true ∨ c ∈ ['=', '"', ' '] := by
    intro s hs c hc
    simpa using List.all_eq_true.mp (hall s hs) c hc
  have hno : ¬(Slug.isSlugChar c = true ∨ c ∈ ['=', '"', ' ']) := by
    rw [hslug]
    rintro (h | h)
    · cases h
    · exact hother h
  intro hc
  unfold headerText at hc
  simp only [List.mem_append] at hc
  rcases hc with (((hc | hc) | hc) | hc) | hc
  · exact hno (hfixed _ (by simp) c hc)
  · exact hno (.inl (Slug.isSlugChar_of_isValid h c hc))
  · exact hno (hfixed _ (by simp) c hc)
  · exact hno (.inl (v.kind.isSlugChar_of_mem_name c hc))
  · exact hno (hfixed _ (by simp) c hc)

end Blob

end FormTemplate
