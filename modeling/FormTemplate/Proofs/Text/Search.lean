import FormTemplate.Text.Search

/-!
# First occurrences in joined texts

The first occurrence of a pattern in a text of several pieces. Two situations are settled here: the pattern
occurs in the first piece, or a character stands between the pieces that the pattern lacks.

* `cutAt?_append_of_some` : text behind an occurrence changes only what follows the occurrence;
* `cutAt?_separated` : no occurrence reaches over a character that the pattern lacks;
* `cutAt?_restart` : the search starts anew at a character that the pattern has at most at its start;
* `cutAt?_of_head_not_mem` : the first occurrence behind a text without the pattern's first character;
* `occurs_before_eq_false` : nothing in front of the first occurrence is an occurrence;
* `occurs_separated` : an occurrence lies on one side of a character that the pattern lacks.
-/

set_option autoImplicit false

namespace FormTemplate.Text

variable {pattern s t before after : List Char} {c : Char}

/-! ## Text behind an occurrence -/

theorem length_le_of_cutAt? (h : cutAt? pattern s = some (before, after)) : pattern.length ≤ s.length := by
  rw [eq_of_cutAt? h]
  simp only [List.length_append]
  omega

/-- A pattern that fits into a text starts the text exactly if it starts every continuation of it. -/
theorem isPrefixOf_append_of_length_le (h : pattern.length ≤ s.length) (t : List Char) :
    pattern.isPrefixOf (s ++ t) = pattern.isPrefixOf s := by
  rw [Bool.eq_iff_iff, List.isPrefixOf_iff_prefix, List.isPrefixOf_iff_prefix]
  constructor
  · intro hp
    exact List.prefix_of_prefix_length_le hp (List.prefix_append s t) h
  · rintro ⟨u, hu⟩
    exact ⟨u ++ t, by rw [← hu, List.append_assoc]⟩

/-- **Text behind an occurrence changes only what follows the occurrence.** -/
theorem cutAt?_append_of_some (h : cutAt? pattern s = some (before, after)) (t : List Char) :
    cutAt? pattern (s ++ t) = some (before, after ++ t) := by
  induction s generalizing before with
  | nil =>
    simp only [cutAt?] at h
    split at h
    · rename_i he
      obtain rfl := List.isEmpty_iff.mp he
      cases h
      cases t <;> simp [cutAt?]
    · cases h
  | cons x r ih =>
    have hle := length_le_of_cutAt? h
    have hp := isPrefixOf_append_of_length_le hle t
    rw [List.cons_append] at hp ⊢
    simp only [cutAt?] at h ⊢
    rw [hp]
    split at h
    · rename_i hpre
      cases h
      rw [if_pos hpre, ← List.cons_append, List.drop_append_of_le_length hle]
    · rename_i hpre
      obtain ⟨⟨b, a⟩, hr, he⟩ := Option.map_eq_some_iff.mp h
      cases he
      rw [if_neg hpre, ih hr]
      rfl

/-! ## A separating character -/

theorem isPrefixOf_separated (hc : c ∉ pattern) (s t : List Char) :
    pattern.isPrefixOf (s ++ c :: t) = pattern.isPrefixOf s := by
  induction pattern generalizing s with
  | nil => simp
  | cons p ps ih =>
    have hne : (p == c) = false := by
      rw [beq_eq_false_iff_ne]
      rintro rfl
      exact hc List.mem_cons_self
    cases s with
    | nil => simp [List.isPrefixOf, hne]
    | cons x r =>
      simp only [List.cons_append, List.isPrefixOf]
      rw [ih (fun hm => hc (List.mem_cons_of_mem _ hm))]

/-- **No occurrence reaches over a character that the pattern lacks**: behind a text without an occurrence and
such a character, the search goes on as in the text that follows. -/
theorem cutAt?_separated (hc : c ∉ pattern) (h : cutAt? pattern s = none) (t : List Char) :
    cutAt? pattern (s ++ c :: t) = (cutAt? pattern t).map fun q => (s ++ c :: q.1, q.2) := by
  induction s with
  | nil =>
    have hp := isPrefixOf_separated hc [] t
    have hne : pattern.isPrefixOf [] = false := by
      simp only [cutAt?] at h
      cases pattern with
      | nil => simp at h
      | cons p ps => rfl
    rw [List.nil_append] at hp ⊢
    rw [cutAt?, hp, hne]
    rfl
  | cons x r ih =>
    have hp := isPrefixOf_separated hc (x :: r) t
    rw [List.cons_append] at hp ⊢
    simp only [cutAt?] at h ⊢
    rw [hp]
    split at h
    · cases h
    · rename_i hpre
      rw [if_neg hpre, ih (Option.map_eq_none_iff.mp h)]
      cases cutAt? pattern t <;> rfl

/-- **The search starts anew at a character that the pattern can only start with**: behind a text without an
occurrence it finds what it finds in the rest on its own. -/
theorem cutAt?_restart (hc : c ∉ pattern.tail) (h : cutAt? pattern s = none) (t : List Char) :
    cutAt? pattern (s ++ c :: t) = (cutAt? pattern (c :: t)).map fun q => (s ++ q.1, q.2) := by
  induction s with
  | nil =>
    rw [List.nil_append]
    cases cutAt? pattern (c :: t) <;> rfl
  | cons x r ih =>
    have hp : pattern.isPrefixOf (x :: (r ++ c :: t)) = pattern.isPrefixOf (x :: r) := by
      cases pattern with
      | nil => rfl
      | cons p ps =>
        rw [List.tail_cons] at hc
        rw [List.isPrefixOf, List.isPrefixOf, isPrefixOf_separated hc]
    rw [cutAt?] at h
    rw [List.cons_append, cutAt?, hp]
    split at h
    · cases h
    · rename_i hpre
      rw [if_neg hpre, ih (Option.map_eq_none_iff.mp h)]
      cases cutAt? pattern (c :: t) <;> rfl

/-- The search passes a text that lacks the first character of the pattern. -/
theorem cutAt?_append_of_head_not_mem {p : Char} {ps : List Char} (h : p ∉ s) (t : List Char) :
    cutAt? (p :: ps) (s ++ t) = (cutAt? (p :: ps) t).map fun q => (s ++ q.1, q.2) := by
  induction s with
  | nil =>
    rw [List.nil_append]
    cases cutAt? (p :: ps) t <;> rfl
  | cons x r ih =>
    have hne : (p == x) = false := by
      rw [beq_eq_false_iff_ne]
      rintro rfl
      exact h List.mem_cons_self
    rw [List.cons_append, cutAt?, List.isPrefixOf, hne, Bool.false_and, if_neg (by simp),
      ih fun hm => h (List.mem_cons_of_mem _ hm)]
    cases cutAt? (p :: ps) t <;> rfl

/-- The first occurrence behind a text that lacks the first character of the pattern. -/
theorem cutAt?_of_head_not_mem {p : Char} {ps : List Char} (h : p ∉ before) (after : List Char) :
    cutAt? (p :: ps) (before ++ p :: ps ++ after) = some (before, after) := by
  induction before with
  | nil => simp [cutAt?]
  | cons x r ih =>
    have hne : (p == x) = false := by
      rw [beq_eq_false_iff_ne]
      rintro rfl
      exact h List.mem_cons_self
    simp only [List.cons_append, cutAt?, List.isPrefixOf, hne, Bool.false_and]
    have := ih fun hm => h (List.mem_cons_of_mem _ hm)
    simp only [List.append_assoc, List.cons_append] at this ⊢
    rw [this]
    rfl

/-! ## Occurrences -/

theorem occurs_eq_false_iff : occurs pattern s = false ↔ cutAt? pattern s = none := by
  simp [occurs]

/-- Nothing in front of the first occurrence is an occurrence. -/
theorem occurs_before_eq_false (hne : pattern ≠ []) (h : cutAt? pattern s = some (before, after)) :
    occurs pattern before = false := by
  rw [occurs_eq_false_iff]
  cases hb : cutAt? pattern before with
  | none => rfl
  | some q =>
    -- An earlier occurrence would be the first one of the whole text as well.
    have hs := cutAt?_append_of_some hb (pattern ++ after)
    rw [← List.append_assoc, ← eq_of_cutAt? h, h] at hs
    obtain ⟨hbefore, -⟩ := Prod.mk.inj (Option.some.inj hs)
    have hlen := congrArg List.length (eq_of_cutAt? hb)
    have hpos := List.length_pos_iff.mpr hne
    rw [← hbefore] at hlen
    simp only [List.length_append] at hlen
    omega

/-- A pattern occurs in a text if it occurs in a piece of it. -/
theorem occurs_piece (h : occurs pattern (before ++ s ++ after) = false) : occurs pattern s = false := by
  rw [Bool.eq_false_iff] at h ⊢
  intro hs
  obtain ⟨x, y, rfl⟩ := occurs_iff.mp hs
  exact h (occurs_iff.mpr ⟨before ++ x, y ++ after, by simp only [List.append_assoc]⟩)

/-- A pattern that a text lacks does not occur behind an occurrence of another one. -/
theorem occurs_after_eq_false {other : List Char} (h : cutAt? other s = some (before, after))
    (hs : occurs pattern s = false) : occurs pattern after = false := by
  rw [eq_of_cutAt? h, ← List.append_nil (before ++ other ++ after)] at hs
  exact occurs_piece hs

/-- A pattern does not occur in a text that lacks one of its characters. -/
theorem occurs_eq_false_of_not_mem (hp : c ∈ pattern) (hs : c ∉ s) : occurs pattern s = false := by
  rw [Bool.eq_false_iff]
  intro h
  obtain ⟨x, y, rfl⟩ := occurs_iff.mp h
  exact hs (List.mem_append_left _ (List.mem_append_right _ hp))

/-- **An occurrence lies on one side of a character that the pattern lacks.** -/
theorem occurs_separated (hc : c ∉ pattern) (s t : List Char) :
    occurs pattern (s ++ c :: t) = (occurs pattern s || occurs pattern t) := by
  unfold occurs
  cases hs : cutAt? pattern s with
  | some q =>
    obtain ⟨before, after⟩ := q
    rw [cutAt?_append_of_some hs]
    rfl
  | none =>
    rw [cutAt?_separated hc hs]
    simp

end FormTemplate.Text
