/-!
# Searching a text

* `cutAt?` : the text before and after the first occurrence of a pattern.
* `occurs` : whether a pattern occurs.
* `eq_of_cutAt?` : the pieces and the pattern make up the text.
* `occurs_iff` : a pattern occurs exactly if the text is something, the pattern, and something.
-/

set_option autoImplicit false

namespace FormTemplate.Text

/-- The text before and after the first occurrence of a pattern. -/
def cutAt? (pattern : List Char) : List Char → Option (List Char × List Char)
  | [] => if pattern.isEmpty then some ([], []) else none
  | c :: r =>
    if pattern.isPrefixOf (c :: r) then some ([], (c :: r).drop pattern.length)
    else (cutAt? pattern r).map fun p => (c :: p.1, p.2)

/-- Whether a pattern occurs in a text. -/
def occurs (pattern s : List Char) : Bool := (cutAt? pattern s).isSome

theorem eq_of_cutAt? {pattern s before after : List Char} (h : cutAt? pattern s = some (before, after)) :
    s = before ++ pattern ++ after := by
  induction s generalizing before with
  | nil =>
    simp only [cutAt?] at h
    split at h
    · rename_i he
      simp_all
    · cases h
  | cons c r ih =>
    simp only [cutAt?] at h
    split at h
    · rename_i hp
      injection h with h
      injection h with h1 h2
      subst h1
      subst h2
      obtain ⟨t, ht⟩ := List.isPrefixOf_iff_prefix.mp hp
      rw [← ht]
      simp
    · simp only [Option.map_eq_some_iff] at h
      obtain ⟨p, hp, h⟩ := h
      injection h with h1 h2
      subst h1
      subst h2
      rw [ih hp]
      simp

theorem length_cutAt?_after {pattern s before after : List Char} (h : cutAt? pattern s = some (before, after))
    (hne : pattern ≠ []) : after.length < s.length := by
  have := congrArg List.length (eq_of_cutAt? h)
  have hpos : 0 < pattern.length := List.length_pos_iff.mpr hne
  simp only [List.length_append] at this
  omega

theorem occurs_iff {pattern s : List Char} :
    occurs pattern s = true ↔ ∃ before after, s = before ++ pattern ++ after := by
  constructor
  · intro h
    obtain ⟨p, hp⟩ := Option.isSome_iff_exists.mp h
    exact ⟨p.1, p.2, eq_of_cutAt? hp⟩
  · rintro ⟨before, after, h⟩
    subst h
    induction before with
    | nil =>
      cases pattern with
      | nil => cases after <;> simp [occurs, cutAt?]
      | cons p ps => simp [occurs, cutAt?, List.isPrefixOf_iff_prefix, List.prefix_append]
    | cons c r ih =>
      simp only [occurs, List.cons_append, cutAt?]
      split
      · rfl
      · simpa [occurs] using ih

end FormTemplate.Text
