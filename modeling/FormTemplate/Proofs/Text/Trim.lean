import FormTemplate.Text.Blank
import Mathlib.Data.List.DropRight

/-!
# What trimming leaves

Trimming cuts blank characters off both ends of a text. What it leaves is a piece of the text with blank characters
around it, so a text that keeps its length is left as it is.

* `exists_eq_append_trimChars` : the text around what trimming leaves;
* `trim_eq_self_of_length` : a text that trimming leaves as long as it is;
* `trimChars_trimChars` : a trimmed text is left as it is.
-/

set_option autoImplicit false

namespace FormTemplate.Text

theorem of_mem_takeWhile_isBlank {c : Char} {s : List Char} (h : c ∈ s.takeWhile isBlank) : isBlank c = true :=
  List.all_eq_true.mp (List.all_takeWhile (p := isBlank) (l := s)) c h

theorem exists_eq_append_trimEnd (s : List Char) : ∃ after, s = trimEnd s ++ after ∧ ∀ c ∈ after, isBlank c = true := by
  refine ⟨(s.reverse.takeWhile isBlank).reverse, ?_, fun c hc => of_mem_takeWhile_isBlank (List.mem_reverse.mp hc)⟩
  rw [trimEnd, ← List.reverse_append, List.takeWhile_append_dropWhile, List.reverse_reverse]

/-- **A trimmed text is a piece of the text, with blank characters around it.** -/
theorem exists_eq_append_trimChars (s : List Char) :
    ∃ before after, s = before ++ trimChars s ++ after ∧
      (∀ c ∈ before, isBlank c = true) ∧ ∀ c ∈ after, isBlank c = true := by
  obtain ⟨after, h, hafter⟩ := exists_eq_append_trimEnd (trimStart s)
  refine ⟨s.takeWhile isBlank, after, ?_, fun c hc => of_mem_takeWhile_isBlank hc, hafter⟩
  rw [List.append_assoc, trimChars, ← h, trimStart, List.takeWhile_append_dropWhile]

theorem length_trim_le (s : String) : (trim s).toList.length ≤ s.toList.length := by
  obtain ⟨before, after, hs, -, -⟩ := exists_eq_append_trimChars s.toList
  have hlength := congrArg List.length hs
  rw [List.length_append, List.length_append] at hlength
  rw [trim, String.toList_ofList]
  omega

/-- A text that trimming leaves as long as it is loses nothing. -/
theorem trim_eq_self_of_length {s : String} (h : (trim s).toList.length = s.toList.length) : trim s = s := by
  obtain ⟨before, after, hs, -, -⟩ := exists_eq_append_trimChars s.toList
  have hlength := congrArg List.length hs
  rw [List.length_append, List.length_append] at hlength
  rw [trim, String.toList_ofList] at h
  obtain rfl : before = [] := List.eq_nil_of_length_eq_zero (by omega)
  obtain rfl : after = [] := List.eq_nil_of_length_eq_zero (by omega)
  rw [List.nil_append, List.append_nil] at hs
  rw [trim, ← hs, String.ofList_toList]

/-- The first character of a text that starts with no blank one is not cut off at the end. -/
theorem trimStart_trimEnd_trimStart (s : List Char) : trimStart (trimEnd (trimStart s)) = trimEnd (trimStart s) := by
  obtain ⟨after, hsplit⟩ : trimEnd (trimStart s) <+: trimStart s := List.rdropWhile_prefix isBlank _
  cases hstart : trimEnd (trimStart s) with
  | nil => rfl
  | cons c rest =>
    have hhead : (s.dropWhile isBlank).head? = some c := by
      rw [← trimStart, ← hsplit, hstart]
      rfl
    have hc : ¬isBlank c = true := by simpa [hhead] using List.head?_dropWhile_not isBlank s
    exact List.dropWhile_cons_of_neg hc

/-- **Trimming once is enough.** -/
theorem trimChars_trimChars (s : List Char) : trimChars (trimChars s) = trimChars s := by
  rw [trimChars, trimChars, trimStart_trimEnd_trimStart]
  exact List.rdropWhile_idempotent isBlank (trimStart s)

end FormTemplate.Text
