import FormTemplate.Proofs.Markup.Clean
import FormTemplate.Proofs.Text.Trim

/-!
# Trimmed texts

White space at the ends of a text makes no difference to the passes. In front of the text it stays there. Behind the
text it completes no tag and no element, so it stays as well, unless the text ends within a tag, which then reaches to
its end. So a text that is trimmed before it is stripped has no tag left that it would not have otherwise.

* `stripChars_append_of_not_mem` : a text without brackets stays in front of what is left;
* `afterElement?_append_blank` : white space behind a text completes no element;
* `stripElements_append_blank`, `stripTags_append_blank` : what the passes do with white space behind a text;
* `hasUnsafeTag_strip_of_trim` : stripping a trimmed text leaves no other tags.
-/

set_option autoImplicit false

namespace FormTemplate.Markup

variable {c : Char} {r s t q : List Char} {e : Element}

/-! ## Texts in front -/

theorem afterStartTag?_of_ne (hc : c ≠ '<') : afterStartTag? e (c :: r) = none := by
  unfold afterStartTag?
  split
  · rename_i heq
    cases heq
    exact absurd rfl hc
  · rfl

theorem afterStartTag?_of_not_mem (h : '<' ∉ s) : afterStartTag? e s = none := by
  cases s with
  | nil => rfl
  | cons c r => exact afterStartTag?_of_ne (List.ne_of_not_mem_cons h).symm

theorem stripElements_cons_of_some (h : afterElement? e (c :: r) = some t) :
    stripElements e (c :: r) = stripElements e t := by
  rw [stripElements.eq_def]
  split
  · contradiction
  · rename_i heq
    cases heq
    split
    · rename_i hsome
      rw [h] at hsome
      cases hsome
      rfl
    · rename_i hnone
      rw [h] at hnone
      cases hnone

theorem stripElements_cons_of_none (h : afterElement? e (c :: r) = none) :
    stripElements e (c :: r) = c :: stripElements e r := by
  rw [stripElements.eq_def]
  split
  · contradiction
  · rename_i heq
    cases heq
    split
    · rename_i hsome
      rw [h] at hsome
      cases hsome
    · rfl

theorem stripTags_cons_of_some (h : afterTagName? (c :: r) = some t) :
    stripTags (c :: r) = stripTags ((t.dropWhile (· != '>')).drop 1) := by
  rw [stripTags.eq_def]
  split
  · contradiction
  · rename_i heq
    cases heq
    split
    · rename_i hsome
      rw [h] at hsome
      cases hsome
      rfl
    · rename_i hnone
      rw [h] at hnone
      cases hnone

/-- A text without brackets stays in front of what is left when elements are removed. -/
theorem stripElements_append_of_not_mem (e : Element) (h : '<' ∉ q) :
    stripElements e (q ++ s) = q ++ stripElements e s := by
  induction q with
  | nil => rfl
  | cons c r ih =>
    have hnone : afterElement? e (c :: (r ++ s)) = none := by
      rw [afterElement?, afterStartTag?_of_ne (List.ne_of_not_mem_cons h).symm]
      rfl
    rw [List.cons_append, stripElements_cons_of_none hnone, ih (List.not_mem_of_not_mem_cons h), List.cons_append]

theorem stripTags_append_of_not_mem (h : '<' ∉ q) : stripTags (q ++ s) = q ++ stripTags s := by
  induction q with
  | nil => rfl
  | cons c r ih =>
    rw [List.cons_append, stripTags_cons_of_none (afterTagName?_of_ne (List.ne_of_not_mem_cons h).symm),
      ih (List.not_mem_of_not_mem_cons h), List.cons_append]

theorem stripChars_append_of_not_mem (h : '<' ∉ q) : stripChars (q ++ s) = q ++ stripChars s := by
  rw [stripChars, stripElements_append_of_not_mem _ h, stripElements_append_of_not_mem _ h,
    stripElements_append_of_not_mem _ h, stripTags_append_of_not_mem h]
  rfl

/-! ## Elements in front of white space -/

theorem afterEndTag?_of_ne (h : ∀ r, s ≠ '<' :: '/' :: r) : afterEndTag? e s = none := by
  unfold afterEndTag?
  split
  · rename_i r
    exact absurd rfl (h r)
  · rfl

theorem afterNextEndTag?_of_not_mem (h : '<' ∉ s) : afterNextEndTag? e s = none := by
  induction s with
  | nil => rfl
  | cons c r ih =>
    have hnone : afterEndTag? e (c :: r) = none := afterEndTag?_of_ne fun t heq => h (by rw [heq]; simp)
    rw [afterNextEndTag?, hnone]
    exact ih fun hr => h (List.mem_cons_of_mem _ hr)

theorem trimStart_append_cons (h : Text.trimStart t = c :: r) : Text.trimStart (t ++ q) = c :: (r ++ q) := by
  rw [Text.trimStart, List.dropWhile_append, ← Text.trimStart, h]
  rfl

section Trailing

variable (hq : ∀ c ∈ q, Text.isBlank c = true)

include hq

theorem not_mem_of_all_isBlank {d : Char} (hd : Text.isBlank d = false) : d ∉ q :=
  fun hmem => ne_of_isBlank (hq d hmem) hd rfl

theorem dropWhile_bracket_of_all_isBlank : q.dropWhile (· != '>') = [] := by
  refine Text.dropWhile_eq_nil_iff.mpr fun c hc => ?_
  rw [bne_iff_ne]
  exact ne_of_isBlank (hq c hc) (by decide)

theorem afterBracket?_append_blank : afterBracket? (s ++ q) = (afterBracket? s).map (· ++ q) := by
  unfold afterBracket?
  rw [List.dropWhile_append, dropWhile_bracket_of_all_isBlank hq]
  cases s.dropWhile (· != '>') <;> rfl

theorem afterStartTag?_append_blank (e : Element) :
    afterStartTag? e (s ++ q) = (afterStartTag? e s).map (· ++ q) := by
  cases s with
  | nil => exact afterStartTag?_of_not_mem (not_mem_of_all_isBlank hq (by decide))
  | cons c r =>
    by_cases hc : c = '<'
    · subst hc
      show (afterName? e (r ++ q)).bind afterBracket? = ((afterName? e r).bind afterBracket?).map (· ++ q)
      rw [afterName?_append_blank e (.of_all hq)]
      cases afterName? e r with
      | none => rfl
      | some t => exact afterBracket?_append_blank hq
    · rw [List.cons_append, afterStartTag?_of_ne hc, afterStartTag?_of_ne hc]
      rfl

theorem trimStart_append_blank_nil (h : Text.trimStart t = []) : Text.trimStart (t ++ q) = [] := by
  rw [Text.trimStart, List.dropWhile_append, ← Text.trimStart, h]
  exact Text.dropWhile_eq_nil_iff.mpr hq

theorem afterEndTag?_append_blank (e : Element) :
    afterEndTag? e (s ++ q) = (afterEndTag? e s).map (· ++ q) := by
  by_cases hs : ∃ r, s = '<' :: '/' :: r
  · obtain ⟨r, rfl⟩ := hs
    rw [List.cons_append, List.cons_append, afterEndTag?, afterEndTag?,
      afterLetters?_append_blank (fun _ hl => hl) (.of_all hq)]
    cases afterLetters? e.name r with
    | none => rfl
    | some t =>
      rw [Option.map_some, Option.map_some, Option.map_some]
      cases ht : Text.trimStart t with
      | nil => rw [trimStart_append_blank_nil hq ht]; rfl
      | cons d u =>
        rw [trimStart_append_cons ht]
        by_cases hd : d = '>'
        · subst hd
          rfl
        · split
          · rename_i heq
            cases heq
            exact absurd rfl hd
          · split
            · rename_i heq
              cases heq
              exact absurd rfl hd
            · rfl
  · have hsq : ∀ r, s ++ q ≠ '<' :: '/' :: r := by
      intro r h
      match s with
      | [] =>
        have hall : q = '<' :: '/' :: r := h
        exact not_mem_of_all_isBlank hq (d := '<') (by decide) (by rw [hall]; simp)
      | [c] =>
        have hrest : q = '/' :: r := (List.cons.inj h).2
        exact not_mem_of_all_isBlank hq (d := '/') (by decide) (by rw [hrest]; simp)
      | c :: d :: u =>
        injection h with hc h
        injection h with hd h
        exact hs ⟨u, by rw [hc, hd]⟩
    rw [afterEndTag?_of_ne hsq, afterEndTag?_of_ne fun r h => hs ⟨r, h⟩]
    rfl

theorem afterNextEndTag?_append_blank (e : Element) :
    afterNextEndTag? e (s ++ q) = (afterNextEndTag? e s).map (· ++ q) := by
  induction s with
  | nil => exact afterNextEndTag?_of_not_mem (not_mem_of_all_isBlank hq (by decide))
  | cons c r ih =>
    rw [List.cons_append, afterNextEndTag?, afterNextEndTag?, ← List.cons_append, afterEndTag?_append_blank hq]
    cases afterEndTag? e (c :: r) with
    | none => exact ih
    | some t => rfl

theorem afterElement?_append_blank (e : Element) :
    afterElement? e (s ++ q) = (afterElement? e s).map (· ++ q) := by
  rw [afterElement?, afterElement?, afterStartTag?_append_blank hq]
  cases afterStartTag? e s with
  | none => rfl
  | some t => exact afterNextEndTag?_append_blank hq e

/-! ## The passes in front of white space -/

/-- White space at the end of a text stays when elements are removed. -/
theorem stripElements_append_blank (e : Element) : stripElements e (s ++ q) = stripElements e s ++ q := by
  fun_induction stripElements e s with
  | case1 =>
    have hsame := stripElements_append_of_not_mem (s := []) e (not_mem_of_all_isBlank hq (d := '<') (by decide))
    rwa [List.append_nil, stripElements, List.append_nil] at hsame
  | case2 c r rest hrest ih =>
    have helement : afterElement? e (c :: (r ++ q)) = some (rest ++ q) := by
      rw [← List.cons_append, afterElement?_append_blank hq, hrest]
      rfl
    rw [List.cons_append, stripElements_cons_of_some helement, ih]
  | case3 c r hnone ih =>
    have helement : afterElement? e (c :: (r ++ q)) = none := by
      rw [← List.cons_append, afterElement?_append_blank hq, hnone]
      rfl
    rw [List.cons_append, stripElements_cons_of_none helement, ih, List.cons_append]

/-- White space at the end of a text stays when tags are removed, unless the text ends within a tag. -/
theorem stripTags_append_blank : stripTags (s ++ q) = stripTags s ++ q ∨ stripTags (s ++ q) = stripTags s := by
  fun_induction stripTags s with
  | case1 =>
    have hsame := stripTags_append_of_not_mem (s := []) (not_mem_of_all_isBlank hq (d := '<') (by decide))
    rw [List.append_nil, stripTags, List.append_nil] at hsame
    exact .inl hsame
  | case2 c r t ht ih =>
    have htag : afterTagName? (c :: (r ++ q)) = some (t ++ q) := by
      rw [← List.cons_append, afterTagName?_append_blank (.of_all hq), ht]
      rfl
    have hnone : q.dropWhile (· != '>') = [] := dropWhile_bracket_of_all_isBlank hq
    rw [List.cons_append, stripTags_cons_of_some htag, List.dropWhile_append]
    cases hrest : t.dropWhile (· != '>') with
    | nil => exact .inr (by rw [hnone]; rfl)
    | cons d u =>
      rw [hrest] at ih
      exact ih
  | case3 c r hnone ih =>
    have htag : afterTagName? (c :: (r ++ q)) = none := by
      rw [← List.cons_append, afterTagName?_append_blank (.of_all hq), hnone]
      rfl
    rw [List.cons_append, stripTags_cons_of_none htag]
    exact ih.imp (congrArg _) (congrArg _)

theorem hasUnsafeTag_stripChars_append_blank (h : HasUnsafeTag (stripChars s)) :
    HasUnsafeTag (stripChars (s ++ q)) := by
  rw [stripChars, stripElements_append_blank hq, stripElements_append_blank hq, stripElements_append_blank hq]
  rcases stripTags_append_blank hq with hsame | hsame
  · rw [hsame]
    exact (hasUnsafeTag_append_blank_iff (.of_all hq)).mpr (.inl h)
  · rw [hsame]
    exact h

end Trailing

/-- **Stripping a trimmed text leaves no tag that stripping the text does not leave.** -/
theorem hasUnsafeTag_strip_of_trim {raw : String} (h : HasUnsafeTag (strip (Text.trim raw)).toList) :
    HasUnsafeTag (strip raw).toList := by
  obtain ⟨before, after, hraw, hbefore, hafter⟩ := Text.exists_eq_append_trimChars raw.toList
  rw [strip, String.toList_ofList, Text.trim, String.toList_ofList] at h
  rw [strip, String.toList_ofList, hraw, List.append_assoc,
    stripChars_append_of_not_mem (not_mem_of_all_isBlank hbefore (by decide))]
  have hends : endsWord [] = true := rfl
  have hstripped := (hasUnsafeTag_stripChars_append_blank hafter h).piece before hends
  rwa [List.append_nil] at hstripped

end FormTemplate.Markup
