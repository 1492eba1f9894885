import FormTemplate.Proofs.Markup.Strip
import FormTemplate.Proofs.Unicode.Blank

/-!
# Clean texts

A text without an unsafe tag is left as it is by every pass, and a pass lengthens no text. Such a tag is an opening
bracket, a slash or none, and the letters of a name, and none of these is white space. So a tag does not reach over
white space, and what follows a tag matters only as far as it could go on with the name.

* `strip_eq_self` : a clean text is left as it is;
* `length_strip_le` : stripping lengthens no text;
* `HasUnsafeTag.piece` : a tag of a piece of a text is a tag of the text;
* `afterTagName?_append_blank`, `hasUnsafeTag_parted_iff` : white space parts the tags of a text.
-/

set_option autoImplicit false

namespace FormTemplate.Markup

variable {c : Char} {r s t q ls : List Char} {e : Element}

/-! ## Clean texts are left as they are -/

/-- A complete element begins with a tag. -/
theorem isSome_afterTagName?_of_afterElement? (h : (afterElement? e s).isSome = true) :
    (afterTagName? s).isSome = true := by
  obtain ⟨t, ht⟩ := Option.isSome_iff_exists.mp h
  obtain ⟨u, hu, -⟩ := Option.bind_eq_some_iff.mp ht
  unfold afterStartTag? at hu
  split at hu
  · obtain ⟨w, hw, -⟩ := Option.bind_eq_some_iff.mp hu
    exact isSome_afterTagName?_iff.mpr ⟨e, _, .inl rfl, Option.isSome_of_eq_some hw⟩
  · cases hu

theorem stripElements_eq_self (e : Element) (h : ¬HasUnsafeTag s) : stripElements e s = s := by
  fun_induction stripElements e s with
  | case1 => rfl
  | case2 c r rest hrest =>
    have htag := isSome_afterTagName?_of_afterElement? (Option.isSome_of_eq_some hrest)
    exact absurd (hasUnsafeTag_cons.mpr (.inl htag)) h
  | case3 c r hnone ih => exact congrArg _ (ih fun hr => h (hasUnsafeTag_cons.mpr (.inr hr)))

theorem stripTags_eq_self (h : ¬HasUnsafeTag s) : stripTags s = s := by
  fun_induction stripTags s with
  | case1 => rfl
  | case2 c r t ht => exact absurd (hasUnsafeTag_cons.mpr (.inl (Option.isSome_of_eq_some ht))) h
  | case3 c r hnone ih => exact congrArg _ (ih fun hr => h (hasUnsafeTag_cons.mpr (.inr hr)))

/-- **A text without an unsafe tag is left as it is.** -/
theorem strip_eq_self {html : String} (h : ¬HasUnsafeTag html.toList) : strip html = html := by
  rw [strip, stripChars, stripElements_eq_self .script h, stripElements_eq_self .style h,
    stripElements_eq_self .iframe h, stripTags_eq_self h, String.ofList_toList]

/-! ## No text becomes longer -/

theorem length_stripElements_le (e : Element) (s : List Char) : (stripElements e s).length ≤ s.length := by
  fun_induction stripElements e s with
  | case1 => exact Nat.le_refl _
  | case2 c r rest hrest ih => exact Nat.le_of_lt (Nat.lt_of_le_of_lt ih (length_afterElement? hrest))
  | case3 c r hnone ih => exact Nat.succ_le_succ ih

theorem length_stripTags_le (s : List Char) : (stripTags s).length ≤ s.length := by
  fun_induction stripTags s with
  | case1 => exact Nat.le_refl _
  | case2 c r t ht ih =>
    have hname := length_afterTagName? ht
    have hrest := (t.dropWhile_sublist (· != '>')).length_le
    simp only [List.length_drop] at ih
    omega
  | case3 c r hnone ih => exact Nat.succ_le_succ ih

theorem length_strip_le (html : String) : (strip html).toList.length ≤ html.toList.length := by
  rw [strip, String.toList_ofList, stripChars]
  exact Nat.le_trans (length_stripTags_le _) <| Nat.le_trans (length_stripElements_le _ _) <|
    Nat.le_trans (length_stripElements_le _ _) (length_stripElements_le _ _)

/-! ## Pieces of texts -/

theorem afterLetters?_append_of_some (h : afterLetters? ls s = some t) :
    afterLetters? ls (s ++ q) = some (t ++ q) := by
  fun_induction afterLetters? ls s with
  | case1 s => rw [← Option.some.inj h]; rfl
  | case2 => cases h
  | case3 l ls c r hletter ih =>
    rw [List.cons_append, afterLetters?, if_pos hletter]
    exact ih h
  | case4 => cases h

/-- A tag of a text is a tag of every longer text that does not go on with its name. -/
theorem HasUnsafeTag.piece {after : List Char} (before : List Char) (h : HasUnsafeTag s)
    (hafter : endsWord after = true) :
    HasUnsafeTag (before ++ s ++ after) := by
  obtain ⟨b, t, rfl, htag⟩ := h
  obtain ⟨e, r, ht, hname⟩ := isSome_afterTagName?_iff.mp htag
  have hlonger : (afterName? e (r ++ after)).isSome = true := by
    obtain ⟨u, hu⟩ := Option.isSome_iff_exists.mp hname
    obtain ⟨hletters, hends⟩ := Option.filter_eq_some_iff.mp hu
    have hends' : endsWord (u ++ after) = true := by
      cases u with
      | nil => exact hafter
      | cons c u => exact hends
    rw [afterName?, afterLetters?_append_of_some hletters, Option.filter_some, if_pos hends']
    rfl
  refine ⟨before ++ b, t ++ after, by simp, isSome_afterTagName?_iff.mpr ⟨e, r ++ after, ?_, hlonger⟩⟩
  rcases ht with rfl | rfl
  · exact .inl rfl
  · exact .inr rfl

/-! ## White space -/

theorem ne_of_isBlank {d : Char} (hc : Text.isBlank c = true) (hd : Text.isBlank d = false) : c ≠ d := by
  rintro rfl
  rw [hc] at hd
  cases hd

/-- White space is no letter of a name, in any case. -/
theorem isLetter_of_isBlank {l : Char} (hl : l ∈ e.name) (hc : Text.isBlank c = true) : isLetter l c = false := by
  have hletter : Text.isBlank l = false := by
    have hall : (e.name.all fun l => !Text.isBlank l) = true := by cases e <;> decide
    simpa using List.all_eq_true.mp hall l hl
  have hlower : c.toLower = c := by
    have hupper : ¬('A'.val ≤ c.val ∧ c.val ≤ 'Z'.val) := by
      rintro ⟨hlo, hhi⟩
      have hlo' : 65 ≤ c.toNat := hlo
      have hhi' : c.toNat ≤ 90 := hhi
      simp only [Text.isBlank, Bool.or_eq_true, Bool.and_eq_true, decide_eq_true_eq, beq_iff_eq] at hc
      omega
    unfold Char.toLower
    split
    · rename_i h
      exact absurd h hupper
    · rfl
  rw [isLetter, hlower, beq_eq_false_iff_ne.mpr (ne_of_isBlank hc hletter),
    beq_eq_false_iff_ne.mpr (ne_of_isBlank hc (show Text.isBlank '\u017f' = false by decide)), Bool.and_false,
    Bool.or_false]

/-- White space may follow, at least at first. -/
def StartsBlank (q : List Char) : Prop := ∀ c ∈ q.head?, Text.isBlank c = true

theorem startsBlank_cons {b : Char} (hb : Text.isBlank b = true) (r : List Char) : StartsBlank (b :: r) := by
  rintro c hc
  cases hc
  exact hb

theorem StartsBlank.of_all (hq : ∀ c ∈ q, Text.isBlank c = true) : StartsBlank q :=
  fun c hc => hq c (List.mem_of_mem_head? hc)

theorem StartsBlank.endsWord (hq : StartsBlank q) : endsWord q = true := by
  cases q with
  | nil => rfl
  | cons c q => rw [Markup.endsWord, Unicode.isWord_of_isBlank (hq c rfl), Bool.not_false]

/-! ### Tags in front of white space -/

theorem afterLetters?_append_blank (hls : ∀ l ∈ ls, l ∈ e.name) (hq : StartsBlank q) :
    afterLetters? ls (s ++ q) = (afterLetters? ls s).map (· ++ q) := by
  fun_induction afterLetters? ls s with
  | case1 s => rfl
  | case2 l ls =>
    cases q with
    | nil => rfl
    | cons c q =>
      rw [List.nil_append, afterLetters?, isLetter_of_isBlank (hls l List.mem_cons_self) (hq c rfl)]
      rfl
  | case3 l ls c r hletter ih =>
    rw [List.cons_append, afterLetters?, if_pos hletter]
    exact ih fun l hl => hls l (List.mem_cons_of_mem _ hl)
  | case4 l ls c r hletter =>
    rw [List.cons_append, afterLetters?, if_neg hletter]
    rfl

theorem afterName?_append_blank (e : Element) (hq : StartsBlank q) :
    afterName? e (s ++ q) = (afterName? e s).map (· ++ q) := by
  have hends : ∀ t : List Char, endsWord (t ++ q) = endsWord t := by
    intro t
    cases t with
    | nil => exact hq.endsWord
    | cons c t => rfl
  rw [afterName?, afterName?, afterLetters?_append_blank (fun _ hl => hl) hq]
  cases afterLetters? e.name s with
  | none => rfl
  | some t =>
    rw [Option.map_some, Option.filter_some, Option.filter_some, hends]
    split <;> rfl

theorem afterAnyName?_append_blank (hq : StartsBlank q) :
    afterAnyName? (s ++ q) = (afterAnyName? s).map (· ++ q) := by
  rw [afterAnyName?, afterAnyName?, afterName?_append_blank .script hq, afterName?_append_blank .style hq,
    afterName?_append_blank .iframe hq, Option.map_or, Option.map_or]

theorem afterTagName?_of_ne (hc : c ≠ '<') : afterTagName? (c :: r) = none := by
  unfold afterTagName?
  split
  · rename_i heq
    cases heq
    exact absurd rfl hc
  · rename_i heq
    cases heq
    exact absurd rfl hc
  · rfl

/-- A tag begins with a bracket. -/
theorem not_hasUnsafeTag_of_not_mem (h : '<' ∉ s) : ¬HasUnsafeTag s := by
  induction s with
  | nil => exact not_hasUnsafeTag_nil
  | cons c r ih =>
    rw [hasUnsafeTag_cons, afterTagName?_of_ne (List.ne_of_not_mem_cons h).symm]
    rintro (htag | htag)
    · cases htag
    · exact ih (List.not_mem_of_not_mem_cons h) htag

theorem afterTagName?_of_startsBlank (hq : StartsBlank q) : afterTagName? q = none := by
  cases q with
  | nil => rfl
  | cons c q => exact afterTagName?_of_ne (ne_of_isBlank (hq c rfl) (by decide))

theorem afterTagName?_bracket_of_ne (h : ∀ t, r ≠ '/' :: t) : afterTagName? ('<' :: r) = afterAnyName? r := by
  unfold afterTagName?
  split
  · rename_i t heq
    cases heq
    exact absurd rfl (h t)
  · rename_i heq
    cases heq
    rfl
  · rename_i hne
    exact absurd rfl (hne r)

/-- **White space behind a text changes none of its tags.** -/
theorem afterTagName?_append_blank (hq : StartsBlank q) :
    afterTagName? (s ++ q) = (afterTagName? s).map (· ++ q) := by
  cases s with
  | nil => rw [List.nil_append, afterTagName?_of_startsBlank hq]; rfl
  | cons c r =>
    by_cases hc : c = '<'
    · subst hc
      by_cases hslash : ∃ t, r = '/' :: t
      · obtain ⟨t, rfl⟩ := hslash
        exact afterAnyName?_append_blank hq
      · have hr : ∀ t, r ≠ '/' :: t := fun t ht => hslash ⟨t, ht⟩
        have hrq : ∀ t, r ++ q ≠ '/' :: t := by
          cases r with
          | nil =>
            rintro t rfl
            exact absurd (hq '/' rfl) (by decide)
          | cons d r =>
            intro t ht
            injection ht with hd
            exact hr r (hd ▸ rfl)
        rw [List.cons_append, afterTagName?_bracket_of_ne hrq, afterTagName?_bracket_of_ne hr,
          afterAnyName?_append_blank hq]
    · rw [List.cons_append, afterTagName?_of_ne hc, afterTagName?_of_ne hc]
      rfl

/-- White space parts the tags of a text. -/
theorem hasUnsafeTag_append_blank_iff (hq : StartsBlank q) :
    HasUnsafeTag (s ++ q) ↔ HasUnsafeTag s ∨ HasUnsafeTag q := by
  induction s with
  | nil => exact (or_iff_right not_hasUnsafeTag_nil).symm
  | cons c r ih =>
    rw [List.cons_append, hasUnsafeTag_cons, hasUnsafeTag_cons, ih, ← List.cons_append,
      afterTagName?_append_blank hq, Option.isSome_map, or_assoc]

/-- **A blank character parts the tags of a text.** -/
theorem hasUnsafeTag_parted_iff {b : Char} (hb : Text.isBlank b = true) :
    HasUnsafeTag (s ++ b :: r) ↔ HasUnsafeTag s ∨ HasUnsafeTag r := by
  rw [hasUnsafeTag_append_blank_iff (startsBlank_cons hb r), hasUnsafeTag_cons,
    afterTagName?_of_ne (ne_of_isBlank hb (by decide))]
  simp

end FormTemplate.Markup
