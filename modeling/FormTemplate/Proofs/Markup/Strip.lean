import FormTemplate.Markup

/-!
# What is left of unsafe tags

The last pass removes every tag that it finds, but it goes through the text once, and what stood in front of a removed
tag then stands in front of what followed it. So a tag is left in its output exactly where the beginning of a tag, cut
off by a removed tag, is completed by the text behind that one. A text in which no tag stands directly behind a
cut-off beginning has no unsafe tag left.

* `CutOff` : the beginnings of tags that end within the name;
* `Unsplit` : no tag stands directly behind such a beginning;
* `afterLetters?_stripTags` : letters that are left were there before, if no tag stood between them;
* `not_hasUnsafeTag_strip` : an unsplit text has no unsafe tag left;
* `hasUnsafeTag_strip_split` : a split text can have one.
-/

set_option autoImplicit false

namespace FormTemplate.Markup

variable {c : Char} {r s t ls : List Char} {e : Element}

/-! ## Suffixes -/

theorem afterLetters?_isSuffix (h : afterLetters? ls s = some t) : t <:+ s := by
  fun_induction afterLetters? ls s with
  | case1 => injection h with h; subst h; exact List.suffix_refl _
  | case2 => cases h
  | case3 l ls c r hc ih => exact (ih h).trans (List.suffix_cons c r)
  | case4 => cases h

theorem afterAnyName?_isSuffix (h : afterAnyName? s = some t) : t <:+ s := by
  have hname : ∀ e, afterName? e s = some t → t <:+ s := fun e he =>
    afterLetters?_isSuffix (Option.filter_eq_some_iff.mp he).1
  simp only [afterAnyName?, Option.or_eq_some_iff] at h
  rcases h with (h | ⟨_, h⟩) | ⟨_, h⟩ <;> exact hname _ h

theorem afterTagName?_isSuffix (h : afterTagName? s = some t) : t <:+ s := by
  unfold afterTagName? at h
  split at h
  · exact (afterAnyName?_isSuffix h).trans ((List.suffix_cons _ _).trans (List.suffix_cons _ _))
  · exact (afterAnyName?_isSuffix h).trans (List.suffix_cons _ _)
  · cases h

/-! ## Tags of a text -/

theorem isSome_afterAnyName?_iff : (afterAnyName? s).isSome = true ↔ ∃ e, (afterName? e s).isSome = true := by
  simp only [afterAnyName?, Option.isSome_or, Bool.or_eq_true]
  constructor
  · rintro ((h | h) | h)
    · exact ⟨.script, h⟩
    · exact ⟨.style, h⟩
    · exact ⟨.iframe, h⟩
  · rintro ⟨e, h⟩
    cases e with
    | script => exact .inl (.inl h)
    | style => exact .inl (.inr h)
    | iframe => exact .inr h

theorem afterName?_slash (e : Element) (r : List Char) : afterName? e ('/' :: r) = none := by
  cases e <;> rfl

/-- A tag is an opening bracket, a slash or none, and a name. -/
theorem isSome_afterTagName?_iff :
    (afterTagName? s).isSome = true ↔ ∃ e r, (s = '<' :: r ∨ s = '<' :: '/' :: r) ∧ (afterName? e r).isSome = true := by
  constructor
  · intro h
    unfold afterTagName? at h
    split at h
    · obtain ⟨e, he⟩ := isSome_afterAnyName?_iff.mp h
      exact ⟨e, _, .inr rfl, he⟩
    · obtain ⟨e, he⟩ := isSome_afterAnyName?_iff.mp h
      exact ⟨e, _, .inl rfl, he⟩
    · cases h
  · rintro ⟨e, r, rfl | rfl, he⟩
    · have hany := isSome_afterAnyName?_iff.mpr ⟨e, he⟩
      unfold afterTagName?
      split
      · rename_i heq
        cases heq
        rw [afterName?_slash] at he
        cases he
      · rename_i heq
        cases heq
        exact hany
      · rename_i hne
        exact (hne r rfl).elim
    · exact isSome_afterAnyName?_iff.mpr ⟨e, he⟩

theorem not_hasUnsafeTag_nil : ¬HasUnsafeTag [] := by
  rintro ⟨before, after, h, htag⟩
  obtain ⟨-, rfl⟩ := List.append_eq_nil_iff.mp h.symm
  cases htag

theorem hasUnsafeTag_cons : HasUnsafeTag (c :: r) ↔ (afterTagName? (c :: r)).isSome = true ∨ HasUnsafeTag r := by
  constructor
  · rintro ⟨before, after, h, htag⟩
    cases before with
    | nil =>
      rw [List.nil_append] at h
      exact .inl (h ▸ htag)
    | cons b before =>
      injection h with _ h
      exact .inr ⟨before, after, h, htag⟩
  · rintro (htag | ⟨before, after, rfl, htag⟩)
    · exact ⟨[], c :: r, rfl, htag⟩
    · exact ⟨c :: before, after, rfl, htag⟩

instance decidableHasUnsafeTag : (s : List Char) → Decidable (HasUnsafeTag s)
  | [] => isFalse not_hasUnsafeTag_nil
  | _ :: r =>
    have := decidableHasUnsafeTag r
    decidable_of_iff _ hasUnsafeTag_cons.symm

theorem stripTags_cons_of_none (h : afterTagName? (c :: r) = none) : stripTags (c :: r) = c :: stripTags r := by
  rw [stripTags.eq_def]
  split
  · contradiction
  · rename_i heq
    cases heq
    split
    · rename_i hsome
      rw [h] at hsome
      cases hsome
    · rfl

/-! ## Cut-off beginnings -/

/-- The beginning of a tag that ends within the name. -/
def CutOff (b : List Char) : Prop :=
  ∃ e k w, k < (Element.name e).length ∧ afterLetters? ((Element.name e).take k) w = some [] ∧
    (b = '<' :: w ∨ b = '<' :: '/' :: w)

instance (b : List Char) : Decidable (CutOff b) :=
  decidable_of_iff (∃ e ∈ [Element.script, .style, .iframe], ∃ k ∈ List.range e.name.length,
    ∃ w ∈ [b.drop 1, b.drop 2], afterLetters? (e.name.take k) w = some [] ∧ (b = '<' :: w ∨ b = '<' :: '/' :: w)) <| by
    constructor
    · rintro ⟨e, -, k, hk, w, -, hw, hb⟩
      exact ⟨e, k, w, List.mem_range.mp hk, hw, hb⟩
    · rintro ⟨e, k, w, hk, hw, hb⟩
      have he : e ∈ [Element.script, .style, .iframe] := by cases e <;> decide
      refine ⟨e, he, k, List.mem_range.mpr hk, w, ?_, hw, hb⟩
      rcases hb with rfl | rfl <;> simp

/-- No tag stands directly behind a cut-off beginning. -/
def Unsplit (s : List Char) : Prop := ∀ b t, b ++ t <:+ s → CutOff b → afterTagName? t = none

/-- Whether a text is unsplit shows at its finitely many pieces. -/
theorem unsplit_iff : Unsplit s ↔ ∀ i ∈ List.range (s.length + 1), ∀ j ∈ List.range (s.length + 1),
    afterTagName? ((s.drop i).drop j) = none ∨ ¬CutOff ((s.drop i).take j) := by
  constructor
  · intro h i _ j _
    refine (Classical.em _).symm.imp_left fun hb => h _ _ ?_ (Classical.not_not.mp hb)
    rw [List.take_append_drop]
    exact List.drop_suffix i s
  · rintro h b t ⟨p, rfl⟩ hb
    have hi : p.length < (p ++ (b ++ t)).length + 1 := by
      rw [List.length_append]
      omega
    have hj : b.length < (p ++ (b ++ t)).length + 1 := by
      rw [List.length_append, List.length_append]
      omega
    have hcut := h p.length (List.mem_range.mpr hi) b.length (List.mem_range.mpr hj)
    rw [List.drop_left, List.take_left, List.drop_left] at hcut
    exact hcut.resolve_right fun hnot => hnot hb

instance (s : List Char) : Decidable (Unsplit s) := decidable_of_iff _ unsplit_iff.symm

theorem Unsplit.of_isSuffix (h : Unsplit s) (ht : t <:+ s) : Unsplit t := fun b u hu => h b u (hu.trans ht)

/-- Letters that are left were there before, if no tag stands behind any part of them. -/
theorem afterLetters?_stripTags (h : afterLetters? ls (stripTags s) = some t)
    (hjoint : ∀ k w u, k < ls.length → s = w ++ u → afterLetters? (ls.take k) w = some [] → afterTagName? u = none) :
    ∃ u, afterLetters? ls s = some u ∧ t = stripTags u := by
  induction ls generalizing s with
  | nil => exact ⟨s, rfl, (Option.some.inj h).symm⟩
  | cons l ls ih =>
    have hhead : afterTagName? s = none := hjoint 0 [] s (by simp) rfl rfl
    cases s with
    | nil =>
      rw [stripTags] at h
      cases h
    | cons d r =>
      rw [stripTags_cons_of_none hhead, afterLetters?] at h
      split at h
      · rename_i hletter
        obtain ⟨u, hu, ht⟩ := ih h fun k w u hk hr hw =>
          hjoint (k + 1) (d :: w) u (by simpa using hk) (by rw [hr]; rfl) (by simpa [afterLetters?, hletter] using hw)
        exact ⟨u, by simpa [afterLetters?, hletter] using hu, ht⟩
      · cases h

/-- A name that ends in the output ends in the text too: a tag that follows it begins with a bracket. -/
theorem endsWord_of_stripTags (h : endsWord (stripTags s) = true) : endsWord s = true := by
  cases s with
  | nil => rfl
  | cons d r =>
    cases htag : afterTagName? (d :: r) with
    | none =>
      rw [stripTags_cons_of_none htag] at h
      exact h
    | some t =>
      obtain ⟨e, q, hq, -⟩ := isSome_afterTagName?_iff.mp (Option.isSome_iff_exists.mpr ⟨t, htag⟩)
      have hbracket : d = '<' := by
        rcases hq with hq | hq <;> exact (List.cons.inj hq).1
      have hword : Unicode.isWord '<' = false := by decide +kernel
      rw [hbracket, endsWord, hword]
      rfl

theorem afterName?_of_stripTags (h : (afterName? e (stripTags s)).isSome = true)
    (hjoint : ∀ k w u, k < e.name.length → s = w ++ u → afterLetters? (e.name.take k) w = some [] →
      afterTagName? u = none) : (afterName? e s).isSome = true := by
  obtain ⟨t, ht⟩ := Option.isSome_iff_exists.mp h
  obtain ⟨hletters, hends⟩ := Option.filter_eq_some_iff.mp ht
  obtain ⟨u, hu, rfl⟩ := afterLetters?_stripTags hletters hjoint
  exact Option.isSome_iff_exists.mpr ⟨u, Option.filter_eq_some_iff.mpr ⟨hu, endsWord_of_stripTags hends⟩⟩

/-! ## The last pass -/

/-- **A character that is kept begins no tag of the output**, unless a tag behind it was removed from within one. -/
theorem afterTagName?_cons_stripTags (h : Unsplit (c :: r)) (hnone : afterTagName? (c :: r) = none) :
    afterTagName? (c :: stripTags r) = none := by
  have hbefore : ∀ e q, (c :: r = '<' :: q ∨ c :: r = '<' :: '/' :: q) → ¬(afterName? e q).isSome = true := by
    intro e q hq hname
    have htag := isSome_afterTagName?_iff.mpr ⟨e, q, hq, hname⟩
    rw [hnone] at htag
    cases htag
  rw [← Option.not_isSome_iff_eq_none, isSome_afterTagName?_iff]
  rintro ⟨e, q, hq | hq, hname⟩
  · obtain ⟨rfl, rfl⟩ := List.cons.inj hq
    refine hbefore e r (.inl rfl) (afterName?_of_stripTags hname fun k w u hk hr hw => ?_)
    exact h ('<' :: w) u (by rw [hr]; exact List.suffix_refl _) ⟨e, k, w, hk, hw, .inl rfl⟩
  · obtain ⟨rfl, hslash⟩ := List.cons.inj hq
    -- the slash was there before, because no tag stands directly behind the bracket
    have hhead : afterTagName? r = none :=
      h ['<'] r (List.suffix_refl _) ⟨.script, 0, [], by decide, rfl, .inl rfl⟩
    cases r with
    | nil =>
      rw [stripTags] at hslash
      cases hslash
    | cons d r =>
      rw [stripTags_cons_of_none hhead] at hslash
      obtain ⟨rfl, rfl⟩ := List.cons.inj hslash
      refine hbefore e r (.inr rfl) (afterName?_of_stripTags hname fun k w u hk hr hw => ?_)
      exact h ('<' :: '/' :: w) u (by rw [hr]; exact List.suffix_refl _) ⟨e, k, w, hk, hw, .inr rfl⟩

/-- **Of an unsplit text the last pass leaves no unsafe tag.** -/
theorem not_hasUnsafeTag_stripTags (h : Unsplit s) : ¬HasUnsafeTag (stripTags s) := by
  fun_induction stripTags s with
  | case1 => exact not_hasUnsafeTag_nil
  | case2 c r t htag ih =>
    refine ih (h.of_isSuffix ?_)
    exact (List.drop_suffix _ _).trans ((List.dropWhile_suffix _).trans (afterTagName?_isSuffix htag))
  | case3 c r htag ih =>
    rw [hasUnsafeTag_cons, not_or]
    refine ⟨?_, ih (h.of_isSuffix (List.suffix_cons c r))⟩
    rw [afterTagName?_cons_stripTags h htag]
    simp

/-- **A text that is unsplit once its complete elements are gone has no unsafe tag left.** -/
theorem not_hasUnsafeTag_strip {html : String}
    (h : Unsplit (stripElements .iframe (stripElements .style (stripElements .script html.toList)))) :
    ¬HasUnsafeTag (strip html).toList := by
  rw [strip, String.toList_ofList, stripChars]
  exact not_hasUnsafeTag_stripTags h

/-- An opening tag without an end is removed up to the end of the text. -/
theorem not_hasUnsafeTag_strip_unterminated :
    Unsplit (stripElements .iframe (stripElements .style (stripElements .script "<p>a</p><script src=x />".toList))) ∧
      ¬HasUnsafeTag (strip "<p>a</p><script src=x />").toList := by
  have h : Unsplit (stripElements .iframe (stripElements .style (stripElements .script
      "<p>a</p><script src=x />".toList))) := by decide +kernel
  exact ⟨h, not_hasUnsafeTag_strip h⟩

/-- **A tag that is cut off by another is completed when that one is removed.** -/
theorem hasUnsafeTag_strip_split :
    strip "<scr<script>ipt>" = "<script>" ∧ HasUnsafeTag (strip "<scr<script>ipt>").toList := by
  decide +kernel

end FormTemplate.Markup
