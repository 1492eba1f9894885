import FormTemplate.Proofs.Markup.Elements
import FormTemplate.Validation

/-!
# The shapes of addresses

Fields for addresses ask for a shape, not for an address that exists. An email address has an at sign and, behind it, a
dot, with something in front of, between and behind the two. A web address has one of two schemes and goes on with
something that can begin a host. White space stands in neither.

* `IsEmailAddress`, `IsWebAddress` : the shapes, by their parts;
* `isEmail_iff`, `isUrl_iff` : the checks ask for the shapes.
-/

set_option autoImplicit false

namespace FormTemplate

variable {c : Char} {s r : List Char}

/-! ## Email addresses -/

/-- A part of an email address: some characters, none of them an at sign or white space. -/
def IsAddressPart (s : List Char) : Prop := s ≠ [] ∧ ∀ c ∈ s, c ≠ '@' ∧ Text.isBlank c = false

/-- A user, an at sign, a host and, behind a dot, its ending. -/
def IsEmailAddress (s : List Char) : Prop :=
  ∃ user host ending, s = user ++ '@' :: (host ++ '.' :: ending) ∧
    IsAddressPart user ∧ IsAddressPart host ∧ IsAddressPart ending

theorem isAddressChar_iff : isAddressChar c = true ↔ c ≠ '@' ∧ Text.isBlank c = false := by
  simp [isAddressChar]

/-- A character stands within a text if something is in front of it and something behind it. -/
theorem mem_dropLast_tail_iff :
    c ∈ s.tail.dropLast ↔ ∃ before after, before ≠ [] ∧ after ≠ [] ∧ s = before ++ c :: after := by
  constructor
  · intro h
    cases s with
    | nil => cases h
    | cons first rest =>
      obtain ⟨before, after, hsplit⟩ := List.append_of_mem h
      rw [List.tail_cons] at h hsplit
      have hrest : rest ≠ [] := by
        rintro rfl
        cases h
      refine ⟨first :: before, after ++ [rest.getLast hrest], by simp, by simp, ?_⟩
      conv => lhs; rw [← List.dropLast_append_getLast hrest, hsplit]
      simp
  · rintro ⟨before, after, hbefore, hafter, rfl⟩
    cases before with
    | nil => exact absurd rfl hbefore
    | cons first before => simp [List.dropLast_append_of_ne_nil, List.dropLast_cons_of_ne_nil hafter]

/-- **The check of email addresses asks for their shape.** -/
theorem isEmail_iff : isEmail s = true ↔ IsEmailAddress s := by
  unfold isEmail
  constructor
  · intro h
    split at h
    · rename_i domain hdomain
      simp only [Bool.and_eq_true, Bool.not_eq_true', List.isEmpty_eq_false_iff, List.all_eq_true,
        List.contains_iff_mem, List.drop_one] at h
      obtain ⟨⟨huser, hall⟩, hdot⟩ := h
      obtain ⟨host, ending, hhost, hending, rfl⟩ := mem_dropLast_tail_iff.mp hdot
      refine ⟨s.takeWhile isAddressChar, host, ending, ?_, ⟨huser, fun c hc => ?_⟩, ⟨hhost, fun c hc => ?_⟩,
        ⟨hending, fun c hc => ?_⟩⟩
      · rw [← hdomain, List.takeWhile_append_dropWhile]
      · exact isAddressChar_iff.mp (List.all_eq_true.mp List.all_takeWhile c hc)
      · exact isAddressChar_iff.mp (hall c (by simp [hc]))
      · exact isAddressChar_iff.mp (hall c (by simp [hc]))
    · cases h
  · rintro ⟨user, host, ending, rfl, ⟨huser, huserAll⟩, ⟨hhost, hhostAll⟩, ⟨hending, hendingAll⟩⟩
    have hrun : ∀ c ∈ user, isAddressChar c = true := fun c hc => isAddressChar_iff.mpr (huserAll c hc)
    have hstop : ¬isAddressChar '@' = true := by decide
    have hdomain : ∀ c ∈ host ++ '.' :: ending, isAddressChar c = true := by
      intro c hc
      rcases List.mem_append.mp hc with hc | hc
      · exact isAddressChar_iff.mpr (hhostAll c hc)
      · rcases List.mem_cons.mp hc with rfl | hc
        · decide
        · exact isAddressChar_iff.mpr (hendingAll c hc)
    have hdot : '.' ∈ (host ++ '.' :: ending).tail.dropLast :=
      mem_dropLast_tail_iff.mpr ⟨host, ending, hhost, hending, rfl⟩
    rw [List.dropWhile_append_of_pos hrun, List.dropWhile_cons_of_neg hstop, List.takeWhile_append_of_pos hrun]
    simp only [Bool.and_eq_true, Bool.not_eq_true', List.isEmpty_eq_false_iff, List.all_eq_true,
      List.contains_iff_mem, List.drop_one]
    exact ⟨⟨List.append_ne_nil_of_left_ne_nil huser _, hdomain⟩, hdot⟩

/-! ## Web addresses -/

/-- A scheme in any case, and behind it a text without white space that does not begin with one of a few signs. -/
def IsWebAddress (s : List Char) : Prop :=
  ∃ scheme first rest, s = scheme ++ [':', '/', '/'] ++ first :: rest ∧
    (Markup.Spells ['h', 't', 't', 'p'] scheme ∨ Markup.Spells ['h', 't', 't', 'p', 's'] scheme) ∧
    first ∉ ['/', '$', '.', '?', '#'] ∧ ∀ c ∈ first :: rest, Text.isBlank c = false

/-- Behind the letters of the shorter scheme, the separator stands at once or after an `s`. -/
theorem afterScheme?_append {word : List Char} (h : Markup.Spells ['h', 't', 't', 'p'] word) :
    afterScheme? (word ++ ':' :: '/' :: '/' :: r) = some r ∧
      (Markup.isLetter 's' c = true → afterScheme? (word ++ c :: ':' :: '/' :: '/' :: r) = some r) := by
  rcases h with _ | ⟨hh, _ | ⟨ht₁, _ | ⟨ht₂, _ | ⟨hp, _ | _⟩⟩⟩⟩
  simp only [Markup.isLetter, Char.reduceBEq, Bool.false_and, Bool.or_false, Bool.true_and] at hh ht₁ ht₂ hp ⊢
  unfold afterScheme?
  simp only [List.cons_append, List.nil_append, hh, ht₁, ht₂, hp, Bool.and_self, if_true, true_and]
  exact fun hs => if_pos hs

theorem afterScheme?_eq_some_iff : afterScheme? s = some r ↔ ∃ scheme, s = scheme ++ [':', '/', '/'] ++ r ∧
    (Markup.Spells ['h', 't', 't', 'p'] scheme ∨ Markup.Spells ['h', 't', 't', 'p', 's'] scheme) := by
  constructor
  · intro h
    unfold afterScheme? at h
    split at h
    · rename_i h₁ t₁ t₂ p q
      split at h
      · rename_i hletters
        have hhttp : Markup.Spells ['h', 't', 't', 'p'] [h₁, t₁, t₂, p] := by
          simpa [Markup.Spells, Markup.isLetter, and_assoc] using hletters
        split at h
        · obtain rfl := Option.some.inj h
          exact ⟨[h₁, t₁, t₂, p], rfl, .inl hhttp⟩
        · rename_i c rest
          split at h
          · rename_i hs
            obtain rfl := Option.some.inj h
            have hsecure : Markup.isLetter 's' c = true := by simpa [Markup.isLetter] using hs
            exact ⟨[h₁, t₁, t₂, p] ++ [c], rfl, .inr (List.rel_append hhttp (.cons hsecure .nil))⟩
          · cases h
        · cases h
      · cases h
    · cases h
  · rintro ⟨scheme, rfl, hscheme | hscheme⟩
    · rw [List.append_assoc]
      exact (afterScheme?_append (c := 's') hscheme).1
    · obtain _ | ⟨hh, _ | ⟨ht₁, _ | ⟨ht₂, _ | ⟨hp, _ | ⟨hs, ⟨⟩⟩⟩⟩⟩⟩ := hscheme
      exact (afterScheme?_append (.cons hh (.cons ht₁ (.cons ht₂ (.cons hp .nil))))).2 hs

/-- **The check of web addresses asks for their shape.** -/
theorem isUrl_iff : isUrl s = true ↔ IsWebAddress s := by
  unfold isUrl
  constructor
  · intro h
    split at h
    · rename_i first rest hscheme
      obtain ⟨scheme, hs, hletters⟩ := afterScheme?_eq_some_iff.mp hscheme
      refine ⟨scheme, first, rest, hs, hletters, ?_⟩
      simpa [and_assoc, and_left_comm, and_comm] using h
    · cases h
  · rintro ⟨scheme, first, rest, hs, hletters, hfirst, hblank⟩
    rw [afterScheme?_eq_some_iff.mpr ⟨scheme, hs, hletters⟩]
    simp_all

end FormTemplate
