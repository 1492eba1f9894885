import FormTemplate.Items.Repair

/-!
# Where repair changes a text

Repair replaces bare code units and copies everything else. A text without one comes back as it is, and every other text
becomes shorter.

* `isSome_bareRun?_iff` : what makes a run of the text behind a `u`;
* `HasBareRun` : a code unit stands in the text, and no backslash in front of it;
* `repair_eq_self` : repair changes no text without one;
* `length_repair_le`, `not_hasBareRun_of_length` : it lengthens none, and a text that keeps its length has none;
* `repair_eq_self_iff` : so the texts without one are those that it leaves as they are.
-/

set_option autoImplicit false

namespace FormTemplate.Items

open Text (hexFour?)

variable {escaped : Bool} {c d : Char} {n : Nat} {r rest s t : List Char}

/-! ## Runs -/

/-- What a run needs behind its `u`: the digits of a character, or those of both halves of a pair. -/
theorem isSome_bareRun?_iff : (bareRun? s).isSome = true ↔ ∃ m rest, hexFour? s = some (m, rest) ∧
    ((Json.isHighSurrogate m = false ∧ Json.isLowSurrogate m = false) ∨
      (Json.isHighSurrogate m = true ∧
        ∃ t n rest', rest = 'u' :: t ∧ hexFour? t = some (n, rest') ∧ Json.isLowSurrogate n = true)) := by
  constructor
  · intro h
    unfold bareRun? at h
    split at h
    · cases h
    rename_i m rest hm
    refine ⟨m, rest, hm, ?_⟩
    split at h
    · rename_i hhigh
      refine .inr ⟨hhigh, ?_⟩
      split at h
      · rename_i t
        split at h
        · rename_i n rest' hn
          split at h
          · rename_i hlow
            exact ⟨t, n, rest', rfl, hn, hlow⟩
          · cases h
        · cases h
      · cases h
    · rename_i hhigh
      split at h
      · cases h
      · rename_i hlow
        exact .inl ⟨Bool.eq_false_iff.mpr hhigh, Bool.eq_false_iff.mpr hlow⟩
  · rintro ⟨m, rest, hm, ⟨hhigh, hlow⟩ | ⟨hhigh, t, n, rest', rfl, hn, hlow⟩⟩
    · simp [bareRun?, hm, hhigh, hlow]
    · simp [bareRun?, hm, hhigh, hn, hlow]

theorem bareRun?_of_lt (h : hexFour? s = some (n, t)) (hn : n < 0xD800) : bareRun? s = some (Char.ofNat n, t) := by
  have hhigh : Json.isHighSurrogate n = false := by simp [Json.isHighSurrogate]; omega
  have hlow : Json.isLowSurrogate n = false := by simp [Json.isLowSurrogate]; omega
  simp [bareRun?, h, hhigh, hlow]

/-- Somewhere in the text a `u` with no backslash in front of it begins a code unit. -/
def HasBareRun (s : List Char) : Prop :=
  ∃ before after, s = before ++ 'u' :: after ∧ before.getLast? ≠ some '\\' ∧ (bareRun? after).isSome = true

/-- Whether a text holds a bare run shows at its finitely many cuts. -/
theorem hasBareRun_iff : HasBareRun s ↔ ∃ i ∈ List.range s.length,
    (s.drop i).head? = some 'u' ∧ (s.take i).getLast? ≠ some '\\' ∧ (bareRun? (s.drop (i + 1))).isSome = true := by
  constructor
  · rintro ⟨before, after, rfl, hlast, hrun⟩
    refine ⟨before.length, List.mem_range.mpr (by simp), by simp, by simpa using hlast, ?_⟩
    rw [← List.drop_drop, List.drop_left]
    exact hrun
  · rintro ⟨i, -, hhead, hlast, hrun⟩
    obtain ⟨after, hafter⟩ := List.head?_eq_some_iff.mp hhead
    refine ⟨s.take i, after, by rw [← hafter, List.take_append_drop], hlast, ?_⟩
    rw [← List.drop_drop, hafter] at hrun
    exact hrun

instance (s : List Char) : Decidable (HasBareRun s) := decidable_of_iff _ hasBareRun_iff.symm

/-- No code unit of the text is bare. Where a backslash stands in front of the text, one at its start is not, which is
why the start is told apart. -/
structure NoBareRun (escaped : Bool) (s : List Char) : Prop where
  start : escaped = false → ∀ after, s = 'u' :: after → bareRun? after = none
  inner : ∀ before c after, s = before ++ c :: 'u' :: after → c ≠ '\\' → bareRun? after = none

theorem noBareRun_cons_iff :
    NoBareRun escaped (c :: r) ↔ (escaped = false → c = 'u' → bareRun? r = none) ∧ NoBareRun (c == '\\') r := by
  constructor
  · intro h
    refine ⟨fun hescaped hu => h.start hescaped r (by rw [hu]), ?_, ?_⟩
    · intro hc after hr
      exact h.inner [] c after (by rw [hr]; rfl) (by simpa using hc)
    · intro before d after hr
      exact h.inner (c :: before) d after (by rw [hr]; rfl)
  · rintro ⟨hstart, hrest⟩
    refine ⟨?_, ?_⟩
    · rintro hescaped after heq
      cases heq
      exact hstart hescaped rfl
    · intro before d after heq hd
      cases before with
      | nil =>
        cases heq
        exact hrest.start (by simpa using hd) after rfl
      | cons b before =>
        injection heq with _ heq
        exact hrest.inner before d after heq hd

theorem noBareRun_iff : NoBareRun false s ↔ ¬HasBareRun s := by
  constructor
  · rintro h ⟨before, after, rfl, hlast, hrun⟩
    have hnone : bareRun? after = none := by
      rcases List.eq_nil_or_concat before with rfl | ⟨init, c, rfl⟩
      · exact h.start rfl after rfl
      · exact h.inner init c after (by simp) (by simpa using hlast)
    rw [hnone] at hrun
    cases hrun
  · intro h
    have hnone : ∀ before after, s = before ++ 'u' :: after → before.getLast? ≠ some '\\' →
        bareRun? after = none := by
      intro before after hs hlast
      rw [← Option.not_isSome_iff_eq_none]
      exact fun hsome => h ⟨before, after, hs, hlast, hsome⟩
    refine ⟨fun _ after hs => hnone [] after hs (by simp), ?_⟩
    intro before c after hs hc
    exact hnone (before ++ [c]) after (by simpa using hs) (by simpa using hc)

/-! ## Repair -/

theorem repairFrom_run (h : bareRun? r = some (d, rest)) :
    repairFrom false ('u' :: r) = d :: repairFrom false rest := by
  rw [repairFrom, if_pos ⟨rfl, rfl⟩]
  split
  · rename_i hrun
    rw [h] at hrun
    cases hrun
    rfl
  · rename_i hrun
    rw [h] at hrun
    cases hrun

theorem repairFrom_cons (h : escaped = false → c = 'u' → bareRun? r = none) :
    repairFrom escaped (c :: r) = c :: repairFrom (c == '\\') r := by
  rw [repairFrom]
  split
  · rename_i hu
    split
    · rename_i hrun
      rw [h hu.2 hu.1] at hrun
      cases hrun
    · rw [hu.1]
      rfl
  · rfl
/-- Without bare runs nothing is replaced. -/
theorem repairFrom_eq_self (h : NoBareRun escaped s) : repairFrom escaped s = s := by
  induction s generalizing escaped with
  | nil => rw [repairFrom]
  | cons c r ih =>
    obtain ⟨hnone, hrest⟩ := noBareRun_cons_iff.mp h
    rw [repairFrom_cons hnone, ih hrest]

theorem length_repairFrom_le (escaped : Bool) (s : List Char) : (repairFrom escaped s).length ≤ s.length := by
  fun_induction repairFrom escaped s with
  | case1 => exact Nat.le_refl _
  | case2 escaped c r hu d rest hrun ih =>
    have := length_bareRun?_rest hrun
    simp only [List.length_cons]
    omega
  | case3 escaped c r hu hrun ih => exact Nat.succ_le_succ ih
  | case4 escaped c r hu ih => exact Nat.succ_le_succ ih

/-- A repair that shortens nothing has met no bare run, because a run is longer than the character it stands for. -/
theorem noBareRun_of_length (h : (repairFrom escaped s).length = s.length) : NoBareRun escaped s := by
  fun_induction repairFrom escaped s with
  | case1 => exact ⟨by simp, by simp⟩
  | case2 escaped c r hu d rest hrun ih =>
    have hle := length_repairFrom_le false rest
    have hlt := length_bareRun?_rest hrun
    simp only [List.length_cons] at h
    omega
  | case3 escaped c r hu hrun ih =>
    have hslash : (c == '\\') = false := by rw [hu.1]; rfl
    refine noBareRun_cons_iff.mpr ⟨fun _ _ => hrun, ?_⟩
    rw [hslash]
    exact ih (Nat.succ.inj h)
  | case4 escaped c r hu ih =>
    exact noBareRun_cons_iff.mpr ⟨fun hescaped hc => absurd ⟨hc, hescaped⟩ hu, ih (Nat.succ.inj h)⟩

/-- **Repair changes no text without a bare run.** -/
theorem repair_eq_self {s : String} (h : ¬HasBareRun s.toList) : repair s = s := by
  rw [repair, repairFrom_eq_self (noBareRun_iff.mpr h), String.ofList_toList]

theorem length_repair_le (s : String) : (repair s).toList.length ≤ s.toList.length := by
  rw [repair, String.toList_ofList]
  exact length_repairFrom_le false s.toList

/-- **A text that repair leaves as long as it is has no bare run.** -/
theorem not_hasBareRun_of_length {s : String} (h : (repair s).toList.length = s.toList.length) :
    ¬HasBareRun s.toList := by
  rw [repair, String.toList_ofList] at h
  exact noBareRun_iff.mp (noBareRun_of_length h)

/-- **Repair leaves exactly the texts without a bare run as they are.** -/
theorem repair_eq_self_iff {s : String} : repair s = s ↔ ¬HasBareRun s.toList :=
  ⟨fun h => not_hasBareRun_of_length (by rw [h]), repair_eq_self⟩

end FormTemplate.Items
