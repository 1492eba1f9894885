import FormTemplate.Pattern.Regex

/-!
# What matching finds

What an expression matches is said once more without derivatives: an expression matches a piece of a text between
two characters, either of which is absent at an end of the text. Matching by partial derivatives finds the same, if
no repetition asks for more pieces than it allows.

* `Regex.Matches` : an expression matches a piece of a text at its place.
* `Regex.WellFormed` : the bounds of all repetitions are in order.
* `Regex.partials_iff` : what may follow a character.
* `Regex.matchesWhole_iff`, `Regex.search_iff` : matching a whole text, and some piece of it.
-/

set_option autoImplicit false

namespace FormTemplate.Pattern

open Unicode (CodeSet)

/-! ## Pieces of a text -/

/-- A number of pieces in a row, each with the characters around it. -/
def Repeated (P : Option Char → List Char → Option Char → Prop) :
    Nat → Option Char → List Char → Option Char → Prop
  | 0, _, t, _ => t = []
  | k + 1, previous, t, next =>
    ∃ u v, t = u ++ v ∧ P previous u (v.head?.or next) ∧ Repeated P k (u.getLast?.or previous) v next

namespace Regex

variable {r s q : Regex} {previous next : Option Char} {c : Char} {t u v : List Char}

/-- The expression matches a piece of a text between two characters. -/
def Matches : Regex → Option Char → List Char → Option Char → Prop
  | .empty, _, t, _ => t = []
  | .set s, _, t, _ => ∃ c, t = [c] ∧ s.contains c
  | .assertion a, previous, t, next => t = [] ∧ a.holds previous next
  | .cat r s, previous, t, next =>
    ∃ u v, t = u ++ v ∧ r.Matches previous u (v.head?.or next) ∧ s.Matches (u.getLast?.or previous) v next
  | .alt r s, previous, t, next => r.Matches previous t next ∨ s.Matches previous t next
  | .times r min max, previous, t, next =>
    ∃ k, min ≤ k ∧ (∀ m, max = some m → k ≤ m) ∧ Repeated r.Matches k previous t next

/-- The bounds of all repetitions are in order. -/
def WellFormed : Regex → Prop
  | .cat r s => r.WellFormed ∧ s.WellFormed
  | .alt r s => r.WellFormed ∧ s.WellFormed
  | .times r min max => r.WellFormed ∧ ∀ m, max = some m → min ≤ m
  | _ => True

/-! ## The empty piece -/

theorem repeated_nil {P : Option Char → List Char → Option Char → Prop} {k : Nat} (h : P previous [] next) :
    Repeated P k previous [] next := by
  induction k with
  | zero => rfl
  | succ k ih => exact ⟨[], [], rfl, h, ih⟩

theorem nullable_iff (hr : r.WellFormed) : nullable previous next r ↔ r.Matches previous [] next := by
  induction r with
  | empty => simp [nullable, Matches]
  | set s => simp [nullable, Matches]
  | assertion a => simp [nullable, Matches]
  | cat r s ihr ihs =>
    simp only [nullable, Bool.and_eq_true, ihr hr.1, ihs hr.2, Matches]
    constructor
    · exact fun ⟨h₁, h₂⟩ => ⟨[], [], rfl, h₁, h₂⟩
    · rintro ⟨u, v, heq, h₁, h₂⟩
      obtain ⟨rfl, rfl⟩ := List.append_eq_nil_iff.mp heq.symm
      exact ⟨h₁, h₂⟩
  | alt r s ihr ihs => simp only [nullable, Bool.or_eq_true, ihr hr.1, ihs hr.2, Matches]
  | times r min max ih =>
    simp only [nullable, Bool.or_eq_true, beq_iff_eq, ih hr.1, Matches]
    constructor
    · rintro (rfl | h)
      · exact ⟨0, Nat.le_refl 0, fun _ _ => Nat.zero_le _, rfl⟩
      · exact ⟨min, Nat.le_refl min, hr.2, repeated_nil h⟩
    · rintro ⟨k, hk, -, h⟩
      cases k with
      | zero => exact .inl (Nat.le_zero.mp hk)
      | succ k =>
        obtain ⟨u, v, heq, hu, -⟩ := h
        obtain ⟨rfl, rfl⟩ := List.append_eq_nil_iff.mp heq.symm
        exact .inr hu

/-! ## Partial derivatives -/

theorem matches_cat_empty : (cat .empty s).Matches previous t next ↔ s.Matches previous t next := by
  constructor
  · rintro ⟨u, v, rfl, rfl, h⟩
    exact h
  · exact fun h => ⟨[], t, rfl, rfl, h⟩

theorem matches_follow : (follow s q).Matches previous t next ↔ (cat q s).Matches previous t next := by
  cases q with
  | empty => exact matches_cat_empty.symm
  | _ => exact Iff.rfl

/-- A row of pieces that is not empty starts with empty pieces and one that is not. -/
theorem repeated_cons {P : Option Char → List Char → Option Char → Prop} {k : Nat}
    (h : Repeated P k previous (c :: t) next) :
    ∃ l u v, t = u ++ v ∧ l < k ∧ (l = 0 ∨ P previous [] (some c)) ∧ P previous (c :: u) (v.head?.or next) ∧
      Repeated P (k - 1 - l) (u.getLast?.or (some c)) v next := by
  induction k with
  | zero => cases h
  | succ k ih =>
    obtain ⟨u, v, heq, hu, hv⟩ := h
    cases u with
    | nil =>
      obtain rfl : c :: t = v := heq
      obtain ⟨l, u, v, rfl, hl, -, hcons, hrest⟩ := ih hv
      refine ⟨l + 1, u, v, rfl, by omega, .inr hu, hcons, ?_⟩
      rwa [show k + 1 - 1 - (l + 1) = k - 1 - l by omega]
    | cons d u =>
      obtain ⟨rfl, rfl⟩ := List.cons.inj heq
      refine ⟨0, u, v, rfl, Nat.zero_lt_succ k, .inl rfl, hu, ?_⟩
      simpa [List.getLast?_cons] using hv

/-- Empty pieces in front of a row make it longer. -/
theorem repeated_add {P : Option Char → List Char → Option Char → Prop} {k : Nat} (l : Nat)
    (hP : P previous [] (t.head?.or next)) (h : Repeated P k previous t next) : Repeated P (l + k) previous t next := by
  induction l with
  | zero => rwa [Nat.zero_add]
  | succ l ih =>
    rw [Nat.succ_add]
    exact ⟨[], t, rfl, hP, ih⟩

theorem WellFormed.follow (hq : q.WellFormed) (hs : s.WellFormed) : (follow s q).WellFormed := by
  cases q with
  | empty => exact hs
  | _ => exact ⟨hq, hs⟩

theorem WellFormed.partials (hr : r.WellFormed) (hq : q ∈ partials previous c r) : q.WellFormed := by
  induction r generalizing q with
  | empty => simp [Regex.partials] at hq
  | set s =>
    simp only [Regex.partials] at hq
    split at hq
    · rw [List.mem_singleton.mp hq]
      trivial
    · cases hq
  | assertion a => simp [Regex.partials] at hq
  | cat r s ihr ihs =>
    simp only [Regex.partials, List.mem_append, List.mem_map] at hq
    rcases hq with ⟨p, hp, rfl⟩ | hq
    · exact (ihr hr.1 hp).follow hr.2
    · split at hq
      · exact ihs hr.2 hq
      · cases hq
  | alt r s ihr ihs =>
    simp only [Regex.partials, List.mem_append] at hq
    exact hq.elim (ihr hr.1) (ihs hr.2)
  | times r min max ih =>
    simp only [Regex.partials] at hq
    split at hq
    · cases hq
    · obtain ⟨p, hp, rfl⟩ := List.mem_map.mp hq
      refine (ih hr.1 hp).follow ⟨hr.1, fun m hm => ?_⟩
      obtain ⟨l, hl, rfl⟩ := Option.map_eq_some_iff.mp hm
      have := hr.2 l hl
      split <;> omega

/-- What may follow a character in a piece. -/
theorem partials_iff (hr : r.WellFormed) :
    r.Matches previous (c :: t) next ↔ ∃ q ∈ partials previous c r, q.Matches (some c) t next := by
  induction r generalizing t next with
  | empty => simp [partials, Matches]
  | set s =>
    simp only [partials, Matches, List.cons.injEq]
    constructor
    · rintro ⟨d, ⟨rfl, rfl⟩, hd⟩
      rw [if_pos hd]
      exact ⟨.empty, List.mem_singleton_self _, rfl⟩
    · rintro ⟨q, hq, h⟩
      split at hq
      · rw [List.mem_singleton.mp hq] at h
        exact ⟨c, ⟨rfl, h⟩, ‹_›⟩
      · cases hq
  | assertion a => simp [partials, Matches]
  | cat r s ihr ihs =>
    simp only [partials, List.mem_append, List.mem_map]
    constructor
    · rintro ⟨u, v, heq, hu, hv⟩
      cases u with
      | nil =>
        obtain rfl : c :: t = v := heq
        have hn : nullable previous (some c) r := (nullable_iff hr.1).mpr hu
        rw [if_pos hn]
        obtain ⟨q, hq, h⟩ := (ihs hr.2).mp hv
        exact ⟨q, .inr hq, h⟩
      | cons d u =>
        obtain ⟨rfl, rfl⟩ := List.cons.inj heq
        obtain ⟨q, hq, h⟩ := (ihr hr.1).mp hu
        refine ⟨follow s q, .inl ⟨q, hq, rfl⟩, matches_follow.mpr ⟨u, v, rfl, h, ?_⟩⟩
        simpa [List.getLast?_cons] using hv
    · rintro ⟨q, ⟨p, hp, rfl⟩ | hq, h⟩
      · obtain ⟨u, v, rfl, hu, hv⟩ := matches_follow.mp h
        refine ⟨c :: u, v, rfl, (ihr hr.1).mpr ⟨p, hp, hu⟩, ?_⟩
        simpa [List.getLast?_cons] using hv
      · split at hq
        · exact ⟨[], c :: t, rfl, (nullable_iff hr.1).mp ‹_›, (ihs hr.2).mpr ⟨q, hq, h⟩⟩
        · cases hq
  | alt r s ihr ihs =>
    simp only [partials, List.mem_append, Matches, ihr hr.1, ihs hr.2, or_and_right, exists_or]
  | times r min max ih =>
    simp only [partials]
    constructor
    · rintro ⟨k, hmin, hmax, h⟩
      obtain ⟨l, u, v, rfl, hl, hempty, hu, hv⟩ := repeated_cons h
      have hzero : max ≠ some 0 := fun hm => by have := hmax 0 hm; omega
      obtain ⟨q, hq, hqu⟩ := (ih hr.1).mp hu
      rw [if_neg (by simpa using hzero)]
      refine ⟨_, List.mem_map_of_mem hq, matches_follow.mpr ⟨u, v, rfl, hqu, k - 1 - l, ?_, fun m hm => ?_, hv⟩⟩
      · split
        · exact Nat.zero_le _
        · have hl₀ : l = 0 := hempty.resolve_right fun he => ‹¬ _› ((nullable_iff hr.1).mpr he)
          omega
      · obtain ⟨b, hb, rfl⟩ := Option.map_eq_some_iff.mp hm
        have := hmax b hb
        omega
    · rintro ⟨q, hq, h⟩
      split at hq
      · cases hq
      rename_i hzero
      obtain ⟨p, hp, rfl⟩ := List.mem_map.mp hq
      obtain ⟨u, v, rfl, hu, k, hmin, hmax, hv⟩ := matches_follow.mp h
      have hrow : Repeated r.Matches (k + 1) previous (c :: (u ++ v)) next :=
        ⟨c :: u, v, rfl, (ih hr.1).mpr ⟨p, hp, hu⟩, by simpa [List.getLast?_cons] using hv⟩
      have hle (m : Nat) (hm : max = some m) : k + 1 ≤ m := by
        have := hmax (m - 1) (by rw [hm]; rfl)
        have : m ≠ 0 := fun hm₀ => hzero (by simp [hm, hm₀])
        omega
      by_cases hk : min ≤ k + 1
      · exact ⟨k + 1, hk, hle, hrow⟩
      · -- Pieces that are missing are empty ones at this place.
        have hempty : r.Matches previous [] (some c) := by
          by_cases hn : nullable previous (some c) r
          · exact (nullable_iff hr.1).mp hn
          · rw [if_neg hn] at hmin
            omega
        refine ⟨min - (k + 1) + (k + 1), by omega, fun m hm => ?_, repeated_add _ hempty hrow⟩
        have := hr.2 m hm
        omega

/-! ## Whole texts -/

theorem matchesFrom_iff {rs : List Regex} (hrs : ∀ r ∈ rs, r.WellFormed) :
    matchesFrom previous rs t ↔ ∃ r ∈ rs, r.Matches previous t none := by
  induction t generalizing previous rs with
  | nil =>
    simp only [matchesFrom, List.any_eq_true]
    exact exists_congr fun r => and_congr_right fun hr => nullable_iff (hrs r hr)
  | cons c t ih =>
    have hwf : ∀ q ∈ (rs.flatMap (partials previous c)).eraseDups, q.WellFormed := fun q hq => by
      obtain ⟨r, hr, hq⟩ := List.mem_flatMap.mp (List.mem_eraseDups.mp hq)
      exact (hrs r hr).partials hq
    rw [matchesFrom, ih hwf]
    simp only [List.mem_eraseDups, List.mem_flatMap]
    constructor
    · rintro ⟨q, ⟨r, hr, hq⟩, h⟩
      exact ⟨r, hr, (partials_iff (hrs r hr)).mpr ⟨q, hq, h⟩⟩
    · rintro ⟨r, hr, h⟩
      obtain ⟨q, hq, h⟩ := (partials_iff (hrs r hr)).mp h
      exact ⟨q, ⟨r, hr, hq⟩, h⟩

theorem matchesWhole_iff (hr : r.WellFormed) : r.matchesWhole t ↔ r.Matches none t none := by
  rw [matchesWhole, matchesFrom_iff (by simpa using hr)]
  simp

theorem contains_all (c : Char) : CodeSet.all.contains c := by
  have hvalid : c.toNat < 0xd800 ∨ 0xdfff < c.toNat ∧ c.toNat < 0x110000 := c.valid
  simp only [CodeSet.contains, CodeSet.containsCode, CodeSet.all, List.any_cons, List.any_nil, Bool.or_false,
    Bool.or_eq_true, Bool.and_eq_true, decide_eq_true_eq]
  omega

theorem matches_anything (previous next : Option Char) (t : List Char) : anything.Matches previous t next := by
  refine ⟨t.length, Nat.zero_le _, nofun, ?_⟩
  induction t generalizing previous with
  | nil => rfl
  | cons c t ih => exact ⟨[c], t, rfl, ⟨c, rfl, contains_all c⟩, ih _⟩

/-- Some piece of a text is found, with the characters around it. -/
theorem search_iff (hr : r.WellFormed) :
    r.search t ↔ ∃ u v w, t = u ++ (v ++ w) ∧ r.Matches u.getLast? v w.head? := by
  have hanything : anything.WellFormed := ⟨trivial, nofun⟩
  have hcat : (cat anything (cat r anything)).WellFormed := ⟨hanything, hr, hanything⟩
  rw [search, matchesWhole_iff hcat]
  constructor
  · rintro ⟨u, -, rfl, -, v, w, rfl, h, -⟩
    exact ⟨u, v, w, rfl, by simpa using h⟩
  · rintro ⟨u, v, w, rfl, h⟩
    exact ⟨u, v ++ w, rfl, matches_anything _ _ _, v, w, rfl, by simpa using h, matches_anything _ _ _⟩

end Regex

end FormTemplate.Pattern
