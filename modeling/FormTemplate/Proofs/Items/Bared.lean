import FormTemplate.Proofs.Items.Encoding
import FormTemplate.Proofs.Items.Repair

/-!
# Characters that stand bare

Quotes, apostrophes, angle brackets and ampersands are at risk in the text of a list: each is written with four digits,
and when the escape loses its backslash, the string holds the bare code of the character in its place. Repair reads such
codes back. It mistakes nothing beside them for a part of one, because a code begins with a letter that is no digit and
stands for no half of a pair. Only a backslash in front of a code hides it.

* `Bared` : some of the characters at risk of a text stand bare;
* `Bared.isSome_bareRun?` : no run comes about beside them;
* `Bared.repairFrom_eq` : repair makes the text of what is left of it;
* `Recoverable` : the values of which this holds.
-/

set_option autoImplicit false

namespace FormTemplate.Items

open Text (hexFour?)

variable {e : Char × List Char} {c d : Char} {n : Nat} {s t : List Char}

/-! ## Codes -/

theorem flatMap_escapeChar_of_mem_bareCodes : ∀ e ∈ bareCodes, e.2.flatMap escapeChar = e.2 := by decide +kernel

theorem ne_slash_of_mem_bareCodes : ∀ e ∈ bareCodes, e.1 ≠ '\\' := by decide +kernel

/-- A code in front of any text. -/
theorem append_of_mem_bareCodes (he : e ∈ bareCodes) (t : List Char) :
    ∃ r, e.2 ++ t = 'u' :: r ∧ hexFour? r = some (e.1.toNat, t) := by
  obtain ⟨a, b, d, f, hcode, hvalue⟩ := exists_of_mem_bareCodes he
  refine ⟨a :: b :: d :: f :: t, ?_, Text.hexFour?_eq_some_iff.mpr ⟨a, b, d, f, rfl, hvalue⟩⟩
  rw [hcode]
  rfl

/-! ## Bared characters -/

/-- **Some characters at risk stand as their bare codes**, and every other character stays. -/
inductive Bared : List Char → List Char → Prop
  | nil : Bared [] []
  | keep {s t : List Char} (c : Char) : Bared s t → Bared (c :: s) (c :: t)
  | bare {e : Char × List Char} {s t : List Char} : e ∈ bareCodes → Bared s t → Bared (e.1 :: s) (e.2 ++ t)

namespace Bared

theorem cases_cons (h : Bared s (d :: t)) :
    (∃ s', s = d :: s' ∧ Bared s' t) ∨ d = 'u' ∧ ∃ e ∈ bareCodes, ∃ t', hexFour? t = some (e.1.toNat, t') := by
  generalize htext : d :: t = w at h
  cases h with
  | nil => cases htext
  | keep c h =>
    cases htext
    exact .inl ⟨_, rfl, h⟩
  | @bare e s t' he h =>
    obtain ⟨r, hu, hunit⟩ := append_of_mem_bareCodes he t'
    rw [hu] at htext
    cases htext
    exact .inr ⟨rfl, e, he, t', hunit⟩

/-- No digit comes from a bared character, but for those behind its `u`. -/
theorem cons_hexDigit (hd : (Text.hexDigit? d).isSome = true) (h : Bared s (d :: t)) :
    ∃ s', s = d :: s' ∧ Bared s' t := by
  rcases h.cases_cons with h | ⟨rfl, -⟩
  · exact h
  · exact absurd hd (by decide)

theorem exists_hexFour? (h : Bared s t) {t' : List Char} (ht : hexFour? t = some (n, t')) :
    ∃ s', hexFour? s = some (n, s') ∧ Bared s' t' := by
  obtain ⟨a, b, d, f, rfl, hvalue⟩ := Text.hexFour?_eq_some_iff.mp ht
  have hdigit := Text.isSome_hexDigit?_of_hexValue? hvalue
  obtain ⟨s₁, rfl, h₁⟩ := h.cons_hexDigit (hdigit a (by simp))
  obtain ⟨s₂, rfl, h₂⟩ := h₁.cons_hexDigit (hdigit b (by simp))
  obtain ⟨s₃, rfl, h₃⟩ := h₂.cons_hexDigit (hdigit d (by simp))
  obtain ⟨s₄, rfl, h₄⟩ := h₃.cons_hexDigit (hdigit f (by simp))
  exact ⟨s₄, Text.hexFour?_eq_some_iff.mpr ⟨a, b, d, f, rfl, hvalue⟩, h₄⟩

/-- **Baring characters behind a `u` makes no run of it.** -/
theorem isSome_bareRun? (h : Bared s t) (hrun : (bareRun? t).isSome = true) : (bareRun? s).isSome = true := by
  obtain ⟨m, t', ht, hm⟩ := isSome_bareRun?_iff.mp hrun
  obtain ⟨s', hs, h'⟩ := h.exists_hexFour? ht
  refine isSome_bareRun?_iff.mpr ⟨m, s', hs, ?_⟩
  rcases hm with hm | ⟨hhigh, t'', n, rest, rfl, hsecond, hlow⟩
  · exact .inl hm
  · rcases h'.cases_cons with ⟨s'', rfl, h''⟩ | ⟨-, e, he, t₃, hunit⟩
    · obtain ⟨s₃, hs₃, -⟩ := h''.exists_hexFour? hsecond
      exact .inr ⟨hhigh, s'', n, s₃, rfl, hs₃, hlow⟩
    · -- a bared character is no half of a pair
      rw [hsecond] at hunit
      cases hunit
      have hlt := lt_of_mem_bareCodes e he
      simp only [Json.isLowSurrogate, Bool.and_eq_true, decide_eq_true_eq] at hlow
      omega

theorem bareRun?_eq_none (h : Bared s t) (hs : bareRun? s = none) : bareRun? t = none := by
  rw [← Option.not_isSome_iff_eq_none] at hs ⊢
  exact fun hrun => hs (h.isSome_bareRun? hrun)

/-- **Repair reads bared characters back**, and no other run. -/
theorem repairFrom_eq {escaped : Bool} (h : Bared s t) (hrun : NoBareRun escaped s)
    (hslash : ∀ e ∈ bareCodes, ¬['\\', e.1] <:+: s) (hstart : escaped = true → ∀ e ∈ bareCodes, s.head? ≠ some e.1) :
    repairFrom escaped t = s := by
  induction h generalizing escaped with
  | nil => rw [repairFrom]
  | @keep s t c h ih =>
    obtain ⟨hnone, hrest⟩ := noBareRun_cons_iff.mp hrun
    rw [repairFrom_cons fun hescaped hu => h.bareRun?_eq_none (hnone hescaped hu), ih hrest]
    · exact fun e he hinfix => hslash e he (List.infix_cons hinfix)
    · intro hc e he hhead
      obtain ⟨r, rfl⟩ := List.head?_eq_some_iff.mp hhead
      rw [beq_iff_eq.mp hc] at hslash
      exact hslash e he ⟨[], r, rfl⟩
  | @bare e s t he h ih =>
    obtain rfl : escaped = false := by
      cases escaped with
      | false => rfl
      | true => exact absurd rfl (hstart rfl e he)
    obtain ⟨r, hu, hunit⟩ := append_of_mem_bareCodes he t
    have hc : (e.1 == '\\') = false := beq_false_of_ne (ne_slash_of_mem_bareCodes e he)
    have hrest := (noBareRun_cons_iff.mp hrun).2
    rw [hc] at hrest
    rw [hu, repairFrom_run (bareRun?_of_lt hunit (lt_of_mem_bareCodes e he)), Char.ofNat_toNat, ih hrest]
    · exact fun e he hinfix => hslash e he (List.infix_cons hinfix)
    · intro hfalse
      cases hfalse

end Bared

/-- A value that comes back from a text without backslashes: repair keeps it, and no backslash stands in front of a
character at risk, which would hide the bare code from repair. -/
structure Recoverable (v : String) : Prop where
  kept : repair v = v
  unslashed : ∀ e ∈ bareCodes, ¬['\\', e.1] <:+: v.toList

/-- **Repair makes the value of what is left of it.** -/
theorem Recoverable.repair_eq {v w : String} (hv : Recoverable v) (h : Bared v.toList w.toList) : repair w = v := by
  have hrun : NoBareRun false v.toList := noBareRun_iff.mpr (repair_eq_self_iff.mp hv.kept)
  rw [repair, h.repairFrom_eq hrun hv.unslashed (by simp), String.ofList_toList]

end FormTemplate.Items
