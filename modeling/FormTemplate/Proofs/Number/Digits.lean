import FormTemplate.Number.Decimal
import FormTemplate.Number.Shortest

/-!
# Written natural numbers

A natural number is written in decimal digits without a zero in front. The digits are worth the number, and zeros
in front of them change nothing of their worth.

* `digitsValue_natText` : the digits of a number are worth the number;
* `natText_eq_zero_cons` : only zero starts with the digit zero;
* `length_natText_le_iff` : how many digits a number needs;
* `digitsValue_replicate_zero` : zeros in front of digits.
-/

set_option autoImplicit false

namespace FormTemplate.Number

variable {n : Nat} {c : Char}

theorem natText_eq_toDigits (n : Nat) : natText n = Nat.toDigits 10 n := by
  rw [natText, Nat.repr_eq_ofList_toDigits, String.toList_ofList]

theorem natText_ne_nil (n : Nat) : natText n ≠ [] := by
  rw [natText_eq_toDigits]
  exact Nat.toDigits_ne_nil

theorem isDigit_of_mem_natText (h : c ∈ natText n) : c.isDigit = true := by
  rw [natText_eq_toDigits] at h
  exact Nat.isDigit_of_mem_toDigits (by decide) (by decide) h

theorem length_natText_le_iff {k : Nat} (hk : 0 < k) : (natText n).length ≤ k ↔ n < tenTo k := by
  rw [natText_eq_toDigits]
  exact Nat.length_toDigits_le_iff (by decide) hk

/-- What digits are worth is what the library counts them as. -/
theorem digitsValue_eq_ofDigitChars (s : List Char) : digitsValue s = Nat.ofDigitChars 10 s 0 := by
  rw [Nat.ofDigitChars_eq_foldl]
  rfl

/-- **The digits of a number are worth the number.** -/
theorem digitsValue_natText (n : Nat) : digitsValue (natText n) = n := by
  rw [digitsValue_eq_ofDigitChars, natText_eq_toDigits, Nat.ofDigitChars_ten_toDigits]

theorem digitsValue_replicate_zero (k : Nat) (s : List Char) :
    digitsValue (List.replicate k '0' ++ s) = digitsValue s := by
  rw [digitsValue_eq_ofDigitChars, digitsValue_eq_ofDigitChars, Nat.ofDigitChars_append,
    Nat.ofDigitChars_replicate_zero, Nat.mul_zero]

/-- Only zero starts with the digit zero. -/
theorem natText_eq_zero_cons {r : List Char} (h : natText n = '0' :: r) : n = 0 ∧ r = [] := by
  rw [natText_eq_toDigits] at h
  induction n using Nat.strongRecOn generalizing r with
  | _ n ih =>
    by_cases hn : n < 10
    · rw [Nat.toDigits_of_lt_base hn] at h
      injection h with hd hr
      have hdigit : ∀ m : Fin 10, m.val.digitChar = '0' → m.val = 0 := by decide
      exact ⟨hdigit ⟨n, hn⟩ hd, hr.symm⟩
    · rw [Nat.toDigits_of_base_le (by decide) (by omega)] at h
      -- the first digit is that of the number without its last digit, which is not zero
      cases hq : Nat.toDigits 10 (n / 10) with
      | nil => exact absurd hq Nat.toDigits_ne_nil
      | cons d ds =>
        rw [hq, List.cons_append] at h
        injection h with hd _
        subst hd
        have := (ih (n / 10) (by omega) hq).1
        omega

end FormTemplate.Number
