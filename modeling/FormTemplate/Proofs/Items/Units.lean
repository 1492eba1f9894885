import FormTemplate.Proofs.Items.Repair

/-!
# Texts in bare code units

A text can be written in code units throughout: a character up to U+FFFF as one unit, any other as the two halves of a
pair, and each unit as a `u` with four digits, every digit in either case. Repair reads such a text back. A run ends with a
digit, so no run hides the next one; and a unit that is half of a pair stands only beside its other half, so no two
units are joined that do not belong together.

* `codeUnits` : the code units of a character;
* `BareUnit`, `BareUnits` : a unit, and units in a row, as they are written bare;
* `bareRun?_codeUnits` : the first run of such a text is that of its first character;
* `repair_bareUnits` : repair makes the text of what is written for it.
-/

set_option autoImplicit false

namespace FormTemplate.Items

open Text (hexDigit? hexFour? hexLower hexUpper hexValue?)

variable {a b c d : Char} {n : Nat} {ns ms : List Nat} {r s t : List Char}

/-! ## Units -/

/-- The code units of a character: its code point, or the halves of a pair. -/
def codeUnits (c : Char) : List Nat :=
  if c.toNat < 0x10000 then [c.toNat]
  else [0xD800 + (c.toNat - 0x10000) / 0x400, 0xDC00 + (c.toNat - 0x10000) % 0x400]

/-- The digit of a value below sixteen, in either case. -/
inductive HexDigit (n : Nat) : Char → Prop
  | lower : HexDigit n (hexLower n)
  | upper : HexDigit n (hexUpper n)

/-- A code unit without its backslash: a `u` and the four digits of the unit. -/
inductive BareUnit (n : Nat) : List Char → Prop
  | run {a b c d : Char} : HexDigit (n / 4096 % 16) a → HexDigit (n / 256 % 16) b → HexDigit (n / 16 % 16) c →
      HexDigit (n % 16) d → BareUnit n ['u', a, b, c, d]

/-- Bare code units in a row. -/
inductive BareUnits : List Nat → List Char → Prop
  | nil : BareUnits [] []
  | cons {n : Nat} {ns : List Nat} {r t : List Char} : BareUnit n r → BareUnits ns t → BareUnits (n :: ns) (r ++ t)

theorem HexDigit.hexDigit?_eq (h : HexDigit n a) (hn : n < 16) : hexDigit? a = some n := by
  cases h with
  | lower => exact Text.hexDigit?_hexLower n hn
  | upper => exact Text.hexDigit?_hexUpper n hn

/-- The digits of a unit are worth the unit. -/
theorem BareUnit.exists_hexFour? (h : BareUnit n r) (hn : n < 0x10000) (t : List Char) :
    ∃ s, r ++ t = 'u' :: s ∧ hexFour? s = some (n, t) := by
  obtain ⟨ha, hb, hc, hd⟩ := h
  refine ⟨_, rfl, Text.hexFour?_eq_some_iff.mpr ⟨_, _, _, _, rfl, ?_⟩⟩
  have ha := ha.hexDigit?_eq (Nat.mod_lt _ (by decide))
  have hb := hb.hexDigit?_eq (Nat.mod_lt _ (by decide))
  have hc := hc.hexDigit?_eq (Nat.mod_lt _ (by decide))
  have hd := hd.hexDigit?_eq (Nat.mod_lt _ (by decide))
  simp only [hexValue?, Text.hexValueFrom?, ha, hb, hc, hd, List.isEmpty_cons, Bool.false_eq_true, if_false,
    Option.bind_some, Option.some.injEq]
  omega

/-- Every row of units can be written. -/
theorem exists_bareUnits (ns : List Nat) : ∃ t, BareUnits ns t := by
  induction ns with
  | nil => exact ⟨[], .nil⟩
  | cons n ns ih =>
    obtain ⟨t, ht⟩ := ih
    exact ⟨_, .cons (.run .lower .lower .lower .lower) ht⟩

theorem BareUnits.exists_of_cons (h : BareUnits (n :: ns) t) :
    ∃ r t', t = r ++ t' ∧ BareUnit n r ∧ BareUnits ns t' := by
  generalize hunits : n :: ns = ms at h
  cases h with
  | nil => cases hunits
  | cons hunit hrest =>
    cases hunits
    exact ⟨_, _, rfl, hunit, hrest⟩

theorem BareUnits.exists_of_append (h : BareUnits (ns ++ ms) t) :
    ∃ t₁ t₂, t = t₁ ++ t₂ ∧ BareUnits ns t₁ ∧ BareUnits ms t₂ := by
  induction ns generalizing t with
  | nil => exact ⟨[], t, rfl, .nil, h⟩
  | cons n ns ih =>
    obtain ⟨r, t', rfl, hunit, hrest⟩ := h.exists_of_cons
    obtain ⟨t₁, t₂, rfl, h₁, h₂⟩ := ih hrest
    exact ⟨_, t₂, (List.append_assoc _ _ _).symm, .cons hunit h₁, h₂⟩

theorem BareUnits.eq_nil (h : BareUnits [] t) : t = [] := by
  cases h
  rfl

/-! ## Characters -/

theorem isHighSurrogate_iff : Json.isHighSurrogate n = true ↔ 0xD800 ≤ n ∧ n ≤ 0xDBFF := by
  rw [Json.isHighSurrogate, Bool.and_eq_true, decide_eq_true_iff, decide_eq_true_iff]

theorem isLowSurrogate_iff : Json.isLowSurrogate n = true ↔ 0xDC00 ≤ n ∧ n ≤ 0xDFFF := by
  rw [Json.isLowSurrogate, Bool.and_eq_true, decide_eq_true_iff, decide_eq_true_iff]

/-- A character is no half of a pair. -/
theorem not_surrogate (c : Char) : Json.isHighSurrogate c.toNat = false ∧ Json.isLowSurrogate c.toNat = false := by
  have hvalid : c.toNat < 0xD800 ∨ 0xDFFF < c.toNat ∧ c.toNat < 0x110000 := c.valid
  rw [Bool.eq_false_iff, Bool.eq_false_iff, ne_eq, ne_eq, isHighSurrogate_iff, isLowSurrogate_iff]
  omega

/-- The halves of a character beyond U+FFFF make a pair, and the pair makes the character. -/
theorem halves_of_large (hlarge : ¬c.toNat < 0x10000) :
    ∃ m n, codeUnits c = [m, n] ∧ Json.isHighSurrogate m = true ∧ Json.isLowSurrogate n = true ∧
      Json.pairChar m n = c := by
  have hvalid : c.toNat < 0xD800 ∨ 0xDFFF < c.toNat ∧ c.toNat < 0x110000 := c.valid
  refine ⟨0xD800 + (c.toNat - 0x10000) / 0x400, 0xDC00 + (c.toNat - 0x10000) % 0x400, by rw [codeUnits, if_neg hlarge],
    ?_, ?_, ?_⟩
  · rw [isHighSurrogate_iff]
    omega
  · rw [isLowSurrogate_iff]
    omega
  · have hsum : 0x10000 + (0xD800 + (c.toNat - 0x10000) / 0x400 - 0xD800) * 0x400 +
        (0xDC00 + (c.toNat - 0x10000) % 0x400 - 0xDC00) = c.toNat := by omega
    rw [Json.pairChar, hsum, Char.ofNat_toNat]

/-- **The units of a character make one run**, which stands for the character, whatever follows. -/
theorem bareRun?_codeUnits (h : BareUnits (codeUnits c) r) (t : List Char) :
    ∃ s, r ++ t = 'u' :: s ∧ bareRun? s = some (c, t) := by
  by_cases hsmall : c.toNat < 0x10000
  · rw [codeUnits, if_pos hsmall] at h
    obtain ⟨r, _, rfl, hunit, hrest⟩ := h.exists_of_cons
    obtain ⟨s, hs, hfour⟩ := hunit.exists_hexFour? hsmall t
    refine ⟨s, by rw [hrest.eq_nil, List.append_nil, hs], ?_⟩
    simp [bareRun?, hfour, not_surrogate c]
  · obtain ⟨m, n, hunits, hm, hn, hpair⟩ := halves_of_large hsmall
    rw [hunits] at h
    obtain ⟨r, _, rfl, hfirst, h⟩ := h.exists_of_cons
    obtain ⟨r', _, rfl, hsecond, hrest⟩ := h.exists_of_cons
    have hmlt := (isHighSurrogate_iff.mp hm).2
    have hnlt := (isLowSurrogate_iff.mp hn).2
    obtain ⟨s', hs', hlow⟩ := hsecond.exists_hexFour? (by omega) t
    obtain ⟨s, hs, hhigh⟩ := hfirst.exists_hexFour? (by omega) (r' ++ t)
    refine ⟨s, by rw [hrest.eq_nil, List.append_nil, List.append_assoc, hs], ?_⟩
    rw [hs'] at hhigh
    simp only [bareRun?, hhigh, hm, hlow, hn, hpair, if_true]

/-! ## Texts -/

/-- Repair reads units from left to right. A run leaves no backslash behind, so the next one counts again. -/
theorem repairFrom_bareUnits (h : BareUnits (s.flatMap codeUnits) t) : repairFrom false t = s := by
  induction s generalizing t with
  | nil =>
    cases h
    rw [repairFrom]
  | cons c s ih =>
    rw [List.flatMap_cons] at h
    obtain ⟨r, t, rfl, hchar, hrest⟩ := h.exists_of_append
    obtain ⟨u, hu, hrun⟩ := bareRun?_codeUnits hchar t
    rw [hu, repairFrom_run hrun, ih hrest]

/-- **Repair inverts writing in bare code units.** Every text can be written as the bare code units of its characters, and
however the digits are written, repair gives the text back. -/
theorem repair_bareUnits (s : String) :
    (∃ t : String, BareUnits (s.toList.flatMap codeUnits) t.toList) ∧
      ∀ t : String, BareUnits (s.toList.flatMap codeUnits) t.toList → repair t = s := by
  constructor
  · obtain ⟨t, ht⟩ := exists_bareUnits (s.toList.flatMap codeUnits)
    exact ⟨String.ofList t, by rwa [String.toList_ofList]⟩
  · intro t ht
    rw [repair, repairFrom_bareUnits ht, String.ofList_toList]

/-- The last character that is one unit and the first and last that are two, in digits of both cases. -/
theorem repair_bareUnits_ends :
    BareUnits ("\uffff𐀀􏿿".toList.flatMap codeUnits) "ufFfFuD800uDc00udBfFuDfFf".toList ∧
      repair "ufFfFuD800uDc00udBfFuDfFf" = "\uffff𐀀􏿿" := by
  have hunits : "\uffff𐀀􏿿".toList.flatMap codeUnits = [0xFFFF, 0xD800, 0xDC00, 0xDBFF, 0xDFFF] := by
    decide +kernel
  have h : BareUnits ("\uffff𐀀􏿿".toList.flatMap codeUnits) "ufFfFuD800uDc00udBfFuDfFf".toList := by
    rw [hunits]
    exact .cons (.run .lower .upper .lower .upper) <| .cons (.run .upper .lower .lower .lower) <|
      .cons (.run .upper .lower .lower .lower) <| .cons (.run .lower .upper .lower .upper) <|
      .cons (.run .upper .lower .upper .lower) .nil
  exact ⟨h, (repair_bareUnits _).2 _ h⟩

end FormTemplate.Items
