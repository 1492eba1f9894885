import FormTemplate.Json.Printer
import FormTemplate.Json.Reader

/-!
# Quoted strings read back

A string is written character by character, each by itself or as an escape. Reading takes the parts of the string
and then joins code units to characters. A rule for escapes is sound if each character comes back as one part that
stands for it; then every string comes back, because a part that stands for a character is never half a pair.

* `StringPart.Denotes` : the parts that stand for a character;
* `SoundEscape` : a rule whose escapes read as such parts;
* `readString?_quoted` : a string that is written with a sound rule reads back;
* `SoundEscape.append_inj` : the escapes of a sound rule are told apart in a string;
* `soundEscape_escapeChar` : the rule of the compact form is sound.
-/

set_option autoImplicit false

namespace FormTemplate

theorem Text.hexValue?_hexLower4 {n : Nat} (h : n < 65536) : Text.hexValue? (Text.hexLower4 n) = some n := by
  have hdigit : ∀ m, Text.hexDigit? (Text.hexLower (m % 16)) = some (m % 16) :=
    fun m => Text.hexDigit?_hexLower (m % 16) (Nat.mod_lt m (by decide))
  simp only [Text.hexValue?, Text.hexLower4, Text.hexValueFrom?, hdigit, Option.bind_some, List.isEmpty_cons,
    Bool.false_eq_true, if_false, Option.some.injEq]
  omega

namespace Json

variable {c e : Char} {rest : List Char}

/-! ## Parts -/

/-- A part stands for a character: as itself, or as its code unit. -/
def StringPart.Denotes (p : StringPart) (c : Char) : Prop := p = .char c ∨ (p = .unit c.toNat ∧ c.toNat < 0xD800)

theorem StringPart.Denotes.unique {p : StringPart} {d : Char} (hc : p.Denotes c) (hd : p.Denotes d) : c = d := by
  rcases hc with rfl | ⟨rfl, -⟩
  · rcases hd with hd | ⟨hd, -⟩
    · exact StringPart.char.inj hd
    · cases hd
  · rcases hd with hd | ⟨hd, -⟩
    · cases hd
    · exact Char.toNat_inj.mp (StringPart.unit.inj hd)

/-- A part that stands for a character joins with nothing that follows. -/
theorem joinParts?_cons {p : StringPart} (h : p.Denotes c) (ps : List StringPart) :
    joinParts? (p :: ps) = (joinParts? ps).map (c :: ·) := by
  rcases h with rfl | ⟨rfl, hlt⟩
  · rfl
  · have hhigh : isHighSurrogate c.toNat = false := by simp [isHighSurrogate]; omega
    have hlow : isLowSurrogate c.toNat = false := by simp [isLowSurrogate]; omega
    cases ps with
    | nil => simp [joinParts?, hhigh, hlow]
    | cons q qs => cases q <;> simp [joinParts?, hhigh, hlow]

/-- Reading puts the part `p` in front of what the rest of the text gives. -/
def ReadsAs (s : List Char) (p : StringPart) : Prop :=
  ∀ rest, readParts? (s ++ rest) = (readParts? rest).map fun q => (p :: q.1, q.2)

theorem readsAs_char (hquote : c ≠ '"') (hslash : c ≠ '\\') (hcontrol : 0x20 ≤ c.toNat) :
    ReadsAs [c] (.char c) := by
  intro rest
  rw [List.singleton_append, readParts?.eq_def]
  split
  · contradiction
  · rename_i heq
    cases heq
    exact absurd rfl hquote
  · rename_i heq
    cases heq
    exact absurd rfl hslash
  · rename_i heq
    cases heq
    exact absurd rfl hslash
  · rename_i heq
    cases heq
    rw [if_neg]
    simp only [Bool.or_eq_true, decide_eq_true_eq, beq_iff_eq, not_or]
    exact ⟨by omega, hslash⟩

theorem readsAs_escape (hunit : e ≠ 'u') (he : unescape? e = some c) : ReadsAs ['\\', e] (.char c) := by
  intro rest
  rw [List.cons_append, List.singleton_append, readParts?.eq_def]
  split
  · contradiction
  · rename_i heq
    cases heq
  · rename_i heq
    cases heq
    exact absurd rfl hunit
  · rename_i heq
    cases heq
    rw [he]
    rfl
  · rename_i hne heq
    cases heq
    exact (hne e rest rfl rfl).elim

theorem readsAs_unit {n : Nat} {a b d f : Char} (h : Text.hexValue? [a, b, d, f] = some n) :
    ReadsAs ['\\', 'u', a, b, d, f] (.unit n) := by
  intro rest
  show (Text.hexValue? [a, b, d, f]).bind _ = _
  rw [h]
  rfl

/-! ## Rules for escapes -/

/-- A rule under which every character reads as a part that stands for it. -/
def SoundEscape (escape : Char → List Char) : Prop := ∀ c, ∃ p : StringPart, p.Denotes c ∧ ReadsAs (escape c) p

theorem readParts?_quoted {escape : Char → List Char} (h : SoundEscape escape) (s rest : List Char) :
    ∃ ps, readParts? (s.flatMap escape ++ '"' :: rest) = some (ps, rest) ∧ joinParts? ps = some s := by
  induction s with
  | nil => exact ⟨[], rfl, rfl⟩
  | cons c r ih =>
    obtain ⟨ps, hps, hjoin⟩ := ih
    obtain ⟨p, hp, hread⟩ := h c
    refine ⟨p :: ps, ?_, ?_⟩
    · rw [List.flatMap_cons, List.append_assoc, hread, hps]
      rfl
    · rw [joinParts?_cons hp, hjoin]
      rfl

/-- **A string that is written with a sound rule reads back.** -/
theorem readString?_quoted {escape : Char → List Char} (h : SoundEscape escape) (s rest : List Char) :
    readString? (s.flatMap escape ++ '"' :: rest) = some (some (String.ofList s), rest) := by
  obtain ⟨ps, hps, hjoin⟩ := readParts?_quoted h s rest
  simp only [readString?, hps, hjoin, Option.map_some]

/-- The escapes of a sound rule are told apart where they stand in front of the rest of a string. -/
theorem SoundEscape.append_inj {escape : Char → List Char} (h : SoundEscape escape) {d : Char} {s t : List Char}
    (hs : (readParts? s).isSome = true) (heq : escape c ++ s = escape d ++ t) : c = d ∧ s = t := by
  obtain ⟨p, hp, hreadp⟩ := h c
  obtain ⟨q, hq, hreadq⟩ := h d
  obtain ⟨ps, hps⟩ := Option.isSome_iff_exists.mp hs
  have hread : (readParts? t).map (fun r => (q :: r.1, r.2)) = some (p :: ps.1, ps.2) := by
    rw [← hreadq, ← heq, hreadp, hps]
    rfl
  obtain ⟨qs, -, hpart⟩ := Option.map_eq_some_iff.mp hread
  obtain rfl : q = p := (List.cons.inj (Prod.mk.inj hpart).1).1
  obtain rfl := hp.unique hq
  exact ⟨rfl, List.append_cancel_left heq⟩

theorem unescape?_of_shortEscape? (h : shortEscape? c = some e) : e ≠ 'u' ∧ unescape? e = some c := by
  unfold shortEscape? at h
  repeat' split at h
  all_goals cases h
  all_goals rename_i heq
  all_goals rw [beq_iff_eq] at heq
  all_goals subst heq
  all_goals decide

theorem readsAs_escapeControl (h : c.toNat < 0x20) : ∃ p : StringPart, p.Denotes c ∧ ReadsAs (escapeControl c) p := by
  unfold escapeControl
  split
  · rename_i e he
    obtain ⟨hunit, hunescape⟩ := unescape?_of_shortEscape? he
    exact ⟨.char c, .inl rfl, readsAs_escape hunit hunescape⟩
  · have hvalue := Text.hexValue?_hexLower4 (n := c.toNat) (by omega)
    exact ⟨.unit c.toNat, .inr ⟨rfl, by omega⟩, readsAs_unit hvalue⟩

theorem soundEscape_escapeChar : SoundEscape escapeChar := by
  intro c
  unfold escapeChar
  split
  · rename_i h
    rw [Bool.or_eq_true, beq_iff_eq, beq_iff_eq] at h
    refine ⟨.char c, .inl rfl, ?_⟩
    rcases h with rfl | rfl
    · exact readsAs_escape (by decide) (by decide)
    · exact readsAs_escape (by decide) (by decide)
  · rename_i h
    rw [Bool.or_eq_true, beq_iff_eq, beq_iff_eq, not_or] at h
    split
    · rename_i hcontrol
      exact readsAs_escapeControl hcontrol
    · rename_i hcontrol
      exact ⟨.char c, .inl rfl, readsAs_char h.1 h.2 (by omega)⟩

end Json

end FormTemplate
