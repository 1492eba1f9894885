import FormTemplate.Dict

/-!
# The order of texts

Texts are compared by their code points. In UTF-8 the bytes of a text are in the same order: the first byte of a
character grows with the number of its bytes, and the bytes hold the digits of its code point from the highest to the
lowest. So a dictionary lists its keys in ascending order of their bytes.

* `bytes`, `bytes_inj` : the bytes of a text, which determine it;
* `toList_toUTF8` : they are the bytes that are written for it;
* `utf8EncodeChar_append_lt` : of two characters the smaller has the smaller bytes, whatever follows them;
* `bytes_lt_bytes` : of two texts the smaller has the smaller bytes;
* `Dict.keys_ascending` : the keys of a dictionary are in ascending order of their bytes.
-/

set_option autoImplicit false

namespace FormTemplate

namespace Text

/-- The bytes of a text in UTF-8. -/
def bytes (s : String) : List UInt8 := s.toByteArray.data.toList

theorem bytes_eq_flatMap (s : String) : bytes s = s.toList.flatMap String.utf8EncodeChar := by
  obtain ⟨l, rfl⟩ : ∃ l, s = String.ofList l := ⟨s.toList, String.ofList_toList.symm⟩
  rw [bytes, String.toByteArray_ofList, String.toList_ofList, List.utf8Encode, List.data_toByteArray]

/-- Texts with the same bytes are equal. -/
theorem bytes_inj {s t : String} : bytes s = bytes t ↔ s = t := by
  unfold bytes
  rw [Array.toList_inj, ← ByteArray.ext_iff, String.toByteArray_inj]

theorem toList_loop (b : ByteArray) (i : Nat) (acc : List UInt8) :
    ByteArray.toList.loop b i acc = acc.reverse ++ b.data.toList.drop i := by
  fun_induction ByteArray.toList.loop b i acc with
  | case1 i acc hi ih =>
    have hlen : i < b.data.toList.length := hi
    have hget : b.get! i = b.data.toList[i] := getElem!_pos b.data i hi
    rw [ih, List.drop_eq_getElem_cons hlen, List.reverse_cons, hget, List.append_assoc]
    rfl
  | case2 i acc hi =>
    have hlen : b.data.toList.length ≤ i := Nat.le_of_not_lt hi
    rw [List.drop_eq_nil_of_le hlen, List.append_nil]

theorem toList_toUTF8 (s : String) : s.toUTF8.toList = bytes s := by
  rw [ByteArray.toList, toList_loop]
  rfl

/-! ## Characters -/

variable {a b : Nat} {s t : List UInt8}

/-- Bytes are compared like the numbers that they hold. -/
theorem cons_ofNat_lt (hb : b < 256) (h : a < b ∨ a = b ∧ s < t) : UInt8.ofNat a :: s < UInt8.ofNat b :: t := by
  rw [List.cons_lt_cons_iff, UInt8.lt_iff_toNat_lt, UInt8.toNat_ofNat', UInt8.toNat_ofNat']
  rcases h with h | ⟨rfl, h⟩
  · exact .inl (by omega)
  · exact .inr ⟨rfl, h⟩

/-- A byte that continues a character holds the last digit, to the base 64, of what is left of the code point. -/
theorem continuation_lt (h : a < b ∨ a = b ∧ s < t) : a / 64 < b / 64 ∨
    a / 64 = b / 64 ∧ UInt8.ofNat (a % 64 + 128) :: s < UInt8.ofNat (b % 64 + 128) :: t := by
  rcases h with h | ⟨rfl, h⟩
  · have hdigits : a / 64 < b / 64 ∨ a / 64 = b / 64 ∧ a % 64 < b % 64 := by omega
    exact hdigits.imp_right (And.imp_right fun hlast => cons_ofNat_lt (by omega) (.inl (by omega)))
  · exact .inr ⟨rfl, cons_ofNat_lt (by omega) (.inr ⟨rfl, h⟩)⟩

/-- **Of two characters the smaller has the smaller bytes**, whatever follows them. -/
theorem utf8EncodeChar_append_lt {c d : Char} (h : c < d) (s t : List UInt8) :
    String.utf8EncodeChar c ++ s < String.utf8EncodeChar d ++ t := by
  have hlt : c.val.toNat < d.val.toNat := h
  have hbound : d.val.toNat < 0x110000 := by
    have hvalid := d.valid
    simp only [UInt32.isValidChar, Nat.isValidChar] at hvalid
    omega
  simp only [String.utf8EncodeChar]
  generalize c.val.toNat = m at hlt
  generalize d.val.toNat = n at hlt hbound
  have htwo := continuation_lt (.inl hlt : m < n ∨ m = n ∧ s < t)
  have hthree := continuation_lt htwo
  simp only [Nat.div_div_eq_div_mul, Nat.reduceMul] at hthree
  have hfour := continuation_lt hthree
  simp only [Nat.div_div_eq_div_mul, Nat.reduceMul] at hfour
  repeat' split
  all_goals simp only [List.cons_append, List.nil_append]
  -- the smaller character has no more bytes than the other; with as many, their digits decide
  all_goals try omega
  · exact cons_ofNat_lt (by omega) (.inl (by omega))
  · exact cons_ofNat_lt (by omega) (.inl (by omega))
  · exact cons_ofNat_lt (by omega) (.inl (by omega))
  · exact cons_ofNat_lt (by omega) (.inl (by omega))
  · exact cons_ofNat_lt (by omega) (htwo.imp (by omega) (And.imp_left (by omega)))
  · exact cons_ofNat_lt (by omega) (.inl (by omega))
  · exact cons_ofNat_lt (by omega) (.inl (by omega))
  · exact cons_ofNat_lt (by omega) (hthree.imp (by omega) (And.imp_left (by omega)))
  · exact cons_ofNat_lt (by omega) (.inl (by omega))
  · rw [Nat.mod_eq_of_lt (show m / 262144 < 8 by omega), Nat.mod_eq_of_lt (show n / 262144 < 8 by omega)]
    exact cons_ofNat_lt (by omega) (hfour.imp (by omega) (And.imp_left (by omega)))

/-! ## Texts -/

theorem flatMap_utf8EncodeChar_lt {l m : List Char} (h : l < m) :
    l.flatMap String.utf8EncodeChar < m.flatMap String.utf8EncodeChar := by
  induction l generalizing m with
  | nil =>
    cases m with
    | nil => exact absurd h (List.lt_irrefl [])
    | cons d m =>
      rw [List.flatMap_nil, List.flatMap_cons]
      cases hd : String.utf8EncodeChar d with
      | nil => exact absurd hd String.utf8EncodeChar_ne_nil
      | cons b r => exact List.nil_lt_cons b _
  | cons c l ih =>
    cases m with
    | nil => exact absurd h (List.not_lt_nil _)
    | cons d m =>
      rw [List.flatMap_cons, List.flatMap_cons]
      rcases List.cons_lt_cons_iff.mp h with hlt | ⟨rfl, hrest⟩
      · exact utf8EncodeChar_append_lt hlt _ _
      · exact List.append_left_lt (ih hrest)

/-- **Of two texts the smaller has the smaller bytes.** -/
theorem bytes_lt_bytes {s t : String} (h : s < t) : bytes s < bytes t := by
  rw [bytes_eq_flatMap, bytes_eq_flatMap]
  exact flatMap_utf8EncodeChar_lt h

end Text

/-- **The keys of a dictionary are in ascending order of their bytes.** -/
theorem Dict.keys_ascending {α : Type} (d : Dict α) :
    d.keys.Pairwise fun a b => Text.bytes a < Text.bytes b :=
  List.pairwise_map.mpr (d.sorted.imp Text.bytes_lt_bytes)

end FormTemplate
