import FormTemplate.Proofs.Text.Bytes
import FormTemplate.Proofs.Text.Cursor
import FormTemplate.Text.Search

/-!
# Slices of a text

A text can be taken as its bytes. A piece of it is then cut out between two byte positions, and there is such a piece
only if the positions are in order, lie within the text and lie between characters. A loop over positions is sound if
none of its turns asks for a piece that is none, and if every turn but the last moves the position forward.

A cursor of the text stands at a byte position between characters, so whatever stands between two cursors can be cut
out. Looking at single bytes agrees with looking at characters as far as ASCII goes: no byte of another character is an
ASCII character.

* `slice?`, `isSome_slice?_iff` : the piece between two positions, and where there is one;
* `slice?_of_passes` : what stands between two cursors is a piece;
* `peek?_eq_some_iff`, `advance_of` : looking at bytes, and going over bytes of a class;
* `find?` : where a pattern occurs first in a piece;
* `Runs` : a loop runs to its end without a missing piece and with progress at every turn.
-/

set_option autoImplicit false

namespace FormTemplate.Text

variable {text : String} {i j : Nat} {s t r pattern : List Char} {c d : Cursor} {x y : Char} {p : Char → Bool}

/-! ## Slices -/

/-- The piece of a text between two byte positions, if they are in order and each lies between characters of the text,
which includes its two ends. -/
def slice? (text : String) (i j : Nat) : Option String :=
  if h : i ≤ j ∧ String.Pos.Raw.IsValid text ⟨i⟩ ∧ String.Pos.Raw.IsValid text ⟨j⟩ then
    some (text.extract (text.pos ⟨i⟩ h.2.1) (text.pos ⟨j⟩ h.2.2))
  else none

/-- A position lies between characters of a text, or at one of its ends. -/
def IsBoundary (text : String) (i : Nat) : Prop := ∃ before after, text = before ++ after ∧ i = before.utf8ByteSize

theorem isValid_iff_isBoundary : String.Pos.Raw.IsValid text ⟨i⟩ ↔ IsBoundary text i := by
  rw [String.Pos.Raw.isValid_iff_exists_append]
  simp only [IsBoundary, String.Pos.Raw.ext_iff, String.byteIdx_rawEndPos]

/-- **There is a piece exactly if the positions are in order, within the text, and between characters.** -/
theorem isSome_slice?_iff : (slice? text i j).isSome = true ↔
    i ≤ j ∧ j ≤ text.utf8ByteSize ∧ IsBoundary text i ∧ IsBoundary text j := by
  unfold slice?
  split
  · rename_i h
    obtain ⟨hle, hi, hj⟩ := h
    exact iff_of_true rfl ⟨hle, hj.le_utf8ByteSize, isValid_iff_isBoundary.mp hi, isValid_iff_isBoundary.mp hj⟩
  · rename_i h
    refine iff_of_false Bool.false_ne_true ?_
    rintro ⟨hle, -, hi, hj⟩
    exact h ⟨hle, isValid_iff_isBoundary.mpr hi, isValid_iff_isBoundary.mpr hj⟩

/-- There is no piece that begins inside a character of two bytes, and there is one behind it. -/
example : slice? "\u00e9[" 1 3 = none ∧ slice? "\u00e9[" 2 3 = some "[" := by decide +kernel

/-- The rest of a text behind a byte position. -/
def sliceFrom? (text : String) (i : Nat) : Option String := slice? text i text.utf8ByteSize

theorem utf8ByteSize_ofList (s : List Char) : (String.ofList s).utf8ByteSize = byteLength s := by
  induction s with
  | nil => rfl
  | cons c s ih =>
    rw [byteLength, ← ih, String.ofList_cons, String.utf8ByteSize_append, String.utf8ByteSize_singleton]

theorem slice?_append (a b d : String) :
    slice? (a ++ (b ++ d)) a.utf8ByteSize (a.utf8ByteSize + b.utf8ByteSize) = some b := by
  have hstart : String.Pos.Raw.IsValid (a ++ (b ++ d)) ⟨a.utf8ByteSize⟩ :=
    String.Pos.Raw.isValid_iff_exists_append.mpr ⟨a, b ++ d, rfl, rfl⟩
  have hstop : String.Pos.Raw.IsValid (a ++ (b ++ d)) ⟨a.utf8ByteSize + b.utf8ByteSize⟩ :=
    String.Pos.Raw.isValid_iff_exists_append.mpr
      ⟨a ++ b, d, String.append_assoc.symm, by simp [String.Pos.Raw.ext_iff]⟩
  rw [slice?, dif_pos ⟨Nat.le_add_right _ _, hstart, hstop⟩]
  refine congrArg some (String.toByteArray_inj.mp ?_)
  have hrest : (a.toByteArray ++ (b.toByteArray ++ d.toByteArray)).extract (a.toByteArray.size + 0)
      (a.toByteArray.size + b.toByteArray.size) = (b.toByteArray ++ d.toByteArray).extract 0 b.toByteArray.size :=
    ByteArray.extract_append_size_add
  rw [ByteArray.extract_append_eq_left rfl] at hrest
  rw [String.toByteArray_extract, String.toByteArray_append, String.toByteArray_append]
  exact hrest

/-- **What stands between two cursors of a text is a piece of it.** -/
theorem slice?_of_passes (hc : c.Of text.toList) (h : c.Passes t d) :
    slice? text c.offset d.offset = some (String.ofList t) := by
  obtain ⟨before, htext, hoffset⟩ := hc
  have hlist : text = String.ofList before ++ (String.ofList t ++ String.ofList d.rest) := by
    rw [← String.toList_inj, htext, h.rest]
    simp
  have hpiece := slice?_append (String.ofList before) (String.ofList t) (String.ofList d.rest)
  rwa [← hlist, utf8ByteSize_ofList, utf8ByteSize_ofList, ← hoffset, ← h.offset] at hpiece

theorem sliceFrom?_of (hc : c.Of text.toList) : sliceFrom? text c.offset = some (String.ofList c.rest) := by
  obtain ⟨before, htext, hoffset⟩ := hc
  have hpass : c.Passes c.rest ⟨c.offset + byteLength c.rest, []⟩ := Cursor.passes_append (by simp)
  have hsize : text.utf8ByteSize = c.offset + byteLength c.rest := by
    rw [← String.ofList_toList (s := text), utf8ByteSize_ofList, htext, byteLength_append, ← hoffset]
  rw [sliceFrom?, hsize]
  exact slice?_of_passes ⟨before, htext, hoffset⟩ hpass

theorem of_passes (hc : c.Of s) (h : c.Passes t d) : d.Of s := by
  obtain ⟨before, rfl, hoffset⟩ := hc
  refine ⟨before ++ t, by rw [h.rest, List.append_assoc], ?_⟩
  rw [h.offset, hoffset, byteLength_append]

/-! ## Bytes -/

/-- The byte at a position, as the character with its number. -/
def peek? (text : String) (i : Nat) : Option Char := (bytes text)[i]?.map Char.ofUInt8

theorem toNat_ofUInt8 (b : UInt8) : (Char.ofUInt8 b).toNat = b.toNat := rfl

/-- An ASCII character is one byte, with its number. -/
theorem exists_byte (h : x.toNat < 0x80) : ∃ b, String.utf8EncodeChar x = [b] ∧ Char.ofUInt8 b = x := by
  have hle : x.val.toNat ≤ 127 := Nat.le_of_lt_succ h
  refine ⟨.ofNat x.val.toNat, if_pos hle, Char.toNat_inj.mp ?_⟩
  rw [toNat_ofUInt8, UInt8.toNat_ofNat']
  exact Nat.mod_eq_of_lt (Nat.lt_of_le_of_lt hle (by decide))

theorem utf8Size_of_lt (h : x.toNat < 0x80) : x.utf8Size = 1 := by
  obtain ⟨b, hb, -⟩ := exists_byte h
  rw [← String.length_utf8EncodeChar, hb, List.length_singleton]

/-- No byte of another character is ASCII. -/
theorem le_of_mem_utf8EncodeChar (h : 0x80 ≤ x.toNat) {b : UInt8} (hb : b ∈ String.utf8EncodeChar x) :
    0x80 ≤ (Char.ofUInt8 b).toNat := by
  have hascii : ¬x.val.toNat ≤ 127 := Nat.not_le_of_lt h
  rw [toNat_ofUInt8]
  simp only [String.utf8EncodeChar, if_neg hascii] at hb
  split at hb
  · simp only [List.mem_cons, List.not_mem_nil, or_false] at hb
    rcases hb with rfl | rfl <;> rw [UInt8.toNat_ofNat'] <;> omega
  · split at hb
    · simp only [List.mem_cons, List.not_mem_nil, or_false] at hb
      rcases hb with rfl | rfl | rfl <;> rw [UInt8.toNat_ofNat'] <;> omega
    · simp only [List.mem_cons, List.not_mem_nil, or_false] at hb
      rcases hb with rfl | rfl | rfl | rfl <;> rw [UInt8.toNat_ofNat'] <;> omega

theorem length_flatMap_utf8EncodeChar (s : List Char) : (s.flatMap String.utf8EncodeChar).length = byteLength s := by
  induction s with
  | nil => rfl
  | cons c s ih => rw [List.flatMap_cons, List.length_append, String.length_utf8EncodeChar, ih, byteLength]

theorem drop_bytes (hc : c.Of text.toList) :
    (bytes text).drop c.offset = c.rest.flatMap String.utf8EncodeChar := by
  obtain ⟨before, htext, hoffset⟩ := hc
  rw [bytes_eq_flatMap, htext, List.flatMap_append, hoffset, ← length_flatMap_utf8EncodeChar, List.drop_left]

/-- The bytes behind a cursor are those of the text behind it. -/
theorem peek?_eq (hc : c.Of text.toList) (n : Nat) :
    peek? text (c.offset + n) = ((c.rest.flatMap String.utf8EncodeChar)[n]?).map Char.ofUInt8 := by
  rw [peek?, ← drop_bytes hc, List.getElem?_drop]

/-- **Looking at a byte for an ASCII character finds it where it stands.** -/
theorem peek?_eq_some_iff (hc : c.Of text.toList) (hy : y.toNat < 0x80) :
    peek? text c.offset = some y ↔ c.rest.head? = some y := by
  rw [← Nat.add_zero c.offset, peek?_eq hc]
  cases hrest : c.rest with
  | nil => simp
  | cons x r =>
    rw [List.flatMap_cons]
    by_cases hx : x.toNat < 0x80
    · obtain ⟨b, hb, hchar⟩ := exists_byte hx
      simp [hb, hchar]
    · obtain ⟨b, q, hb⟩ := List.exists_cons_of_ne_nil (String.utf8EncodeChar_ne_nil (c := x))
      have hle := le_of_mem_utf8EncodeChar (Nat.le_of_not_lt hx) (hb ▸ List.mem_cons_self)
      have hbyte : Char.ofUInt8 b ≠ y := by
        rintro rfl
        omega
      have hchar : x ≠ y := by
        rintro rfl
        omega
      simp [hb, hbyte, hchar]

theorem peek?_nil (hc : c.Of text.toList) (hrest : c.rest = []) : peek? text c.offset = none := by
  rw [← Nat.add_zero c.offset, peek?_eq hc, hrest]
  rfl

theorem peek?_cons (hc : c.Of text.toList) (hrest : c.rest = x :: r) :
    ∃ b, peek? text c.offset = some b ∧ ∀ y, y.toNat < 0x80 → (b = y ↔ x = y) := by
  obtain ⟨b, q, hb⟩ := List.exists_cons_of_ne_nil (String.utf8EncodeChar_ne_nil (c := x))
  have hpeek : peek? text c.offset = some (Char.ofUInt8 b) := by
    rw [← Nat.add_zero c.offset, peek?_eq hc, hrest, List.flatMap_cons, hb]
    rfl
  refine ⟨_, hpeek, fun y hy => ?_⟩
  have hiff := peek?_eq_some_iff hc hy
  rwa [hpeek, hrest, List.head?_cons, Option.some_inj, Option.some_inj] at hiff

/-- Inside a character that is not ASCII, no byte is ASCII. -/
theorem peek?_inside (hc : c.Of text.toList) (hrest : c.rest = x :: r) (hx : 0x80 ≤ x.toNat) {n : Nat}
    (hn : n < x.utf8Size) (hy : y.toNat < 0x80) : peek? text (c.offset + n) ≠ some y := by
  have hlen : n < (String.utf8EncodeChar x).length := by rwa [String.length_utf8EncodeChar]
  rw [peek?_eq hc, hrest, List.flatMap_cons, List.getElem?_append_left hlen, List.getElem?_eq_getElem hlen,
    Option.map_some]
  intro heq
  have hle := le_of_mem_utf8EncodeChar hx (List.getElem_mem hlen)
  rw [Option.some.inj heq] at hle
  omega

theorem peek?_isSome_iff : (peek? text i).isSome = true ↔ i < (bytes text).length := by
  simp [peek?]

/-! ## Runs of bytes -/

/-- The position behind the bytes of a class. -/
def advance (text : String) (p : Char → Bool) (i : Nat) : Nat :=
  match _h : peek? text i with
  | some c => if p c then advance text p (i + 1) else i
  | none => i
termination_by (bytes text).length - i
decreasing_by
  have := peek?_isSome_iff.mp (Option.isSome_of_eq_some _h)
  omega

theorem le_advance (text : String) (p : Char → Bool) (i : Nat) : i ≤ advance text p i := by
  fun_induction advance text p i with
  | case1 i c hc hp ih => omega
  | case2 => exact Nat.le_refl _
  | case3 => exact Nat.le_refl _

theorem advance_eq (text : String) (p : Char → Bool) (i : Nat) :
    advance text p i = i + (((bytes text).drop i).takeWhile fun b => p (Char.ofUInt8 b)).length := by
  fun_induction advance text p i with
  | case1 i c hc hp ih =>
    obtain ⟨b, hb, rfl⟩ := Option.map_eq_some_iff.mp hc
    obtain ⟨hlt, hget⟩ := List.getElem?_eq_some_iff.mp hb
    rw [ih, List.drop_eq_getElem_cons hlt, hget, List.takeWhile_cons, if_pos hp, List.length_cons]
    omega
  | case2 i c hc hp =>
    obtain ⟨b, hb, rfl⟩ := Option.map_eq_some_iff.mp hc
    obtain ⟨hlt, hget⟩ := List.getElem?_eq_some_iff.mp hb
    rw [List.drop_eq_getElem_cons hlt, hget, List.takeWhile_cons, if_neg hp, List.length_nil, Nat.add_zero]
  | case3 i hc =>
    have hend : (bytes text).length ≤ i := by simpa [peek?] using hc
    rw [List.drop_eq_nil_of_le hend]
    rfl

/-- A class that all characters beyond ASCII belong to, or none of them. -/
def Uniform (p : Char → Bool) : Prop := ∀ x y : Char, 0x80 ≤ x.toNat → 0x80 ≤ y.toNat → p x = p y

/-- The bytes of a character belong to a uniform class with the character. -/
theorem Uniform.byte (hp : Uniform p) {b : UInt8} (hb : b ∈ String.utf8EncodeChar x) : p (Char.ofUInt8 b) = p x := by
  by_cases hx : x.toNat < 0x80
  · obtain ⟨b', hb', hchar⟩ := exists_byte hx
    rw [hb', List.mem_singleton] at hb
    rw [hb, hchar]
  · exact hp _ _ (le_of_mem_utf8EncodeChar (Nat.le_of_not_lt hx) hb) (Nat.le_of_not_lt hx)

theorem Uniform.takeWhile_bytes (hp : Uniform p) (s : List Char) :
    (s.flatMap String.utf8EncodeChar).takeWhile (fun b => p (Char.ofUInt8 b)) =
      (s.takeWhile p).flatMap String.utf8EncodeChar := by
  induction s with
  | nil => rfl
  | cons x s ih =>
    rw [List.flatMap_cons, List.takeWhile_cons]
    split
    · rename_i hx
      rw [List.takeWhile_append_of_pos fun b hb => by rw [hp.byte hb, hx], ih, List.flatMap_cons]
    · rename_i hx
      obtain ⟨b, q, hb⟩ := List.exists_cons_of_ne_nil (String.utf8EncodeChar_ne_nil (c := x))
      have hbyte : ¬p (Char.ofUInt8 b) = true := by rwa [hp.byte (x := x) (hb ▸ List.mem_cons_self)]
      rw [hb, List.cons_append, List.takeWhile_cons, if_neg hbyte, List.flatMap_nil]

/-- **The bytes of a uniform class end where its characters end.** -/
theorem advance_of (hc : c.Of text.toList) (hp : Uniform p) :
    advance text p c.offset = (c.takeWhile p).2.offset := by
  rw [advance_eq, drop_bytes hc, hp.takeWhile_bytes, length_flatMap_utf8EncodeChar]
  rfl

/-! ## Occurrences -/

/-- The position in a piece where a pattern occurs first. -/
def find? (pattern : List Char) (s : String) : Option Nat := (cutAt? pattern s.toList).map (byteLength ·.1)

theorem find?_cons_self (y : Char) (r : List Char) : find? [y] (String.ofList (y :: r)) = some 0 := by
  simp [find?, cutAt?, byteLength]

theorem find?_cons_of_ne (h : x ≠ y) (r : List Char) :
    find? [y] (String.ofList (x :: r)) = (find? [y] (String.ofList r)).map (x.utf8Size + ·) := by
  have hne : ¬[y].isPrefixOf (x :: r) = true := by simp [h.symm]
  rw [find?, find?, String.toList_ofList, String.toList_ofList, cutAt?, if_neg hne, Option.map_map, Option.map_map]
  rfl

/-- A character occurs first behind the characters that differ from it. -/
theorem find?_eq (y : Char) (s : List Char) : find? [y] (String.ofList s) =
    if s.dropWhile (· != y) = [] then none else some (byteLength (s.takeWhile (· != y))) := by
  induction s with
  | nil => rfl
  | cons x s ih =>
    rw [List.dropWhile_cons, List.takeWhile_cons]
    by_cases hx : x = y
    · subst hx
      rw [find?_cons_self]
      simp [byteLength]
    · have hne : (x != y) = true := bne_iff_ne.mpr hx
      rw [find?_cons_of_ne hx, ih, if_pos hne, if_pos hne, byteLength]
      split <;> rfl

/-! ### Occurrences behind a cursor -/

theorem find?_eq_none (h : cutAt? pattern s = none) : find? pattern (String.ofList s) = none := by
  rw [find?, String.toList_ofList, h, Option.map_none]

theorem find?_eq_some (h : cutAt? pattern s = some (t, r)) : find? pattern (String.ofList s) = some (byteLength t) := by
  rw [find?, String.toList_ofList, h, Option.map_some]

theorem passes_before (h : cutAt? pattern c.rest = some (t, r)) :
    c.Passes t ⟨c.offset + byteLength t, pattern ++ r⟩ :=
  Cursor.passes_append (by rw [eq_of_cutAt? h, List.append_assoc])

theorem passes_through (h : cutAt? pattern c.rest = some (t, r)) :
    c.Passes (t ++ pattern) ⟨c.offset + byteLength t + byteLength pattern, r⟩ :=
  (passes_before h).trans (Cursor.passes_append rfl)

/-! ## Loops -/

/-- What a turn of a loop gives: a state to go on with, or the result. -/
inductive Turn (σ α : Type) where
  | again (s : σ)
  | done (a : α)

/-- **A loop runs to its end.** None of its turns misses a piece of the text, and every turn but the last moves the
position forward. -/
inductive Runs {σ α : Type} (turn : σ → Option (Turn σ α)) (position : σ → Nat) : σ → α → Prop
  | done {s : σ} {a : α} : turn s = some (.done a) → Runs turn position s a
  | again {s s' : σ} {a : α} : turn s = some (.again s') → position s < position s' → Runs turn position s' a →
      Runs turn position s a

namespace Runs

variable {σ α : Type} {turn : σ → Option (Turn σ α)} {position : σ → Nat} {s s' : σ} {a b : α}

/-- The result of a loop is its only one. -/
theorem unique (h : Runs turn position s a) (h' : Runs turn position s b) : a = b := by
  induction h with
  | done hturn =>
    cases h' with
    | done hturn' =>
      rw [hturn] at hturn'
      cases hturn'
      rfl
    | again hturn' =>
      rw [hturn] at hturn'
      cases hturn'
  | again hturn _ _ ih =>
    cases h' with
    | done hturn' =>
      rw [hturn] at hturn'
      cases hturn'
    | again hturn' _ hrest' =>
      rw [hturn] at hturn'
      cases hturn'
      exact ih hrest'

/-- A loop runs from every state whose turn gives the same, if no turn stays where it is. -/
theorem of_turn_eq (hprogress : ∀ {s s'}, turn s = some (.again s') → position s < position s')
    (h : Runs turn position s' a) (hturn : turn s = turn s') : Runs turn position s a := by
  cases h with
  | done hs => exact .done (hturn.trans hs)
  | again hs _ hrest => exact .again (hturn.trans hs) (hprogress (hturn.trans hs)) hrest

end Runs

end FormTemplate.Text
