import FormTemplate.Blob
import FormTemplate.Items
import FormTemplate.Proofs.Text.Search

/-!
# The text of a list of items

The text of a list can stand inside markup, inside an attribute and inside a stored value. Angle brackets, ampersands,
apostrophes and quotes are written as escapes, in keys as well as in values, and so are control characters. So the quotes
around the strings are the only characters of the text that mean anything elsewhere.

* `EscapedAs`, `escapedAs_escapeChar` : the forms in which a character is written;
* `IsInert` : the characters that mean nothing elsewhere;
* `isInert_escapeChar` : between the quotes of a string there are no others;
* `isInert_encodeChars` : nor anywhere else in the text of a list, quotes apart;
* `not_mem_encodeChars`, `isPlain_encode` : so the text holds no markup and no delimiter of a stored value.
-/

set_option autoImplicit false

namespace FormTemplate

theorem Text.forall_mem_join {p : Char → Prop} {sep : List Char} {parts : List (List Char)} (hsep : ∀ c ∈ sep, p c)
    (hparts : ∀ s ∈ parts, ∀ c ∈ s, p c) : ∀ c ∈ Text.join sep parts, p c := by
  fun_induction Text.join sep parts with
  | case1 => simp
  | case2 s => exact hparts s List.mem_cons_self
  | case3 s t rest ih =>
    intro c hc
    rcases List.mem_append.mp hc with hc | hc
    · rcases List.mem_append.mp hc with hc | hc
      · exact hparts s List.mem_cons_self c hc
      · exact hsep c hc
    · exact ih (fun s hs => hparts s (List.mem_cons_of_mem _ hs)) c hc

namespace Items

/-! ## Escapes -/

/-- The characters that are written with four digits, each with its escape but for the backslash. -/
def bareCodes : List (Char × List Char) :=
  [('"', "u0022".toList), ('\'', "u0027".toList), ('<', "u003C".toList), ('>', "u003E".toList), ('&', "u0026".toList)]

/-- The forms in which a character is written. -/
inductive EscapedAs : Char → List Char → Prop
  | code {e : Char × List Char} : e ∈ bareCodes → EscapedAs e.1 ('\\' :: e.2)
  | slash : EscapedAs '\\' ['\\', '\\']
  | control {c : Char} : c.toNat < 0x20 → EscapedAs c (Json.escapeControl c)
  | plain {c : Char} : 0x20 ≤ c.toNat → c ≠ '\\' → (∀ e ∈ bareCodes, c ≠ e.1) → EscapedAs c [c]

theorem escapeChar_of_mem_bareCodes : ∀ e ∈ bareCodes, escapeChar e.1 = '\\' :: e.2 := by decide +kernel

/-- **Every character is written in one of these forms.** -/
theorem escapedAs_escapeChar (c : Char) : EscapedAs c (escapeChar c) := by
  by_cases h : ∃ e ∈ bareCodes, c = e.1
  · obtain ⟨e, he, rfl⟩ := h
    rw [escapeChar_of_mem_bareCodes e he]
    exact .code he
  · have hplain : ∀ e ∈ bareCodes, c ≠ e.1 := fun e he heq => h ⟨e, he, heq⟩
    have hne := hplain
    simp only [bareCodes, List.forall_mem_cons] at hne
    obtain ⟨hquote, hapostrophe, hlt, hgt, hamp, -⟩ := hne
    unfold escapeChar
    simp only [beq_iff_eq, hquote, hapostrophe, hlt, hgt, hamp, if_false]
    split
    · rename_i hslash
      rw [hslash]
      exact .slash
    split
    · rename_i hcontrol
      exact .control hcontrol
    · rename_i hslash hcontrol
      exact .plain (by omega) hslash hplain

theorem exists_of_mem_bareCodes {e : Char × List Char} (he : e ∈ bareCodes) :
    ∃ a b c d, e.2 = ['u', a, b, c, d] ∧ Text.hexValue? [a, b, c, d] = some e.1.toNat := by
  have hcodes : ∀ e ∈ bareCodes, e.2 = 'u' :: e.2.tail ∧ Text.hexFour? e.2.tail = some (e.1.toNat, []) := by
    decide +kernel
  obtain ⟨hu, hdigits⟩ := hcodes e he
  obtain ⟨a, b, c, d, htail, hvalue⟩ := Text.hexFour?_eq_some_iff.mp hdigits
  exact ⟨a, b, c, d, hu.trans (by rw [htail]), hvalue⟩

theorem lt_of_mem_bareCodes : ∀ e ∈ bareCodes, e.1.toNat < 0xD800 := by decide +kernel

/-! ## Characters that mean nothing elsewhere -/

/-- The characters that markup gives a meaning, apart from the quote. -/
def markupChars : List Char := ['<', '>', '&', '\'']

/-- The character is no control character, and neither markup nor an attribute in quotes gives it a meaning. -/
def IsInert (c : Char) : Prop := 0x20 ≤ c.toNat ∧ c ≠ '"' ∧ c ∉ markupChars

instance (c : Char) : Decidable (IsInert c) := inferInstanceAs (Decidable (_ ∧ _))

/-- A given text is checked character by character. -/
theorem isInert_of_all {s : List Char} (h : s.all (fun c => decide (IsInert c)) = true) : ∀ c ∈ s, IsInert c :=
  fun c hc => of_decide_eq_true (List.all_eq_true.mp h c hc)

/-! ## Strings -/

theorem isInert_hexLower4 (n : Nat) : ∀ c ∈ Text.hexLower4 n, IsInert c := by
  have hdigit : ∀ m : Fin 16, IsInert (Text.hexLower m.val) := by decide
  have hmod : ∀ m, IsInert (Text.hexLower (m % 16)) := fun m => hdigit ⟨m % 16, by omega⟩
  intro c hc
  simp only [Text.hexLower4, List.mem_cons, List.not_mem_nil, or_false] at hc
  rcases hc with rfl | rfl | rfl | rfl <;> exact hmod _

theorem shortEscape?_mem {x e : Char} (h : Json.shortEscape? x = some e) : e ∈ ['b', 't', 'n', 'f', 'r'] := by
  unfold Json.shortEscape? at h
  repeat' split at h
  all_goals cases h
  all_goals decide

theorem isInert_escapeControl (x : Char) : ∀ c ∈ Json.escapeControl x, IsInert c := by
  have hslash : IsInert '\\' := by decide
  have hunit : IsInert 'u' := by decide
  have hletters : ∀ e ∈ ['b', 't', 'n', 'f', 'r'], IsInert e := isInert_of_all (by decide)
  unfold Json.escapeControl
  split
  · rename_i e he
    simp [hslash, hletters e (shortEscape?_mem he)]
  · intro c hc
    rcases List.mem_cons.mp hc with rfl | hc
    · exact hslash
    · rcases List.mem_cons.mp hc with rfl | hc
      · exact hunit
      · exact isInert_hexLower4 _ c hc

theorem isInert_bareCode : ∀ e ∈ bareCodes, ('\\' :: e.2).all (fun c => decide (IsInert c)) = true := by
  decide +kernel

/-- **Between the quotes of a string only characters are left that mean nothing elsewhere.** -/
theorem isInert_escapeChar (x : Char) : ∀ c ∈ escapeChar x, IsInert c := by
  have h := escapedAs_escapeChar x
  generalize escapeChar x = s at h ⊢
  cases h with
  | code he => exact isInert_of_all (isInert_bareCode _ he)
  | slash => exact isInert_of_all (by decide)
  | control => exact isInert_escapeControl x
  | plain hcontrol _ hcodes =>
    intro c hc
    obtain rfl := List.mem_singleton.mp hc
    simp only [bareCodes, List.forall_mem_cons] at hcodes
    obtain ⟨hquote, hapostrophe, hlt, hgt, hamp, -⟩ := hcodes
    exact ⟨hcontrol, hquote, by simp [markupChars, hlt, hgt, hamp, hapostrophe]⟩

theorem isInert_stringText (s : String) : ∀ c ∈ stringText s, c = '"' ∨ IsInert c := by
  intro c hc
  simp only [stringText, Json.quote, List.mem_append, List.mem_cons, List.not_mem_nil, or_false] at hc
  rcases hc with (rfl | hc) | rfl
  · exact .inl rfl
  · obtain ⟨x, -, hx⟩ := List.mem_flatMap.mp hc
    exact .inr (isInert_escapeChar x c hx)
  · exact .inl rfl

/-! ## Lists -/

theorem isInert_punctuation : ∀ c ∈ ['[', ']', '\x7b', '\x7d', ',', ':'], IsInert c := isInert_of_all (by decide)

/-- The text of a member of an item. -/
def memberText (e : String × String) : List Char := stringText e.1 ++ ':' :: stringText e.2

theorem itemText_eq (item : Item) :
    itemText item = '\x7b' :: Text.join [','] (item.entries.map memberText) ++ ['\x7d'] := rfl

theorem isInert_memberText (e : String × String) : ∀ c ∈ memberText e, c = '"' ∨ IsInert c := by
  intro c hc
  rcases List.mem_append.mp hc with hc | hc
  · exact isInert_stringText e.1 c hc
  · rcases List.mem_cons.mp hc with rfl | hc
    · exact .inr (isInert_punctuation ':' (by simp))
    · exact isInert_stringText e.2 c hc

theorem isInert_itemText (item : Item) : ∀ c ∈ itemText item, c = '"' ∨ IsInert c := by
  have hmembers : ∀ c ∈ Text.join [','] (item.entries.map memberText), c = '"' ∨ IsInert c := by
    refine Text.forall_mem_join ?_ ?_
    · intro c hc
      exact .inr (isInert_punctuation c (by simp_all))
    · intro s hs
      obtain ⟨e, -, rfl⟩ := List.mem_map.mp hs
      exact isInert_memberText e
  intro c hc
  simp only [itemText_eq, List.mem_append, List.mem_cons, List.not_mem_nil, or_false] at hc
  rcases hc with (rfl | hc) | rfl
  · exact .inr (isInert_punctuation '\x7b' (by simp))
  · exact hmembers c hc
  · exact .inr (isInert_punctuation '\x7d' (by simp))

/-- **The text of a list has no character that means anything elsewhere, but for quotes.** -/
theorem isInert_encodeChars (items : List Item) : ∀ c ∈ encodeChars items, c = '"' ∨ IsInert c := by
  have hitems : ∀ c ∈ Text.join [','] (items.map itemText), c = '"' ∨ IsInert c := by
    refine Text.forall_mem_join ?_ ?_
    · intro c hc
      exact .inr (isInert_punctuation c (by simp_all))
    · intro s hs
      obtain ⟨item, -, rfl⟩ := List.mem_map.mp hs
      exact isInert_itemText item
  intro c hc
  simp only [encodeChars, List.mem_append, List.mem_cons, List.not_mem_nil, or_false] at hc
  rcases hc with (rfl | hc) | rfl
  · exact .inr (isInert_punctuation '[' (by simp))
  · exact hitems c hc
  · exact .inr (isInert_punctuation ']' (by simp))

/-- **The text of a list lacks the characters of markup.** -/
theorem not_mem_encodeChars {c : Char} (hc : c ∈ markupChars) (items : List Item) : c ∉ encodeChars items := by
  intro hmem
  rcases isInert_encodeChars items c hmem with rfl | hinert
  · exact absurd hc (by decide)
  · exact hinert.2.2 hc

/-- **The text of a list neither opens nor closes a stored value.** -/
theorem isPlain_encode (items : List Item) : Blob.IsPlain (encode items).toList := by
  rw [encode, String.toList_ofList]
  have hlt := not_mem_encodeChars (c := '<') (by decide) items
  exact ⟨Text.occurs_eq_false_of_not_mem (by decide) hlt, Text.occurs_eq_false_of_not_mem (by decide) hlt⟩

end Items

end FormTemplate
