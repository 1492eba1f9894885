import FormTemplate.Proofs.Blob.RoundTrip
import FormTemplate.Proofs.Items.RoundTrip
import FormTemplate.Proofs.Json.Context

/-!
# Lists inside other texts

The text of a list is put into markup, into attributes and between the comments of a stored value. Whatever its items
hold, it does no harm there: it has no character of markup and no control character, and its quotes are those around the
strings. It is still JSON for its items as they are, and stored under a slug it comes back unchanged.

* `escapeChar_cases` : a character is written as itself or behind a backslash;
* `delimited_stringText` : the quotes of a string are the two around it;
* `delimited_encodeChars` : so every quote of a list's text begins or ends a string;
* `encode_inert` : what the text of a list is to its surroundings, to a reader of JSON and to a reader of stored values.
-/

set_option autoImplicit false

namespace FormTemplate.Items

open Json (Context Delimited)

variable {k : Context} {isValue : Bool} {c : Char}

/-! ## Strings -/

theorem quote_not_mem_escapeChar (c : Char) : '"' ∉ escapeChar c :=
  fun h => (isInert_escapeChar c '"' h).2.1 rfl

theorem slash_not_mem_hexLower4 (n : Nat) : '\\' ∉ Text.hexLower4 n := by
  have hdigit : ∀ m : Fin 16, Text.hexLower m.val ≠ '\\' := by decide
  have hmod : ∀ m, '\\' ≠ Text.hexLower (m % 16) := fun m => (hdigit ⟨m % 16, by omega⟩).symm
  simp only [Text.hexLower4, List.mem_cons, List.not_mem_nil, or_false, not_or]
  exact ⟨hmod _, hmod _, hmod _, hmod _⟩

/-- **A character is written as itself, or behind a backslash** with no other backslash after what that one escapes. -/
theorem escapeChar_cases (c : Char) :
    (escapeChar c = [c] ∧ c ≠ '\\') ∨ ∃ e r, escapeChar c = '\\' :: e :: r ∧ '\\' ∉ r := by
  have h := escapedAs_escapeChar c
  generalize escapeChar c = s at h ⊢
  cases h with
  | @code e he =>
    have hcodes : ∀ e ∈ bareCodes, e.2 = 'u' :: e.2.tail ∧ '\\' ∉ e.2.tail := by decide +kernel
    obtain ⟨hu, hslash⟩ := hcodes e he
    exact .inr ⟨'u', e.2.tail, by rw [← hu], hslash⟩
  | slash => exact .inr ⟨'\\', [], rfl, by simp⟩
  | control =>
    unfold Json.escapeControl
    split
    · rename_i e _
      exact .inr ⟨e, [], rfl, by simp⟩
    · exact .inr ⟨'u', _, rfl, slash_not_mem_hexLower4 _⟩
  | plain _ hslash => exact .inl ⟨rfl, hslash⟩

/-- A text without quotes and backslashes goes on in a string. -/
theorem after_inString {s : List Char} (hquote : '"' ∉ s) (hslash : '\\' ∉ s) :
    (Context.inString isValue).after s = .inString isValue := by
  induction s with
  | nil => rfl
  | cons c r ih =>
    simp only [List.mem_cons, not_or] at hquote hslash
    rw [Context.after_cons, Context.next_inString (Ne.symm hquote.1) (Ne.symm hslash.1), ih hquote.2 hslash.2]

theorem after_escapeChar (c : Char) : (Context.inString isValue).after (escapeChar c) = .inString isValue := by
  have hquote := quote_not_mem_escapeChar c
  rcases escapeChar_cases c with ⟨hself, hslash⟩ | ⟨e, r, hescape, hslash⟩
  · rw [hself] at hquote ⊢
    exact after_inString hquote (by simpa using Ne.symm hslash)
  · rw [hescape] at hquote ⊢
    simp only [List.mem_cons, not_or] at hquote
    show (Context.inString isValue).after r = _
    exact after_inString hquote.2.2 hslash

theorem delimited_flatMap_escapeChar (s : List Char) :
    Delimited (.inString isValue) (s.flatMap escapeChar) (.inString isValue) := by
  induction s with
  | nil => exact .nil
  | cons c r ih =>
    rw [List.flatMap_cons]
    have hchar := Delimited.of_not_mem (k := .inString isValue) (quote_not_mem_escapeChar c)
    rw [after_escapeChar] at hchar
    exact hchar.append ih

/-- **The quotes of a string are the two around it.** -/
theorem delimited_stringText (s : String) (behindColon : Bool) :
    Delimited (.between behindColon) (stringText s) (.between false) := by
  have hopen : Delimited (.between behindColon) ('"' :: s.toList.flatMap escapeChar) (.inString behindColon) :=
    .cons rfl rfl (delimited_flatMap_escapeChar s.toList)
  exact hopen.append (.char rfl)

/-! ## Lists -/

theorem delimited_memberText (e : String × String) : Delimited (.between false) (memberText e) (.between false) :=
  (delimited_stringText e.1 false).append (.cons rfl rfl (delimited_stringText e.2 true))

theorem delimited_itemText (item : Item) : Delimited (.between false) (itemText item) (.between false) := by
  have hmembers : Delimited (.between false) ('\x7b' :: Text.join [','] (item.entries.map memberText))
      (.between false) :=
    .cons rfl rfl (.join_map (.char rfl) fun e _ => delimited_memberText e)
  exact hmembers.append (.char rfl)

/-- **Every quote of a list's text begins or ends a string.** -/
theorem delimited_encodeChars (items : List Item) :
    Delimited (.between false) (encodeChars items) (.between false) := by
  have hitems : Delimited (.between false) ('[' :: Text.join [','] (items.map itemText)) (.between false) :=
    .cons rfl rfl (.join_map (.char rfl) fun item _ => delimited_itemText item)
  exact hitems.append (.char rfl)

/-- **The text of a list is inert.** It has no character of markup and no control character, and each of its quotes begins
or ends a string. It is JSON for the items as they are, and stored under any slug it comes back unchanged. -/
theorem encode_inert (items : List Item) (slug : String) (hslug : Slug.isValid slug = true) :
    (∀ c ∈ (encode items).toList, c ∉ ['<', '>', '&', '\''] ∧ 0x20 ≤ c.toNat) ∧
      (∀ before after, (encode items).toList = before ++ '"' :: after →
        ((Context.between false).after before).isEscaped = false) ∧
      Json.parseUsable? (encode items).toList =
        some (.arr (items.map fun item => .obj (item.entries.map fun e => (e.1, .str e.2)))) ∧
      Blob.decode (Blob.encode [⟨slug, .array, encode items⟩]) =
        Dict.empty.insert slug ⟨slug, .array, encode items⟩ := by
  refine ⟨?_, ?_, ?_, ?_⟩
  · intro c hc
    rw [encode, String.toList_ofList] at hc
    rcases isInert_encodeChars items c hc with rfl | hinert
    · decide
    · exact ⟨hinert.2.2, hinert.1⟩
  · rw [encode, String.toList_ofList]
    exact (delimited_encodeChars items).quotes
  · rw [parseUsable?_encode]
    rfl
  · have hread := Blob.readValues_encodeChars_of_isPlain (v := ⟨slug, .array, encode items⟩) hslug (isPlain_encode items)
    rw [Blob.decode_encode_eq_bySlug, hread]
    rfl

/-- A list whose key closes a stored value and whose value would end a string, an attribute and an element. -/
def hostileItems : List Item := [⟨[("<!-- /field -->", "\"'<&>\\")], by decide⟩]

/-- Nothing of it is left in the text, which still comes back from under a slug. -/
theorem encode_inert_hostile :
    Slug.isValid "rows" = true ∧
      (encode hostileItems).toList =
        "[\x7b\"\\u003C!-- /field --\\u003E\":\"\\u0022\\u0027\\u003C\\u0026\\u003E\\\\\"\x7d]".toList ∧
      '<' ∉ (encode hostileItems).toList ∧
      Blob.decode (Blob.encode [⟨"rows", .array, encode hostileItems⟩]) =
        Dict.empty.insert "rows" ⟨"rows", .array, encode hostileItems⟩ := by
  have hslug : Slug.isValid "rows" = true := by decide +kernel
  obtain ⟨hmarkup, -, -, hstored⟩ := encode_inert hostileItems "rows" hslug
  refine ⟨hslug, by decide +kernel, ?_, hstored⟩
  intro hlt
  exact (hmarkup '<' hlt).1 (by simp)

end FormTemplate.Items
