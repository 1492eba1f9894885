import FormTemplate.Proofs.Items.Bared
import FormTemplate.Proofs.Items.Inert
import Mathlib.Data.List.Infix

/-!
# Lost backslashes

On its way through other programs the text of a list can lose the backslashes of some of its escapes. What is left is still
the text of a list, in whose values the characters of those escapes stand bare, because an escape lies within one string
and the rest of the string is read as before. Reading repairs the values, so the list comes back.

* `Loses` : a text loses the backslashes of some escapes in its values;
* `Loses.split` : texts between strings lose them each by itself;
* `Loses.exists_stringText` : a string stays a string, and a key stays as it is;
* `Recovers` : what is left of a text can be restored;
* `exists_of_loses_brackets` : so can what is left of a list or an object of such texts;
* `decode_of_loses` : a list is read as it was.
-/

set_option autoImplicit false

namespace FormTemplate.Items

open Json (Context Delimited)

variable {e : Char × List Char} {c : Char} {s t : List Char}

/-! ## Texts that lose backslashes -/

/-- **Some escapes of a text lose their backslashes.** They are escapes of characters at risk, in strings that are the
values of members; everything else stays. The context is that in front of the text. -/
inductive Loses : Context → List Char → List Char → Prop
  | nil {k : Context} : Loses k [] []
  | keep {k : Context} {c : Char} {s t : List Char} : Loses (k.next c) s t → Loses k (c :: s) (c :: t)
  | lose {e : Char × List Char} {s t : List Char} : e ∈ bareCodes → Loses (.inString true) s t →
      Loses (.inString true) ('\\' :: e.2 ++ s) (e.2 ++ t)

namespace Loses

variable {k : Context} {isValue : Bool} {a : List Char}

theorem keep_append (h : Loses (k.after a) s t) : Loses k (a ++ s) (a ++ t) := by
  induction a generalizing k with
  | nil => exact h
  | cons c r ih => exact .keep (ih h)

theorem refl : Loses k s s := by
  have h : Loses k (s ++ []) (s ++ []) := keep_append .nil
  rwa [List.append_nil] at h

theorem cases_nil (h : Loses k [] t) : t = [] := by
  generalize htext : [] = w at h
  cases h with
  | nil => rfl
  | keep => cases htext
  | lose => cases htext

theorem cases_cons (h : Loses k (c :: s) t) : (∃ t', t = c :: t' ∧ Loses (k.next c) s t') ∨
    (k = .inString true ∧ c = '\\' ∧
      ∃ e ∈ bareCodes, ∃ s' t', s = e.2 ++ s' ∧ t = e.2 ++ t' ∧ Loses (.inString true) s' t') := by
  generalize htext : c :: s = w at h
  cases h with
  | nil => cases htext
  | keep h =>
    cases htext
    exact .inl ⟨_, rfl, h⟩
  | lose he h =>
    cases htext
    exact .inr ⟨rfl, rfl, _, he, _, _, rfl, rfl, h⟩

theorem cons (hk : k ≠ .inString true) (h : Loses k (c :: s) t) : ∃ t', t = c :: t' ∧ Loses (k.next c) s t' := by
  rcases h.cases_cons with h | ⟨hvalue, -⟩
  · exact h
  · exact absurd hvalue hk

/-- Nothing is lost where no character of a string ends it or escapes another. -/
theorem plain (hquote : '"' ∉ a) (hslash : '\\' ∉ a) (h : Loses (.inString isValue) (a ++ s) t) :
    ∃ t', t = a ++ t' ∧ Loses (.inString isValue) s t' := by
  induction a generalizing t with
  | nil => exact ⟨t, rfl, h⟩
  | cons c r ih =>
    simp only [List.mem_cons, not_or] at hquote hslash
    rcases h.cases_cons with ⟨t', rfl, h'⟩ | ⟨-, hc, -⟩
    · rw [Context.next_inString (Ne.symm hquote.1) (Ne.symm hslash.1)] at h'
      obtain ⟨t'', rfl, hrest⟩ := ih hquote.2 hslash.2 h'
      exact ⟨t'', rfl, hrest⟩
    · exact absurd hc.symm hslash.1

/-- No escape that loses its backslash reaches out of its string. -/
theorem after_ne_between : ∀ e ∈ bareCodes, ∀ a ∈ ('\\' :: e.2).inits, ∀ b,
    (Context.inString true).after a ≠ .between b := by decide +kernel

theorem after_bareCode : ∀ e ∈ bareCodes, (Context.inString true).after ('\\' :: e.2) = .inString true := by
  decide +kernel

/-- **Texts one behind the other**, with no string across their boundary, lose their backslashes each by itself. -/
theorem split {b : Bool} (hafter : k.after a = .between b) (h : Loses k (a ++ s) t) :
    ∃ t₁ t₂, t = t₁ ++ t₂ ∧ Loses k a t₁ ∧ Loses (.between b) s t₂ := by
  generalize htext : a ++ s = w at h
  induction h generalizing a with
  | nil =>
    obtain ⟨rfl, rfl⟩ := List.append_eq_nil_iff.mp htext
    exact ⟨[], [], rfl, .nil, .nil⟩
  | @keep k c w t h ih =>
    cases a with
    | nil =>
      cases htext
      rw [Context.after_nil] at hafter
      exact ⟨[], c :: t, rfl, .nil, hafter ▸ .keep h⟩
    | cons d a =>
      cases htext
      obtain ⟨t₁, t₂, rfl, h₁, h₂⟩ := ih hafter rfl
      exact ⟨c :: t₁, t₂, rfl, .keep h₁, h₂⟩
  | @lose e w t he h ih =>
    rcases List.append_eq_append_iff.mp htext with ⟨l, hl, -⟩ | ⟨l, rfl, rfl⟩
    · exact absurd hafter (after_ne_between e he a ((List.mem_inits a _).mpr ⟨l, hl.symm⟩) b)
    · have hcode : (Context.inString true).after ('\\' :: e.2) = .inString true := after_bareCode e he
      rw [Context.after_append, hcode] at hafter
      obtain ⟨t₁, t₂, rfl, h₁, h₂⟩ := ih hafter rfl
      exact ⟨e.2 ++ t₁, t₂, by rw [List.append_assoc], .lose he h₁, h₂⟩

/-- **A written character stays, or it is a character at risk and stands bare**, unless the string is no value. -/
theorem cases_escapeChar (hs : (Json.readParts? s).isSome = true)
    (h : Loses (.inString isValue) (escapeChar c ++ s) t) :
    (∃ t', t = escapeChar c ++ t' ∧ Loses (.inString isValue) s t') ∨
      (isValue = true ∧ ∃ e ∈ bareCodes, e.1 = c ∧ ∃ t', t = e.2 ++ t' ∧ Loses (.inString isValue) s t') := by
  have hquote := quote_not_mem_escapeChar c
  rcases escapeChar_cases c with ⟨hself, hslash⟩ | ⟨d, r, hescape, hslash⟩
  · rw [hself] at h hquote ⊢
    exact .inl (plain hquote (by simpa using Ne.symm hslash) h)
  have hcontext : (Context.inString isValue).next '\\' = .escaped isValue := rfl
  have hafter : (Context.escaped isValue).next d = .inString isValue := rfl
  rw [hescape] at hquote
  simp only [List.mem_cons, not_or] at hquote
  rw [hescape, List.cons_append, List.cons_append] at h
  rcases h.cases_cons with ⟨t', rfl, h'⟩ | ⟨hvalue, -, e, he, s', t', hcode, rfl, h'⟩
  · rw [hcontext] at h'
    obtain ⟨t'', rfl, h''⟩ := h'.cons (by simp)
    rw [hafter] at h''
    obtain ⟨t₃, rfl, hrest⟩ := plain hquote.2.2 hslash h''
    exact .inl ⟨t₃, by rw [hescape]; rfl, hrest⟩
  · -- two escapes with which a string's text goes on are the same
    cases hvalue
    have hsame : escapeChar c ++ s = escapeChar e.1 ++ s' := by
      rw [hescape, escapeChar_of_mem_bareCodes e he, List.cons_append, List.cons_append, List.cons_append, hcode]
    obtain ⟨rfl, rfl⟩ := soundEscape_escapeChar.append_inj hs hsame
    exact .inr ⟨rfl, e, he, rfl, t', rfl, h'⟩

/-- What a string loses, up to its closing quote. -/
theorem exists_bared {v : List Char} (h : Loses (.inString isValue) (v.flatMap escapeChar ++ ['"']) t) :
    ∃ w, Bared v w ∧ (isValue = false → w = v) ∧ t = w.flatMap escapeChar ++ ['"'] := by
  induction v generalizing t with
  | nil =>
    rcases h.cases_cons with ⟨t', rfl, h'⟩ | ⟨-, hslash, -⟩
    · rw [h'.cases_nil]
      exact ⟨[], .nil, fun _ => rfl, rfl⟩
    · exact absurd hslash (by decide)
  | cons c v ih =>
    have hs : (Json.readParts? (v.flatMap escapeChar ++ ['"'])).isSome = true := by
      obtain ⟨ps, hps, -⟩ := Json.readParts?_quoted soundEscape_escapeChar v []
      rw [hps]
      rfl
    rw [List.flatMap_cons, List.append_assoc] at h
    rcases h.cases_escapeChar hs with ⟨t', rfl, h'⟩ | ⟨hvalue, e, he, rfl, t', rfl, h'⟩
    · obtain ⟨w, hw, hkey, rfl⟩ := ih h'
      refine ⟨c :: w, .keep c hw, fun hvalue => by rw [hkey hvalue], ?_⟩
      rw [List.flatMap_cons, List.append_assoc]
    · obtain ⟨w, hw, -, rfl⟩ := ih h'
      refine ⟨e.2 ++ w, .bare he hw, fun hkey => ?_, ?_⟩
      · rw [hvalue] at hkey
        cases hkey
      · rw [List.flatMap_append, flatMap_escapeChar_of_mem_bareCodes e he, List.append_assoc]

/-- **A string loses backslashes only if it is a value**, and then some of its characters stand bare. -/
theorem exists_stringText {v : String} (h : Loses (.between isValue) (stringText v) t) :
    ∃ w : String, Bared v.toList w.toList ∧ (isValue = false → w = v) ∧ t = stringText w := by
  have hnext : (Context.between isValue).next '"' = .inString isValue := rfl
  obtain ⟨t', rfl, h'⟩ := h.cons (by simp)
  rw [hnext] at h'
  obtain ⟨w, hw, hkey, rfl⟩ := h'.exists_bared
  refine ⟨String.ofList w, by rwa [String.toList_ofList], ?_, ?_⟩
  · intro hvalue
    rw [hkey hvalue, String.ofList_toList]
  · rw [stringText, String.toList_ofList]
    rfl

end Loses

/-! ## Lists -/

/-- **Whatever backslashes its text loses, it can be restored**: what is left is the text of something that is `x` once
restored. -/
def Recovers {α : Type} (text : α → List Char) (restore : α → α) (x : α) : Prop :=
  ∀ t, Loses (.between false) (text x) t → ∃ y, restore y = x ∧ t = text y

section
variable {α : Type} {text : α → List Char} {restore : α → α} {xs : List α} {o c : Char} {t : List Char}

theorem exists_of_loses_join (hin : ∀ x ∈ xs, Delimited (.between false) (text x) (.between false))
    (hxs : ∀ x ∈ xs, Recovers text restore x) (h : Loses (.between false) (Text.join [','] (xs.map text)) t) :
    ∃ ys : List α, ys.map restore = xs ∧ t = Text.join [','] (ys.map text) := by
  induction xs generalizing t with
  | nil => exact ⟨[], rfl, h.cases_nil⟩
  | cons x r ih =>
    have hx := hxs x List.mem_cons_self
    have hr := fun z hz => hxs z (List.mem_cons_of_mem x hz)
    cases r with
    | nil =>
      obtain ⟨y, hy, rfl⟩ := hx t h
      exact ⟨[y], by rw [List.map_singleton, hy], rfl⟩
    | cons z r =>
      rw [List.map_cons, List.map_cons, Text.join_cons_cons, List.append_assoc] at h
      obtain ⟨t₁, t₂, rfl, h₁, h₂⟩ := h.split (hin x List.mem_cons_self).after
      obtain ⟨y, hy, rfl⟩ := hx t₁ h₁
      obtain ⟨t₃, rfl, h₃⟩ := h₂.cons (by simp)
      obtain ⟨ys, hys, rfl⟩ := ih (fun z hz => hin z (List.mem_cons_of_mem x hz)) hr h₃
      cases ys with
      | nil => cases hys
      | cons y' ys =>
        refine ⟨y :: y' :: ys, by rw [List.map_cons, hy, hys], ?_⟩
        simp only [List.map_cons, Text.join_cons_cons, List.append_assoc, List.singleton_append]

/-- Parts that can be restored make up a list or an object that can be. -/
theorem exists_of_loses_brackets (ho : (Context.between false).next o = .between false)
    (hin : ∀ x ∈ xs, Delimited (.between false) (text x) (.between false))
    (hxs : ∀ x ∈ xs, Recovers text restore x)
    (h : Loses (.between false) (o :: Text.join [','] (xs.map text) ++ [c]) t) :
    ∃ ys : List α, ys.map restore = xs ∧ t = o :: Text.join [','] (ys.map text) ++ [c] := by
  have hjoin : Delimited (.between false) (Text.join [','] (xs.map text)) (.between false) :=
    .join_map (.char rfl) hin
  obtain ⟨t', rfl, h'⟩ := h.cons (by simp)
  rw [ho] at h'
  obtain ⟨t₁, t₂, rfl, h₁, h₂⟩ := Loses.split hjoin.after h'
  obtain ⟨ys, hys, rfl⟩ := exists_of_loses_join hin hxs h₁
  obtain ⟨t₃, rfl, h₃⟩ := h₂.cons (by simp)
  rw [h₃.cases_nil]
  exact ⟨ys, hys, rfl⟩

end

theorem recovers_memberText {e : String × String} (hv : Recoverable e.2) :
    Recovers memberText (fun e => (e.1, repair e.2)) e := by
  intro t h
  obtain ⟨t₁, t₂, rfl, h₁, h₂⟩ := Loses.split (delimited_stringText e.1 false).after h
  obtain ⟨key, -, hkey, rfl⟩ := h₁.exists_stringText
  obtain ⟨t₃, rfl, h₃⟩ := h₂.cons (by simp)
  have hcolon : (Context.between false).next ':' = .between true := rfl
  rw [hcolon] at h₃
  obtain ⟨w, hw, -, rfl⟩ := h₃.exists_stringText
  refine ⟨(e.1, w), Prod.ext rfl (hv.repair_eq hw), ?_⟩
  rw [hkey rfl]
  rfl

theorem recovers_itemText {item : Item} (hvalues : ∀ v ∈ item.values, Recoverable v) :
    Recovers itemText (·.mapValues fun _ v => repair v) item := by
  intro t h
  rw [itemText_eq] at h
  obtain ⟨entries, hentries, rfl⟩ := exists_of_loses_brackets rfl (fun e _ => delimited_memberText e)
    (fun e he => recovers_memberText (hvalues e.2 (List.mem_map_of_mem he))) h
  have hsorted : entries.Pairwise fun a b => a.1 < b.1 := by
    have := item.sorted
    rw [← hentries, List.pairwise_map] at this
    exact this
  exact ⟨⟨entries, hsorted⟩, Dict.ext_entries hentries, rfl⟩

/-- **Lost backslashes are recovered.** Where any escapes of the values of a list have lost their backslashes, the list
is still read as it was, if its values are recoverable. Its keys may be any texts. -/
theorem decode_of_loses {items : List Item} {payload : String}
    (hvalues : ∀ item ∈ items, ∀ v ∈ item.values, Recoverable v)
    (h : Loses (.between false) (encode items).toList payload.toList) : decode payload = .ok items := by
  rw [encode, String.toList_ofList, encodeChars] at h
  obtain ⟨left, hleft, htext⟩ := exists_of_loses_brackets rfl (fun item _ => delimited_itemText item)
    (fun item hitem => recovers_itemText (hvalues item hitem)) h
  have hpayload : payload = encode left := by
    rw [encode, encodeChars, ← htext, String.ofList_toList]
  rw [hpayload, decode_encode, hleft]

/-- A value in which other code units and digits stand beside characters at risk. -/
def crowdedItems : List Item := [⟨[("title", "uD83D<0041\\ >u00&")], by decide⟩]

/-- Two of the three escapes in its text lose their backslashes. -/
theorem decode_of_loses_crowded :
    (∀ item ∈ crowdedItems, ∀ v ∈ item.values, Recoverable v) ∧
      (encode crowdedItems).toList = "[\x7b\"title\":\"uD83D\\u003C0041\\\\ \\u003Eu00\\u0026\"\x7d]".toList ∧
      Loses (.between false) (encode crowdedItems).toList
        "[\x7b\"title\":\"uD83Du003C0041\\\\ \\u003Eu00u0026\"\x7d]".toList ∧
      decode "[\x7b\"title\":\"uD83Du003C0041\\\\ \\u003Eu00u0026\"\x7d]" = .ok crowdedItems := by
  have hvalues : ∀ item ∈ crowdedItems, ∀ v ∈ item.values, Recoverable v := by
    simp only [crowdedItems, List.mem_singleton, forall_eq, Dict.values, List.map_cons, List.map_nil]
    exact ⟨repair_eq_self (by decide +kernel), by decide +kernel⟩
  have htext : (encode crowdedItems).toList =
      "[\x7b\"title\":\"uD83D\\u003C0041\\\\ \\u003Eu00\\u0026\"\x7d]".toList := by decide +kernel
  have hloses : Loses (.between false) (encode crowdedItems).toList
      "[\x7b\"title\":\"uD83Du003C0041\\\\ \\u003Eu00u0026\"\x7d]".toList := by
    rw [htext]
    refine Loses.keep_append (a := "[\x7b\"title\":\"uD83D".toList) ?_
    refine .lose (e := ('<', "u003C".toList)) (by decide +kernel) ?_
    refine Loses.keep_append (a := "0041\\\\ \\u003Eu00".toList) ?_
    exact .lose (e := ('&', "u0026".toList)) (by decide +kernel) .refl
  exact ⟨hvalues, htext, hloses, decode_of_loses hvalues hloses⟩

end FormTemplate.Items
