import FormTemplate.Proofs.Dict
import FormTemplate.Proofs.Items.Encoding
import FormTemplate.Proofs.Json.Written

/-!
# Lists of items read back

A list is written as an array of objects with strings. The escapes of its strings read back, so the list comes back
with its items in order and the keys of each item as they were; the values come back with their bare code units
repaired, because reading repairs every value.

* `soundEscape_escapeChar` : the escapes of a list's strings read back;
* `writtenAs_encodeChars` : the text of a list writes the array of its items;
* `encode_injective` : lists are told apart by their texts;
* `parseUsable?_encode` : the text of a list is JSON for its items as they are;
* `decode_encode` : what a written list is read as;
* `decode_encode_repairs` : it is read as itself exactly if repair changes none of its values.
-/

set_option autoImplicit false

namespace FormTemplate

theorem Dict.ofList_entries {α : Type} (d : Dict α) : Dict.ofList d.entries = d := by
  apply Dict.ext_get?
  intro key
  rw [Dict.get?_ofList, Dict.lookup_reverse d.sorted]
  rfl

namespace Json

variable {limit : Nat}

theorem fitsItems_eq_true {vs : List Json} (h : ∀ v ∈ vs, fits limit v = true) : fitsItems limit vs = true := by
  induction vs with
  | nil => rfl
  | cons v r ih =>
    rw [fitsItems, h v List.mem_cons_self, ih fun x hx => h x (List.mem_cons_of_mem _ hx)]
    rfl

theorem fitsMembers_eq_true {ms : List (String × Json)} (h : ∀ m ∈ ms, fits limit m.2 = true) :
    fitsMembers limit ms = true := by
  induction ms with
  | nil => rfl
  | cons m r ih =>
    rw [fitsMembers, h m List.mem_cons_self, ih fun x hx => h x (List.mem_cons_of_mem _ hx)]
    rfl

end Json

namespace Items

open Json (WrittenAs MemberWrittenAs)

/-! ## Writing -/

/-- The escapes of a list's strings read back. -/
theorem soundEscape_escapeChar : Json.SoundEscape escapeChar := by
  intro c
  have h := escapedAs_escapeChar c
  generalize escapeChar c = s at h ⊢
  cases h with
  | @code e he =>
    obtain ⟨a, b, c, d, hcode, hvalue⟩ := exists_of_mem_bareCodes he
    rw [hcode]
    exact ⟨.unit e.1.toNat, .inr ⟨rfl, lt_of_mem_bareCodes e he⟩, Json.readsAs_unit hvalue⟩
  | slash => exact ⟨.char '\\', .inl rfl, Json.readsAs_escape (by decide) (by decide)⟩
  | control hcontrol => exact Json.readsAs_escapeControl hcontrol
  | plain hcontrol hslash hcodes =>
    have hquote : c ≠ '"' := hcodes _ List.mem_cons_self
    exact ⟨.char c, .inl rfl, Json.readsAs_char hquote hslash hcontrol⟩

/-- The value that the text of an item writes. -/
def itemValue (item : Item) : Json := .obj (item.entries.map fun e => (e.1, .str e.2))

theorem writtenAs_itemText (item : Item) : WrittenAs (itemText item) (itemValue item) := by
  have h : ∀ e : String × String, MemberWrittenAs (memberText e) (e.1, .str e.2) := fun e =>
    ⟨escapeChar, stringText e.2, soundEscape_escapeChar, rfl, Json.writtenAs_quote soundEscape_escapeChar e.2⟩
  have hwritten := Json.writtenAs_object (l := item.entries.map fun e => (memberText e, e.1, .str e.2)) (by
    intro p hp
    obtain ⟨e, _, rfl⟩ := List.mem_map.mp hp
    exact h e)
  rw [List.map_map, List.map_map] at hwritten
  exact hwritten

/-- **The text of a list writes the array of its items.** -/
theorem writtenAs_encodeChars (items : List Item) : WrittenAs (encodeChars items) (.arr (items.map itemValue)) := by
  have hwritten := Json.writtenAs_array (l := items.map fun item => (itemText item, itemValue item)) (by
    intro p hp
    obtain ⟨item, _, rfl⟩ := List.mem_map.mp hp
    exact writtenAs_itemText item)
  rw [List.map_map, List.map_map] at hwritten
  exact hwritten

/-! ## Reading -/

/-- Items are told apart by the values that their texts write. -/
theorem itemValue_injective {a b : Item} (h : itemValue a = itemValue b) : a = b := by
  have hentry : ∀ e e' : String × String, (e.1, Json.str e.2) = (e'.1, Json.str e'.2) → e = e' := by
    rintro ⟨key, value⟩ ⟨key', value'⟩ heq
    cases heq
    rfl
  exact Dict.ext_entries ((List.map_inj_right hentry).mp (Json.obj.inj h))

/-- **Lists are told apart by their texts.** -/
theorem encode_injective {a b : List Item} (h : encode a = encode b) : a = b := by
  have hvalue : ∀ items : List Item, Json.parse? (encode items).toList = some (.arr (items.map itemValue)) := by
    intro items
    rw [encode, String.toList_ofList]
    exact (writtenAs_encodeChars items).parse?_eq
  have hitems := Json.arr.inj (Option.some.inj ((hvalue a).symm.trans (h ▸ hvalue b)))
  exact (List.map_inj_right fun _ _ => itemValue_injective).mp hitems

theorem fits_itemValue (limit : Nat) (item : Item) : (itemValue item).fits (limit + 1) = true := by
  refine Json.fitsMembers_eq_true fun m hm => ?_
  obtain ⟨e, _, rfl⟩ := List.mem_map.mp hm
  rfl

theorem itemOf?_itemValue (item : Item) : itemOf? (itemValue item) = some (item.mapValues fun _ v => repair v) := by
  have hentries : (item.entries.map fun e => (e.1, Json.str e.2)).map (fun m => (m.1, repair (valueText m.2))) =
      (item.mapValues fun _ v => repair v).entries := by
    rw [List.map_map]
    rfl
  rw [itemValue, itemOf?, hentries, Dict.ofList_entries]

/-- **The text of a list is JSON for its items as they are**, before any repair. -/
theorem parseUsable?_encode (items : List Item) :
    Json.parseUsable? (encode items).toList = some (.arr (items.map itemValue)) := by
  have hfits : (Json.arr (items.map itemValue)).fits Json.maxDepth = true := by
    refine Json.fitsItems_eq_true fun v hv => ?_
    obtain ⟨item, _, rfl⟩ := List.mem_map.mp hv
    exact fits_itemValue 125 item
  rw [Json.parseUsable?, encode, String.toList_ofList, (writtenAs_encodeChars items).parse?_eq, Option.bind_some,
    if_pos hfits]

/-- **A written list is read as its items with their values repaired.** -/
theorem decode_encode (items : List Item) :
    decode (encode items) = .ok (items.map (·.mapValues fun _ v => repair v)) := by
  have hblank : Text.isBlankText (encode items) = false := by
    rw [Text.isBlankText, encode, String.toList_ofList, encodeChars, List.cons_append, List.all_cons]
    rfl
  have hitems : (items.map itemValue).filterMap itemOf? = items.map (·.mapValues fun _ v => repair v) := by
    rw [List.filterMap_map, ← List.filterMap_eq_map]
    congr 1
    funext item
    exact itemOf?_itemValue item
  simp only [decode, hblank, parseUsable?_encode, Json.orRefusal_some, hitems, Bool.false_eq_true, if_false]

/-- Repairing the values of an item leaves it as it is exactly if repair changes none of them. -/
theorem mapValues_repair_eq_self_iff {item : Item} :
    (item.mapValues fun _ v => repair v) = item ↔ ∀ v ∈ item.values, repair v = v := by
  have hentries : (item.mapValues fun _ v => repair v) = item ↔
      item.entries.map (fun e => (e.1, repair e.2)) = item.entries.map id := by
    rw [List.map_id]
    exact ⟨fun h => congrArg Dict.entries h, fun h => Dict.ext_entries h⟩
  rw [hentries, List.map_inj_left, Dict.values, List.forall_mem_map]
  simp only [id, Prod.ext_iff, true_and]

/-- **A written list is read as the same list, with every value repaired**: the items in their order, each with its keys.
So it is read as itself exactly if repair changes none of its values. -/
theorem decode_encode_repairs (items : List Item) :
    decode (encode items) = .ok (items.map (·.mapValues fun _ v => repair v)) ∧
      (decode (encode items) = .ok items ↔ ∀ item ∈ items, ∀ v ∈ item.values, repair v = v) := by
  refine ⟨decode_encode items, ?_⟩
  rw [decode_encode]
  constructor
  · intro h item hitem
    have hmap : items.map (·.mapValues fun _ v => repair v) = items.map id := by
      rw [List.map_id]
      exact Except.ok.inj h
    exact mapValues_repair_eq_self_iff.mp (List.map_inj_left.mp hmap item hitem)
  · intro h
    have hmap : items.map (·.mapValues fun _ v => repair v) = items.map id :=
      List.map_inj_left.mpr fun item hitem => mapValues_repair_eq_self_iff.mpr (h item hitem)
    rw [hmap, List.map_id]

end Items

end FormTemplate
