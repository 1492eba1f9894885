import FormTemplate.Dict

/-!
# Mappings of dictionaries

What the operations on dictionaries do to the mapping, beyond insertion and removal.

* `get?_eq_some_iff` : the entries of a dictionary are its mapping;
* `mem_keys_iff`, `nodup_keys` : its keys are those with a value, each once;
* `mem_values_iff` : its values are those of its keys;
* `get?_ofList` : of several entries of a list with one key the last counts;
* `get?_override` : where a dictionary overrides another, its entries count;
* `get?_mapValues`, `get?_filter_key` : changed and selected entries;
* `keys_eq_filter` : the keys of selected entries, in their order.
-/

set_option autoImplicit false

namespace FormTemplate.Dict

variable {α β : Type}

/-- Dictionaries with the same entries are equal. -/
theorem ext_entries {d e : Dict α} (h : d.entries = e.entries) : d = e := by
  cases d
  cases e
  cases h
  rfl

/-! ## Look-ups among entries -/

theorem lookup_append (key : String) (l m : List (String × α)) :
    lookup key (l ++ m) = (lookup key l).or (lookup key m) := by
  induction l with
  | nil => rfl
  | cons e r ih =>
    simp only [List.cons_append, lookup]
    split
    · rfl
    · exact ih

theorem mem_of_lookup {key : String} {value : α} {l : List (String × α)} (h : lookup key l = some value) :
    (key, value) ∈ l := by
  induction l with
  | nil => cases h
  | cons e r ih =>
    simp only [lookup] at h
    split at h
    · rename_i hkey
      cases h
      rw [← hkey]
      exact List.mem_cons_self
    · exact List.mem_cons_of_mem _ (ih h)

theorem lookup_of_mem {e : String × α} {l : List (String × α)} (hl : l.Pairwise fun a b => a.1 < b.1)
    (h : e ∈ l) : lookup e.1 l = some e.2 := by
  induction l with
  | nil => cases h
  | cons x r ih =>
    have hx := List.pairwise_cons.mp hl
    rcases List.mem_cons.mp h with rfl | hr
    · simp [lookup]
    · have hne : ¬x.1 = e.1 := fun heq => String.lt_irrefl e.1 (heq ▸ hx.1 e hr)
      rw [lookup, if_neg hne, ih hx.2 hr]

theorem lookup_reverse {key : String} {l : List (String × α)} (hl : l.Pairwise fun a b => a.1 < b.1) :
    lookup key l.reverse = lookup key l := by
  induction l with
  | nil => rfl
  | cons e r ih =>
    have hx := List.pairwise_cons.mp hl
    rw [List.reverse_cons, lookup_append, ih hx.2]
    simp only [lookup]
    split
    · rename_i hkey
      rw [lookup_eq_none_of_lt (hkey ▸ hx.1)]
      rfl
    · exact Option.or_none

/-- The value under a key is that of the entry with the key. -/
theorem get?_eq_some_iff {d : Dict α} {key : String} {value : α} :
    d.get? key = some value ↔ (key, value) ∈ d.entries :=
  ⟨mem_of_lookup, lookup_of_mem (e := (key, value)) d.sorted⟩

theorem mem_keys_iff {d : Dict α} {key : String} : key ∈ d.keys ↔ ∃ value, d.get? key = some value := by
  simp only [keys, List.mem_map, Prod.exists, exists_and_right, exists_eq_right, get?_eq_some_iff]

theorem mem_values_iff {d : Dict α} {value : α} : value ∈ d.values ↔ ∃ key, d.get? key = some value := by
  simp only [values, List.mem_map, Prod.exists, exists_eq_right, get?_eq_some_iff]

/-- No key occurs twice. -/
theorem nodup_keys (d : Dict α) : d.keys.Nodup := by
  refine List.pairwise_map.mpr (d.sorted.imp ?_)
  intro a b hlt heq
  rw [heq] at hlt
  exact String.lt_irrefl _ hlt

/-! ## Dictionaries of lists -/

theorem get?_foldl_insert (l : List (String × α)) (d : Dict α) (key : String) :
    (l.foldl (fun d e => d.insert e.1 e.2) d).get? key = (lookup key l.reverse).or (d.get? key) := by
  induction l generalizing d with
  | nil => rfl
  | cons e r ih =>
    rw [List.foldl_cons, ih, List.reverse_cons, lookup_append, get?_insert, Option.or_assoc]
    congr 1
    simp only [lookup]
    split <;> rfl

/-- Of several entries with one key the last counts. -/
theorem get?_ofList (l : List (String × α)) (key : String) : (ofList l).get? key = lookup key l.reverse := by
  rw [ofList, get?_foldl_insert]
  exact Option.or_none

/-- Where a dictionary overrides another, its entries count. -/
theorem get?_override (d e : Dict α) (key : String) : (d.override e).get? key = (e.get? key).or (d.get? key) := by
  rw [override, get?_foldl_insert, lookup_reverse e.sorted]
  rfl

theorem ofList_append (l m : List (String × α)) : ofList (l ++ m) = (ofList l).override (ofList m) := by
  apply ext_get?
  intro key
  rw [get?_override, get?_ofList, get?_ofList, get?_ofList, List.reverse_append, lookup_append]

/-! ## Changed and selected entries -/

theorem lookup_mapValues (f : String → α → β) (key : String) (l : List (String × α)) :
    lookup key (l.map fun e => (e.1, f e.1 e.2)) = (lookup key l).map (f key) := by
  induction l with
  | nil => rfl
  | cons e r ih =>
    simp only [List.map_cons, lookup]
    split
    · rename_i hkey
      rw [← hkey]
      rfl
    · exact ih

theorem get?_mapValues (f : String → α → β) (d : Dict α) (key : String) :
    (d.mapValues f).get? key = (d.get? key).map (f key) :=
  lookup_mapValues f key d.entries

theorem lookup_filter_key (p : String → Bool) (key : String) (l : List (String × α)) :
    lookup key (l.filter fun e => p e.1) = if p key then lookup key l else none := by
  induction l with
  | nil => simp [lookup]
  | cons e r ih =>
    rw [List.filter_cons]
    split
    · rename_i hp
      rw [lookup, lookup]
      split
      · rename_i hkey
        rw [← hkey, if_pos hp]
      · exact ih
    · rename_i hp
      rw [ih, lookup]
      split
      · rename_i hkey
        have hne : ¬e.1 = key := fun heq => hp (heq ▸ hkey)
        rw [if_neg hne]
      · rfl

/-- A selection by key keeps the value of each selected key. -/
theorem get?_filter_key (p : String → Bool) (d : Dict α) (key : String) :
    (d.filter fun k _ => p k).get? key = if p key then d.get? key else none :=
  lookup_filter_key p key d.entries

/-- The keys of a dictionary that selects and changes the entries of another are the selected keys. -/
theorem keys_eq_filter {d : Dict α} {e : Dict β} {p : String → Bool}
    (h : ∀ key, (d.get? key).isSome = (p key && (e.get? key).isSome)) : d.keys = e.keys.filter p := by
  have hsorted : ∀ {γ : Type} (c : Dict γ), c.keys.Pairwise (· < ·) := fun c => List.pairwise_map.mpr c.sorted
  have hmem : ∀ key, key ∈ d.keys ↔ key ∈ e.keys.filter p := by
    intro key
    rw [List.mem_filter, mem_keys_iff, mem_keys_iff, ← Option.isSome_iff_exists, ← Option.isSome_iff_exists,
      h, Bool.and_eq_true, and_comm]
  refine List.Perm.eq_of_pairwise ?_ (hsorted d) ((hsorted e).filter p)
    ((List.perm_ext_iff_of_nodup d.nodup_keys (e.nodup_keys.filter p)).mpr hmem)
  intro a b _ _ hab hba
  exact absurd (String.lt_trans hab hba) (String.lt_irrefl a)

end FormTemplate.Dict
