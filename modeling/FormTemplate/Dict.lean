/-!
# Dictionaries

A dictionary maps strings to values. Its entries are kept in ascending order of their keys, each key once, so a
dictionary is determined by what it maps its keys to. On valid text the order of keys by code point is also
their order by bytes.

* `Dict.get?`, `Dict.insert`, `Dict.erase`, `Dict.ofList`, `Dict.override` : the operations.
* `Dict.get?_insert`, `Dict.get?_erase` : what the operations do to the mapping.
* `Dict.ext_get?` : dictionaries with the same mapping are equal.
-/

set_option autoImplicit false

namespace FormTemplate

/-- A mapping of strings to values, with entries in ascending order of their keys. -/
structure Dict (α : Type) where
  entries : List (String × α)
  sorted : entries.Pairwise (fun a b => a.1 < b.1) := by decide

namespace Dict

variable {α β : Type}

instance [DecidableEq α] : DecidableEq (Dict α) := fun a b =>
  if h : a.entries = b.entries then isTrue (by cases a; cases b; cases h; rfl)
  else isFalse fun heq => h (by rw [heq])

instance [Repr α] : Repr (Dict α) := ⟨fun d n => reprPrec d.entries n⟩

/-- The dictionary without entries. -/
def empty : Dict α := ⟨[], .nil⟩

instance : Inhabited (Dict α) := ⟨empty⟩

/-- The value of a key among entries. -/
def lookup (key : String) : List (String × α) → Option α
  | [] => none
  | e :: rest => if e.1 = key then some e.2 else lookup key rest

/-- The value of a key. -/
def get? (d : Dict α) (key : String) : Option α := lookup key d.entries

/-- Whether a key has a value. -/
def contains (d : Dict α) (key : String) : Bool := (d.get? key).isSome

/-- The keys in ascending order. -/
def keys (d : Dict α) : List String := d.entries.map (·.1)

/-- The values in ascending order of their keys. -/
def values (d : Dict α) : List α := d.entries.map (·.2)

/-! ## Insertion -/

/-- Puts an entry in its place; it replaces an entry with the same key. -/
def insertEntry (key : String) (value : α) : List (String × α) → List (String × α)
  | [] => [(key, value)]
  | e :: rest =>
    if key < e.1 then (key, value) :: e :: rest
    else if key = e.1 then (key, value) :: rest
    else e :: insertEntry key value rest

theorem fst_of_mem_insertEntry {key : String} {value : α} {l : List (String × α)} {e : String × α}
    (h : e ∈ insertEntry key value l) : e.1 = key ∨ e ∈ l := by
  induction l with
  | nil => simp_all [insertEntry]
  | cons x r ih =>
    simp only [insertEntry] at h
    split at h
    · rcases List.mem_cons.mp h with h | h
      · exact .inl (by rw [h])
      · exact .inr h
    · split at h
      · rcases List.mem_cons.mp h with h | h
        · exact .inl (by rw [h])
        · exact .inr (List.mem_cons_of_mem _ h)
      · rcases List.mem_cons.mp h with h | h
        · exact .inr (by rw [h]; exact List.mem_cons_self)
        · rcases ih h with h | h
          · exact .inl h
          · exact .inr (List.mem_cons_of_mem _ h)

theorem lt_of_not_lt_of_ne {a b : String} (h : ¬a < b) (hne : a ≠ b) : b < a := by
  rcases Classical.em (b < a) with hlt | hlt
  · exact hlt
  · exact absurd (String.le_antisymm (String.not_lt.mp hlt) (String.not_lt.mp h)) hne

theorem sorted_insertEntry (key : String) (value : α) {l : List (String × α)}
    (h : l.Pairwise fun a b => a.1 < b.1) : (insertEntry key value l).Pairwise fun a b => a.1 < b.1 := by
  induction l with
  | nil => simp [insertEntry]
  | cons x r ih =>
    have hx := List.pairwise_cons.mp h
    simp only [insertEntry]
    split
    · rename_i hlt
      refine List.pairwise_cons.mpr ⟨?_, h⟩
      intro e he
      rcases List.mem_cons.mp he with he | he
      · rw [he]; exact hlt
      · exact String.lt_trans hlt (hx.1 e he)
    · split
      · rename_i heq
        refine List.pairwise_cons.mpr ⟨?_, hx.2⟩
        intro e he
        have := hx.1 e he
        rw [← heq] at this
        exact this
      · rename_i hnlt hne
        refine List.pairwise_cons.mpr ⟨?_, ih hx.2⟩
        intro e he
        rcases fst_of_mem_insertEntry he with he | he
        · rw [he]; exact lt_of_not_lt_of_ne hnlt hne
        · exact hx.1 e he

/-- Maps a key to a value. -/
def insert (d : Dict α) (key : String) (value : α) : Dict α :=
  ⟨insertEntry key value d.entries, sorted_insertEntry key value d.sorted⟩

/-- Removes a key. -/
def erase (d : Dict α) (key : String) : Dict α :=
  ⟨d.entries.filter (·.1 ≠ key), d.sorted.filter _⟩

/-- The entries that satisfy a condition. -/
def filter (p : String → α → Bool) (d : Dict α) : Dict α :=
  ⟨d.entries.filter (fun e => p e.1 e.2), d.sorted.filter _⟩

/-- Changes the values of all keys. -/
def mapValues (f : String → α → β) (d : Dict α) : Dict β :=
  ⟨d.entries.map fun e => (e.1, f e.1 e.2), List.pairwise_map.mpr d.sorted⟩

/-- The dictionary of a list of entries, of which later ones count. -/
def ofList (l : List (String × α)) : Dict α := l.foldl (fun d e => d.insert e.1 e.2) empty

/-- The entries of both dictionaries, of which those of the second count. -/
def override (d e : Dict α) : Dict α := e.entries.foldl (fun d x => d.insert x.1 x.2) d

/-! ## The mapping -/

theorem lookup_eq_none_of_lt {key : String} {l : List (String × α)} (h : ∀ e ∈ l, key < e.1) :
    lookup key l = none := by
  induction l with
  | nil => rfl
  | cons x r ih =>
    have hx := h x List.mem_cons_self
    have hne : x.1 ≠ key := fun heq => String.lt_irrefl key (heq ▸ hx)
    simp only [lookup, if_neg hne]
    exact ih fun e he => h e (List.mem_cons_of_mem _ he)

theorem lookup_insertEntry (key key' : String) (value : α) (l : List (String × α)) :
    lookup key' (insertEntry key value l) = if key = key' then some value else lookup key' l := by
  induction l with
  | nil => simp [insertEntry, lookup]
  | cons x r ih =>
    simp only [insertEntry]
    split
    · simp [lookup]
    · split
      · rename_i heq
        by_cases h : key = key'
        · simp [lookup, h]
        · have hx : ¬ x.1 = key' := heq ▸ h
          simp [lookup, h, hx]
      · rename_i hne
        by_cases h : x.1 = key'
        · have hk : ¬ key = key' := fun hk => hne (hk.trans h.symm)
          simp [lookup, h, hk]
        · simp [lookup, h, ih]

theorem get?_insert (d : Dict α) (key key' : String) (value : α) :
    (d.insert key value).get? key' = if key = key' then some value else d.get? key' :=
  lookup_insertEntry key key' value d.entries

theorem lookup_filter_ne (key key' : String) (l : List (String × α)) :
    lookup key' (l.filter (·.1 ≠ key)) = if key = key' then none else lookup key' l := by
  induction l with
  | nil => simp [lookup]
  | cons x r ih =>
    by_cases hx : x.1 = key
    · by_cases h : key = key'
      · simp_all
      · have : ¬ x.1 = key' := fun h' => h (hx.symm.trans h')
        simp_all [lookup]
    · by_cases h : key = key'
      · have : ¬ x.1 = key' := fun h' => hx (h'.trans h.symm)
        simp_all [lookup]
      · simp_all [lookup]

theorem get?_erase (d : Dict α) (key key' : String) :
    (d.erase key).get? key' = if key = key' then none else d.get? key' :=
  lookup_filter_ne key key' d.entries

theorem entries_eq_of_lookup {l m : List (String × α)} (hl : l.Pairwise fun a b => a.1 < b.1)
    (hm : m.Pairwise fun a b => a.1 < b.1) (h : ∀ key, lookup key l = lookup key m) : l = m := by
  induction l generalizing m with
  | nil =>
    cases m with
    | nil => rfl
    | cons y s =>
      have := h y.1
      simp [lookup] at this
  | cons x r ih =>
    have hx := List.pairwise_cons.mp hl
    cases m with
    | nil =>
      have := h x.1
      simp [lookup] at this
    | cons y s =>
      have hy := List.pairwise_cons.mp hm
      have hkey : x.1 = y.1 := by
        rcases Classical.em (x.1 = y.1) with heq | hne
        · exact heq
        · have h1 := h x.1
          have h2 := h y.1
          simp only [lookup, if_true, if_neg hne, if_neg (Ne.symm hne)] at h1 h2
          rcases Classical.em (x.1 < y.1) with hlt | hlt
          · have : lookup x.1 s = none :=
              lookup_eq_none_of_lt fun e he => String.lt_trans hlt (hy.1 e he)
            rw [this] at h1
            cases h1
          · have hlt' := lt_of_not_lt_of_ne hlt hne
            have : lookup y.1 r = none :=
              lookup_eq_none_of_lt fun e he => String.lt_trans hlt' (hx.1 e he)
            rw [this] at h2
            cases h2
      have hval : x.2 = y.2 := by
        have := h x.1
        simpa [lookup, hkey] using this
      have hxy : x = y := Prod.ext hkey hval
      subst hxy
      congr 1
      refine ih hx.2 hy.2 fun key => ?_
      rcases Classical.em (x.1 = key) with heq | hne
      · subst heq
        rw [lookup_eq_none_of_lt hx.1, lookup_eq_none_of_lt hy.1]
      · have := h key
        simpa [lookup, hne] using this

/-- Dictionaries with the same mapping are equal. -/
theorem ext_get? {d e : Dict α} (h : ∀ key, d.get? key = e.get? key) : d = e := by
  obtain ⟨l, hl⟩ := d
  obtain ⟨m, hm⟩ := e
  have := entries_eq_of_lookup hl hm h
  subst this
  rfl

end Dict

end FormTemplate
