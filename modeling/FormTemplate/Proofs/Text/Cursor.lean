import FormTemplate.Text.Cut

/-!
# Moving a cursor

A cursor passes a text if it stands in front of the text and comes to stand behind it. Its position grows by the
length of the text in bytes.

* `Cursor.Passes` : the text between two cursors;
* `Cursor.passes_takeWhile` : a run of characters of a class is passed;
* `Cursor.Passes.takeWhile_eq` : a passed text of a class is the run, if the next character is none of the class;
* `Cursor.Passes.split` : of two texts passed from one place the shorter starts the longer.
-/

set_option autoImplicit false

namespace FormTemplate.Text

theorem byteLength_cons (c : Char) (s : List Char) : byteLength (c :: s) = c.utf8Size + byteLength s := rfl

theorem byteLength_eq_zero_iff {s : List Char} : byteLength s = 0 ↔ s = [] := by
  cases s with
  | nil => simp [byteLength]
  | cons c r =>
    have := c.utf8Size_pos
    rw [byteLength_cons]
    constructor
    · intro h
      omega
    · intro h
      cases h

/-- No character of a class starts the text. -/
def StopsAt (p : Char → Bool) (s : List Char) : Prop := ∀ x ∈ s.head?, p x = false

theorem stopsAt_cons {p : Char → Bool} {x : Char} {r : List Char} : StopsAt p (x :: r) ↔ p x = false := by
  simp [StopsAt]

theorem takeWhile_of_stopsAt {p : Char → Bool} {run rest : List Char} (hrun : ∀ x ∈ run, p x = true)
    (hrest : StopsAt p rest) : (run ++ rest).takeWhile p = run ∧ (run ++ rest).dropWhile p = rest := by
  rw [List.takeWhile_append_of_pos hrun, List.dropWhile_append_of_pos hrun]
  cases rest with
  | nil => simp
  | cons x r => simp [stopsAt_cons.mp hrest]

theorem stopsAt_dropWhile (p : Char → Bool) (s : List Char) : StopsAt p (s.dropWhile p) := by
  induction s with
  | nil => simp [StopsAt]
  | cons x r ih =>
    rw [List.dropWhile_cons]
    split
    · exact ih
    · rename_i h
      exact stopsAt_cons.mpr (Bool.eq_false_iff.mpr h)

namespace Cursor

variable {c d e : Cursor} {s t : List Char} {p : Char → Bool}

/-- The text `s` stands between two cursors. -/
structure Passes (c : Cursor) (s : List Char) (d : Cursor) : Prop where
  rest : c.rest = s ++ d.rest
  offset : d.offset = c.offset + byteLength s

theorem Passes.refl (c : Cursor) : c.Passes [] c := ⟨rfl, rfl⟩

theorem Passes.trans (h : c.Passes s d) (h' : d.Passes t e) : c.Passes (s ++ t) e :=
  ⟨by rw [h.rest, h'.rest, List.append_assoc], by rw [h'.offset, h.offset, byteLength_append, Nat.add_assoc]⟩

theorem passes_cons {x : Char} {r : List Char} (h : c.rest = x :: r) :
    c.Passes [x] ⟨c.offset + x.utf8Size, r⟩ := ⟨h, rfl⟩

theorem passes_append (h : c.rest = s ++ t) : c.Passes s ⟨c.offset + byteLength s, t⟩ := ⟨h, rfl⟩

/-- Where a cursor comes to stand depends only on the text it passes. -/
theorem Passes.eq (h : c.Passes s d) (h' : c.Passes s e) : d = e := by
  have hrest : d.rest = e.rest := List.append_cancel_left (h.rest.symm.trans h'.rest)
  have hoffset : d.offset = e.offset := h.offset.trans h'.offset.symm
  cases d
  cases e
  cases hrest
  cases hoffset
  rfl

theorem Passes.le (h : c.Passes s d) : c.offset ≤ d.offset := by
  rw [h.offset]
  omega

/-- A text that is passed in two steps. -/
theorem Passes.of_append (h : c.Passes (s ++ t) e) : ∃ d, c.Passes s d ∧ d.Passes t e := by
  have hrest : c.rest = s ++ (t ++ e.rest) := by rw [h.rest, List.append_assoc]
  refine ⟨_, passes_append hrest, rfl, ?_⟩
  rw [h.offset, byteLength_append, Nat.add_assoc]

theorem Passes.of_cons {x : Char} (h : c.Passes (x :: s) e) :
    ∃ r, c.rest = x :: r ∧ (Cursor.mk (c.offset + x.utf8Size) r).Passes s e := by
  refine ⟨s ++ e.rest, h.rest, rfl, ?_⟩
  rw [h.offset, byteLength_cons, Nat.add_assoc]

/-- Of two texts passed from one place the one that ends first starts the other. -/
theorem Passes.split (h : c.Passes s d) (h' : c.Passes t e) (hle : d.offset ≤ e.offset) :
    ∃ u, t = s ++ u ∧ d.Passes u e := by
  have happend : s ++ d.rest = t ++ e.rest := h.rest.symm.trans h'.rest
  rcases List.append_eq_append_iff.mp happend with ⟨u, rfl, hrest⟩ | ⟨u, rfl, hrest⟩
  · refine ⟨u, rfl, hrest, ?_⟩
    rw [h'.offset, h.offset, byteLength_append, Nat.add_assoc]
  · have hlen := h'.offset
    have hu : u = [] := by
      rw [h.offset, hlen, byteLength_append] at hle
      exact byteLength_eq_zero_iff.mp (by omega)
    subst hu
    refine ⟨[], by simp, hrest.symm, ?_⟩
    rw [hlen, h.offset, List.append_nil]
    rfl

/-! ## Runs of characters -/

theorem passes_takeWhile (p : Char → Bool) (c : Cursor) : c.Passes (c.takeWhile p).1.text (c.takeWhile p).2 :=
  ⟨List.takeWhile_append_dropWhile.symm, rfl⟩

theorem of_mem_takeWhile {x : Char} (h : x ∈ (c.takeWhile p).1.text) : p x = true :=
  List.all_eq_true.mp List.all_takeWhile x h

theorem stopsAt_takeWhile (p : Char → Bool) (c : Cursor) : StopsAt p (c.takeWhile p).2.rest :=
  stopsAt_dropWhile p c.rest

/-- A passed text of a class is the run of the class, if no character of the class follows. -/
theorem Passes.takeWhile_eq (h : c.Passes s d) (hs : ∀ x ∈ s, p x = true) (hd : StopsAt p d.rest) :
    c.takeWhile p = (⟨c.offset, s⟩, d) := by
  obtain ⟨htake, hdrop⟩ := takeWhile_of_stopsAt hs hd
  have hd' : (⟨c.offset + byteLength s, d.rest⟩ : Cursor) = d := by
    cases d
    rw [← h.offset]
  rw [takeWhile, h.rest, htake, hdrop, hd']

end Cursor

end FormTemplate.Text
