/-!
# Cuts of a text

Positions in a text are counted in bytes of its UTF-8 form. A cut is a piece of a text together with the
position where it starts; a cursor is a position together with the text that follows.

* `byteLength` : the length of a text in bytes.
* `Cut.Of`, `Cursor.Of` : a cut or a cursor belongs to a text. Its positions then lie between characters.
* `Cursor.takeWhile` : the longest run of characters of a class.
* `Cursor.takeWhile_of` : the run is a cut of the text, and the cursor after it belongs to the text.
-/

set_option autoImplicit false

namespace FormTemplate.Text

/-- The number of bytes of a text in UTF-8. -/
def byteLength : List Char → Nat
  | [] => 0
  | c :: r => c.utf8Size + byteLength r

theorem byteLength_append (s t : List Char) : byteLength (s ++ t) = byteLength s + byteLength t := by
  induction s with
  | nil => simp [byteLength]
  | cons c r ih => simp [byteLength, ih, Nat.add_assoc]

/-- A piece of a text and the byte position of its start. -/
structure Cut where
  start : Nat
  text : List Char
  deriving DecidableEq, Repr

/-- The byte position after a cut. -/
def Cut.stop (c : Cut) : Nat := c.start + byteLength c.text

/-- The piece as a string. -/
def Cut.string (c : Cut) : String := String.ofList c.text

/-- The cut is a piece of the text `s`. -/
def Cut.Of (c : Cut) (s : List Char) : Prop :=
  ∃ before after, s = before ++ c.text ++ after ∧ c.start = byteLength before

/-- A byte position and the text that follows it. -/
structure Cursor where
  offset : Nat
  rest : List Char
  deriving DecidableEq, Repr

namespace Cursor

/-- The cursor stands in the text `s`. -/
def Of (c : Cursor) (s : List Char) : Prop := ∃ before, s = before ++ c.rest ∧ c.offset = byteLength before

/-- The cursor at the start of a text. -/
def start (s : List Char) : Cursor := ⟨0, s⟩

/-- The longest run of characters of a class, and the cursor after it. -/
def takeWhile (p : Char → Bool) (c : Cursor) : Cut × Cursor :=
  let run := c.rest.takeWhile p
  (⟨c.offset, run⟩, ⟨c.offset + byteLength run, c.rest.dropWhile p⟩)

/-- The cursor after the characters of a class. -/
def skipWhile (p : Char → Bool) (c : Cursor) : Cursor := (c.takeWhile p).2

theorem takeWhile_of {p : Char → Bool} {c : Cursor} {s : List Char} (h : c.Of s) :
    (c.takeWhile p).1.Of s ∧ (c.takeWhile p).2.Of s := by
  obtain ⟨before, hs, ho⟩ := h
  have hrest : c.rest = c.rest.takeWhile p ++ c.rest.dropWhile p := List.takeWhile_append_dropWhile.symm
  refine ⟨⟨before, c.rest.dropWhile p, ?_, ho⟩, ⟨before ++ c.rest.takeWhile p, ?_, ?_⟩⟩
  · rw [hs, List.append_assoc]
    simp only [takeWhile]
    rw [← hrest]
  · rw [List.append_assoc]
    simp only [takeWhile]
    rw [← hrest, hs]
  · simp [takeWhile, byteLength_append, ho]

theorem length_takeWhile_rest (p : Char → Bool) (c : Cursor) :
    (c.takeWhile p).2.rest.length ≤ c.rest.length := by
  have := congrArg List.length (List.takeWhile_append_dropWhile (p := p) (l := c.rest))
  simp only [List.length_append] at this
  simp only [takeWhile]
  omega

end Cursor

end FormTemplate.Text
