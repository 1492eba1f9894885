/-!
# Blank characters and trimming

White space comes in two sizes. The wide class is Unicode's `White_Space` property and is what trimming
removes from attribute values, labels and submitted text. The narrow class has five ASCII characters and is
what may stand between the parts of a field marker; it lacks the vertical tab.

* `isBlank`, `isAsciiBlank` : the two classes.
* `trim` : a text without blank characters at its ends.
* `trimChars_eq_nil_iff` : trimming leaves nothing exactly on blank text.
-/

set_option autoImplicit false

namespace FormTemplate.Text

/-- The characters of Unicode's `White_Space` property. -/
def isBlank (c : Char) : Bool :=
  let n := c.toNat
  (0x09 ≤ n && n ≤ 0x0D) || n == 0x20 || n == 0x85 || n == 0xA0 || n == 0x1680 ||
    (0x2000 ≤ n && n ≤ 0x200A) || n == 0x2028 || n == 0x2029 || n == 0x202F || n == 0x205F || n == 0x3000

/-- Space, tab, line feed, form feed and carriage return. -/
def isAsciiBlank (c : Char) : Bool :=
  c == ' ' || c == '\t' || c == '\n' || c == '\x0c' || c == '\r'

/-- A text without the blank characters at its start. -/
def trimStart (s : List Char) : List Char := s.dropWhile isBlank

/-- A text without the blank characters at its end. -/
def trimEnd (s : List Char) : List Char := (s.reverse.dropWhile isBlank).reverse

/-- A text without the blank characters at both ends. -/
def trimChars (s : List Char) : List Char := trimEnd (trimStart s)

/-- A string without the blank characters at both ends. -/
def trim (s : String) : String := String.ofList (trimChars s.toList)

/-- Whether a string holds blank characters only. -/
def isBlankText (s : String) : Bool := s.toList.all isBlank

/-- A trimmed string, unless nothing is left of it. -/
def nonBlank? (s : String) : Option String :=
  let t := trim s
  if t.isEmpty then none else some t

/-! ## Lemmas -/

theorem dropWhile_eq_nil_iff {p : Char → Bool} {s : List Char} :
    s.dropWhile p = [] ↔ ∀ c ∈ s, p c = true := by
  induction s with
  | nil => simp
  | cons c r ih => by_cases h : p c = true <;> simp [h, ih]

theorem trimEnd_eq_nil_iff {s : List Char} : trimEnd s = [] ↔ ∀ c ∈ s, isBlank c = true := by
  simp only [trimEnd, List.reverse_eq_nil_iff, dropWhile_eq_nil_iff, List.mem_reverse]

theorem trimChars_eq_nil_iff {s : List Char} : trimChars s = [] ↔ ∀ c ∈ s, isBlank c = true := by
  rw [trimChars, trimEnd_eq_nil_iff, trimStart]
  induction s with
  | nil => simp
  | cons c r ih => by_cases h : isBlank c = true <;> simp_all

end FormTemplate.Text
