import FormTemplate.Pattern.Meaning
import FormTemplate.Pattern.Reader
import FormTemplate.Pattern.Size

/-!
# Patterns of fields

The pattern of a field is put between anchors as a text and then compiled. A pattern that cannot be compiled is
remembered as such. Compiling depends on the text alone, so compiled patterns can be kept.

* `Pattern.compile?` : the expression of a pattern between anchors.
* `PatternCache` : compiled patterns by their text.
* `PatternCache.get_fst` : what a sound cache gives is what compiling gives.
-/

set_option autoImplicit false

namespace FormTemplate

namespace Pattern

/-- A text as a regular expression, if it is one and not too large. -/
def regexOf? (text : String) : Option Regex :=
  (((Ast.read? text.toList).bind Ast.form?).filter Form.isSmall).map Form.regex

/-- The text of a pattern between anchors. -/
def anchored (pattern : String) : String := "^(?:" ++ pattern ++ ")$"

/-- The compiled form of a field's pattern. -/
def compile? (pattern : String) : Option Regex := regexOf? (anchored pattern)

end Pattern

/-- Compiled patterns by their text; a pattern that cannot be compiled has an entry too. -/
structure PatternCache where
  compiled : List (String × Option Pattern.Regex) := []

namespace PatternCache

/-- The compiled form of a pattern, and the cache that knows it. -/
def get (cache : PatternCache) (pattern : String) : Option Pattern.Regex × PatternCache :=
  match cache.compiled.find? (·.1 == pattern) with
  | some entry => (entry.2, cache)
  | none =>
    let regex := Pattern.compile? pattern
    (regex, ⟨(pattern, regex) :: cache.compiled⟩)

/-- Every entry holds what compiling gives. -/
def Sound (cache : PatternCache) : Prop := ∀ e ∈ cache.compiled, e.2 = Pattern.compile? e.1

theorem sound_empty : Sound {} := fun e he => by cases he

theorem get_fst {cache : PatternCache} (h : cache.Sound) (pattern : String) :
    (cache.get pattern).1 = Pattern.compile? pattern := by
  unfold get
  split
  · rename_i entry he
    have hm := h entry (List.mem_of_find?_eq_some he)
    have hk : entry.1 = pattern := by simpa using List.find?_some he
    simp only [hm, hk]
  · rfl

theorem sound_get {cache : PatternCache} (h : cache.Sound) (pattern : String) : (cache.get pattern).2.Sound := by
  unfold get
  split
  · exact h
  · intro e he
    rcases List.mem_cons.mp he with he | he
    · rw [he]
    · exact h e he

end PatternCache

end FormTemplate
