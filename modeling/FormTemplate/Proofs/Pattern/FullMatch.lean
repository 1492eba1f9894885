import FormTemplate.Proofs.Pattern.Ordered
import FormTemplate.Proofs.Validation.Cache

/-!
# Patterns are full matches

The anchors stand around the pattern of a field as a text, and only the whole text is compiled. If they leave the pattern
as it is, a value is accepted where the pattern matches all of it, or where the pattern alone is no expression. They can
do otherwise: a pattern may close their group itself, keep the parenthesis behind it for a comment of its own, or be as
deep, or as large, as a pattern can be.

* `Form.search_anchored` : between anchors, a piece of a text is the whole text.
* `Anchorable` : what the anchors leave as it is.
* `Anchorable.compile?_eq` : the compiled form of such a pattern.
* `validate_fullMatch` : the outcome for a value of a field that asks for a pattern alone.
-/

set_option autoImplicit false

namespace FormTemplate

namespace Pattern

variable {r s : Regex} {f : Form} {previous next : Option Char} {t : List Char} {p : String}

/-! ## Anchored forms -/

/-- A form between anchors. -/
def Form.anchored (f : Form) : Form := .cat [.assertion .textStart, f, .assertion .textEnd]

theorem Ast.form?_anchored (a : Ast) : a.anchored.form? = a.form?.map Form.anchored := by
  have hflags : Flags.apply {} [] = {} := rfl
  unfold Ast.form? Ast.anchored
  simp only [Ast.formUnder?, Ast.formsUnder?, Option.bind_some, hflags]
  cases a.formUnder? {} with
  | none => rfl
  | some q => rfl

theorem Ast.depth_anchored (a : Ast) : a.anchored.depth = a.depth + 2 := by
  simp [Ast.anchored, Ast.depth, Ast.depthOfItems]

namespace Regex

theorem matches_cat_of_empty : (cat r .empty).Matches previous t next ↔ r.Matches previous t next := by
  constructor
  · rintro ⟨u, v, rfl, hu, rfl⟩
    simpa using hu
  · exact fun h => ⟨t, [], by simp, by simpa using h, rfl⟩

theorem matches_catKept : (catKept r s).Matches previous t next ↔ (cat r s).Matches previous t next := by
  unfold catKept
  split
  · exact matches_cat_empty.symm
  · exact matches_cat_of_empty.symm
  · exact Iff.rfl

end Regex

theorem Form.matches_anchored :
    f.anchored.regex.Matches previous t next ↔ previous = none ∧ next = none ∧ f.regex.Matches none t none := by
  change (catKept (.assertion .textStart) (catKept f.regex (catKept (.assertion .textEnd) .empty))).Matches _ _ _ ↔ _
  simp only [Regex.matches_catKept, Regex.Matches]
  constructor
  · rintro ⟨_, w, rfl, ⟨rfl, hstart⟩, u, v, rfl, hu, _, _, rfl, ⟨rfl, hend⟩, rfl⟩
    obtain rfl : previous = none := by simpa [Assertion.holds] using hstart
    obtain rfl : next = none := by simpa [Assertion.holds] using hend
    exact ⟨rfl, rfl, by simpa using hu⟩
  · rintro ⟨rfl, rfl, h⟩
    exact ⟨[], t, rfl, ⟨rfl, rfl⟩, t, [], by simp, by simpa using h, [], [], rfl, ⟨rfl, by simp [Assertion.holds]⟩, rfl⟩

/-- Between anchors, a piece of a text is the whole text. -/
theorem Form.search_anchored (h : f.regex.WellFormed) : f.anchored.regex.search t ↔ f.regex.Matches none t none := by
  have hwf : f.anchored.regex.WellFormed := wellFormed_catKept trivial (wellFormed_catKept h trivial)
  rw [Regex.search_iff hwf]
  simp only [Form.matches_anchored, List.getLast?_eq_none_iff, List.head?_eq_none_iff]
  constructor
  · rintro ⟨u, v, w, rfl, rfl, rfl, hv⟩
    simpa using hv
  · exact fun h => ⟨[], t, [], by simp, rfl, rfl, h⟩

/-! ## Patterns that stay as they are between anchors -/

/-- The anchors leave a pattern as it is. -/
structure Anchorable (p : String) : Prop where
  /-- A pattern does not end in a comment, to which the parenthesis behind it would belong. -/
  comment : (Ast.parse? p.toList).isSome → Ast.parse? (p.toList ++ [')']) = none
  /-- A text that is no pattern but closes the group of the anchors does not go on, with their own rest, to one. -/
  balance : Ast.parse? p.toList = none →
    ∀ q r, p.toList = q ++ ')' :: r → Ast.Ends q → Ast.parse? ('x' :: (r ++ [')', '$'])) = none
  /-- There is room for the group and for the row that it stands in. -/
  nesting : ∀ a, Ast.read? p.toList = some a → a.depth + 2 ≤ maxNesting
  /-- The anchors do not decide whether a pattern is too large. -/
  size : ∀ a f, Ast.read? p.toList = some a → a.form? = some f → f.anchored.isSmall = f.isSmall

theorem toList_anchored (p : String) : (anchored p).toList = anchoredText p.toList := by
  simp [anchored, anchoredText]

namespace Anchorable

theorem read?_eq (h : Anchorable p) : Ast.read? (anchoredText p.toList) = (Ast.read? p.toList).map Ast.anchored := by
  rw [Ast.read?_eq, Ast.parse?_anchoredText h.comment h.balance]
  have hnesting := h.nesting
  rw [Ast.read?_eq] at hnesting ⊢
  cases hp : Ast.parse? p.toList with
  | none => rfl
  | some a =>
    by_cases hd : a.depth ≤ maxNesting
    · have hroom := hnesting a (by simp [hp, hd])
      simp [Option.filter, Ast.depth_anchored, hd, hroom]
    · have hdeep : ¬ a.depth + 2 ≤ maxNesting := fun hle => hd (by omega)
      simp [Option.filter, Ast.depth_anchored, hd, hdeep]

/-- The compiled form of a pattern is the form of the pattern alone, between anchors. -/
theorem compile?_eq (h : Anchorable p) : compile? p =
    (((Ast.read? p.toList).bind Ast.form?).filter Form.isSmall).map fun f => f.anchored.regex := by
  rw [compile?, regexOf?, toList_anchored, h.read?_eq]
  cases ha : Ast.read? p.toList with
  | none => rfl
  | some a =>
    rw [Option.map_some, Option.bind_some, Option.bind_some, Ast.form?_anchored]
    cases hf : a.form? with
    | none => rfl
    | some f =>
      rw [Option.map_some, Option.filter_some, Option.filter_some, h.size a f ha hf]
      cases f.isSmall <;> rfl

end Anchorable

/-- A text without closing parentheses cannot close the group of the anchors. What is left to ask can be computed. -/
theorem Anchorable.of_notMem (hp : ')' ∉ p.toList)
    (hcomment : (Ast.parse? p.toList).isNone ∨ (Ast.parse? (p.toList ++ [')'])).isNone)
    (hnesting : (Ast.read? p.toList).all fun a => a.depth + 2 ≤ maxNesting)
    (hsize : ((Ast.read? p.toList).bind Ast.form?).all fun f => f.anchored.isSmall == f.isSmall) : Anchorable p where
  comment h := by
    rcases hcomment with hn | hn
    · rw [Option.isNone_iff_eq_none.mp hn] at h
      cases h
    · exact Option.isNone_iff_eq_none.mp hn
  balance _ q r h := absurd (h ▸ by simp) hp
  nesting a h := by simpa [h] using hnesting
  size a f h hf := by simpa [h, hf] using hsize

/-- What is read as a pattern and resolved has the bounds of all repetitions in order. -/
theorem wellFormed_of_read? (h : (Ast.read? t).bind Ast.form? = some f) : f.regex.WellFormed := by
  obtain ⟨a, ha, hf⟩ := Option.bind_eq_some_iff.mp h
  obtain ⟨⟨g, fl⟩, hg, rfl⟩ := Option.map_eq_some_iff.mp hf
  rw [Ast.read?_eq] at ha
  exact (Ast.ordered_of_parse? (Option.filter_eq_some_iff.mp ha).1).wellFormed hg

/-- What the compiled pattern finds in a text, and what the pattern alone matches. -/
theorem Anchorable.search_iff (h : Anchorable p) :
    (∀ r, compile? p = some r → r.search t) ↔ ∀ r, regexOf? p = some r → r.Matches none t none := by
  rw [h.compile?_eq, regexOf?]
  cases hf : ((Ast.read? p.toList).bind Ast.form?).filter Form.isSmall with
  | none => simp
  | some f =>
    have hwf : f.regex.WellFormed := wellFormed_of_read? (Option.filter_eq_some_iff.mp hf).1
    simpa using Form.search_anchored hwf

end Pattern

/-! ## Fields with a pattern alone -/

/-- A field for texts asks for a pattern, and for nothing else. -/
structure Field.AsksPattern (f : Field) (p : String) : Prop where
  kind : f.kind ≠ .email ∧ f.kind ≠ .url
  dataType : f.dataType = .text
  pattern : f.constraints.pattern = some p
  length : f.constraints.length = none

variable {f : Field} {p value : String}

/-- A field that asks for a pattern alone accepts what the compiled pattern finds something in. -/
theorem Field.AsksPattern.validate_iff (h : f.AsksPattern p) (hvalue : Text.isBlankText value = false) :
    validate f value = .ok () ↔ ∀ r, Pattern.compile? p = some r → r.search value.toList := by
  have hlength : f.lengthFault? value = none := by simp [Field.lengthFault?, h.length]
  have hshape : f.shapeFault? value = none := by
    unfold Field.shapeFault?
    split
    · exact absurd ‹_› h.kind.1
    · exact absurd ‹_› h.kind.2
    · rfl
  have htype : f.typeFault? value = none := by simp [Field.typeFault?, h.dataType]
  have hbounds : f.boundsFault? value = none := by simp [Field.boundsFault?, comparable?, h.dataType]
  have hpattern : (f.pattern {}).1 = Pattern.compile? p := by
    rw [f.pattern_fst PatternCache.sound_empty, h.pattern, Option.bind_some]
  simp only [validate, validateWith, hvalue, hlength, hshape, htype, hbounds, hpattern, Field.patternFault?]
  cases Pattern.compile? p with
  | none => simp
  | some r => cases hr : r.search value.toList <;> simp [hr]

/-- **A pattern is a full match, and what is no pattern asks for nothing**, as far as the anchors leave the pattern as it
is: a field that asks for it alone accepts a value that is not blank exactly if the pattern, where it is one by itself,
matches the whole value. -/
theorem validate_fullMatch (hfield : f.AsksPattern p) (hp : Pattern.Anchorable p)
    (hvalue : Text.isBlankText value = false) :
    validate f value = .ok () ↔ ∀ r, Pattern.regexOf? p = some r → r.Matches none value.toList none :=
  (hfield.validate_iff hvalue).trans hp.search_iff

/-- A line of text that asks for a pattern. -/
def patternField (pattern : String) : Field := ⟨"code", "Code", .text, .text, {}, { pattern := some pattern }, {}⟩

theorem asksPattern_patternField (p : String) : (patternField p).AsksPattern p := ⟨⟨nofun, nofun⟩, rfl, rfl, rfl⟩

/-- Three digits match a pattern for three digits, four do not, and a text that leaves a group and a bracket open is no
pattern. -/
theorem validate_fullMatch_digits :
    (∀ p ∈ ["[0-9]{3}", "([unclosed"], Pattern.Anchorable p ∧ ∀ v ∈ ["123", "1234"], Text.isBlankText v = false ∧
      (validate (patternField p) v = .ok () ↔
        ∀ r, Pattern.regexOf? p = some r → r.Matches none v.toList none)) ∧
    validate (patternField "[0-9]{3}") "123" = .ok () ∧ validate (patternField "[0-9]{3}") "1234" ≠ .ok () ∧
    validate (patternField "([unclosed") "1234" = .ok () := by
  have hp : ∀ p ∈ ["[0-9]{3}", "([unclosed"], Pattern.Anchorable p := by
    simp only [List.forall_mem_cons, List.not_mem_nil, false_implies, implies_true, and_true]
    constructor
    · exact .of_notMem (by decide) (by decide +kernel) (by decide +kernel) (by decide +kernel)
    · exact .of_notMem (by decide) (by decide +kernel) (by decide +kernel) (by decide +kernel)
  have hv : ∀ v ∈ ["123", "1234"], Text.isBlankText v = false := by decide
  refine ⟨fun p hmem => ⟨hp p hmem, fun v hvalue => ⟨hv v hvalue, ?_⟩⟩, by decide +kernel⟩
  exact validate_fullMatch (asksPattern_patternField p) (hp p hmem) (hv v hvalue)

/-- The anchors make a pattern of a text that is none, and none of a pattern: `a)(?:b` closes their group and opens
another one, so that it asks for `ab`; the comment of `(?x)a # letter` takes the parenthesis behind it, so that nothing
is asked. -/
theorem not_fullMatch_unbalanced :
    (Pattern.regexOf? "a)(?:b" = none ∧
      validate (patternField "a)(?:b") "zz" = .error ⟨"code", "Code does not match the expected format"⟩) ∧
    (Pattern.regexOf? "(?x)a # letter").map (fun r => r.matchesWhole "zz".toList) = some false ∧
      validate (patternField "(?x)a # letter") "zz" = .ok () := by
  decide +kernel

end FormTemplate
