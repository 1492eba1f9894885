import FormTemplate.Text.Blank
import FormTemplate.Unicode.Property

/-!
# Cleaning rich text

Rich text loses its script, style and frame elements. First each complete element goes, from its start tag to
the nearest end tag of its name, one name after the other. Then every tag of these names that is left goes,
complete or cut short. All other text stays as it is.

Names are compared without regard to case; the long s counts as an `s`. A name ends where no character of a
word follows.

* `Tag.opens?`, `tagAt?` : a start tag, and any tag, at the start of a text.
* `stripElements`, `stripTags` : the two passes.
* `strip` : rich text without what is unsafe.
* `HasUnsafeTag` : a text that holds the start of such a tag.
-/

set_option autoImplicit false

namespace FormTemplate.Markup

/-- The names of the elements that are removed. -/
inductive Element where
  | script
  | style
  | iframe
  deriving DecidableEq, Repr

/-- The letters of a name. -/
def Element.name : Element → List Char
  | .script => "script".toList
  | .style => "style".toList
  | .iframe => "iframe".toList

/-- Whether a character is a given lower-case ASCII letter other than `k`, without regard to case. -/
def isLetter (letter c : Char) : Bool := c.toLower == letter || (letter == 's' && c == '\u017f')

/-- Steps over letters, without regard to case. -/
def afterLetters? : List Char → List Char → Option (List Char)
  | [], s => some s
  | _ :: _, [] => none
  | l :: ls, c :: r => if isLetter l c then afterLetters? ls r else none

/-- Whether a name that has just been passed ends here. -/
def endsWord : List Char → Bool
  | [] => true
  | c :: _ => !Unicode.isWord c

/-- Steps over the name of an element, up to where the word ends. -/
def afterName? (e : Element) (s : List Char) : Option (List Char) :=
  (afterLetters? e.name s).filter endsWord

/-- The text behind the next closing angle bracket. -/
def afterBracket? (s : List Char) : Option (List Char) :=
  match s.dropWhile (· != '>') with
  | [] => none
  | _ :: r => some r

/-- Steps over a start tag. -/
def afterStartTag? (e : Element) : List Char → Option (List Char)
  | '<' :: r => (afterName? e r).bind afterBracket?
  | _ => none

/-- Steps over an end tag, which may have white space behind its name and nothing else. -/
def afterEndTag? (e : Element) : List Char → Option (List Char)
  | '<' :: '/' :: r =>
    match (afterLetters? e.name r).map Text.trimStart with
    | some ('>' :: t) => some t
    | _ => none
  | _ => none

/-- The text behind the nearest end tag. -/
def afterNextEndTag? (e : Element) : List Char → Option (List Char)
  | [] => none
  | c :: r =>
    match afterEndTag? e (c :: r) with
    | some t => some t
    | none => afterNextEndTag? e r

/-- Steps over a complete element. -/
def afterElement? (e : Element) (s : List Char) : Option (List Char) :=
  (afterStartTag? e s).bind (afterNextEndTag? e)

/-! ## Progress -/

theorem length_afterLetters? {ls s t : List Char} (h : afterLetters? ls s = some t) : t.length ≤ s.length := by
  fun_induction afterLetters? ls s with
  | case1 => injection h with h; subst h; exact Nat.le_refl _
  | case2 => cases h
  | case3 l ls c r hc ih => have := ih h; simp only [List.length_cons]; omega
  | case4 => cases h

theorem length_afterName? {e : Element} {s t : List Char} (h : afterName? e s = some t) :
    t.length ≤ s.length := by
  unfold afterName? at h
  exact length_afterLetters? (Option.filter_eq_some_iff.mp h).1

theorem length_afterBracket? {s t : List Char} (h : afterBracket? s = some t) : t.length ≤ s.length := by
  unfold afterBracket? at h
  split at h
  · cases h
  · rename_i c r hd
    injection h with h
    subst h
    have := (s.dropWhile_sublist (· != '>')).length_le
    rw [hd] at this
    simp only [List.length_cons] at this
    omega

theorem length_afterStartTag? {e : Element} {s t : List Char} (h : afterStartTag? e s = some t) :
    t.length < s.length := by
  unfold afterStartTag? at h
  split at h
  · obtain ⟨u, hu, h⟩ := Option.bind_eq_some_iff.mp h
    have h₁ := length_afterName? hu
    have h₂ := length_afterBracket? h
    simp only [List.length_cons]
    omega
  · cases h

theorem length_afterEndTag? {e : Element} {s t : List Char} (h : afterEndTag? e s = some t) :
    t.length < s.length := by
  unfold afterEndTag? at h
  split at h
  · rename_i r
    split at h
    · rename_i t' ht
      injection h with h
      subst h
      obtain ⟨u, hu, ht⟩ := Option.map_eq_some_iff.mp ht
      have h₁ := length_afterLetters? hu
      have h₂ := (u.dropWhile_sublist Text.isBlank).length_le
      rw [Text.trimStart] at ht
      rw [ht] at h₂
      simp only [List.length_cons] at h₂ ⊢
      omega
    · cases h
  · cases h

theorem length_afterNextEndTag? {e : Element} {s t : List Char} (h : afterNextEndTag? e s = some t) :
    t.length < s.length := by
  induction s with
  | nil => cases h
  | cons c r ih =>
    simp only [afterNextEndTag?] at h
    split at h
    · rename_i t' ht
      injection h with h
      subst h
      exact length_afterEndTag? ht
    · have := ih h
      simp only [List.length_cons]
      omega

theorem length_afterElement? {e : Element} {s t : List Char} (h : afterElement? e s = some t) :
    t.length < s.length := by
  obtain ⟨u, hu, h⟩ := Option.bind_eq_some_iff.mp h
  have h₁ := length_afterStartTag? hu
  have h₂ := length_afterNextEndTag? h
  omega

/-! ## Passes -/

/-- A text without the complete elements of one name. -/
def stripElements (e : Element) (s : List Char) : List Char :=
  match s with
  | [] => []
  | c :: r =>
    match _h : afterElement? e (c :: r) with
    | some rest => stripElements e rest
    | none => c :: stripElements e r
termination_by s.length
decreasing_by
  · exact length_afterElement? _h
  · simp

/-- Steps over the name of one of the elements. -/
def afterAnyName? (s : List Char) : Option (List Char) :=
  ((afterName? .script s).or (afterName? .style s)).or (afterName? .iframe s)

/-- The text behind the name of a start or end tag of one of the elements. -/
def afterTagName? : List Char → Option (List Char)
  | '<' :: '/' :: r => afterAnyName? r
  | '<' :: r => afterAnyName? r
  | _ => none

theorem length_afterTagName? {s t : List Char} (h : afterTagName? s = some t) : t.length < s.length := by
  have hAny : ∀ {r}, afterAnyName? r = some t → t.length ≤ r.length := by
    intro r hr
    unfold afterAnyName? at hr
    simp only [Option.or_eq_some_iff] at hr
    rcases hr with (hr | ⟨_, hr⟩) | ⟨_, hr⟩ <;> exact length_afterName? hr
  unfold afterTagName? at h
  split at h
  · have := hAny h; simp only [List.length_cons]; omega
  · have := hAny h; simp only [List.length_cons]; omega
  · cases h

/-- A text without the tags of the elements; a tag without a closing bracket ends with the text. -/
def stripTags (s : List Char) : List Char :=
  match s with
  | [] => []
  | c :: r =>
    match _h : afterTagName? (c :: r) with
    | some t => stripTags ((t.dropWhile (· != '>')).drop 1)
    | none => c :: stripTags r
termination_by s.length
decreasing_by
  · have h₁ := length_afterTagName? _h
    have h₂ := (t.dropWhile_sublist (· != '>')).length_le
    simp only [List.length_drop, List.length_cons] at *
    omega
  · simp

/-- The characters of a rich text without what is unsafe. -/
def stripChars (s : List Char) : List Char :=
  stripTags (stripElements .iframe (stripElements .style (stripElements .script s)))

/-- A rich text without what is unsafe. -/
def strip (html : String) : String := String.ofList (stripChars html.toList)

/-- Somewhere in the text stands the start of a tag of one of the elements. -/
def HasUnsafeTag (s : List Char) : Prop := ∃ before after, s = before ++ after ∧ (afterTagName? after).isSome

end FormTemplate.Markup
