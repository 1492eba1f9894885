import FormTemplate.Text.Blank
import FormTemplate.Unicode.Casing

/-!
# Slugs

A slug is the machine key of a field or a repeater: one or more lower-case ASCII letters, digits and
underscores.

* `Slug.isValid` : the texts that are slugs.
* `Slug.sanitize?` : the slug left of any text, if something is left.
* `Slug.humanize` : a readable label for a slug.
* `Slug.isValid_of_sanitize?` : what the sanitiser leaves is a slug.
-/

set_option autoImplicit false

namespace FormTemplate.Slug

/-- The characters of slugs. -/
def isSlugChar (c : Char) : Bool := ('a' ≤ c && c ≤ 'z') || c.isDigit || c == '_'

/-- Whether a text is a slug. -/
def isValid (s : String) : Bool := !s.toList.isEmpty && s.toList.all isSlugChar

/-- The slug characters of a text, with ASCII letters in lower case. -/
def sanitizeChars (s : List Char) : List Char := (s.map Char.toLower).filter isSlugChar

/-- The slug left of a text when every other character is dropped. -/
def sanitize? (raw : String) : Option String :=
  let slug := sanitizeChars raw.toList
  if slug.isEmpty then none else some (String.ofList slug)

/-- A label for a slug: underscores become spaces and the first letter becomes upper case. -/
def humanize (slug : String) : String :=
  match Text.trimChars (slug.toList.map fun c => if c == '_' then ' ' else c) with
  | [] => ""
  | c :: r => String.ofList (Unicode.upperChars c ++ r)

/-! ## Lemmas -/

theorem isValid_of_sanitize? {raw slug : String} (h : sanitize? raw = some slug) : isValid slug = true := by
  simp only [sanitize?] at h
  split at h
  · cases h
  · rename_i hne
    simp only [Option.some.injEq] at h
    subst h
    simp only [isValid, String.toList_ofList, Bool.and_eq_true, Bool.not_eq_true']
    exact ⟨by simpa using hne, by simp [sanitizeChars]⟩

end FormTemplate.Slug
