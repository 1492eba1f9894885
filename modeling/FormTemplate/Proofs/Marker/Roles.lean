import FormTemplate.Proofs.Marker.Reported
import FormTemplate.Proofs.Text.Cursor
import Mathlib.Data.List.TakeWhile

/-!
# Begins and ends as they are written

Which block a marker begins or ends is looked up in its attributes and cut from its slug. Here both are stated by what
is written: of several `block` attributes the last counts, in any case and with white space around it, and the name of
the block is the slug up to its first dot.

* `lastAttribute?_eq_some_iff` : the last attribute with a key has no other with this key behind it;
* `blockRole_eq_iff` : each role has its word;
* `slugHead_eq_iff` : the name is what stands before the first dot;
* `Span.opens_iff`, `Span.closes_iff` : the begins and the ends of a name.
-/

set_option autoImplicit false

namespace FormTemplate.Marker

/-! ## Roles -/

/-- The last attribute with a key is the one that no other with this key follows. -/
theorem lastAttribute?_eq_some_iff {attributes : List (String × String)} {key value : String} :
    lastAttribute? attributes key = some value ↔
      ∃ before after, attributes = before ++ (key, value) :: after ∧ ∀ a ∈ after, a.1 ≠ key := by
  have hfind : lastAttribute? attributes key = some value ↔
      ∃ k, attributes.reverse.find? (·.1 == key) = some (k, value) := by
    simp [lastAttribute?]
  rw [hfind]
  constructor
  · rintro ⟨k, h⟩
    obtain ⟨hk, after, before, hsplit, hafter⟩ := List.find?_eq_some_iff_append.mp h
    obtain rfl : k = key := by simpa using hk
    refine ⟨before.reverse, after.reverse, ?_, by simpa using hafter⟩
    rw [← List.reverse_reverse attributes, hsplit]
    simp
  · rintro ⟨before, after, rfl, hafter⟩
    refine ⟨key, List.find?_eq_some_iff_append.mpr ⟨by simp, after.reverse, before.reverse, by simp, ?_⟩⟩
    simpa using hafter

/-- The word that asks for a role, if one does. -/
def BlockRole.word? : BlockRole → Option String
  | .opens => some "begin"
  | .closes => some "end"
  | .tableRow => some "tbs:row"
  | .plain => none

theorem blockRole_eq_iff {attributes : List (String × String)} {role : BlockRole} {word : String}
    (hword : role.word? = some word) : blockRole attributes = role ↔
      ∃ value, lastAttribute? attributes "block" = some value ∧
        (Text.trimChars value.toList).map Char.toLower = word.toList := by
  unfold blockRole
  cases lastAttribute? attributes "block" with
  | none => cases role <;> cases hword <;> simp
  | some value =>
    simp only [Option.some.injEq, exists_eq_left']
    generalize (Text.trimChars value.toList).map Char.toLower = given
    by_cases hbegin : given = "begin".toList
    · subst hbegin
      cases role <;> cases hword <;> decide
    · by_cases hend : given = "end".toList
      · subst hend
        cases role <;> cases hword <;> decide
      · by_cases hrow : given = "tbs:row".toList
        · subst hrow
          cases role <;> cases hword <;> decide
        · rw [if_neg (by simpa using hbegin), if_neg (by simpa using hend), if_neg (by simpa using hrow)]
          cases role <;> cases hword <;> simp_all

/-- The last `block` attribute is a word, whatever its case and the white space around it. -/
def HasBlockWord (word : String) (attributes : List (String × String)) : Prop :=
  ∃ before value after, attributes = before ++ ("block", value) :: after ∧ (∀ a ∈ after, a.1 ≠ "block") ∧
    (Text.trimChars value.toList).map Char.toLower = word.toList

/-- **A role is asked for by its word** in the last `block` attribute. -/
theorem blockRole_eq_iff_hasBlockWord {attributes : List (String × String)} {role : BlockRole} {word : String}
    (hword : role.word? = some word) : blockRole attributes = role ↔ HasBlockWord word attributes := by
  rw [blockRole_eq_iff hword, HasBlockWord]
  simp only [lastAttribute?_eq_some_iff]
  constructor
  · rintro ⟨value, ⟨before, after, hsplit, hafter⟩, hvalue⟩
    exact ⟨before, value, after, hsplit, hafter, hvalue⟩
  · rintro ⟨before, value, after, hsplit, hafter, hvalue⟩
    exact ⟨value, ⟨before, after, hsplit, hafter⟩, hvalue⟩

/-- **The name of a block is what stands before the first dot.** -/
theorem slugHead_eq_iff {slug name : String} : slugHead slug = name ↔
    '.' ∉ name.toList ∧ (slug.toList = name.toList ∨ ∃ rest, slug.toList = name.toList ++ '.' :: rest) := by
  have hname : slugHead slug = name ↔ slug.toList.takeWhile (· != '.') = name.toList := by
    rw [slugHead, ← String.toList_inj, String.toList_ofList]
  rw [hname]
  constructor
  · intro hrun
    have hcut : slug.toList.takeWhile (· != '.') ++ slug.toList.dropWhile (· != '.') = slug.toList :=
      List.takeWhile_append_dropWhile
    have hstop := Text.stopsAt_dropWhile (· != '.') slug.toList
    rw [hrun] at hcut
    refine ⟨fun hdot => ?_, ?_⟩
    · rw [← hrun] at hdot
      simpa using List.mem_takeWhile_imp hdot
    · cases hrest : slug.toList.dropWhile (· != '.') with
      | nil => exact .inl (by rw [← hcut, hrest, List.append_nil])
      | cons c rest =>
        rw [hrest, Text.stopsAt_cons, bne_eq_false_iff_eq] at hstop
        exact .inr ⟨rest, by rw [← hcut, hrest, hstop]⟩
  · rintro ⟨hdot, hslug⟩
    have hall : ∀ c ∈ name.toList, (c != '.') = true := by
      intro c hc
      rw [bne_iff_ne]
      rintro rfl
      exact hdot hc
    rcases hslug with hslug | ⟨rest, hslug⟩
    · rw [hslug, List.takeWhile_eq_self_iff]
      exact hall
    · rw [hslug]
      exact (Text.takeWhile_of_stopsAt hall (Text.stopsAt_cons.mpr (by decide))).1

/-! ## Spans -/

namespace Span

variable {name : String} {x : Span}

/-- The last `block` attribute is a word, whatever its case and the white space around it. -/
def LastBlock (word : String) (x : Span) : Prop :=
  ∃ before value after, x.attributeTexts = before ++ ("block", value) :: after ∧ (∀ a ∈ after, a.1 ≠ "block") ∧
    (Text.trimChars value.toList).map Char.toLower = word.toList

/-- The slug up to its first dot is a name. -/
def Named (name : String) (x : Span) : Prop :=
  '.' ∉ name.toList ∧ (x.slug = name.toList ∨ ∃ rest, x.slug = name.toList ++ '.' :: rest)

theorem role_eq_iff {role : BlockRole} {word : String} (hword : role.word? = some word) :
    x.role = role ↔ x.LastBlock word := blockRole_eq_iff_hasBlockWord hword

theorem blockName_eq_iff : x.blockName = name ↔ x.Named name := by
  rw [blockName, slugHead_eq_iff, slugText, String.toList_ofList, Named]

/-- **A begin of a name** says so in its last `block` attribute and has the name in front of its first dot. -/
theorem opens_iff : x.opens name = true ↔ x.LastBlock "begin" ∧ x.Named name := by
  rw [opens, decide_eq_true_iff, blockName_eq_iff, role_eq_iff rfl]

/-- **An end of a name** says so in its last `block` attribute and has the name in front of its first dot. -/
theorem closes_iff : x.closes name = true ↔ x.LastBlock "end" ∧ x.Named name := by
  rw [closes, decide_eq_true_iff, blockName_eq_iff, role_eq_iff rfl]

end Span

end FormTemplate.Marker
