import FormTemplate.Proofs.Markup.Trimmed
import Mathlib.Data.List.Forall2

/-!
# Complete elements

A complete element is a start tag, a content in which no end tag of its name stands, and an end tag. The content may
hold anything else: other tags, end tags that are cut short, line breaks. None of it can begin an end tag that reaches
into the real one, because the bracket of an end tag stands at its beginning and nowhere else. So the element goes as a
whole, and the text behind it is stripped as if it stood alone.

* `StartTag`, `EndTag`, `HasEndTag` : tags as they are written, and texts with an end tag in them;
* `afterEndTag?_eq_some_iff`, `isSome_afterNextEndTag?_iff` : the end tags that are found are those that are written;
* `afterNextEndTag?_append` : the nearest end tag is the first one that is complete;
* `stripElements_append_element` : a pass removes a complete element, whatever stands behind it;
* `strip_append_script` : of a script element nothing is left, and all around it stays as it would.
-/

set_option autoImplicit false

namespace FormTemplate.Markup

variable {c : Char} {ls s t r w opener payload closer : List Char} {e : Element}

/-! ## Tags as they are written -/

/-- A word has the letters of a name, whatever their case. -/
def Spells (letters word : List Char) : Prop := List.Forall₂ (fun l c => isLetter l c = true) letters word

/-- The start tag of an element: its name, attributes that do not go on with the name, and the first closing bracket. -/
def StartTag (e : Element) (t : List Char) : Prop :=
  ∃ name attributes, t = '<' :: (name ++ attributes ++ ['>']) ∧ Spells e.name name ∧
    (∀ c ∈ attributes.head?, Unicode.isWord c = false) ∧ '>' ∉ attributes

/-- The end tag of an element: its name, white space or none, and a closing bracket. -/
def EndTag (e : Element) (t : List Char) : Prop :=
  ∃ name blanks, t = '<' :: '/' :: (name ++ blanks ++ ['>']) ∧ Spells e.name name ∧ ∀ c ∈ blanks, Text.isBlank c = true

/-- Somewhere in the text stands an end tag. -/
def HasEndTag (e : Element) (s : List Char) : Prop := ∃ before t after, s = before ++ t ++ after ∧ EndTag e t

/-- A name in any mixture of upper and lower case is spelled. -/
theorem spells_of_map_toLower (h : w.map Char.toLower = ls) : Spells ls w := by
  subst h
  induction w with
  | nil => exact .nil
  | cons c w ih => exact .cons (by simp [isLetter]) ih

theorem Spells.not_mem (h : Spells ls w) (hc : ∀ l ∈ ls, isLetter l c = false) : c ∉ w := by
  induction h with
  | nil => exact List.not_mem_nil
  | cons hletter hword ih =>
    rintro (_ | ⟨_, hmem⟩)
    · rw [hc _ List.mem_cons_self] at hletter
      cases hletter
    · exact ih (fun l hl => hc l (List.mem_cons_of_mem _ hl)) hmem

theorem afterLetters?_eq_some_iff : afterLetters? ls s = some r ↔ ∃ word, s = word ++ r ∧ Spells ls word := by
  fun_induction afterLetters? ls s with
  | case1 s =>
    constructor
    · intro h
      exact ⟨[], Option.some.inj h, .nil⟩
    · rintro ⟨word, rfl, hword⟩
      obtain rfl := List.forall₂_nil_left_iff.mp hword
      rfl
  | case2 l ls =>
    constructor
    · intro h
      cases h
    · rintro ⟨word, hs, hword⟩
      cases hword
      cases hs
  | case3 l ls c s hletter ih =>
    rw [ih]
    constructor
    · rintro ⟨word, rfl, hword⟩
      exact ⟨c :: word, rfl, .cons hletter hword⟩
    · rintro ⟨word, hs, hword⟩
      cases hword with
      | cons hc hword =>
        obtain ⟨rfl, rfl⟩ := List.cons.inj hs
        exact ⟨_, rfl, hword⟩
  | case4 l ls c s hletter =>
    constructor
    · intro h
      cases h
    · rintro ⟨word, hs, hword⟩
      cases hword with
      | cons hc hword =>
        obtain ⟨rfl, -⟩ := List.cons.inj hs
        exact absurd hc hletter

/-! ## Start tags -/

theorem afterBracket?_append {attributes : List Char} (h : '>' ∉ attributes) :
    afterBracket? (attributes ++ '>' :: r) = some r := by
  have hall : ∀ c ∈ attributes, (c != '>') = true := by
    intro c hc
    rw [bne_iff_ne]
    rintro rfl
    exact h hc
  rw [afterBracket?, List.dropWhile_append_of_pos hall]
  rfl

/-- A start tag is passed as a whole. -/
theorem StartTag.afterStartTag?_eq (h : StartTag e t) (r : List Char) : afterStartTag? e (t ++ r) = some r := by
  obtain ⟨name, attributes, rfl, hname, hends, hbracket⟩ := h
  have htext : '<' :: (name ++ attributes ++ ['>']) ++ r = '<' :: (name ++ (attributes ++ '>' :: r)) := by simp
  have hword : endsWord (attributes ++ '>' :: r) = true := by
    cases attributes with
    | nil =>
      have hclosing : Unicode.isWord '>' = false := by decide +kernel
      simp [endsWord, hclosing]
    | cons c attributes => simp [endsWord, hends c rfl]
  rw [htext, afterStartTag?, afterName?, afterLetters?_eq_some_iff.mpr ⟨name, rfl, hname⟩, Option.filter_some,
    if_pos hword, Option.bind_some, afterBracket?_append hbracket]

/-! ## End tags -/

/-- **The end tags that are passed are those that are written.** -/
theorem afterEndTag?_eq_some_iff : afterEndTag? e s = some r ↔ ∃ t, EndTag e t ∧ s = t ++ r := by
  constructor
  · intro h
    unfold afterEndTag? at h
    split at h
    · rename_i q
      split at h
      · rename_i rest hrest
        obtain rfl := Option.some.inj h
        obtain ⟨u, hu, htrim⟩ := Option.map_eq_some_iff.mp hrest
        obtain ⟨name, rfl, hname⟩ := afterLetters?_eq_some_iff.mp hu
        refine ⟨_, ⟨name, u.takeWhile Text.isBlank, rfl, hname, fun c => Text.of_mem_takeWhile_isBlank⟩, ?_⟩
        have hcut : u = u.takeWhile Text.isBlank ++ '>' :: rest := by
          rw [← htrim, Text.trimStart, List.takeWhile_append_dropWhile]
        conv => lhs; rw [hcut]
        simp
      · cases h
    · cases h
  · rintro ⟨_, ⟨name, blanks, rfl, hname, hblanks⟩, rfl⟩
    have htext : '<' :: '/' :: (name ++ blanks ++ ['>']) ++ r = '<' :: '/' :: (name ++ (blanks ++ '>' :: r)) := by simp
    have htrim : Text.trimStart (blanks ++ '>' :: r) = '>' :: r := by
      rw [Text.trimStart, List.dropWhile_append_of_pos hblanks]
      exact List.dropWhile_cons_of_neg (by decide)
    rw [htext, afterEndTag?, afterLetters?_eq_some_iff.mpr ⟨name, rfl, hname⟩, Option.map_some, htrim]
    rfl

/-- An end tag is found in a text exactly if one stands there. -/
theorem isSome_afterNextEndTag?_iff : (afterNextEndTag? e s).isSome = true ↔ HasEndTag e s := by
  induction s with
  | nil =>
    constructor
    · intro h
      cases h
    · rintro ⟨before, t, after, hs, name, blanks, rfl, -⟩
      simp at hs
  | cons c s ih =>
    rw [afterNextEndTag?]
    cases htag : afterEndTag? e (c :: s) with
    | some r =>
      obtain ⟨t, ht, hs⟩ := afterEndTag?_eq_some_iff.mp htag
      exact iff_of_true rfl ⟨[], t, r, hs, ht⟩
    | none =>
      change (afterNextEndTag? e s).isSome = true ↔ _
      rw [ih]
      constructor
      · rintro ⟨before, t, after, rfl, ht⟩
        exact ⟨c :: before, t, after, rfl, ht⟩
      · rintro ⟨before, t, after, hs, ht⟩
        cases before with
        | nil =>
          rw [afterEndTag?_eq_some_iff.mpr ⟨t, ht, hs⟩] at htag
          cases htag
        | cons b before => exact ⟨before, t, after, (List.cons.inj hs).2, ht⟩

instance (e : Element) (s : List Char) : Decidable (HasEndTag e s) :=
  decidable_of_iff _ isSome_afterNextEndTag?_iff

/-- The bracket at the beginning of an end tag is its only one. -/
theorem EndTag.exists_eq_cons (h : EndTag e t) : ∃ rest, t = '<' :: rest ∧ '<' ∉ rest := by
  obtain ⟨name, blanks, rfl, hname, hblanks⟩ := h
  have hletters : e.name.all (!isLetter · '<') = true := by cases e <;> decide
  have hinName : '<' ∉ name := hname.not_mem fun l hl => by simpa using List.all_eq_true.mp hletters l hl
  have hinBlanks : '<' ∉ blanks := fun hmem => ne_of_isBlank (hblanks _ hmem) (by decide) rfl
  exact ⟨_, rfl, by simp [hinName, hinBlanks]⟩

/-- **The nearest end tag is the first one that is complete.** What stands in front of it begins no end tag that reaches
into it. The induction is on the text in front. -/
theorem afterNextEndTag?_append (hpayload : ¬HasEndTag e payload) (hcloser : EndTag e closer) (r : List Char) :
    afterNextEndTag? e (payload ++ (closer ++ r)) = some r := by
  induction payload with
  | nil =>
    obtain ⟨rest, hrest, -⟩ := hcloser.exists_eq_cons
    have hfound : afterEndTag? e (closer ++ r) = some r := afterEndTag?_eq_some_iff.mpr ⟨closer, hcloser, rfl⟩
    subst hrest
    rw [List.nil_append, List.cons_append, afterNextEndTag?, ← List.cons_append, hfound]
  | cons c payload ih =>
    have hnone : afterEndTag? e (c :: (payload ++ (closer ++ r))) = none := by
      rw [Option.eq_none_iff_forall_not_mem]
      intro q hq
      obtain ⟨t, ht, htext⟩ := afterEndTag?_eq_some_iff.mp hq
      rw [← List.cons_append] at htext
      rcases List.append_eq_append_iff.mp htext with ⟨u, hlonger, hu⟩ | ⟨u, hshorter, -⟩
      · cases u with
        | nil => exact hpayload ⟨[], t, [], by simpa using hlonger.symm, ht⟩
        | cons d u =>
          -- such an end tag would reach over the first bracket of the real one
          obtain ⟨rest, hrest, -⟩ := hcloser.exists_eq_cons
          obtain ⟨tail, htail, hbracket⟩ := ht.exists_eq_cons
          obtain rfl : '<' = d := by
            rw [hrest, List.cons_append] at hu
            exact (List.cons.inj hu).1
          rw [htail, List.cons_append] at hlonger
          exact hbracket (by rw [(List.cons.inj hlonger).2]; simp)
      · exact hpayload ⟨[], t, u, by simpa using hshorter, ht⟩
    rw [List.cons_append, afterNextEndTag?, hnone]
    refine ih ?_
    rintro ⟨before, t, after, rfl, ht⟩
    exact hpayload ⟨c :: before, t, after, rfl, ht⟩

/-! ## Elements -/

/-- A complete element is passed as a whole. -/
theorem afterElement?_append (hopener : StartTag e opener) (hpayload : ¬HasEndTag e payload)
    (hcloser : EndTag e closer) (r : List Char) :
    afterElement? e (opener ++ (payload ++ (closer ++ r))) = some r := by
  rw [afterElement?, hopener.afterStartTag?_eq, Option.bind_some, afterNextEndTag?_append hpayload hcloser]

/-- **A pass removes a complete element**, and goes on behind it as if nothing had been there. -/
theorem stripElements_append_element (hopener : StartTag e opener) (hpayload : ¬HasEndTag e payload)
    (hcloser : EndTag e closer) (r : List Char) :
    stripElements e (opener ++ (payload ++ (closer ++ r))) = stripElements e r := by
  have helement := afterElement?_append hopener hpayload hcloser r
  obtain ⟨name, attributes, rfl, -⟩ := hopener
  exact stripElements_cons_of_some helement

/-- **A complete script element goes with its content, and nothing else does.** Behind a text without opening brackets, a
start tag, a content without an end tag and an end tag leave nothing, and what follows is stripped as if it stood
alone. -/
theorem strip_append_script {before opener payload closer : String} (hbefore : '<' ∉ before.toList)
    (hopener : StartTag .script opener.toList) (hpayload : ¬HasEndTag .script payload.toList)
    (hcloser : EndTag .script closer.toList) (after : String) :
    strip (before ++ opener ++ payload ++ closer ++ after) = before ++ strip after := by
  have hscript := stripElements_append_element hopener hpayload hcloser after.toList
  rw [← String.toList_inj]
  simp only [strip, String.toList_append, String.toList_ofList, List.append_assoc]
  rw [stripChars_append_of_not_mem hbefore, stripChars, hscript, ← stripChars]

/-- An element whose content has other tags, another start tag, a line break and an end tag that is cut short. There is a
bracket among its attributes, and the start tag behind it is stripped on its own. -/
theorem strip_append_script_crowded :
    let before := "1 > 0 "
    let opener := "<SCRIPT type='a<b'>"
    let payload := "x</script y\n<style></p><script>"
    let closer := "</ScRiPt \t>"
    let after := "<i>b</i><script>"
    ('<' ∉ before.toList ∧ StartTag .script opener.toList ∧ ¬HasEndTag .script payload.toList ∧
        EndTag .script closer.toList) ∧
      strip (before ++ opener ++ payload ++ closer ++ after) = before ++ strip after ∧ strip after = "<i>b</i>" := by
  intro before opener payload closer after
  have hbefore : '<' ∉ before.toList := by decide
  have hspace : Unicode.isWord ' ' = false := by decide +kernel
  have hopener : StartTag .script opener.toList :=
    ⟨"SCRIPT".toList, " type='a<b'".toList, by decide, spells_of_map_toLower rfl, by simp [hspace], by decide⟩
  have hpayload : ¬HasEndTag .script payload.toList := by decide +kernel
  have hcloser : EndTag .script closer.toList :=
    ⟨"ScRiPt".toList, " \t".toList, by decide, spells_of_map_toLower rfl, List.all_eq_true.mp (by decide)⟩
  refine ⟨⟨hbefore, hopener, hpayload, hcloser⟩, ?_, by decide +kernel⟩
  exact strip_append_script hbefore hopener hpayload hcloser after

end FormTemplate.Markup
