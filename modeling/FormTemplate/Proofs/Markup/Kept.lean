import FormTemplate.Proofs.Markup.Elements
import FormTemplate.Proofs.Pattern.FullMatch
import FormTemplate.Proofs.Unicode.Folding
import Mathlib

/-!
# Texts that are left as they are

Stripping leaves a text as it is exactly if the text holds no unsafe tag. Such a tag is what the expression
`(?i)</?(?:script|style|iframe)\b` matches: an opening bracket, a slash or none, and a name without regard to case, behind
which the word ends. Without a tag no pass finds anything to remove. With one, the last pass makes the text shorter, if
not one of the passes before it, and what has become shorter does not grow again.

* `letterSet_contains`, `foldClosure_letter` : the letters of a name without regard to case;
* `regexOf?_tagPattern` : the expression as it is compiled;
* `search_tagForm` : it finds something in the texts with an unsafe tag;
* `strip_eq_self_iff` : a text is left as it is exactly if the expression finds nothing in it.
-/

set_option autoImplicit false

namespace FormTemplate.Markup

open Unicode (CodeSet)

variable {c l : Char} {s t w : List Char} {e : Element} {previous next : Option Char}

/-! ## Letters -/

/-- A lower-case letter, its capital, and the long s with an `s`. -/
def letterSet (l : Char) : CodeSet :=
  ⟨(l.toUpper.toNat, l.toUpper.toNat) :: (l.toNat, l.toNat) :: if l = 's' then [(0x17F, 0x17F)] else []⟩

theorem toNat_toLower (c : Char) :
    c.toLower.toNat = if 0x41 ≤ c.toNat ∧ c.toNat ≤ 0x5A then c.toNat + 0x20 else c.toNat := by
  have hupper : ('A'.val ≤ c.val ∧ c.val ≤ 'Z'.val) ↔ 0x41 ≤ c.toNat ∧ c.toNat ≤ 0x5A := Iff.rfl
  unfold Char.toLower
  by_cases h : 0x41 ≤ c.toNat ∧ c.toNat ≤ 0x5A
  · rw [dif_pos (hupper.mpr h), if_pos h]
    change (c.val + ('a'.val - 'A'.val)).toNat = c.val.toNat + 0x20
    rw [UInt32.toNat_add]
    change (c.toNat + 0x20) % 2 ^ 32 = c.toNat + 0x20
    omega
  · rw [dif_neg fun hc => h (hupper.mp hc), if_neg h]

/-- The letters of the names. -/
def nameLetters : List Char := ['a', 'c', 'e', 'f', 'i', 'l', 'm', 'p', 'r', 's', 't', 'y']

theorem mem_nameLetters (hl : l ∈ e.name) : l ∈ nameLetters := by
  have hall : e.name.all (nameLetters.contains ·) = true := by cases e <;> decide
  simpa using List.all_eq_true.mp hall l hl

/-- The letters that are taken for a letter of a name are those of its set. -/
theorem letterSet_contains (hl : l ∈ nameLetters) : (letterSet l).contains c = isLetter l c := by
  have hall : nameLetters.all (fun l => 0x61 ≤ l.toNat ∧ l.toNat ≤ 0x7A ∧ l.toUpper.toNat + 0x20 = l.toNat) = true := by
    decide
  obtain ⟨hlo, hhi, hupper⟩ := of_decide_eq_true (List.all_eq_true.mp hall l hl)
  have hlower : c.toLower = l ↔ c.toNat = l.toUpper.toNat ∨ c.toNat = l.toNat := by
    rw [← Char.toNat_inj, toNat_toLower]
    split <;> omega
  have hlong : c = '\u017f' ↔ c.toNat = 0x17F := Char.toNat_inj.symm
  rw [Bool.eq_iff_iff, isLetter, Bool.or_eq_true, Bool.and_eq_true, beq_iff_eq, beq_iff_eq, beq_iff_eq, hlower, hlong]
  have hrange : ∀ n m : Nat, (decide (n ≤ m) && decide (m ≤ n)) = true ↔ m = n := fun n m => by
    rw [Bool.and_eq_true, decide_eq_true_eq, decide_eq_true_eq]
    omega
  by_cases hs : l = 's'
  · simp only [CodeSet.contains, CodeSet.containsCode, letterSet, hs, reduceIte, List.any_cons, List.any_nil,
      Bool.or_eq_true, hrange, Bool.or_false, true_and, or_assoc]
  · simp only [CodeSet.contains, CodeSet.containsCode, letterSet, hs, reduceIte, List.any_cons, List.any_nil,
      Bool.or_eq_true, hrange, Bool.or_false, false_and, or_false]

/-- Without regard to case, a letter of a name matches the letters that are taken for it. -/
theorem foldClosure_letter : ∀ l ∈ nameLetters, (CodeSet.single l.toNat).foldClosure = letterSet l := by
  simp only [nameLetters, List.forall_mem_cons]
  refine ⟨?_, ?_, ?_, ?_, ?_, ?_, ?_, ?_, ?_, ?_, ?_, ?_, by simp⟩
  all_goals
    rw [Unicode.foldClosure_single (by decide)]
    cbv

/-! ## The expression -/

/-- The pattern of an unsafe tag. -/
def tagPattern : String := "(?i)</?(?:script|style|iframe)\\b"

open Pattern in
/-- The pattern as it is read. -/
def tagAst : Ast :=
  let word (e : Element) : Ast := .sequence (e.name.map fun l => .literal ⟨l, false⟩)
  .sequence [.flags [(.ignoreCase, true)], .literal ⟨'<', false⟩, .times (.literal ⟨'/', false⟩) 0 (some 1) true,
    .group (.plain []) (.alternatives [word .script, word .style, word .iframe]), .assertion .wordBoundary]

open Pattern in
/-- A name without regard to case. -/
def nameForm (e : Element) : Form := .cat (e.name.map fun l => .set false (letterSet l))

open Pattern in
/-- The pattern with its flags worked in. -/
def tagForm : Form :=
  .cat [.empty, .literal ['<'], .times (.literal ['/']) 0 (some 1) true,
    .alt [nameForm .script, nameForm .style, nameForm .iframe], .assertion (.wordBoundary false)]

theorem read?_tagPattern : Pattern.Ast.read? tagPattern.toList = some tagAst := by rfl

section

open Pattern

theorem literal?_letter (hl : l ∈ nameLetters) :
    Flags.literal? { ignoreCase := true } ⟨l, false⟩ = some (.set false (letterSet l)) := by
  have hall : nameLetters.all (fun l => letterSet l != CodeSet.single l.toNat) = true := by decide
  have hne : letterSet l ≠ CodeSet.single l.toNat := bne_iff_ne.mp (List.all_eq_true.mp hall l hl)
  simp [Flags.literal?, Flags.code?, Flags.fold, Flags.form, foldClosure_letter l hl, hne]

/-- Only letters have a case. -/
theorem literal?_of_foldClosure {d : Char} (hd : (CodeSet.single d.toNat).foldClosure = CodeSet.single d.toNat) :
    Flags.literal? { ignoreCase := true } ⟨d, false⟩ = some (.literal [d]) := by
  simp [Flags.literal?, Flags.code?, Flags.fold, hd]

theorem formsUnder?_letters (hw : ∀ l ∈ w, l ∈ nameLetters) :
    Ast.formsUnder? { ignoreCase := true } (w.map fun l => .literal ⟨l, false⟩) =
      some (w.map fun l => .set false (letterSet l), { ignoreCase := true }) := by
  induction w with
  | nil => rfl
  | cons l w ih =>
    simp only [List.map_cons, Ast.formsUnder?, Ast.formUnder?, literal?_letter (hw l List.mem_cons_self),
      ih fun x hx => hw x (List.mem_cons_of_mem _ hx), Option.map_some, Option.bind_some]

theorem form?_tagAst : tagAst.form? = some tagForm := by
  have hfold : ∀ d ∈ ['<', '/'], (CodeSet.single d.toNat).foldClosure = CodeSet.single d.toNat := by
    simp only [List.forall_mem_cons]
    refine ⟨?_, ?_, by simp⟩
    all_goals
      rw [Unicode.foldClosure_single (by decide)]
      cbv
  have hbracket := literal?_of_foldClosure (hfold '<' (by decide))
  have hslash := literal?_of_foldClosure (hfold '/' (by decide))
  have hname := fun e => formsUnder?_letters (w := Element.name e) fun _ => mem_nameLetters
  have hflags : Flags.apply {} [(.ignoreCase, true)] = { ignoreCase := true } := rfl
  have hsame : Flags.apply { ignoreCase := true } [] = { ignoreCase := true } := rfl
  simp only [Ast.form?, tagAst, Ast.formUnder?, Ast.formsUnder?, hflags, hsame, hbracket, hslash, hname,
    Option.map_some, Option.bind_some]
  rfl

theorem isSmall_tagForm : tagForm.isSmall = true := by cbv

theorem regexOf?_tagPattern : regexOf? tagPattern = some tagForm.regex := by
  rw [regexOf?, read?_tagPattern, Option.bind_some, form?_tagAst, Option.filter_some, if_pos isSmall_tagForm,
    Option.map_some]

/-! ## What it matches -/

theorem matches_row_cons {f : Form} {fs : List Form} :
    (Form.cat (f :: fs)).regex.Matches previous t next ↔ ∃ u v, t = u ++ v ∧
      f.regex.Matches previous u (v.head?.or next) ∧ (Form.cat fs).regex.Matches (u.getLast?.or previous) v next := by
  change (catKept f.regex (Form.cat fs).regex).Matches previous t next ↔ _
  rw [Regex.matches_catKept]
  exact Iff.rfl

theorem matches_optional {f : Form} {greedy : Bool} :
    (Form.times f 0 (some 1) greedy).regex.Matches previous t next ↔ t = [] ∨ f.regex.Matches previous t next := by
  constructor
  · rintro ⟨k, -, hk, h⟩
    match k, hk 1 rfl, h with
    | 0, _, h => exact .inl h
    | 1, _, ⟨u, v, ht, hu, hv⟩ =>
      obtain rfl : v = [] := hv
      rw [List.append_nil] at ht
      subst ht
      exact .inr (by simpa using hu)
  · rintro (rfl | h)
    · exact ⟨0, Nat.le_refl 0, by simp, rfl⟩
    · exact ⟨1, Nat.zero_le 1, by simp, t, [], by simp, by simpa using h, rfl⟩

theorem matches_literal {d : Char} : (Form.literal [d]).regex.Matches previous t next ↔ t = [d] := by
  have hsingle : ∀ c : Char, (CodeSet.single d.toNat).contains c ↔ c = d := fun c => by
    rw [CodeSet.contains, CodeSet.containsCode_single, Char.toNat_inj]
  change (∃ c, t = [c] ∧ (CodeSet.single d.toNat).contains c) ↔ _
  simp [hsingle]

/-- A name matches the words that spell it. -/
theorem matches_letters (hw : ∀ l ∈ w, l ∈ nameLetters) :
    (Form.cat (w.map fun l => .set false (letterSet l))).regex.Matches previous t next ↔ Spells w t := by
  induction w generalizing previous t with
  | nil => exact List.forall₂_nil_left_iff.symm
  | cons l w ih =>
    rw [List.map_cons, matches_row_cons]
    simp only [ih fun x hx => hw x (List.mem_cons_of_mem _ hx)]
    constructor
    · rintro ⟨u, v, rfl, ⟨c, rfl, hc⟩, hv⟩
      exact .cons (by rwa [← letterSet_contains (hw l List.mem_cons_self)]) hv
    · rintro (_ | ⟨hc, hv⟩)
      exact ⟨[_], _, rfl, ⟨_, rfl, by rwa [letterSet_contains (hw l List.mem_cons_self)]⟩, hv⟩

theorem matches_nameForm : (nameForm e).regex.Matches previous t next ↔ Spells e.name t :=
  matches_letters fun _ => mem_nameLetters

theorem matches_names :
    (Form.alt [nameForm .script, nameForm .style, nameForm .iframe]).regex.Matches previous t next ↔
      ∃ e, Spells (Element.name e) t := by
  change ((nameForm .script).regex.Matches previous t next ∨ (nameForm .style).regex.Matches previous t next ∨
    (nameForm .iframe).regex.Matches previous t next) ↔ _
  simp only [matches_nameForm]
  constructor
  · rintro (h | h | h)
    · exact ⟨.script, h⟩
    · exact ⟨.style, h⟩
    · exact ⟨.iframe, h⟩
  · rintro ⟨e, h⟩
    cases e with
    | script => exact .inl h
    | style => exact .inr (.inl h)
    | iframe => exact .inr (.inr h)

end

theorem Spells.getLast? {ls : List Char} (h : Spells ls w) (hl : ls.getLast? = some l) :
    ∃ c, w.getLast? = some c ∧ isLetter l c = true := by
  induction h with
  | nil => cases hl
  | @cons a b ls w hletter hword ih =>
    cases hword with
    | nil =>
      obtain rfl : a = l := by simpa using hl
      exact ⟨b, rfl, hletter⟩
    | cons hletter' hword' =>
      rw [List.getLast?_cons_cons] at hl ⊢
      exact ih hl

/-- The last letter of a name belongs to a word. -/
theorem isWordSide_getLast? (h : Spells e.name w) : Pattern.isWordSide false w.getLast? = true := by
  obtain ⟨l, hname, hl, hlong, hcapital, hsmall⟩ : ∃ l, e.name.getLast? = some l ∧ l ∈ nameLetters ∧ l ≠ 's' ∧
      Unicode.isWord l.toUpper = true ∧ Unicode.isWord l = true := by
    cases e with
    | script => exact ⟨'t', rfl, by decide, by decide, by decide +kernel, by decide +kernel⟩
    | style => exact ⟨'e', rfl, by decide, by decide, by decide +kernel, by decide +kernel⟩
    | iframe => exact ⟨'e', rfl, by decide, by decide, by decide +kernel, by decide +kernel⟩
  obtain ⟨c, hc, hletter⟩ := h.getLast? hname
  rw [← letterSet_contains hl] at hletter
  have hcase : c = l.toUpper ∨ c = l := by
    simp only [letterSet, hlong, CodeSet.contains, CodeSet.containsCode, reduceIte, List.any_cons, List.any_nil,
      Bool.or_false, Bool.or_eq_true, Bool.and_eq_true, decide_eq_true_eq] at hletter
    rw [← Char.toNat_inj, ← Char.toNat_inj]
    omega
  rw [hc, Pattern.isWordSide, if_neg Bool.false_ne_true]
  rcases hcase with rfl | rfl
  · exact hcapital
  · exact hsmall

/-- Behind a name, the word ends where no character of a word follows. -/
theorem holds_wordBoundary (h : Spells e.name w) :
    (Pattern.Assertion.wordBoundary false).holds (w.getLast?.or previous) next = true ↔
      Pattern.isWordSide false next = false := by
  have hlast := isWordSide_getLast? h
  cases hc : w.getLast? with
  | none =>
    rw [hc] at hlast
    cases hlast
  | some c =>
    rw [hc] at hlast
    rw [Option.some_or, Pattern.Assertion.holds, hlast, Bool.true_bne, Bool.not_eq_true']

/-- **The expression matches the tags**: an opening bracket, a slash or none, and a name, where the word ends. -/
theorem matches_tagForm : tagForm.regex.Matches previous t next ↔
    ∃ e word, (t = '<' :: word ∨ t = '<' :: '/' :: word) ∧ Spells (Element.name e) word ∧
      Pattern.isWordSide false next = false := by
  simp only [tagForm, matches_row_cons, matches_literal, matches_optional, matches_names]
  constructor
  · rintro ⟨front, _, rfl, hfront, _, _, rfl, rfl, slash, _, rfl, hslash, word, _, rfl, ⟨e, hword⟩, _, rest, rfl,
      ⟨rfl, hend⟩, hrest⟩
    obtain rfl : front = [] := hfront
    obtain rfl : rest = [] := hrest
    refine ⟨e, word, ?_, hword, (holds_wordBoundary hword).mp hend⟩
    rcases hslash with rfl | rfl
    · exact .inl (by simp)
    · exact .inr (by simp)
  · rintro ⟨e, word, htag, hword, hend⟩
    obtain ⟨slash, hslash, rfl⟩ : ∃ slash, (slash = [] ∨ slash = ['/']) ∧ t = '<' :: (slash ++ word) := by
      rcases htag with rfl | rfl
      · exact ⟨[], .inl rfl, rfl⟩
      · exact ⟨['/'], .inr rfl, rfl⟩
    exact ⟨[], _, rfl, rfl, ['<'], _, rfl, rfl, slash, _, rfl, hslash, word, [], by simp, ⟨e, hword⟩, [], [], rfl,
      ⟨rfl, (holds_wordBoundary hword).mpr hend⟩, rfl⟩

/-- **The expression finds something in the texts with an unsafe tag.** -/
theorem search_tagForm : tagForm.regex.search s = true ↔ HasUnsafeTag s := by
  have hwf : tagForm.regex.WellFormed := by
    refine Pattern.wellFormed_of_read? (t := tagPattern.toList) ?_
    rw [read?_tagPattern, Option.bind_some, form?_tagAst]
  rw [Pattern.Regex.search_iff hwf]
  simp only [matches_tagForm]
  have hends : ∀ r : List Char, Pattern.isWordSide false r.head? = false ↔ endsWord r = true := by
    rintro (_ | ⟨c, r⟩) <;> simp [Pattern.isWordSide, endsWord]
  constructor
  · rintro ⟨u, v, r, rfl, e, word, htag, hword, hend⟩
    have hname : afterName? e (word ++ r) = some r := by
      rw [afterName?, afterLetters?_eq_some_iff.mpr ⟨word, rfl, hword⟩, Option.filter_some, if_pos ((hends r).mp hend)]
    refine ⟨u, v ++ r, rfl, isSome_afterTagName?_iff.mpr ⟨e, word ++ r, ?_, Option.isSome_of_eq_some hname⟩⟩
    rcases htag with rfl | rfl
    · exact .inl rfl
    · exact .inr rfl
  · rintro ⟨before, after, rfl, htag⟩
    obtain ⟨e, r, hr, hname⟩ := isSome_afterTagName?_iff.mp htag
    obtain ⟨q, hq⟩ := Option.isSome_iff_exists.mp hname
    obtain ⟨hletters, hend⟩ := Option.filter_eq_some_iff.mp hq
    obtain ⟨word, rfl, hword⟩ := afterLetters?_eq_some_iff.mp hletters
    rcases hr with rfl | rfl
    · exact ⟨before, '<' :: word, q, rfl, e, word, .inl rfl, hword, (hends q).mpr hend⟩
    · exact ⟨before, '<' :: '/' :: word, q, rfl, e, word, .inr rfl, hword, (hends q).mpr hend⟩

/-! ## Texts that are changed -/

/-- A pass that makes a text no shorter has left it as it is. -/
theorem stripElements_eq_self_of_length (e : Element) (h : s.length ≤ (stripElements e s).length) :
    stripElements e s = s := by
  fun_induction stripElements e s with
  | case1 => rfl
  | case2 c r rest hrest ih =>
    have hshorter := length_afterElement? hrest
    have hpass := length_stripElements_le e rest
    omega
  | case3 c r hnone ih => exact congrArg _ (ih (Nat.le_of_succ_le_succ h))

/-- The last pass makes a text with a tag shorter. -/
theorem length_stripTags_lt (h : HasUnsafeTag s) : (stripTags s).length < s.length := by
  fun_induction stripTags s with
  | case1 => exact absurd h not_hasUnsafeTag_nil
  | case2 c r t ht ih =>
    have hname := length_afterTagName? ht
    have hrest := (t.dropWhile_sublist (· != '>')).length_le
    have hpass := length_stripTags_le ((t.dropWhile (· != '>')).drop 1)
    rw [List.length_drop] at hpass
    omega
  | case3 c r hnone ih =>
    rw [hasUnsafeTag_cons, hnone] at h
    exact Nat.succ_lt_succ (ih (h.resolve_left (by simp)))

/-- **A text that is left as it is holds no unsafe tag.** No pass has made it shorter, so each of the first three has
left it as it is, and so has the last one, which makes a text with a tag shorter. -/
theorem not_hasUnsafeTag_of_strip {html : String} (h : strip html = html) : ¬HasUnsafeTag html.toList := by
  intro htag
  have hlength : (stripChars html.toList).length = html.toList.length := by
    rw [← String.toList_ofList (l := stripChars html.toList), ← strip, h]
  rw [stripChars] at hlength
  have hscript := length_stripElements_le .script html.toList
  have hstyle := length_stripElements_le .style (stripElements .script html.toList)
  have hiframe := length_stripElements_le .iframe (stripElements .style (stripElements .script html.toList))
  have htags := length_stripTags_le (stripElements .iframe (stripElements .style (stripElements .script html.toList)))
  have hfirst := stripElements_eq_self_of_length .script (s := html.toList) (by omega)
  rw [hfirst] at hlength hstyle hiframe htags
  have hsecond := stripElements_eq_self_of_length .style (s := html.toList) (by omega)
  rw [hsecond] at hlength hiframe htags
  have hthird := stripElements_eq_self_of_length .iframe (s := html.toList) (by omega)
  rw [hthird] at hlength
  exact absurd (length_stripTags_lt htag) (by omega)

/-- **A text is left as it is exactly if the expression for unsafe tags finds nothing in it.** -/
theorem strip_eq_self_iff : ∃ r, Pattern.regexOf? tagPattern = some r ∧
    ∀ html : String, strip html = html ↔ r.search html.toList = false := by
  refine ⟨tagForm.regex, regexOf?_tagPattern, fun html => ?_⟩
  rw [← Bool.not_eq_true, search_tagForm]
  exact ⟨not_hasUnsafeTag_of_strip, strip_eq_self⟩

end FormTemplate.Markup
