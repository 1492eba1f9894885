import FormTemplate.Json.Reader
import FormTemplate.Text.Join

/-!
# Inside and outside of strings

A quote in JSON text begins a string, ends one, or stands in one behind a backslash. Which of them it does shows in what
has been read before it: text between strings, the text of a string, or a backslash in it. Of a string it also shows
whether it is the value of a member, because then a colon stands in front of it.

* `Context` : what has been read before a character;
* `Delimited` : a text in which every quote begins or ends a string, between two contexts;
* `Delimited.append`, `Delimited.join` : such texts one behind the other;
* `readParts?_delimiter` : where a string is read, its text goes up to the quote that ends it.
-/

set_option autoImplicit false

namespace FormTemplate.Json

/-- Where a character of JSON text stands. -/
inductive Context where
  /-- Between strings, perhaps with a colon in front. -/
  | between (behindColon : Bool)
  /-- In a string, which is the value of a member or not. -/
  | inString (isValue : Bool)
  /-- In a string, behind a backslash that escapes the character. -/
  | escaped (isValue : Bool)
  deriving DecidableEq, Repr

namespace Context

/-- The context behind a character. -/
def next : Context → Char → Context
  | .between behindColon, c =>
    if c = '"' then .inString behindColon
    else if isSpace c then .between behindColon
    else .between (c == ':')
  | .inString isValue, c =>
    if c = '"' then .between false
    else if c = '\\' then .escaped isValue
    else .inString isValue
  | .escaped isValue, _ => .inString isValue

/-- The context behind a text. -/
def after (k : Context) (s : List Char) : Context := s.foldl next k

/-- Whether a backslash escapes the next character. -/
def isEscaped : Context → Bool
  | .escaped _ => true
  | _ => false

variable {k : Context} {c : Char} {a b : List Char}

/-- A character that neither ends the string nor escapes another. -/
theorem next_inString {isValue : Bool} (hquote : c ≠ '"') (hslash : c ≠ '\\') :
    (inString isValue).next c = .inString isValue := by
  simp [next, hquote, hslash]

@[simp] theorem after_nil : k.after [] = k := rfl

@[simp] theorem after_cons : k.after (c :: a) = (k.next c).after a := rfl

@[simp] theorem after_append : k.after (a ++ b) = (k.after a).after b := List.foldl_append

end Context

/-- Every quote of the text begins or ends a string, and the text leads from one context to another. -/
structure Delimited (k : Context) (s : List Char) (k' : Context) : Prop where
  quotes : ∀ before after, s = before ++ '"' :: after → (k.after before).isEscaped = false
  after : k.after s = k'

namespace Delimited

variable {k k' k'' : Context} {c : Char} {a b : List Char}

theorem nil : Delimited k [] k := ⟨by simp, rfl⟩

/-- **Texts one behind the other.** -/
theorem append (ha : Delimited k a k') (hb : Delimited k' b k'') : Delimited k (a ++ b) k'' := by
  refine ⟨?_, by rw [Context.after_append, ha.after, hb.after]⟩
  intro before after h
  rcases List.append_eq_append_iff.mp h with ⟨l, rfl, hl⟩ | ⟨l, rfl, hl⟩
  · rw [Context.after_append, ha.after]
    exact hb.quotes l after hl
  · cases l with
    | nil =>
      rw [List.append_nil] at ha
      rw [ha.after]
      exact hb.quotes [] after hl.symm
    | cons d l =>
      injection hl with hd hl
      subst hd
      exact ha.quotes before l rfl

/-- A single character that no backslash escapes. -/
theorem char (hk : k.isEscaped = false) : Delimited k [c] (k.next c) := by
  refine ⟨?_, rfl⟩
  intro before after h
  cases before with
  | nil => exact hk
  | cons d before => simp at h

theorem cons (hk : k.isEscaped = false) (hnext : k.next c = k') (ha : Delimited k' a k'') :
    Delimited k (c :: a) k'' := by
  subst hnext
  exact (char hk).append ha

/-- A text without quotes. -/
theorem of_not_mem (h : '"' ∉ a) : Delimited k a (k.after a) := by
  refine ⟨?_, rfl⟩
  rintro before after rfl
  simp at h

/-- Texts that lead back to where they start, between separators that do so too. -/
theorem join {sep : List Char} {parts : List (List Char)} (hsep : Delimited k sep k)
    (hparts : ∀ s ∈ parts, Delimited k s k) : Delimited k (Text.join sep parts) k := by
  fun_induction Text.join sep parts with
  | case1 => exact nil
  | case2 s => exact hparts s List.mem_cons_self
  | case3 s t rest ih =>
    refine ((hparts s List.mem_cons_self).append hsep).append (ih ?_)
    exact fun s hs => hparts s (List.mem_cons_of_mem _ hs)

theorem join_map {α : Type} {sep : List Char} {text : α → List Char} {xs : List α} (hsep : Delimited k sep k)
    (hxs : ∀ x ∈ xs, Delimited k (text x) k) : Delimited k (Text.join sep (xs.map text)) k :=
  join hsep (List.forall_mem_map.mpr hxs)

end Delimited

/-! ## Strings that are read -/

/-- The text goes on in a string: every quote in it is escaped, and it ends in the string. -/
structure GoesOn (isValue : Bool) (s : List Char) : Prop where
  quotes : ∀ before after, s = before ++ '"' :: after → ((Context.inString isValue).after before).isEscaped = true
  after : (Context.inString isValue).after s = .inString isValue

namespace GoesOn

variable {isValue : Bool} {c : Char} {a b : List Char}

theorem nil : GoesOn isValue [] := ⟨by simp, rfl⟩

/-- A character that neither ends a string nor escapes another. -/
theorem cons (hquote : c ≠ '"') (hslash : c ≠ '\\') (h : GoesOn isValue a) : GoesOn isValue (c :: a) := by
  have hnext : (Context.inString isValue).next c = .inString isValue := Context.next_inString hquote hslash
  refine ⟨?_, by rw [Context.after_cons, hnext, h.after]⟩
  intro before after heq
  cases before with
  | nil =>
    injection heq with hc _
    exact absurd hc hquote
  | cons d before =>
    injection heq with hd heq
    subst hd
    rw [Context.after_cons, hnext]
    exact h.quotes before after heq

theorem cons_hexDigit (hc : (Text.hexDigit? c).isSome = true)
    (h : GoesOn isValue a) : GoesOn isValue (c :: a) := by
  refine h.cons ?_ ?_
  · rintro rfl
    exact absurd hc (by decide)
  · rintro rfl
    exact absurd hc (by decide)

/-- A character behind a backslash. -/
theorem escape (h : GoesOn isValue a) : GoesOn isValue ('\\' :: c :: a) := by
  refine ⟨?_, h.after⟩
  intro before after heq
  match before with
  | [] => simp at heq
  | [d] =>
    obtain rfl : '\\' = d := (List.cons.inj heq).1
    rfl
  | d :: e :: before =>
    simp only [List.cons_append, List.cons.injEq] at heq
    obtain ⟨rfl, rfl, heq⟩ := heq
    exact h.quotes before after heq

end GoesOn

/-- **Where a string is read, its text goes up to the quote that ends it**, and the quotes in it are escaped. -/
theorem readParts?_delimiter {s rest : List Char} {ps : List StringPart} (isValue : Bool)
    (h : readParts? s = some (ps, rest)) : ∃ text, s = text ++ '"' :: rest ∧ GoesOn isValue text := by
  fun_induction readParts? s generalizing ps with
  | case1 => cases h
  | case2 r =>
    cases h
    exact ⟨[], rfl, .nil⟩
  | case3 a b c d r ih =>
    obtain ⟨n, hn, h⟩ := Option.bind_eq_some_iff.mp h
    obtain ⟨⟨qs, _⟩, hread, h⟩ := Option.map_eq_some_iff.mp h
    cases h
    obtain ⟨text, rfl, htext⟩ := ih hread
    have hdigit := Text.isSome_hexDigit?_of_hexValue? hn
    refine ⟨'\\' :: 'u' :: a :: b :: c :: d :: text, rfl, .escape ?_⟩
    refine .cons_hexDigit (hdigit a (by simp)) (.cons_hexDigit (hdigit b (by simp)) ?_)
    exact .cons_hexDigit (hdigit c (by simp)) (.cons_hexDigit (hdigit d (by simp)) htext)
  | case4 e r _ ih =>
    obtain ⟨c, _, h⟩ := Option.bind_eq_some_iff.mp h
    obtain ⟨⟨qs, _⟩, hread, h⟩ := Option.map_eq_some_iff.mp h
    cases h
    obtain ⟨text, rfl, htext⟩ := ih hread
    exact ⟨'\\' :: e :: text, rfl, htext.escape⟩
  | case5 => cases h
  | case6 c r hquote _ _ hchar ih =>
    obtain ⟨⟨qs, _⟩, hread, h⟩ := Option.map_eq_some_iff.mp h
    cases h
    obtain ⟨text, rfl, htext⟩ := ih hread
    refine ⟨c :: text, rfl, htext.cons hquote ?_⟩
    rintro rfl
    simp at hchar

end FormTemplate.Json
