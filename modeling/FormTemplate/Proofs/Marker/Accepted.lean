import FormTemplate.Marker
import FormTemplate.Proofs.Marker.Grammar

/-!
# Accepted candidates

A candidate is a bracket of a text and what follows it. It is accepted exactly if a phrase of the marker grammar starts
at the bracket. No two phrases start there, and what is read says what the phrase says: its slug, its attributes with keys
in lower case, and the position behind its closing bracket.

* `Phrase` : a slug and attributes with a text that writes them;
* `Phrase.eq_of_isPrefix` : a text starts with at most one phrase;
* `Phrase.readMarker_eq` : what is read of a phrase;
* `readMarker_accepts` : reading accepts the grammar and nothing else.
-/

set_option autoImplicit false

namespace FormTemplate.Marker

open Text (Cursor byteLength byteLength_append)

variable {r rest s : List Char}

/-- A phrase of the marker grammar, with what it says. -/
structure Phrase where
  slug : List Char
  attributes : List (List Char × List Char)
  text : List Char
  written : WrittenMarker slug attributes text

namespace Phrase

/-- The attributes in the order of the phrase, with keys in lower case. -/
def attributeTexts (p : Phrase) : List (String × String) :=
  p.attributes.map fun a => (String.ofList (a.1.map Char.toLower), String.ofList a.2)

/-- **A text starts with at most one phrase.** -/
theorem eq_of_isPrefix {p q : Phrase} (hp : p.text <+: s) (hq : q.text <+: s) : p = q := by
  obtain ⟨u, hu⟩ := hp
  obtain ⟨v, hv⟩ := hq
  have hpass : (Cursor.start s).Passes p.text ⟨_, u⟩ := Cursor.passes_append hu.symm
  have hpass' : (Cursor.start s).Passes q.text ⟨_, v⟩ := Cursor.passes_append hv.symm
  obtain ⟨hslug, hattributes, hsame⟩ := p.written.unique q.written hpass hpass'
  have htext : p.text = q.text := by
    rw [hsame] at hpass
    exact List.append_cancel_right (hpass.rest.symm.trans hpass'.rest)
  cases p
  cases q
  cases hslug
  cases hattributes
  cases htext
  rfl

/-- **A phrase is read as what it says**, and reading goes on behind it. -/
theorem readMarker_eq (p : Phrase) (before : List Char) (h : '[' :: r = p.text ++ rest) :
    ∃ t, readMarker ⟨byteLength before + 1, r⟩ = .ok (t, ⟨byteLength (before ++ p.text), rest⟩) ∧
      t.start = byteLength before ∧ t.stop = byteLength (before ++ p.text) ∧
      t.slug.string = String.ofList p.slug ∧ attributesOf t = p.attributeTexts := by
  have hpass : (Cursor.mk (byteLength before) ('[' :: r)).Passes p.text ⟨byteLength (before ++ p.text), rest⟩ :=
    ⟨h, byteLength_append before p.text⟩
  obtain ⟨r', t, hr', hread, hslug, hattributes⟩ := readMarker_of_written p.written hpass
  obtain rfl := (List.cons.inj hr').2
  obtain ⟨_, _, _, hstart, hstop⟩ := exists_written_of_readMarker hread
  refine ⟨t, hread, hstart, hstop, congrArg String.ofList hslug, ?_⟩
  rw [attributesOf, attributeTexts, ← hattributes, List.map_map]
  rfl

end Phrase

/-- What is read at a bracket is a phrase that starts there. -/
theorem exists_phrase_of_readMarker {before : List Char} {t : Token} {after : Cursor}
    (h : readMarker ⟨byteLength before + 1, r⟩ = .ok (t, after)) : ∃ p : Phrase, p.text <+: '[' :: r := by
  obtain ⟨text, hwritten, hpass, -, -⟩ := exists_written_of_readMarker h
  exact ⟨⟨_, _, text, hwritten⟩, after.rest, hpass.rest.symm⟩

/-- **Reading accepts exactly the marker grammar.** At every bracket of every text reading succeeds if and only if a
phrase starts there. There is no other phrase at the bracket, and the slug, the attributes and the position behind the
closing bracket that are read are those of the phrase. -/
theorem readMarker_accepts (before r : List Char) :
    ((∃ t after, readMarker ⟨byteLength before + 1, r⟩ = .ok (t, after)) ↔ ∃ p : Phrase, p.text <+: '[' :: r) ∧
      (∀ p q : Phrase, p.text <+: '[' :: r → q.text <+: '[' :: r → p = q) ∧
      ∀ (p : Phrase) (rest : List Char), '[' :: r = p.text ++ rest →
        ∃ t, readMarker ⟨byteLength before + 1, r⟩ = .ok (t, ⟨byteLength (before ++ p.text), rest⟩) ∧
          t.start = byteLength before ∧ t.stop = byteLength (before ++ p.text) ∧
          t.slug.string = String.ofList p.slug ∧ attributesOf t = p.attributeTexts := by
  refine ⟨⟨?_, ?_⟩, fun p q => Phrase.eq_of_isPrefix, fun p rest => p.readMarker_eq before⟩
  · rintro ⟨t, after, h⟩
    exact exists_phrase_of_readMarker h
  · rintro ⟨p, rest, h⟩
    obtain ⟨t, ht, -⟩ := p.readMarker_eq before h.symm
    exact ⟨t, _, ht⟩

end FormTemplate.Marker
