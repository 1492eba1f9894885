import FormTemplate.Marker.Candidate
import FormTemplate.Proofs.Text.Cursor

/-!
# The grammar of markers

How a marker is written, as relations between its parts and their text, and that reading agrees with them: a
marker is read behind a bracket exactly if one is written there. White space may stand in front of the semicolon
of an attribute and of the closing bracket, around the key and in front of the value.

The same marker can be derived in more than one way, since the white space on both sides of an empty value may be
divided anywhere. What is read does not depend on the derivation, so a text starts with at most one marker.

* `WrittenMarker` : the texts of a marker with a slug and attributes;
* `exists_written_of_readMarker` : what is read is written;
* `readMarker_of_written` : what is written is read;
* `WrittenMarker.unique` : a text starts with at most one marker.
-/

set_option autoImplicit false

namespace FormTemplate.Marker

open Text (Cut Cursor StopsAt stopsAt_cons byteLength)

/-! ## The grammar -/

/-- A run of white space, which may be empty. -/
def IsBlankRun (s : List Char) : Prop := ∀ x ∈ s, Text.isAsciiBlank x = true

/-- The texts of a value: between quotes, or as it is if it holds no delimiter. -/
inductive WrittenValue : List Char → List Char → Prop
  | quoted {value : List Char} : '\'' ∉ value → WrittenValue value ('\'' :: (value ++ ['\'']))
  | bare {value : List Char} : (∀ x ∈ value, isBareChar x = true) → WrittenValue value value

/-- The texts of an attribute behind its semicolon. -/
inductive WrittenAttribute : List Char × List Char → List Char → Prop
  | intro {key value text b₁ b₂ b₃ : List Char} : IsBlankRun b₁ → key ≠ [] → (∀ x ∈ key, isKeyChar x = true) →
      IsBlankRun b₂ → IsBlankRun b₃ → WrittenValue value text →
      WrittenAttribute (key, value) (b₁ ++ key ++ b₂ ++ '=' :: (b₃ ++ text))

/-- The texts of a list of attributes with the closing bracket. -/
inductive WrittenAttributes : List (List Char × List Char) → List Char → Prop
  | nil {b : List Char} : IsBlankRun b → WrittenAttributes [] (b ++ [']'])
  | cons {a : List Char × List Char} {as : List (List Char × List Char)} {b text rest : List Char} :
      IsBlankRun b → WrittenAttribute a text → WrittenAttributes as rest →
      WrittenAttributes (a :: as) (b ++ ';' :: (text ++ rest))

/-- The texts of a marker. -/
inductive WrittenMarker (slug : List Char) (as : List (List Char × List Char)) : List Char → Prop
  | intro {tail : List Char} : slug ≠ [] → (∀ x ∈ slug, isSlugChar x = true) → WrittenAttributes as tail →
      WrittenMarker slug as ('[' :: (slug ++ tail))

/-- The key and the value of an attribute. -/
def Attribute.texts (a : Attribute) : List Char × List Char := (a.key.text, a.value.text)

variable {c d e after : Cursor} {s text : List Char}

/-! ## White space -/

theorem passes_skipBlank (c : Cursor) : ∃ b, IsBlankRun b ∧ c.Passes b (skipBlank c) :=
  ⟨_, fun _ => Cursor.of_mem_takeWhile, Cursor.passes_takeWhile Text.isAsciiBlank c⟩

/-- White space in front of a cursor makes no difference to what follows it. -/
theorem skipBlank_of_passes {b : List Char} (h : c.Passes b d) (hb : IsBlankRun b) : skipBlank c = skipBlank d := by
  have hall : ∀ x ∈ b ++ (d.takeWhile Text.isAsciiBlank).1.text, Text.isAsciiBlank x = true := by
    intro x hx
    rcases List.mem_append.mp hx with hx | hx
    · exact hb x hx
    · exact Cursor.of_mem_takeWhile hx
  have hpass := h.trans (Cursor.passes_takeWhile Text.isAsciiBlank d)
  show (c.takeWhile Text.isAsciiBlank).2 = (d.takeWhile Text.isAsciiBlank).2
  rw [hpass.takeWhile_eq hall (Cursor.stopsAt_takeWhile _ d)]

theorem skipBlank_eq_self (h : StopsAt Text.isAsciiBlank c.rest) : skipBlank c = c := by
  have hpass := (Cursor.Passes.refl c).takeWhile_eq (p := Text.isAsciiBlank) (by simp) h
  exact congrArg Prod.snd hpass

theorem skipBlank_skipBlank (c : Cursor) : skipBlank (skipBlank c) = skipBlank c :=
  skipBlank_eq_self (Cursor.stopsAt_takeWhile Text.isAsciiBlank c)

/-- The white space characters. -/
def blanks : List Char := [' ', '\t', '\n', '\x0c', '\r']

/-- A class that lacks each white space character lacks white space. -/
theorem eq_false_of_isAsciiBlank {p : Char → Bool} {x : Char} (hp : blanks.any p = false)
    (hx : Text.isAsciiBlank x = true) : p x = false := by
  have hmem : x ∈ blanks := by
    simp only [Text.isAsciiBlank, Bool.or_eq_true, beq_iff_eq] at hx
    rcases hx with (((rfl | rfl) | rfl) | rfl) | rfl <;> decide
  rw [Bool.eq_false_iff]
  exact List.any_eq_false.mp hp x hmem

theorem isAsciiBlank_eq_false {p : Char → Bool} {x : Char} (hp : blanks.any p = false)
    (hx : p x = true) : Text.isAsciiBlank x = false := by
  rw [Bool.eq_false_iff]
  intro hblank
  rw [eq_false_of_isAsciiBlank hp hblank] at hx
  cases hx

/-! ## What is read is written -/

theorem exists_written_of_readValue {v : Cut} (h : readValue c = .ok (v, after)) :
    ∃ text, WrittenValue v.text text ∧ c.Passes text after := by
  unfold readValue at h
  split at h
  · rename_i r hr
    have hopen : c.Passes ['\''] ⟨c.offset + 1, r⟩ := Cursor.passes_cons hr
    have hrun := Cursor.passes_takeWhile (· != '\'') ⟨c.offset + 1, r⟩
    have hstop := Cursor.stopsAt_takeWhile (· != '\'') ⟨c.offset + 1, r⟩
    simp only at h
    split at h
    · cases h
    · rename_i x rest hx
      rw [hx, stopsAt_cons, bne_eq_false_iff_eq] at hstop
      subst hstop
      cases h
      refine ⟨_, .quoted fun hmem => ?_, hopen.trans (hrun.trans (Cursor.passes_cons hx))⟩
      exact absurd (Cursor.of_mem_takeWhile hmem) (by decide)
  · have hrun := Cursor.passes_takeWhile isBareChar c
    simp only at h
    split at h
    · cases h
    · cases h
    · cases h
      exact ⟨_, .bare fun _ => Cursor.of_mem_takeWhile, hrun⟩

theorem exists_written_of_readAttribute {a : Attribute} (h : readAttribute c = .ok (a, after)) :
    ∃ text, WrittenAttribute a.texts text ∧ c.Passes text after := by
  obtain ⟨b₁, hb₁, hpass₁⟩ := passes_skipBlank c
  have hkey := Cursor.passes_takeWhile isKeyChar (skipBlank c)
  obtain ⟨b₂, hb₂, hpass₂⟩ := passes_skipBlank ((skipBlank c).takeWhile isKeyChar).2
  unfold readAttribute at h
  simp only at h
  split at h
  · cases h
  · rename_i hne
    split at h
    · rename_i r hr
      split at h
      · cases h
      · rename_i v after' hv
        cases h
        obtain ⟨b₃, hb₃, hpass₃⟩ := passes_skipBlank
          ⟨(skipBlank ((skipBlank c).takeWhile isKeyChar).2).offset + 1, r⟩
        obtain ⟨text, htext, hvalue⟩ := exists_written_of_readValue hv
        have hequals := (Cursor.passes_cons hr).trans (hpass₃.trans hvalue)
        exact ⟨_, .intro hb₁ (by simpa using hne) (fun _ => Cursor.of_mem_takeWhile) hb₂ hb₃ htext,
          ((hpass₁.trans hkey).trans hpass₂).trans hequals⟩
    · cases h

theorem exists_written_of_readAttributes {read as : List Attribute}
    (h : readAttributes read c = .ok (as, after)) :
    ∃ new text, as = read.reverse ++ new ∧ WrittenAttributes (new.map Attribute.texts) text ∧ c.Passes text after := by
  fun_induction readAttributes read c with
  | case1 => cases h
  | case2 read c r hc =>
    cases h
    obtain ⟨b, hb, hpass⟩ := passes_skipBlank c
    exact ⟨[], b ++ [']'], by simp, .nil hb, hpass.trans (Cursor.passes_cons hc)⟩
  | case3 => cases h
  | case4 read c r a after' ha hc _ ih =>
    obtain ⟨b, hb, hpass⟩ := passes_skipBlank c
    obtain ⟨text, htext, hpass'⟩ := exists_written_of_readAttribute ha
    obtain ⟨new, rest, rfl, hrest, hpass''⟩ := ih h
    refine ⟨a :: new, b ++ ';' :: (text ++ rest), by simp, .cons hb htext hrest, ?_⟩
    exact hpass.trans ((Cursor.passes_cons hc).trans (hpass'.trans hpass''))
  | case5 => cases h

/-- **What is read behind a bracket is written there.** -/
theorem exists_written_of_readMarker {o : Nat} {r : List Char} {t : Token}
    (h : readMarker ⟨o + 1, r⟩ = .ok (t, after)) :
    ∃ text, WrittenMarker t.slug.text (t.attributes.map Attribute.texts) text ∧
      (Cursor.mk o ('[' :: r)).Passes text after ∧ t.start = o ∧ t.stop = after.offset := by
  have hslug := Cursor.passes_takeWhile isSlugChar ⟨o + 1, r⟩
  unfold readMarker at h
  simp only at h
  split at h
  · cases h
  · rename_i hne
    split at h
    · cases h
    · rename_i as after' ha
      cases h
      obtain ⟨new, tail, rfl, htail, hpass⟩ := exists_written_of_readAttributes ha
      have hopen : (Cursor.mk o ('[' :: r)).Passes ['['] ⟨o + 1, r⟩ := Cursor.passes_cons rfl
      exact ⟨_, .intro (by simpa using hne) (fun _ => Cursor.of_mem_takeWhile) htail,
        hopen.trans (hslug.trans hpass), rfl, rfl⟩

/-! ## What is written is read -/

/-- The text goes on with white space, if any, and then an attribute or the end of the marker. -/
def GoesOn (s : List Char) : Prop := ∃ b x r, s = b ++ x :: r ∧ IsBlankRun b ∧ (x = ';' ∨ x = ']')

theorem WrittenAttributes.goesOn {as : List (List Char × List Char)} (h : WrittenAttributes as text)
    (rest : List Char) : GoesOn (text ++ rest) := by
  cases h with
  | nil hb => exact ⟨_, ']', rest, by simp, hb, .inr rfl⟩
  | cons hb _ _ => exact ⟨_, ';', _, by simp only [List.append_assoc, List.cons_append]; rfl, hb, .inl rfl⟩

/-- A class without white space and delimiters stops where a marker goes on. -/
theorem GoesOn.stopsAt {p : Char → Bool} (h : GoesOn s) (hp : (blanks ++ [';', ']']).any p = false) :
    StopsAt p s := by
  obtain ⟨b, x, r, rfl, hb, hx⟩ := h
  rw [List.any_append, Bool.or_eq_false_iff] at hp
  cases b with
  | nil =>
    refine stopsAt_cons.mpr (Bool.eq_false_iff.mpr (List.any_eq_false.mp hp.2 x ?_))
    rcases hx with rfl | rfl <;> decide
  | cons y ys => exact stopsAt_cons.mpr (eq_false_of_isAsciiBlank hp.1 (hb y List.mem_cons_self))

/-- Where a marker goes on, no other character stands. -/
theorem GoesOn.ne_cons {y : Char} (h : GoesOn s) (hy : y ∉ blanks ++ [';', ']']) (r : List Char) :
    s ≠ y :: r := by
  rintro rfl
  have hlacks : (blanks ++ [';', ']']).any (· == y) = false := by
    rw [List.any_eq_false]
    intro z hz heq
    exact hy (beq_iff_eq.mp heq ▸ hz)
  have hstop := h.stopsAt hlacks
  simp [stopsAt_cons] at hstop

theorem GoesOn.skipBlank (h : GoesOn c.rest) : GoesOn (skipBlank c).rest := by
  obtain ⟨b, x, r, hrest, hb, hx⟩ := h
  have hstop : StopsAt Text.isAsciiBlank (x :: r) := by
    rcases hx with rfl | rfl <;> exact stopsAt_cons.mpr (by decide)
  rw [skipBlank_of_passes (Cursor.passes_append hrest) hb, skipBlank_eq_self hstop]
  exact ⟨[], x, r, rfl, by simp [IsBlankRun], hx⟩

theorem readValue_quoted {r r' v : List Char} (h : c.rest = '\'' :: r)
    (hv : (Cursor.mk (c.offset + 1) r).Passes v d) (hquote : '\'' ∉ v) (hclose : d.rest = '\'' :: r') :
    readValue c = .ok (⟨c.offset + 1, v⟩, ⟨d.offset + 1, r'⟩) := by
  have hstop : StopsAt (· != '\'') d.rest := by
    rw [hclose]
    exact stopsAt_cons.mpr (by decide)
  have hrun := hv.takeWhile_eq (p := (· != '\'')) (fun x hx => bne_iff_ne.mpr fun he => hquote (he ▸ hx)) hstop
  unfold readValue
  rw [h]
  simp only [hrun, hclose]

theorem readValue_bare {v : List Char} (h : c.Passes v d) (hv : ∀ x ∈ v, isBareChar x = true) (hd : GoesOn d.rest) :
    readValue c = .ok (⟨c.offset, v⟩, d) := by
  have hrun := h.takeWhile_eq hv (hd.stopsAt (by decide))
  have hquote : ∀ r, c.rest ≠ '\'' :: r := by
    intro r hr
    cases v with
    | nil => exact hd.ne_cons (by decide) r (((Cursor.Passes.refl c).eq h) ▸ hr)
    | cons x xs =>
      have hx := hv x List.mem_cons_self
      rw [h.rest, List.cons_append] at hr
      rw [(List.cons.inj hr).1] at hx
      exact absurd hx (by decide)
  unfold readValue
  split
  · rename_i r hr
    exact absurd hr (hquote r)
  · simp only [hrun]
    split
    · rename_i r hr
      exact absurd hr (hd.ne_cons (by decide) r)
    · rename_i r hr
      exact absurd hr (hd.ne_cons (by decide) r)
    · rfl

theorem readValue_of_written {v : List Char} (hv : WrittenValue v text) (h : c.Passes text after)
    (hafter : GoesOn after.rest) :
    ∃ cut d, readValue (skipBlank c) = .ok (cut, d) ∧ cut.text = v ∧ skipBlank d = skipBlank after := by
  cases hv with
  | quoted hquote =>
    obtain ⟨r, hr, hpass⟩ := h.of_cons
    obtain ⟨d, hv, hclose⟩ := hpass.of_append
    obtain ⟨r', hr', hd⟩ := hclose.of_cons
    rw [skipBlank_eq_self (by rw [hr]; exact stopsAt_cons.mpr (by decide))]
    exact ⟨_, _, readValue_quoted hr hv hquote hr', rfl, congrArg skipBlank ((Cursor.Passes.refl _).eq hd)⟩
  | bare hbare =>
    cases text with
    | nil =>
      obtain rfl := (Cursor.Passes.refl c).eq h
      exact ⟨_, _, readValue_bare (Cursor.Passes.refl _) hbare hafter.skipBlank, rfl, skipBlank_skipBlank c⟩
    | cons x xs =>
      have hx : Text.isAsciiBlank x = false := isAsciiBlank_eq_false (by decide) (hbare x List.mem_cons_self)
      rw [skipBlank_eq_self (by rw [h.rest]; exact stopsAt_cons.mpr hx)]
      exact ⟨_, _, readValue_bare h hbare hafter, rfl, rfl⟩

theorem readAttribute_of_written {a : List Char × List Char} (ha : WrittenAttribute a text)
    (h : c.Passes text after) (hafter : GoesOn after.rest) :
    ∃ x d, readAttribute c = .ok (x, d) ∧ x.texts = a ∧ skipBlank d = skipBlank after := by
  cases ha with
  | @intro key value valueText b₁ b₂ b₃ hb₁ hne hkey hb₂ hb₃ hvalue =>
    obtain ⟨atEquals, hfront, hback⟩ := h.of_append
    obtain ⟨afterKey, hfront, hblank₂⟩ := hfront.of_append
    obtain ⟨atKey, hblank₁, hkeyPass⟩ := hfront.of_append
    obtain ⟨r, hr, hback⟩ := hback.of_cons
    obtain ⟨atValue, hblank₃, hvaluePass⟩ := hback.of_append
    have hskip : skipBlank c = atKey := by
      rw [skipBlank_of_passes hblank₁ hb₁, skipBlank_eq_self]
      obtain ⟨x, xs, rfl⟩ := List.exists_cons_of_ne_nil hne
      rw [hkeyPass.rest]
      exact stopsAt_cons.mpr (isAsciiBlank_eq_false (by decide) (hkey x List.mem_cons_self))
    have hkeyStop : StopsAt isKeyChar afterKey.rest := by
      rw [hblank₂.rest, hr]
      cases b₂ with
      | nil => exact stopsAt_cons.mpr (by decide)
      | cons x xs => exact stopsAt_cons.mpr (eq_false_of_isAsciiBlank (by decide) (hb₂ x List.mem_cons_self))
    have hrun := hkeyPass.takeWhile_eq hkey hkeyStop
    have hequals : skipBlank afterKey = atEquals := by
      rw [skipBlank_of_passes hblank₂ hb₂, skipBlank_eq_self]
      rw [hr]
      exact stopsAt_cons.mpr (by decide)
    obtain ⟨cut, d, hread, hcut, hd⟩ := readValue_of_written hvalue hvaluePass hafter
    rw [← skipBlank_of_passes hblank₃ hb₃] at hread
    refine ⟨⟨⟨atKey.offset, key⟩, cut⟩, d, ?_, by rw [Attribute.texts, hcut], hd⟩
    have hempty : key.isEmpty = false := by simpa using hne
    unfold readAttribute
    rw [hskip, hrun]
    simp only [hempty, hequals, hr]
    rw [show readValue (skipBlank ⟨atEquals.offset + 1, r⟩) = .ok (cut, d) from hread]
    rfl

theorem readAttributes_close {r : List Char} (read : List Attribute) (h : (skipBlank c).rest = ']' :: r) :
    readAttributes read c = .ok (read.reverse, ⟨(skipBlank c).offset + 1, r⟩) := by
  rw [readAttributes]
  split
  · rename_i heq
    rw [h] at heq
    cases heq
  · rename_i x r' heq
    rw [h] at heq
    cases heq
    rfl

theorem readAttributes_cons {r : List Char} {a : Attribute} (read : List Attribute)
    (h : (skipBlank c).rest = ';' :: r) (ha : readAttribute ⟨(skipBlank c).offset + 1, r⟩ = .ok (a, d)) :
    readAttributes read c = readAttributes (a :: read) d := by
  rw [readAttributes]
  split
  · rename_i heq
    rw [h] at heq
    cases heq
  · rename_i x r' heq
    rw [h] at heq
    cases heq
    rw [if_neg (by decide), if_pos rfl]
    split
    · rename_i heq'
      rw [ha] at heq'
      cases heq'
    · rename_i heq'
      rw [ha] at heq'
      cases heq'
      rfl

/-- What is written is read, also from a place that white space parts from it. -/
theorem readAttributes_of_written {as : List (List Char × List Char)} (has : WrittenAttributes as text)
    (read : List Attribute) (h : d.Passes text after) (hc : skipBlank c = skipBlank d) :
    ∃ new, readAttributes read c = .ok (read.reverse ++ new, after) ∧ new.map Attribute.texts = as := by
  induction has generalizing read c d with
  | @nil b hb =>
    obtain ⟨e, hblank, hclose⟩ := h.of_append
    obtain ⟨r, hr, hafter⟩ := hclose.of_cons
    have hskip : skipBlank c = e := by
      rw [hc, skipBlank_of_passes hblank hb]
      exact skipBlank_eq_self (by rw [hr]; exact stopsAt_cons.mpr (by decide))
    refine ⟨[], ?_, rfl⟩
    rw [readAttributes_close read (by rw [hskip, hr]), List.append_nil, hskip]
    exact congrArg (fun x => Except.ok (read.reverse, x)) ((Cursor.Passes.refl _).eq hafter)
  | @cons a as b text rest hb ha hrest ih =>
    obtain ⟨e, hblank, hback⟩ := h.of_append
    obtain ⟨r, hr, hback⟩ := hback.of_cons
    obtain ⟨d', htext, htail⟩ := hback.of_append
    have hskip : skipBlank c = e := by
      rw [hc, skipBlank_of_passes hblank hb]
      exact skipBlank_eq_self (by rw [hr]; exact stopsAt_cons.mpr (by decide))
    obtain ⟨x, c', hread, htexts, hc'⟩ :=
      readAttribute_of_written ha htext (by rw [htail.rest]; exact hrest.goesOn _)
    obtain ⟨new, hnew, hmap⟩ := ih (x :: read) htail hc'
    refine ⟨x :: new, ?_, by rw [List.map_cons, htexts, hmap]⟩
    rw [readAttributes_cons read (by rw [hskip, hr]) (by rw [hskip]; exact hread), hnew, List.reverse_cons,
      List.append_assoc]
    rfl

/-- **What is written at a bracket is read behind it.** -/
theorem readMarker_of_written {slug : List Char} {as : List (List Char × List Char)}
    (h : WrittenMarker slug as text) (hpass : c.Passes text after) :
    ∃ r t, c.rest = '[' :: r ∧ readMarker ⟨c.offset + 1, r⟩ = .ok (t, after) ∧ t.slug.text = slug ∧
      t.attributes.map Attribute.texts = as := by
  cases h with
  | @intro tail hne hslug htail =>
    obtain ⟨r, hr, hpass⟩ := hpass.of_cons
    obtain ⟨d, hslugPass, htailPass⟩ := hpass.of_append
    have hstop : StopsAt isSlugChar d.rest := by
      rw [htailPass.rest]
      exact (htail.goesOn _).stopsAt (by decide)
    have hrun := hslugPass.takeWhile_eq hslug hstop
    obtain ⟨new, hread, hmap⟩ := readAttributes_of_written htail [] htailPass rfl
    refine ⟨r, ⟨c.offset, ⟨c.offset + 1, slug⟩, new, after.offset⟩, hr, ?_, rfl, hmap⟩
    have hempty : slug.isEmpty = false := by simpa using hne
    unfold readMarker
    rw [show Cursor.takeWhile isSlugChar ⟨c.offset + 1, r⟩ = (⟨c.offset + 1, slug⟩, d) from hrun]
    simp only [hempty, hread]
    rfl

/-- **A text starts with at most one marker.** -/
theorem WrittenMarker.unique {slug slug' text' : List Char} {as as' : List (List Char × List Char)}
    (h : WrittenMarker slug as text) (h' : WrittenMarker slug' as' text') (hd : c.Passes text d)
    (he : c.Passes text' e) : slug = slug' ∧ as = as' ∧ d = e := by
  obtain ⟨r, t, hr, hread, hslug, has⟩ := readMarker_of_written h hd
  obtain ⟨r', t', hr', hread', hslug', has'⟩ := readMarker_of_written h' he
  obtain rfl := (List.cons.inj (hr.symm.trans hr')).2
  obtain ⟨rfl, rfl⟩ := Prod.mk.inj (Except.ok.inj (hread.symm.trans hread'))
  exact ⟨hslug.symm.trans hslug', has.symm.trans has', rfl⟩

end FormTemplate.Marker
