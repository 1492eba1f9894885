import FormTemplate.Proofs.Json.Quoted
import FormTemplate.Proofs.Number.Digits
import FormTemplate.Proofs.Text.Cursor

/-!
# Written values read back

A text writes a value if reading gives the value wherever the text stands, as long as no character follows that
could continue a number. The texts of parts make up the text of a whole: strings from any sound rule for escapes,
lists and objects from the texts of their items and members. What reading needs of its fuel is twice the length of
the text.

* `WrittenAs` : a text writes a value;
* `writtenAs_quote`, `writtenAs_natural`, `writtenAs_array`, `writtenAs_object` : the texts of the parts and of a whole;
* `WrittenAs.parse?_eq` : a text that writes a value is read as it;
* `readsBack_array`, `readsBack_object` : the compact form of a list or an object reads back if that of its parts does.
-/

set_option autoImplicit false

namespace FormTemplate.Json

open Text (StopsAt)

variable {c : Char} {r rest t : List Char} {fuel : Nat} {v : Json}

/-! ## White space -/

theorem skipSpace_of_not (h : isSpace c = false) (r : List Char) : skipSpace (c :: r) = c :: r :=
  List.dropWhile_cons_of_neg (by simp [h])

/-- The characters that can continue a number. -/
def continuesNumber (c : Char) : Bool := c.isDigit || c == '.' || c == 'e' || c == 'E'

/-- **A text writes a value**: it starts with a character that opens a value, and reading it gives the value. -/
structure WrittenAs (t : List Char) (v : Json) : Prop where
  starts : ∃ c r, t = c :: r ∧ isSpace c = false ∧ c ≠ ']'
  reads : ∀ fuel rest, 2 * t.length ≤ fuel + 1 → StopsAt continuesNumber rest →
    readValue? fuel (t ++ rest) = some (v, rest)

namespace WrittenAs

theorem length_pos (h : WrittenAs t v) : 0 < t.length := by
  obtain ⟨c, r, rfl, _⟩ := h.starts
  simp

/-- A text that writes a value is not the end of a list. -/
theorem skipSpace_ne (h : WrittenAs t v) (s u : List Char) : skipSpace (t ++ s) ≠ ']' :: u := by
  obtain ⟨c, r, rfl, hspace, hne⟩ := h.starts
  rw [List.cons_append, skipSpace_of_not hspace]
  intro heq
  injection heq with hc _
  exact hne hc

/-- **A whole text that writes a value is read as it.** -/
theorem parse?_eq (h : WrittenAs t v) : parse? t = some v := by
  have hread := h.reads (2 * t.length + 2) [] (by omega) (by simp [StopsAt])
  rw [List.append_nil] at hread
  simp [parse?, hread, skipSpace]

end WrittenAs

/-! ## Strings and numbers -/

theorem readValue?_quote {s : String} (h : readString? r = some (some s, rest)) :
    readValue? (fuel + 1) ('"' :: r) = some (.str s, rest) := by
  rw [readValue?, skipSpace_of_not (by decide)]
  simp [h]

/-- A string in quotes, under any sound rule for escapes. -/
theorem writtenAs_quote {escape : Char → List Char} (h : SoundEscape escape) (s : String) :
    WrittenAs (quote escape s.toList) (.str s) where
  starts := ⟨'"', _, rfl, by decide, by decide⟩
  reads := by
    intro fuel rest hfuel _
    cases fuel with
    | zero =>
      simp only [quote, List.length_append, List.length_cons] at hfuel
      omega
    | succ n =>
      rw [quote, List.cons_append, List.cons_append, List.append_assoc, List.singleton_append]
      refine readValue?_quote ?_
      rw [readString?_quoted h, String.ofList_toList]

/-- White space, and the characters that values other than natural numbers start with. -/
def starters : List Char := [' ', '\n', '\t', '\r', '"', '[', ']', '\x7b', 'n', 't', 'f', '-']

theorem ne_of_isDigit (h : c.isDigit = true) : ∀ x ∈ starters, c ≠ x := by
  have hstarters : starters.all (!·.isDigit) = true := by decide
  rintro x hx rfl
  have hc := List.all_eq_true.mp hstarters c hx
  rw [h] at hc
  cases hc

theorem isSpace_of_isDigit (h : c.isDigit = true) : isSpace c = false := by
  have hne := ne_of_isDigit h
  simp only [starters, List.mem_cons, List.not_mem_nil, or_false, forall_eq_or_imp, forall_eq] at hne
  simp [isSpace, hne]

/-- A text that starts with a digit is read as a numeral. -/
theorem readValue?_digit (h : c.isDigit = true) :
    readValue? (fuel + 1) (c :: r) = (readNumeral? (c :: r)).map fun p => (p.1.value, p.2) := by
  have hne := ne_of_isDigit h
  simp only [starters, List.mem_cons, List.not_mem_nil, or_false, forall_eq_or_imp, forall_eq] at hne
  rw [readValue?, skipSpace_of_not (isSpace_of_isDigit h)]
  split <;> simp_all

/-- The digits of a number start with a digit. -/
theorem exists_natText_eq_cons (n : Nat) : ∃ d ds, Number.natText n = d :: ds ∧ d.isDigit = true := by
  cases hn : Number.natText n with
  | nil => exact absurd hn (Number.natText_ne_nil n)
  | cons d ds => exact ⟨d, ds, rfl, Number.isDigit_of_mem_natText (n := n) (by simp [hn])⟩

theorem readWhole?_natText (n : Nat) (h : StopsAt continuesNumber rest) :
    readWhole? (Number.natText n ++ rest) = some (Number.natText n, rest) := by
  have hstop : StopsAt Char.isDigit rest := by
    intro x hx
    have := h x hx
    simp only [continuesNumber, Bool.or_eq_false_iff] at this
    exact this.1.1.1
  unfold readWhole?
  split
  · -- the digits start with a zero, so they are the digit zero alone
    rename_i heq
    obtain ⟨d, ds, hn, -⟩ := exists_natText_eq_cons n
    rw [hn, List.cons_append] at heq
    cases heq
    obtain ⟨-, rfl⟩ := Number.natText_eq_zero_cons hn
    rw [hn]
    rfl
  · obtain ⟨htake, hdrop⟩ := Text.takeWhile_of_stopsAt (fun x => Number.isDigit_of_mem_natText (n := n)) hstop
    simp only [spanDigits, htake, hdrop]
    rw [if_neg (by simpa using Number.natText_ne_nil n)]

theorem readNumeral?_natText (n : Nat) (h : StopsAt continuesNumber rest) :
    readNumeral? (Number.natText n ++ rest) = some (⟨false, Number.natText n, [], none, true⟩, rest) := by
  have hwhole := readWhole?_natText n h
  have hsign : ∀ s, Number.natText n ++ rest ≠ '-' :: s := by
    obtain ⟨d, ds, hn, hd⟩ := exists_natText_eq_cons n
    intro s heq
    rw [hn, List.cons_append] at heq
    injection heq with hminus _
    exact ne_of_isDigit hd '-' (by decide) hminus
  unfold readNumeral?
  cases rest with
  | nil => simp_all
  | cons x r =>
    have hx := h x rfl
    simp only [continuesNumber, Bool.or_eq_false_iff, beq_eq_false_iff_ne] at hx
    simp_all

/-- A natural number of at most sixty-four bits. -/
theorem writtenAs_natural {n : Nat} (hn : n ≤ maxUnsigned) : WrittenAs (Number.natText n) (.num (.int n)) := by
  obtain ⟨d, ds, hds, hd⟩ := exists_natText_eq_cons n
  refine ⟨⟨d, ds, hds, isSpace_of_isDigit hd, ne_of_isDigit hd _ (by decide)⟩, ?_⟩
  intro fuel rest hfuel hrest
  cases fuel with
  | zero =>
    rw [hds, List.length_cons] at hfuel
    omega
  | succ m =>
    have hread := readNumeral?_natText n hrest
    rw [hds, List.cons_append] at hread ⊢
    rw [readValue?_digit hd, hread]
    simp [Numeral.value, ← hds, Number.digitsValue_natText, hn]

/-! ## Lists -/

theorem readValue?_array {vs : List Json} (hne : ∀ u, skipSpace r ≠ ']' :: u)
    (h : readItems? fuel r = some (vs, rest)) : readValue? (fuel + 1) ('[' :: r) = some (.arr vs, rest) := by
  rw [readValue?, skipSpace_of_not (by decide)]
  simp [h]

theorem readItems?_last (h : readValue? fuel r = some (v, ']' :: rest)) :
    readItems? (fuel + 1) r = some ([v], rest) := by
  rw [readItems?, h, Option.bind_some]
  simp only [skipSpace_of_not (show isSpace ']' = false by decide)]

theorem readItems?_more {vs : List Json} (h : readValue? fuel r = some (v, ',' :: t))
    (hmore : readItems? fuel t = some (vs, rest)) : readItems? (fuel + 1) r = some (v :: vs, rest) := by
  rw [readItems?, h, Option.bind_some]
  simp only [skipSpace_of_not (show isSpace ',' = false by decide), hmore, Option.map_some]

/-- The items of a list, from their texts. -/
theorem readItems?_join {l : List (List Char × Json)} (hl : l ≠ []) (h : ∀ p ∈ l, WrittenAs p.1 p.2)
    (hfuel : 2 * (Text.join [','] (l.map (·.1))).length ≤ fuel) :
    readItems? fuel (Text.join [','] (l.map (·.1)) ++ ']' :: rest) = some (l.map (·.2), rest) := by
  induction l generalizing fuel with
  | nil => contradiction
  | cons p l ih =>
    have hp := h p List.mem_cons_self
    have hpos := hp.length_pos
    cases l with
    | nil =>
      rw [List.map_singleton, Text.join_singleton] at hfuel ⊢
      obtain ⟨n, rfl⟩ : ∃ n, fuel = n + 1 := ⟨fuel - 1, by omega⟩
      exact readItems?_last (hp.reads n _ (by omega) (Text.stopsAt_cons.mpr (by decide)))
    | cons q l =>
      rw [List.map_cons, List.map_cons, Text.join_cons_cons, List.append_assoc] at hfuel
      simp only [List.length_append, List.length_singleton] at hfuel
      obtain ⟨n, rfl⟩ : ∃ n, fuel = n + 1 := ⟨fuel - 1, by omega⟩
      have hlen : 2 * (Text.join [','] ((q :: l).map (·.1))).length ≤ n := by
        rw [List.map_cons]
        omega
      have hmore := ih (by simp) (fun x hx => h x (List.mem_cons_of_mem _ hx)) hlen
      rw [List.map_cons, List.map_cons, Text.join_cons_cons, List.append_assoc, List.append_assoc]
      exact readItems?_more (hp.reads n _ (by omega) (Text.stopsAt_cons.mpr (by decide))) hmore

/-- **A list, from the texts of its items.** -/
theorem writtenAs_array {l : List (List Char × Json)} (h : ∀ p ∈ l, WrittenAs p.1 p.2) :
    WrittenAs ('[' :: Text.join [','] (l.map (·.1)) ++ [']']) (.arr (l.map (·.2))) where
  starts := ⟨'[', _, rfl, by decide, by decide⟩
  reads := by
    intro fuel rest hfuel _
    simp only [List.length_append, List.length_cons, List.length_nil] at hfuel
    obtain ⟨n, rfl⟩ : ∃ n, fuel = n + 1 := ⟨fuel - 1, by omega⟩
    rw [List.cons_append, List.cons_append, List.append_assoc, List.singleton_append]
    cases l with
    | nil =>
      rw [readValue?, skipSpace_of_not (by decide)]
      simp [skipSpace_of_not (show isSpace ']' = false by decide)]
    | cons p l =>
      refine readValue?_array ?_ (readItems?_join (by simp) h (by omega))
      intro u
      have hp := h p List.mem_cons_self
      cases l with
      | nil => exact hp.skipSpace_ne _ u
      | cons q l =>
        rw [List.map_cons, List.map_cons, Text.join_cons_cons, List.append_assoc, List.append_assoc]
        exact hp.skipSpace_ne _ u

/-! ## Objects -/

/-- A text writes a member of an object: its key in quotes, a colon and a text of its value. -/
def MemberWrittenAs (t : List Char) (m : String × Json) : Prop :=
  ∃ escape value, SoundEscape escape ∧ t = quote escape m.1.toList ++ ':' :: value ∧ WrittenAs value m.2

/-- Reading a member takes its key and its value one after the other. -/
theorem MemberWrittenAs.reads {m : String × Json} (h : MemberWrittenAs t m) (fuel : Nat) (rest : List Char)
    (hfuel : 2 * t.length ≤ fuel + 1) (hrest : StopsAt continuesNumber rest) :
    ∃ s u, t ++ rest = '"' :: s ∧ readString? s = some (some m.1, ':' :: u) ∧
      readValue? fuel u = some (m.2, rest) := by
  obtain ⟨escape, value, hescape, rfl, hvalue⟩ := h
  refine ⟨m.1.toList.flatMap escape ++ '"' :: ':' :: (value ++ rest), value ++ rest, ?_, ?_, ?_⟩
  · simp [quote]
  · rw [readString?_quoted hescape, String.ofList_toList]
  · refine hvalue.reads fuel rest ?_ hrest
    simp only [List.length_append, List.length_cons] at hfuel
    omega

theorem MemberWrittenAs.length_pos {m : String × Json} (h : MemberWrittenAs t m) : 0 < t.length := by
  obtain ⟨escape, value, _, rfl, _⟩ := h
  simp only [List.length_append, List.length_cons]
  omega

theorem readValue?_object {ms : List (String × Json)} (h : readMembers? fuel ('"' :: r) = some (some ms, rest)) :
    readValue? (fuel + 1) ('\x7b' :: '"' :: r) = some (.obj ms, rest) := by
  rw [readValue?, skipSpace_of_not (by decide)]
  simp [skipSpace_of_not (show isSpace '"' = false by decide), h]

theorem readMembers?_last {key : String} (hkey : readString? r = some (some key, ':' :: t))
    (h : readValue? fuel t = some (v, '\x7d' :: rest)) :
    readMembers? (fuel + 1) ('"' :: r) = some (some [(key, v)], rest) := by
  rw [readMembers?, skipSpace_of_not (by decide)]
  simp only [hkey, Option.bind_some, skipSpace_of_not (show isSpace ':' = false by decide), h,
    skipSpace_of_not (show isSpace '\x7d' = false by decide), Option.map_some]

theorem readMembers?_more {key : String} {u : List Char} {ms : List (String × Json)}
    (hkey : readString? r = some (some key, ':' :: t)) (h : readValue? fuel t = some (v, ',' :: u))
    (hmore : readMembers? fuel u = some (some ms, rest)) :
    readMembers? (fuel + 1) ('"' :: r) = some (some ((key, v) :: ms), rest) := by
  rw [readMembers?, skipSpace_of_not (by decide)]
  simp only [hkey, Option.bind_some, skipSpace_of_not (show isSpace ':' = false by decide), h,
    skipSpace_of_not (show isSpace ',' = false by decide), hmore, Option.map_some]

/-- The members of an object, from their texts. -/
theorem readMembers?_join {l : List (List Char × String × Json)} (hl : l ≠ [])
    (h : ∀ p ∈ l, MemberWrittenAs p.1 p.2) (hfuel : 2 * (Text.join [','] (l.map (·.1))).length ≤ fuel) :
    readMembers? fuel (Text.join [','] (l.map (·.1)) ++ '\x7d' :: rest) = some (some (l.map (·.2)), rest) := by
  induction l generalizing fuel with
  | nil => contradiction
  | cons p l ih =>
    have hp := h p List.mem_cons_self
    have hpos := hp.length_pos
    cases l with
    | nil =>
      rw [List.map_singleton, Text.join_singleton] at hfuel ⊢
      obtain ⟨n, rfl⟩ : ∃ n, fuel = n + 1 := ⟨fuel - 1, by omega⟩
      obtain ⟨s, u, hs, hkey, hvalue⟩ := hp.reads n ('\x7d' :: rest) (by omega) (Text.stopsAt_cons.mpr (by decide))
      rw [hs]
      exact readMembers?_last hkey hvalue
    | cons q l =>
      rw [List.map_cons, List.map_cons, Text.join_cons_cons, List.append_assoc] at hfuel
      simp only [List.length_append, List.length_singleton] at hfuel
      obtain ⟨n, rfl⟩ : ∃ n, fuel = n + 1 := ⟨fuel - 1, by omega⟩
      have hlen : 2 * (Text.join [','] ((q :: l).map (·.1))).length ≤ n := by
        rw [List.map_cons]
        omega
      have hmore := ih (by simp) (fun x hx => h x (List.mem_cons_of_mem _ hx)) hlen
      obtain ⟨s, u, hs, hkey, hvalue⟩ :=
        hp.reads n (',' :: (Text.join [','] ((q :: l).map (·.1)) ++ '\x7d' :: rest)) (by omega)
          (Text.stopsAt_cons.mpr (by decide))
      rw [List.map_cons, List.map_cons, Text.join_cons_cons, List.append_assoc, List.append_assoc,
        List.singleton_append, ← List.map_cons, hs]
      exact readMembers?_more hkey hvalue hmore

/-- **An object, from the texts of its members.** -/
theorem writtenAs_object {l : List (List Char × String × Json)} (h : ∀ p ∈ l, MemberWrittenAs p.1 p.2) :
    WrittenAs ('\x7b' :: Text.join [','] (l.map (·.1)) ++ ['\x7d']) (.obj (l.map (·.2))) where
  starts := ⟨'\x7b', _, rfl, by decide, by decide⟩
  reads := by
    intro fuel rest hfuel _
    simp only [List.length_append, List.length_cons, List.length_nil] at hfuel
    obtain ⟨n, rfl⟩ : ∃ n, fuel = n + 1 := ⟨fuel - 1, by omega⟩
    rw [List.cons_append, List.cons_append, List.append_assoc, List.singleton_append]
    cases l with
    | nil =>
      rw [readValue?, skipSpace_of_not (by decide)]
      simp [skipSpace_of_not (show isSpace '\x7d' = false by decide)]
    | cons p l =>
      have hread : readMembers? n (Text.join [','] ((p :: l).map (·.1)) ++ '\x7d' :: rest) =
          some (some ((p :: l).map (·.2)), rest) := readMembers?_join (by simp) h (by omega)
      obtain ⟨escape, value, _, hp, _⟩ := h p List.mem_cons_self
      have hquote : ∃ u, Text.join [','] ((p :: l).map (·.1)) ++ '\x7d' :: rest = '"' :: u := by
        cases l with
        | nil => exact ⟨_, by rw [List.map_singleton, Text.join_singleton, hp]; rfl⟩
        | cons q l =>
          exact ⟨_, by rw [List.map_cons, List.map_cons, Text.join_cons_cons, hp]; rfl⟩
      obtain ⟨u, hu⟩ := hquote
      rw [hu] at hread ⊢
      exact readValue?_object hread

/-! ## The compact form -/

/-- A value whose compact form reads back. -/
def ReadsBack (v : Json) : Prop := WrittenAs v.compact v

theorem readsBack_string (s : String) : ReadsBack (.str s) := writtenAs_quote soundEscape_escapeChar s

theorem readsBack_natural {n : Nat} (hn : n ≤ maxUnsigned) : ReadsBack (.num (.int n)) := by
  have h := writtenAs_natural hn
  have htext : compact (.num (.int n)) = Number.natText n := by
    simp [compact, numberText, Number.intText]
  rw [ReadsBack, htext]
  exact h

theorem compactItems_eq_map (vs : List Json) : compactItems vs = vs.map compact := by
  induction vs with
  | nil => rfl
  | cons v r ih => rw [compactItems, ih, List.map_cons]

theorem compactMembers_eq_map (ms : List (String × Json)) :
    compactMembers ms = ms.map fun m => stringText m.1 ++ ':' :: compact m.2 := by
  induction ms with
  | nil => rfl
  | cons m r ih =>
    obtain ⟨k, v⟩ := m
    rw [compactMembers, ih, List.map_cons]

/-- **The compact form of a list reads back if that of each item does.** -/
theorem readsBack_array {vs : List Json} (h : ∀ v ∈ vs, ReadsBack v) : ReadsBack (.arr vs) := by
  have hwritten := writtenAs_array (l := vs.map fun v => (compact v, v)) (by
    intro p hp
    obtain ⟨v, hv, rfl⟩ := List.mem_map.mp hp
    exact h v hv)
  rw [List.map_map, List.map_map] at hwritten
  rw [ReadsBack, compact, compactItems_eq_map]
  simpa [Function.comp_def] using hwritten

/-- **The compact form of an object reads back if that of the value of each member does.** -/
theorem readsBack_object {ms : List (String × Json)} (h : ∀ m ∈ ms, ReadsBack m.2) : ReadsBack (.obj ms) := by
  have hwritten := writtenAs_object (l := ms.map fun m => (stringText m.1 ++ ':' :: compact m.2, m)) (by
    intro p hp
    obtain ⟨m, hm, rfl⟩ := List.mem_map.mp hp
    exact ⟨escapeChar, compact m.2, soundEscape_escapeChar, rfl, h m hm⟩)
  rw [List.map_map, List.map_map] at hwritten
  rw [ReadsBack, compact, compactMembers_eq_map]
  simpa [Function.comp_def] using hwritten

end FormTemplate.Json
