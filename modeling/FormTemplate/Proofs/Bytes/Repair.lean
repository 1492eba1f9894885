import FormTemplate.Proofs.Bytes.Slices
import FormTemplate.Proofs.Items.Repair

/-!
# Repair by byte positions

Repair once more, over the bytes of a text and with every piece cut out of it between two positions. The loop goes over
every byte, so it also stands inside characters. There it finds nothing, because a bare run is made of ASCII characters
alone: a piece is cut out only where a run begins, and the next one begins behind a run.

* `unitAt?`, `bareAt?` : code units and bare runs at a position;
* `bareAt?_of` : at a position between characters they are those of the text behind it;
* `repairTurn` : from a position to the next byte, or to behind a bare run;
* `lt_of_repairTurn` : no turn stays where it is;
* `runs_repairTurn` : the loop runs to its end, with the repaired text.
-/

set_option autoImplicit false

namespace FormTemplate.Items

open Text (Cursor Runs Turn Uniform slice? sliceFrom? peek? bytes byteLength hexDigit? hexValue? hexValueFrom? hexFour?
  of_passes)

variable {text : String} {c d : Cursor} {i k n m : Nat} {s t r rest before : List Char} {x y : Char}

/-! ## The loop -/

/-- The code unit that four bytes write in hexadecimal digits. -/
def unitAt? (text : String) (i : Nat) : Option Nat :=
  if i + 4 ≤ (bytes text).length then hexValue? ((((bytes text).drop i).take 4).map Char.ofUInt8) else none

/-- The character that the bytes behind a `u` stand for, and how many bytes the run takes with its `u`. -/
def runAt? (text : String) (i : Nat) : Option (Char × Nat) :=
  (unitAt? text (i + 1)).bind fun m =>
    if Json.isHighSurrogate m then
      if peek? text (i + 5) = some 'u' then
        (unitAt? text (i + 6)).bind fun n => if Json.isLowSurrogate n then some (Json.pairChar m n, 10) else none
      else none
    else if Json.isLowSurrogate m then none
    else some (Char.ofNat m, 5)

/-- The bare run that begins at a position. -/
def bareAt? (text : String) (i : Nat) : Option (Char × Nat) :=
  if peek? text i = some 'u' ∧ (i = 0 ∨ peek? text (i - 1) ≠ some '\\') then runAt? text i else none

/-- Where repair has come to. -/
structure Repairing where
  position : Nat := 0
  /-- The position up to which the text has been copied. -/
  copied : Nat := 0
  out : String := ""

/-- From a position to behind a bare run, or to the next byte. -/
def repairTurn (text : String) (s : Repairing) : Option (Turn Repairing String) :=
  if s.position < (bytes text).length then
    match bareAt? text s.position with
    | none => some (.again { s with position := s.position + 1 })
    | some (x, n) =>
      (slice? text s.copied s.position).map fun piece =>
        .again ⟨s.position + n, s.position + n, (s.out ++ piece).push x⟩
  else (sliceFrom? text s.copied).map fun piece => .done (s.out ++ piece)

/-! ### Progress -/

theorem pos_of_bareAt? (h : bareAt? text i = some (x, n)) : 0 < n := by
  unfold bareAt? at h
  split at h
  · obtain ⟨m, -, h⟩ := Option.bind_eq_some_iff.mp h
    split at h
    · split at h
      · obtain ⟨l, -, h⟩ := Option.bind_eq_some_iff.mp h
        split at h
        · obtain ⟨-, rfl⟩ := Prod.mk.inj (Option.some.inj h)
          exact Nat.zero_lt_succ 9
        · cases h
      · cases h
    · split at h
      · cases h
      · obtain ⟨-, rfl⟩ := Prod.mk.inj (Option.some.inj h)
        exact Nat.zero_lt_succ 4
  · cases h

/-- No turn stays where it is. -/
theorem lt_of_repairTurn {s s' : Repairing} (h : repairTurn text s = some (.again s')) : s.position < s'.position := by
  unfold repairTurn at h
  split at h
  · split at h
    · cases h
      exact Nat.lt_succ_self _
    · rename_i x n hbare
      obtain ⟨piece, -, h⟩ := Option.map_eq_some_iff.mp h
      cases h
      exact Nat.lt_add_of_pos_right (pos_of_bareAt? hbare)
  · obtain ⟨piece, -, h⟩ := Option.map_eq_some_iff.mp h
    cases h

/-! ## Digits -/

theorem lt_of_isSome_hexDigit? (h : (hexDigit? x).isSome = true) : x.toNat < 0x80 := by
  have hval : x.val.toNat = x.toNat := rfl
  unfold hexDigit? at h
  simp only [Char.le_def, UInt32.le_iff_toNat_le, hval] at h
  split at h
  · rename_i hd
    exact Nat.lt_of_le_of_lt hd.2 (by decide)
  · split at h
    · rename_i hd
      exact Nat.lt_of_le_of_lt hd.2 (by decide)
    · split at h
      · rename_i hd
        exact Nat.lt_of_le_of_lt hd.2 (by decide)
      · cases h

theorem uniform_hexDigit? : Uniform fun x => (hexDigit? x).isSome := by
  intro x y hx hy
  have hnone : ∀ z : Char, 0x80 ≤ z.toNat → (hexDigit? z).isSome = false := fun z hz =>
    Bool.eq_false_iff.mpr fun h => absurd (lt_of_isSome_hexDigit? h) (Nat.not_lt_of_le hz)
  exact (hnone x hx).trans (hnone y hy).symm

/-- The first bytes of a text write a number where its first characters do. -/
theorem hexValueFrom?_bytes (k acc : Nat) (s : List Char) :
    (if k ≤ (s.flatMap String.utf8EncodeChar).length then
      hexValueFrom? acc (((s.flatMap String.utf8EncodeChar).take k).map Char.ofUInt8) else none) =
      if k ≤ s.length then hexValueFrom? acc (s.take k) else none := by
  induction s generalizing k acc with
  | nil => cases k <;> rfl
  | cons x s ih =>
    cases k with
    | zero => rfl
    | succ k =>
      cases hx : hexDigit? x with
      | none =>
        obtain ⟨b, q, hb⟩ := List.exists_cons_of_ne_nil (String.utf8EncodeChar_ne_nil (c := x))
        have hbyte := uniform_hexDigit?.byte (x := x) (hb ▸ List.mem_cons_self)
        rw [hx, Option.isSome_none, Option.isSome_eq_false_iff, Option.isNone_iff_eq_none] at hbyte
        simp [hb, hexValueFrom?, hbyte, hx]
      | some v =>
        obtain ⟨b, hb, hchar⟩ := Text.exists_byte (lt_of_isSome_hexDigit? (Option.isSome_of_eq_some hx))
        simpa [hb, hexValueFrom?, hchar, hx] using ih k (16 * acc + v)

theorem hexFour?_eq (s : List Char) :
    hexFour? s = if 4 ≤ s.length then (hexValue? (s.take 4)).map (·, s.drop 4) else none := by
  match s with
  | [] => rfl
  | [_] => rfl
  | [_, _] => rfl
  | [_, _, _] => rfl
  | a :: b :: c :: d :: r => simp [hexFour?]

/-- Behind a cursor the bytes write the code unit that the characters write. -/
theorem unitAt?_of (hc : c.Of text.toList) : unitAt? text c.offset = (hexFour? c.rest).map (·.1) := by
  have hvalue : ∀ l : List Char, 4 ≤ l.length → hexValue? (l.take 4) = hexValueFrom? 0 (l.take 4) := by
    intro l hl
    have hne : ¬(l.take 4).isEmpty = true := by
      rw [List.isEmpty_iff, ← List.length_eq_zero_iff, List.length_take]
      omega
    rw [hexValue?, if_neg hne]
  have hdrop := Text.drop_bytes hc
  have hlength : c.offset + 4 ≤ (bytes text).length ↔ 4 ≤ (c.rest.flatMap String.utf8EncodeChar).length := by
    rw [← hdrop, List.length_drop]
    omega
  have hbytes := hexValueFrom?_bytes 4 0 c.rest
  have hchars : (hexFour? c.rest).map (·.1) = if 4 ≤ c.rest.length then hexValueFrom? 0 (c.rest.take 4) else none := by
    rw [hexFour?_eq]
    split
    · rename_i hrest
      rw [hvalue _ hrest, Option.map_map]
      exact Option.map_id_apply
    · rfl
  rw [unitAt?, hdrop, hchars, ← hbytes]
  simp only [hlength]
  split
  · rename_i hlong
    rw [List.map_take, hvalue _ (by rwa [List.length_map])]
  · rfl

/-- The digits of a code unit are passed byte by byte. -/
theorem passes_hexFour? (h : hexFour? c.rest = some (m, rest)) :
    ∃ t, c.Passes t ⟨c.offset + 4, rest⟩ ∧ '\\' ∉ t := by
  obtain ⟨x₁, x₂, x₃, x₄, hrest, hvalue⟩ := Text.hexFour?_eq_some_iff.mp h
  have hdigit := Text.isSome_hexDigit?_of_hexValue? hvalue
  have hsize : ∀ x ∈ [x₁, x₂, x₃, x₄], x.utf8Size = 1 := fun x hx =>
    Text.utf8Size_of_lt (lt_of_isSome_hexDigit? (hdigit x hx))
  refine ⟨[x₁, x₂, x₃, x₄], ⟨hrest, ?_⟩, fun hmem => ?_⟩
  · simp only [List.forall_mem_cons] at hsize
    simp [byteLength, hsize]
  · exact absurd (hdigit _ hmem) (by decide)

/-- What is found by position is the run of a text, and it takes as many bytes as the run has. -/
inductive SameRun (s : List Char) : Option (Char × List Char) → Option (Char × Nat) → Prop
  | none : SameRun s none none
  | some {x : Char} {t rest : List Char} : s = t ++ rest → '\\' ∉ t →
      SameRun s (some (x, rest)) (some (x, byteLength t))

theorem sameRun_of_passes (h : c.Passes t ⟨c.offset + n, rest⟩) (ht : '\\' ∉ t) :
    SameRun c.rest (some (x, rest)) (some (x, n)) := by
  obtain rfl : n = byteLength t := Nat.add_left_cancel h.offset
  exact .some h.rest ht

/-- **The bytes of a run write the character that the run stands for.** -/
theorem runAt?_of (hc : c.Of text.toList) (h : c.rest = 'u' :: r) :
    SameRun c.rest (bareRun? r) (runAt? text c.offset) := by
  have hopen : c.Passes ['u'] ⟨c.offset + 1, r⟩ := Cursor.passes_cons h
  have hunit : unitAt? text (c.offset + 1) = (hexFour? r).map (·.1) := unitAt?_of (of_passes hc hopen)
  unfold runAt? bareRun?
  rw [hunit]
  cases hfour : hexFour? r with
  | none => exact .none
  | some q =>
    obtain ⟨m, rest⟩ := q
    obtain ⟨t, hpass, ht⟩ := passes_hexFour? (c := ⟨c.offset + 1, r⟩) hfour
    have hdigits : c.Passes ('u' :: t) ⟨c.offset + 5, rest⟩ := hopen.trans hpass
    have hdigitsOf := of_passes hc hdigits
    have hnext : peek? text (c.offset + 5) = some 'u' ↔ rest.head? = some 'u' :=
      Text.peek?_eq_some_iff hdigitsOf (by decide)
    simp only [Option.map_some, Option.bind_some, hnext]
    split
    · -- the first half of a pair stands for nothing without the second
      split
      · rename_i r'
        have hsecond : (Cursor.mk (c.offset + 5) ('u' :: r')).Passes ['u'] ⟨c.offset + 6, r'⟩ := Cursor.passes_cons rfl
        have hunit' : unitAt? text (c.offset + 6) = (hexFour? r').map (·.1) := unitAt?_of (of_passes hdigitsOf hsecond)
        rw [List.head?_cons, if_pos rfl, hunit']
        cases hfour' : hexFour? r' with
        | none => exact .none
        | some q =>
          obtain ⟨n, rest'⟩ := q
          obtain ⟨t', hpass', ht'⟩ := passes_hexFour? (c := ⟨c.offset + 6, r'⟩) hfour'
          simp only [Option.map_some, Option.bind_some]
          split
          · exact sameRun_of_passes (n := 10) (hdigits.trans (hsecond.trans hpass')) (by simp [ht, ht'])
          · exact .none
      · rename_i hne
        have hhead : ¬rest.head? = some 'u' := by
          intro hhead
          obtain ⟨r', hr'⟩ := List.head?_eq_some_iff.mp hhead
          exact hne r' hr'
        rw [if_neg hhead]
        exact .none
    · split
      · exact .none
      · exact sameRun_of_passes hdigits (by simp [ht])

/-! ## Positions between characters -/

/-- In front of a cursor stands no byte that is a backslash if no character there is one. -/
theorem no_backslash_iff (htext : text.toList = before ++ rest) :
    (byteLength before = 0 ∨ peek? text (byteLength before - 1) ≠ some '\\') ↔ before.getLast? ≠ some '\\' := by
  rcases List.eq_nil_or_concat before with rfl | ⟨init, x, rfl⟩
  · exact iff_of_true (.inl rfl) (by simp)
  · rw [List.concat_eq_append] at *
    have hinit : (Cursor.mk (byteLength init) (x :: rest)).Of text.toList := ⟨init, by simp [htext], rfl⟩
    have hlength : byteLength (init ++ [x]) = byteLength init + x.utf8Size := by
      rw [Text.byteLength_append, byteLength, byteLength, Nat.add_zero]
    have hpos := x.utf8Size_pos
    have hlast : (init ++ [x]).getLast? = some x := by simp
    have hback : byteLength init + x.utf8Size - 1 = byteLength init + (x.utf8Size - 1) := by omega
    rw [hlast, hlength, hback, ne_eq, ne_eq, Option.some_inj]
    by_cases hx : x.toNat < 0x80
    · have hpeek : peek? text (byteLength init) = some '\\' ↔ some x = some '\\' :=
        Text.peek?_eq_some_iff hinit (by decide)
      rw [Text.utf8Size_of_lt hx, Nat.sub_self, Nat.add_zero (byteLength init), hpeek, Option.some_inj]
      exact ⟨fun h => h.resolve_left (Nat.succ_ne_zero _), .inr⟩
    · have hle := Nat.le_of_not_lt hx
      refine iff_of_true (.inr (Text.peek?_inside hinit rfl hle (by omega) (by decide))) ?_
      rintro rfl
      exact hx (by decide)

theorem bareAt?_escaped (htext : text.toList = before ++ rest) (hbefore : before.getLast? = some '\\') :
    bareAt? text (byteLength before) = none := by
  rw [bareAt?, if_neg fun h => (no_backslash_iff htext).mp h.2 hbefore]

/-- Where no backslash stands in front of it, a run begins at a `u` if one is written there. -/
theorem bareAt?_of (htext : text.toList = before ++ 'u' :: r) (hbefore : before.getLast? ≠ some '\\') :
    SameRun ('u' :: r) (bareRun? r) (bareAt? text (byteLength before)) := by
  have hc : (Cursor.mk (byteLength before) ('u' :: r)).Of text.toList := ⟨before, htext, rfl⟩
  have hu : peek? text (byteLength before) = some 'u' := (Text.peek?_eq_some_iff hc (by decide)).mpr rfl
  rw [bareAt?, if_pos ⟨hu, (no_backslash_iff htext).mpr hbefore⟩]
  exact runAt?_of hc rfl

/-- No run begins at a byte of another character. -/
theorem bareAt?_other (htext : text.toList = before ++ x :: r) (hx : x ≠ 'u') (hk : k < x.utf8Size) :
    bareAt? text (byteLength before + k) = none := by
  have hc : (Cursor.mk (byteLength before) (x :: r)).Of text.toList := ⟨before, htext, rfl⟩
  have hu : peek? text (byteLength before + k) ≠ some 'u' := by
    by_cases hascii : x.toNat < 0x80
    · obtain rfl : k = 0 := by
        rw [Text.utf8Size_of_lt hascii] at hk
        omega
      have hpeek := Text.peek?_eq_some_iff hc (y := 'u') (by decide)
      rw [Nat.add_zero]
      exact mt hpeek.mp (by simpa using hx)
    · exact Text.peek?_inside hc rfl (Nat.le_of_not_lt hascii) hk (by decide)
  rw [bareAt?, if_neg fun h => hu h.1]

/-! ## Runs of the loop -/

/-- The loop passes bytes at which no run begins. -/
theorem runs_walk {copied : Nat} {out a : String} (hend : i + k ≤ (bytes text).length)
    (hnone : ∀ j < k, bareAt? text (i + j) = none)
    (h : Runs (repairTurn text) Repairing.position ⟨i + k, copied, out⟩ a) :
    Runs (repairTurn text) Repairing.position ⟨i, copied, out⟩ a := by
  induction k with
  | zero => exact h
  | succ k ih =>
    refine ih (by omega) (fun j hj => hnone j (by omega)) ?_
    have hturn : repairTurn text ⟨i + k, copied, out⟩ = some (.again ⟨i + k + 1, copied, out⟩) := by
      rw [repairTurn, if_pos (show i + k < (bytes text).length by omega), hnone k (Nat.lt_succ_self k)]
    exact .again hturn (lt_of_repairTurn hturn) h

theorem length_bytes (text : String) : (bytes text).length = byteLength text.toList := by
  rw [Text.bytes_eq_flatMap, Text.length_flatMap_utf8EncodeChar]

theorem add_le_length_bytes (htext : text.toList = before ++ x :: r) (hk : k ≤ x.utf8Size) :
    byteLength before + k ≤ (bytes text).length := by
  rw [length_bytes, htext, Text.byteLength_append, Text.byteLength_cons]
  omega

section

variable {p q : List Char} {out a : String} {escaped : Bool}

/-- The loop passes a character at whose bytes no run begins. -/
theorem runs_character (htext : text.toList = p ++ q ++ x :: r)
    (hnone : ∀ j < x.utf8Size, bareAt? text (byteLength (p ++ q) + j) = none)
    (h : Runs (repairTurn text) Repairing.position ⟨byteLength (p ++ (q ++ [x])), byteLength p, out⟩ a) :
    Runs (repairTurn text) Repairing.position ⟨byteLength (p ++ q), byteLength p, out⟩ a := by
  have hbehind : byteLength (p ++ (q ++ [x])) = byteLength (p ++ q) + x.utf8Size := by
    rw [← List.append_assoc, Text.byteLength_append, byteLength, byteLength, Nat.add_zero]
  rw [hbehind] at h
  exact runs_walk (add_le_length_bytes htext (Nat.le_refl _)) hnone h

/-- A turn behind the last byte copies what is left. -/
theorem repairTurn_end (htext : text.toList = p ++ q) :
    repairTurn text ⟨byteLength (p ++ q), byteLength p, out⟩ = some (.done (out ++ String.ofList q)) := by
  have hlength : (bytes text).length = byteLength (p ++ q) := by rw [length_bytes, htext]
  have hrest := Text.sliceFrom?_of (c := ⟨byteLength p, q⟩) ⟨p, htext, rfl⟩
  rw [repairTurn, if_neg (Nat.not_lt_of_le (Nat.le_of_eq hlength))]
  simp only at hrest ⊢
  rw [hrest, Option.map_some]

/-- A turn at a bare run copies what stands in front of it, and its character. -/
theorem repairTurn_run (out : String) (htext : text.toList = p ++ q ++ x :: r)
    (hrun : bareAt? text (byteLength (p ++ q)) = some (y, n)) :
    repairTurn text ⟨byteLength (p ++ q), byteLength p, out⟩ =
      some (.again ⟨byteLength (p ++ q) + n, byteLength (p ++ q) + n, (out ++ String.ofList q).push y⟩) := by
  have hlt : byteLength (p ++ q) < (bytes text).length := add_le_length_bytes htext x.utf8Size_pos
  have hc : (Cursor.mk (byteLength p) (q ++ x :: r)).Of text.toList := ⟨p, by rw [htext, List.append_assoc], rfl⟩
  have hpiece := Text.slice?_of_passes hc (d := ⟨byteLength (p ++ q), x :: r⟩) ⟨rfl, Text.byteLength_append p q⟩
  rw [repairTurn, if_pos hlt, hrun]
  simp only at hpiece ⊢
  rw [hpiece, Option.map_some]

/-- The induction follows the repair. What stands between the end of the last run and the position is not copied yet. -/
theorem runs_repairFrom (out : String) (htext : text.toList = p ++ q ++ rest)
    (hescaped : escaped = true ↔ (p ++ q).getLast? = some '\\') :
    Runs (repairTurn text) Repairing.position ⟨byteLength (p ++ q), byteLength p, out⟩
      (out ++ String.ofList (q ++ repairFrom escaped rest)) := by
  fun_induction repairFrom escaped rest generalizing p q out with
  | case1 escaped =>
    rw [List.append_nil] at htext ⊢
    exact .done (repairTurn_end htext)
  | case2 escaped c r hc d rest hrun ih =>
    obtain ⟨rfl, rfl⟩ := hc
    have hbefore : (p ++ q).getLast? ≠ some '\\' := fun h => Bool.false_ne_true (hescaped.mpr h)
    have hsame := bareAt?_of htext hbefore
    rw [hrun] at hsame
    generalize hbare : bareAt? text (byteLength (p ++ q)) = run at hsame
    cases hsame with
    | @some _ t _ hrest ht =>
      have hturn := repairTurn_run out htext hbare
      rw [← Text.byteLength_append] at hturn
      have hlast : (p ++ q ++ t).getLast? ≠ some '\\' := by
        have hpos := pos_of_bareAt? hbare
        rw [List.getLast?_append]
        cases ht' : t.getLast? with
        | none =>
          rw [List.getLast?_eq_none_iff.mp ht'] at hpos
          cases hpos
        | some z =>
          rintro hz
          cases hz
          exact ht (List.mem_of_getLast? ht')
      have hgo := ih ((out ++ String.ofList q).push d) (p := p ++ q ++ t) (q := [])
        (by rw [htext, hrest]; simp) (by simpa using hlast)
      have hresult : (out ++ String.ofList q).push d ++ String.ofList ([] ++ repairFrom false rest) =
          out ++ String.ofList (q ++ d :: repairFrom false rest) := by
        rw [← String.toList_inj]
        simp
      rw [List.append_nil, hresult] at hgo
      exact .again hturn (lt_of_repairTurn hturn) hgo
  | case3 escaped c r hc hrun ih =>
    obtain ⟨rfl, rfl⟩ := hc
    have hbefore : (p ++ q).getLast? ≠ some '\\' := fun h => Bool.false_ne_true (hescaped.mpr h)
    have hsame := bareAt?_of htext hbefore
    rw [hrun] at hsame
    generalize hbare : bareAt? text (byteLength (p ++ q)) = run at hsame
    cases hsame with
    | none =>
      have hnone : ∀ j < Char.utf8Size 'u', bareAt? text (byteLength (p ++ q) + j) = none := by
        intro j hj
        obtain rfl : j = 0 := Nat.lt_one_iff.mp hj
        exact hbare
      have hgo := ih out (p := p) (q := q ++ ['u']) (by simp [htext]) (by simp)
      rw [List.append_assoc, List.singleton_append] at hgo
      exact runs_character htext hnone hgo
  | case4 escaped c r hc ih =>
    have hnone : ∀ j < c.utf8Size, bareAt? text (byteLength (p ++ q) + j) = none := by
      intro j hj
      by_cases hu : c = 'u'
      · subst hu
        obtain rfl : j = 0 := Nat.lt_one_iff.mp hj
        have hbefore : escaped = true := (Bool.not_eq_false _).mp fun h => hc ⟨rfl, h⟩
        exact bareAt?_escaped htext (hescaped.mp hbefore)
      · exact bareAt?_other htext hu hj
    have hgo := ih out (p := p) (q := q ++ [c]) (by simp [htext]) (by simp)
    rw [List.append_assoc, List.singleton_append] at hgo
    exact runs_character htext hnone hgo

end

/-- **Repair runs to its end**, with the repaired text. -/
theorem runs_repairTurn (text : String) : Runs (repairTurn text) Repairing.position {} (repair text) := by
  have hnone : false = true ↔ ([] ++ [] : List Char).getLast? = some '\\' := by simp
  have hruns := runs_repairFrom "" (show text.toList = [] ++ [] ++ text.toList from rfl) hnone
  simpa [repair, byteLength] using hruns

end FormTemplate.Items
