import FormTemplate.Proofs.Marker.Grammar
import Mathlib.Algebra.Ring.Nat

/-!
# Overlapping candidates

A malformed candidate is read again from behind its bracket, so a text could be read many times over. It is not: reading
passes over a bracket only between quotes, because a bracket elsewhere is no part of a value and ends the candidate. Of
two candidates that overlap, the later bracket stands behind an odd number of quotes as the earlier one counts them. Three
that overlap would need three numbers each two of which differ in parity.

* `Settled` : texts with all brackets between quotes, and all quotes closed;
* `stopsBehind_of_readMarker` : what is passed of a candidate is settled, whether it is a marker or not;
* `Candidate.Behind.odd_of_overlap` : a bracket inside another candidate stands behind an odd number of its quotes;
* `length_filter_covers_le` : every position lies in at most two candidates;
* `sum_length_le` : all candidates together are at most twice as long as the text.
-/

set_option autoImplicit false

namespace FormTemplate.Marker

open Text (Cut Cursor byteLength)

variable {c d : Cursor} {s t u v : List Char} {f : Failure} {o : Nat}

/-! ## Brackets between quotes -/

/-- Every opening bracket of the text stands behind an odd number of quotes, and the number of all quotes is even. -/
structure Settled (s : List Char) : Prop where
  hidden : ∀ {w r}, s = w ++ '[' :: r → w.count '\'' % 2 = 1
  closed : s.count '\'' % 2 = 0

theorem settled_of_class {p : Char → Bool} (hp : p '[' = false ∧ p '\'' = false) (hs : ∀ x ∈ s, p x = true) :
    Settled s := by
  have hnot : ∀ x, p x = false → x ∉ s := by
    intro x hx hmem
    rw [hs x hmem] at hx
    cases hx
  refine ⟨fun h => ?_, ?_⟩
  · exact absurd (h ▸ by simp) (hnot '[' hp.1)
  · rw [List.count_eq_zero.mpr (hnot '\'' hp.2)]

theorem Settled.append (hs : Settled s) (ht : Settled t) : Settled (s ++ t) := by
  refine ⟨fun {w r} h => ?_, ?_⟩
  · rcases List.append_eq_append_iff.mp h with ⟨w, rfl, hw⟩ | ⟨r, hw, hr⟩
    · have hhidden := ht.hidden hw
      have hclosed := hs.closed
      rw [List.count_append]
      omega
    · cases r with
      | nil =>
        have hhidden := ht.hidden (w := []) hr.symm
        cases hhidden
      | cons x r =>
        obtain ⟨rfl, -⟩ := List.cons.inj hr
        exact hs.hidden hw
  · have hs := hs.closed
    have ht := ht.closed
    rw [List.count_append]
    omega

theorem settled_quoted (hv : '\'' ∉ v) : Settled ('\'' :: (v ++ ['\''])) := by
  have hcount : ∀ {w r}, v = w ++ r → w.count '\'' = 0 := fun h =>
    List.count_eq_zero.mpr fun hmem => hv (h ▸ List.mem_append_left _ hmem)
  refine ⟨fun {w r} h => ?_, ?_⟩
  · cases w with
    | nil => cases h
    | cons q w =>
      obtain ⟨rfl, htail⟩ := List.cons.inj h
      rcases List.append_eq_append_iff.mp htail with ⟨w, rfl, hw⟩ | ⟨r, hw, -⟩
      · cases w with
        | nil => cases hw
        | cons x w => simp at hw
      · simp [hcount hw]
  · simp [List.count_append, hcount (List.append_nil v).symm]

theorem IsBlankRun.settled (hs : IsBlankRun s) : Settled s := settled_of_class (by decide) hs

/-! ### What is written -/

theorem WrittenValue.settled (h : WrittenValue v s) : Settled s := by
  cases h with
  | quoted hquote => exact settled_quoted hquote
  | bare hbare => exact settled_of_class (by decide) hbare

theorem settled_char {x : Char} (hbracket : x ≠ '[') (hquote : x ≠ '\'') : Settled [x] :=
  settled_of_class (p := (· == x)) (by simp [hbracket.symm, hquote.symm]) (by simp)

theorem WrittenAttribute.settled {a : List Char × List Char} (h : WrittenAttribute a s) : Settled s := by
  cases h with
  | intro hb₁ hne hkey hb₂ hb₃ hvalue =>
    have hfront := (hb₁.settled.append (settled_of_class (by decide) hkey)).append hb₂.settled
    have hback := hb₃.settled.append hvalue.settled
    exact hfront.append ((settled_char (x := '=') (by decide) (by decide)).append hback)

theorem WrittenAttributes.settled {as : List (List Char × List Char)} (h : WrittenAttributes as s) : Settled s := by
  induction h with
  | nil hb => exact hb.settled.append (settled_char (by decide) (by decide))
  | cons hb ha has ih =>
    exact hb.settled.append ((settled_char (x := ';') (by decide) (by decide)).append (ha.settled.append ih))

/-! ## What is passed of a candidate -/

/-- Between a cursor and a position stands a settled text. -/
def StopsBehind (c : Cursor) (o : Nat) : Prop := ∃ s d, c.Passes s d ∧ Settled s ∧ d.offset = o

theorem stopsBehind_self (c : Cursor) : StopsBehind c c.offset :=
  ⟨[], c, .refl c, settled_of_class (p := fun _ => false) ⟨rfl, rfl⟩ (by simp), rfl⟩

theorem StopsBehind.pass (h : StopsBehind d o) (hpass : c.Passes s d) (hs : Settled s) : StopsBehind c o := by
  obtain ⟨t, e, ht, hsettled, hoffset⟩ := h
  exact ⟨s ++ t, e, hpass.trans ht, hs.append hsettled, hoffset⟩

theorem stopsBehind_takeWhile {p : Char → Bool} (hp : p '[' = false ∧ p '\'' = false) (c : Cursor) :
    StopsBehind c (c.takeWhile p).2.offset :=
  (stopsBehind_self _).pass (Cursor.passes_takeWhile p c) (settled_of_class hp fun _ => Cursor.of_mem_takeWhile)

theorem stopsBehind_of_readValue (h : readValue c = .error f) : StopsBehind c f.offset := by
  unfold readValue at h
  split at h
  · simp only at h
    split at h
    · cases h
      exact stopsBehind_self c
    · cases h
  · simp only at h
    split at h
    · cases h
      exact stopsBehind_takeWhile (by decide) c
    · cases h
      exact stopsBehind_takeWhile (by decide) c
    · cases h

theorem stopsBehind_of_readAttribute (h : readAttribute c = .error f) : StopsBehind c f.offset := by
  obtain ⟨b₁, hb₁, hpass₁⟩ := passes_skipBlank c
  have hkey := Cursor.passes_takeWhile isKeyChar (skipBlank c)
  have hkeySettled : Settled ((skipBlank c).takeWhile isKeyChar).1.text :=
    settled_of_class (by decide) fun _ => Cursor.of_mem_takeWhile
  obtain ⟨b₂, hb₂, hpass₂⟩ := passes_skipBlank ((skipBlank c).takeWhile isKeyChar).2
  unfold readAttribute at h
  simp only at h
  split at h
  · cases h
    exact ((stopsBehind_self _).pass hkey hkeySettled).pass hpass₁ hb₁.settled
  · refine StopsBehind.pass (.pass (.pass ?_ hpass₂ hb₂.settled) hkey hkeySettled) hpass₁ hb₁.settled
    split at h
    · rename_i r hr
      split at h
      · rename_i f' hf'
        cases h
        obtain ⟨b₃, hb₃, hpass₃⟩ := passes_skipBlank
          ⟨(skipBlank ((skipBlank c).takeWhile isKeyChar).2).offset + 1, r⟩
        have hequals : Settled ['='] := settled_char (by decide) (by decide)
        exact ((stopsBehind_of_readValue hf').pass hpass₃ hb₃.settled).pass (Cursor.passes_cons hr) hequals
      · cases h
    · cases h
      exact stopsBehind_self _

/-- The induction follows the reading: what was read of the attributes before is settled because it is written. -/
theorem stopsBehind_of_readAttributes {read : List Attribute} (h : readAttributes read c = .error f) :
    StopsBehind c f.offset := by
  fun_induction readAttributes read c with
  | case1 read c hc =>
    cases h
    exact stopsBehind_takeWhile (by decide) c
  | case2 => cases h
  | case3 read c r f' ha hc hne =>
    cases h
    obtain ⟨b, hb, hpass⟩ := passes_skipBlank c
    have hsemicolon : Settled [';'] := settled_char (by decide) (by decide)
    exact ((stopsBehind_of_readAttribute ha).pass (Cursor.passes_cons hc) hsemicolon).pass hpass hb.settled
  | case4 read c r a after ha hc hne ih =>
    obtain ⟨b, hb, hpass⟩ := passes_skipBlank c
    obtain ⟨text, htext, hpass'⟩ := exists_written_of_readAttribute ha
    have hsemicolon : Settled [';'] := settled_char (by decide) (by decide)
    exact (((ih h).pass hpass' htext.settled).pass (Cursor.passes_cons hc) hsemicolon).pass hpass hb.settled
  | case5 read c d r hc hclose hsemicolon =>
    cases h
    exact stopsBehind_takeWhile (by decide) c

theorem stopsBehind_of_readMarker_error (h : readMarker c = .error f) : StopsBehind c f.offset := by
  have hslug := Cursor.passes_takeWhile isSlugChar c
  unfold readMarker at h
  simp only at h
  split at h
  · cases h
    exact stopsBehind_takeWhile (by decide) c
  · split at h
    · rename_i f' hf'
      cases h
      exact (stopsBehind_of_readAttributes hf').pass hslug (settled_of_class (by decide) fun _ => Cursor.of_mem_takeWhile)
    · cases h

theorem stopsBehind_of_readMarker_ok {r : List Char} {t : Token} (h : readMarker ⟨o + 1, r⟩ = .ok (t, d)) :
    StopsBehind ⟨o + 1, r⟩ t.stop := by
  obtain ⟨text, ⟨hne, hslug, htail⟩, hpass, -, hstop⟩ := exists_written_of_readMarker h
  obtain ⟨r', hr', hpass⟩ := hpass.of_cons
  obtain rfl := (List.cons.inj hr').2
  exact ⟨_, d, hpass, (settled_of_class (by decide) hslug).append htail.settled, hstop.symm⟩

/-! ## Two candidates -/

namespace Candidate

variable {x y z : Candidate} {w : List Char}

/-- The candidate stands behind a text that follows a cursor, and what was passed of it is settled. -/
def Behind (c : Cursor) (x : Candidate) (before : List Char) : Prop :=
  ∃ r, c.Passes before ⟨x.start, '[' :: r⟩ ∧ StopsBehind ⟨x.start + 1, r⟩ x.stop

theorem Behind.le (h : x.Behind c u) : c.offset ≤ x.start := by
  obtain ⟨r, hpass, -⟩ := h
  exact hpass.le

theorem Behind.pass (h : x.Behind d u) (hpass : c.Passes s d) : x.Behind c (s ++ u) := by
  obtain ⟨r, hu, hstop⟩ := h
  exact ⟨r, hpass.trans hu, hstop⟩

/-- **A bracket inside another candidate stands behind an odd number of its quotes.** -/
theorem Behind.odd_of_overlap (hx : x.Behind c u) (hy : y.Behind c v) (hlt : x.start < y.start)
    (hover : y.start < x.stop) : (u.count '\'' + v.count '\'') % 2 = 1 := by
  obtain ⟨r, hu, s, d, hs, hsettled, hstop⟩ := hx
  obtain ⟨q, hv, -⟩ := hy
  have hopen : (Cursor.mk x.start ('[' :: r)).Passes ['['] ⟨x.start + 1, r⟩ := Cursor.passes_cons rfl
  obtain ⟨w, rfl, hw⟩ := (hu.trans hopen).split hv hlt
  obtain ⟨rest, rfl, hrest⟩ := hw.split hs (by rw [hstop]; exact Nat.le_of_lt hover)
  cases rest with
  | nil =>
    have hend := hrest.offset
    simp only [byteLength] at hend
    omega
  | cons b rest =>
    obtain ⟨q', hq, -⟩ := hrest.of_cons
    obtain rfl : '[' = b := (List.cons.inj hq).1
    have hodd := hsettled.hidden rfl
    have hnone : ['['].count '\'' = 0 := by decide
    rw [List.count_append, List.count_append, hnone]
    omega

/-- A position lies in a candidate: at its bracket or behind, and in front of where reading the candidate stopped. -/
def Covers (x : Candidate) (i : Nat) : Prop := x.start ≤ i ∧ i < x.stop

instance (x : Candidate) (i : Nat) : Decidable (x.Covers i) := inferInstanceAs (Decidable (_ ∧ _))

/-- Of three candidates one behind the other, no position lies in all: the quotes in front of their brackets would be
three numbers each two of which differ in parity. -/
theorem Behind.not_covers_three {i : Nat} (hx : x.Behind c u) (hy : y.Behind c v) (hz : z.Behind c w)
    (hxy : x.start < y.start) (hyz : y.start < z.start) : ¬(x.Covers i ∧ y.Covers i ∧ z.Covers i) := by
  rintro ⟨⟨-, hix⟩, ⟨hyi, hiy⟩, ⟨hzi, -⟩⟩
  have hodd₁ := hx.odd_of_overlap hy hxy (Nat.lt_of_le_of_lt hyi hix)
  have hodd₂ := hy.odd_of_overlap hz hyz (Nat.lt_of_le_of_lt hzi hiy)
  have hodd₃ := hx.odd_of_overlap hz (Nat.lt_trans hxy hyz) (Nat.lt_of_le_of_lt hzi hix)
  omega

end Candidate

/-! ## All candidates of a text -/

/-- Candidates in the order of their brackets, each behind a text that follows the cursor. -/
structure InOrder (c : Cursor) (l : List Candidate) : Prop where
  behind : ∀ x ∈ l, ∃ u, x.Behind c u
  ordered : l.Pairwise fun x y => x.start < y.start

theorem InOrder.pass {l : List Candidate} (h : InOrder d l) (hpass : c.Passes s d) : InOrder c l := by
  refine ⟨fun x hx => ?_, h.ordered⟩
  obtain ⟨u, hu⟩ := h.behind x hx
  exact ⟨s ++ u, hu.pass hpass⟩

theorem InOrder.cons {x : Candidate} {l : List Candidate} {r : List Char} (h : InOrder d l) (hc : c.rest = '[' :: r)
    (hstart : x.start = c.offset) (hstop : StopsBehind ⟨c.offset + 1, r⟩ x.stop)
    (hpass : (Cursor.mk (c.offset + 1) r).Passes s d) : InOrder c (x :: l) := by
  have hopen : c.Passes ['['] ⟨c.offset + 1, r⟩ := Cursor.passes_cons hc
  refine ⟨?_, List.pairwise_cons.mpr ⟨?_, h.ordered⟩⟩
  · rw [List.forall_mem_cons]
    refine ⟨⟨[], r, ?_, hstart ▸ hstop⟩, (h.pass (hopen.trans hpass)).behind⟩
    rw [hstart, ← hc]
    exact .refl c
  · intro y hy
    obtain ⟨u, hu⟩ := h.behind y hy
    have hle := Nat.le_trans hpass.le hu.le
    simp only at hle
    omega

/-- The induction follows the reading. -/
theorem exists_inOrder (found : List Candidate) (c : Cursor) :
    ∃ l, candidatesFrom found c = found.reverse ++ l ∧ InOrder c l := by
  fun_induction candidatesFrom found c with
  | case1 found c h => exact ⟨[], by simp, by simp, .nil⟩
  | case2 found c r f hread h ih =>
    obtain ⟨l, hl, hin⟩ := ih
    refine ⟨⟨c.offset, .error f⟩ :: l, by simp [hl], hin.cons h rfl ?_ (.refl _)⟩
    exact stopsBehind_of_readMarker_error hread
  | case3 found c r t after hread h ih =>
    obtain ⟨l, hl, hin⟩ := ih
    obtain ⟨text, ⟨-, -, -⟩, hpass, -, -⟩ := exists_written_of_readMarker hread
    obtain ⟨r', hr', hpass⟩ := hpass.of_cons
    obtain rfl := (List.cons.inj hr').2
    exact ⟨⟨c.offset, .ok t⟩ :: l, by simp [hl], hin.cons h rfl (stopsBehind_of_readMarker_ok hread) hpass⟩
  | case4 found c x r h hx ih =>
    obtain ⟨l, hl, hin⟩ := ih
    exact ⟨l, hl, hin.pass (Cursor.passes_cons h)⟩

theorem inOrder_candidates (text : List Char) : InOrder (Cursor.start text) (candidates text) := by
  obtain ⟨l, hl, hin⟩ := exists_inOrder [] (Cursor.start text)
  rw [candidates, hl]
  exact hin

theorem InOrder.sublist {l l' : List Candidate} (h : InOrder c l) (hsub : l'.Sublist l) : InOrder c l' :=
  ⟨fun x hx => h.behind x (hsub.subset hx), h.ordered.sublist hsub⟩

theorem InOrder.length_le_two {i : Nat} {l : List Candidate} (h : InOrder c l) (hl : ∀ x ∈ l, x.Covers i) :
    l.length ≤ 2 := by
  match l, h, hl with
  | [], _, _ => exact Nat.zero_le 2
  | [_], _, _ => exact Nat.le_succ 1
  | [_, _], _, _ => exact Nat.le_refl 2
  | x :: y :: z :: l, ⟨hbehind, hordered⟩, hl =>
    simp only [List.forall_mem_cons] at hbehind hl
    simp only [List.pairwise_cons, List.forall_mem_cons] at hordered
    obtain ⟨⟨u, hx⟩, ⟨v, hy⟩, ⟨w, hz⟩, -⟩ := hbehind
    exact absurd ⟨hl.1, hl.2.1, hl.2.2.1⟩ (hx.not_covers_three hy hz hordered.1.1 hordered.2.1.1)

theorem InOrder.length_filter_le {l : List Candidate} (h : InOrder c l) (i : Nat) :
    (l.filter (·.Covers i)).length ≤ 2 :=
  (h.sublist List.filter_sublist).length_le_two fun _ hx => of_decide_eq_true (List.mem_filter.mp hx).2

/-- **Every position of a text lies in at most two candidates.** -/
theorem length_filter_covers_le (text : String) (i : Nat) :
    ((candidates text.toList).filter (·.Covers i)).length ≤ 2 :=
  (inOrder_candidates text.toList).length_filter_le i

/-- Two candidates overlap where the first has an opening quote and the second takes it for the closing one. -/
example : (candidates "[a;k='[b;c='x".toList).map (fun x => (x.start, x.stop)) = [(0, 12), (6, 11)] := by
  decide +kernel

/-! ## All that is read -/

/-- The number of positions of a candidate in front of a position. -/
def Candidate.lengthBelow (x : Candidate) (n : Nat) : Nat := min x.stop n - min x.start n

theorem sum_lengthBelow_succ (l : List Candidate) (n : Nat) :
    (l.map (·.lengthBelow (n + 1))).sum = (l.map (·.lengthBelow n)).sum + (l.filter (·.Covers n)).length := by
  induction l with
  | nil => rfl
  | cons x l ih =>
    rw [List.map_cons, List.map_cons, List.sum_cons, List.sum_cons, ih, List.filter_cons]
    split
    · rename_i hcovers
      have hin : x.start ≤ n ∧ n < x.stop := of_decide_eq_true hcovers
      rw [List.length_cons, Candidate.lengthBelow, Candidate.lengthBelow]
      omega
    · rename_i hcovers
      have hout : ¬(x.start ≤ n ∧ n < x.stop) := fun h => hcovers (decide_eq_true h)
      rw [Candidate.lengthBelow, Candidate.lengthBelow]
      omega

theorem Candidate.Behind.stop_le {x : Candidate} {text : List Char} (h : x.Behind (Cursor.start text) u) :
    x.stop ≤ byteLength text := by
  obtain ⟨r, hpass, s, d, hs, -, hstop⟩ := h
  have hopen : (Cursor.mk x.start ('[' :: r)).Passes ['['] ⟨x.start + 1, r⟩ := Cursor.passes_cons rfl
  have hall := (hpass.trans hopen).trans hs
  have hlength : byteLength text = byteLength (u ++ ['['] ++ s ++ d.rest) := congrArg byteLength hall.rest
  have hoffset : d.offset = 0 + byteLength (u ++ ['['] ++ s) := hall.offset
  rw [Text.byteLength_append] at hlength
  omega

/-- **All candidates together are at most twice as long as the text**, so reading a text takes linear time however many
of its candidates are malformed. -/
theorem sum_length_le (text : String) :
    ((candidates text.toList).map fun x => x.stop - x.start).sum ≤ 2 * byteLength text.toList := by
  have hbelow : ∀ n, ((candidates text.toList).map (·.lengthBelow n)).sum ≤ 2 * n := by
    intro n
    induction n with
    | zero => simp [Candidate.lengthBelow, List.map_const']
    | succ n ih =>
      have hcovers := (inOrder_candidates text.toList).length_filter_le n
      rw [sum_lengthBelow_succ]
      omega
  have hwhole : (candidates text.toList).map (fun x => x.stop - x.start) =
      (candidates text.toList).map (·.lengthBelow (byteLength text.toList)) := by
    refine List.map_congr_left fun x hx => ?_
    obtain ⟨u, hu⟩ := (inOrder_candidates text.toList).behind x hx
    have hstop := hu.stop_le
    rw [Candidate.lengthBelow]
    omega
  rw [hwhole]
  exact hbelow _

end FormTemplate.Marker
