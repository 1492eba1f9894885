import FormTemplate.Proofs.Marker.Grammar

/-!
# The leftmost tokenization

Which brackets of a text start markers. Quoted values may hold brackets, so a marker can be written inside
another one; of markers that overlap the one that starts first counts. The markers that count stand one behind the
other, and every other marker of the text starts inside one of them. This settles which they are.

* `Leftmost` : the spans of the markers of a text that count;
* `Leftmost.unique` : a text has one leftmost tokenization only;
* `leftmost_consumed` : reading the candidates of a text from left to right finds it. A malformed candidate hides
  no marker.
-/

set_option autoImplicit false

namespace FormTemplate.Marker

open Text (Cursor byteLength)

variable {c d e : Cursor} {s text slug : List Char} {as : List (List Char × List Char)}

/-! ## Spans -/

/-- A marker of a text: the position of its opening bracket and the one behind its closing bracket, its slug and
the keys and values of its attributes. -/
structure Span where
  start : Nat
  stop : Nat
  slug : List Char
  attributes : List (List Char × List Char)
  deriving DecidableEq, Repr

/-- The span of a marker that has been read. -/
def Token.span (t : Token) : Span := ⟨t.start, t.stop, t.slug.text, t.attributes.map Attribute.texts⟩

namespace Span

variable {x y : Span}

/-- The span is that of a marker which is written somewhere in the text that follows a cursor. -/
def In (x : Span) (c : Cursor) : Prop :=
  ∃ before text d e, c.Passes before d ∧ d.Passes text e ∧ WrittenMarker x.slug x.attributes text ∧
    x.start = d.offset ∧ x.stop = e.offset

theorem in_here (h : WrittenMarker slug as text) (hpass : c.Passes text d) :
    In ⟨c.offset, d.offset, slug, as⟩ c := ⟨[], text, c, d, .refl c, hpass, h, rfl, rfl⟩

theorem In.behind (h : x.In d) (hpass : c.Passes s d) : x.In c := by
  obtain ⟨before, text, d', e, hbefore, htext, hwritten, hstart, hstop⟩ := h
  exact ⟨s ++ before, text, d', e, hpass.trans hbefore, htext, hwritten, hstart, hstop⟩

theorem In.le_start (h : x.In c) : c.offset ≤ x.start := by
  obtain ⟨before, text, d, e, hbefore, -, -, hstart, -⟩ := h
  rw [hstart]
  exact hbefore.le

theorem In.start_lt_stop (h : x.In c) : x.start < x.stop := by
  obtain ⟨before, text, d, e, -, htext, hwritten, hstart, hstop⟩ := h
  obtain ⟨hne, hslug, htail⟩ := hwritten
  obtain ⟨r, -, htext⟩ := htext.of_cons
  have hle := htext.le
  have hpos := Char.utf8Size_pos '['
  rw [hstart, hstop]
  simp only at hle
  omega

/-- A marker that starts behind a text is written in what follows the text. -/
theorem In.of_le (h : x.In c) (hpass : c.Passes s d) (hle : d.offset ≤ x.start) : x.In d := by
  obtain ⟨before, text, d', e, hbefore, htext, hwritten, hstart, hstop⟩ := h
  obtain ⟨u, -, hu⟩ := hpass.split hbefore (by omega)
  exact ⟨u, text, d', e, hu, htext, hwritten, hstart, hstop⟩

/-- At one position at most one marker starts. -/
theorem In.eq_of_start_eq (h : x.In c) (h' : y.In c) (hxy : x.start = y.start) : x = y := by
  obtain ⟨before, text, d, e, hbefore, htext, hwritten, hstart, hstop⟩ := h
  obtain ⟨before', text', d', e', hbefore', htext', hwritten', hstart', hstop'⟩ := h'
  obtain ⟨u, -, hu⟩ := hbefore.split hbefore' (by omega)
  have hnil : u = [] := by
    have := hu.offset
    exact Text.byteLength_eq_zero_iff.mp (by omega)
  subst hnil
  obtain rfl := (Cursor.Passes.refl d).eq hu
  obtain ⟨hslug, has, rfl⟩ := hwritten.unique hwritten' htext htext'
  cases x
  cases y
  simp_all

end Span

/-! ## Tokenizations -/

/-- The spans are the leftmost tokenization of the text that follows a cursor: they are markers of the text, they
stand one behind the other, and every marker of the text starts where one of them starts or strictly inside it. -/
structure Leftmost (c : Cursor) (l : List Span) : Prop where
  written : ∀ x ∈ l, x.In c
  ordered : l.Pairwise fun x y => x.stop ≤ y.start
  covered : ∀ y : Span, y.In c → ∃ x ∈ l, y.start = x.start ∨ (x.start < y.start ∧ y.start < x.stop)

namespace Leftmost

variable {x : Span} {l l' : List Span}

theorem nil (h : c.rest = []) : Leftmost c [] := by
  refine ⟨by simp, .nil, ?_⟩
  rintro y ⟨before, text, d, e, hbefore, htext, hwritten, -, -⟩
  have hrest := (hbefore.trans htext).rest
  cases hwritten
  rw [h] at hrest
  simp at hrest

/-- A place where no marker is written is passed over. -/
theorem skip {z : Char} {r : List Char} (h : c.rest = z :: r)
    (hnone : ∀ {slug as text d}, WrittenMarker slug as text → ¬c.Passes text d)
    (hl : Leftmost ⟨c.offset + z.utf8Size, r⟩ l) : Leftmost c l := by
  refine ⟨fun x hx => (hl.written x hx).behind (Cursor.passes_cons h), hl.ordered, fun y hy => hl.covered y ?_⟩
  obtain ⟨before, text, d, e, hbefore, htext, hwritten, hstart, hstop⟩ := hy
  cases before with
  | nil =>
    obtain rfl := (Cursor.Passes.refl c).eq hbefore
    exact absurd htext (hnone hwritten)
  | cons z' before =>
    obtain ⟨r', hr', hbefore⟩ := hbefore.of_cons
    obtain ⟨rfl, rfl⟩ := List.cons.inj (h.symm.trans hr')
    exact ⟨before, text, d, e, hbefore, htext, hwritten, hstart, hstop⟩

/-- A marker counts where nothing in front of it does. -/
theorem cons (h : WrittenMarker slug as text) (hpass : c.Passes text d) (hl : Leftmost d l) :
    Leftmost c (⟨c.offset, d.offset, slug, as⟩ :: l) := by
  refine ⟨?_, List.pairwise_cons.mpr ⟨fun y hy => (hl.written y hy).le_start, hl.ordered⟩, ?_⟩
  · intro y hy
    rcases List.mem_cons.mp hy with rfl | hy
    · exact Span.in_here h hpass
    · exact (hl.written y hy).behind hpass
  · intro y hy
    by_cases hle : d.offset ≤ y.start
    · obtain ⟨x, hx, hcover⟩ := hl.covered y (hy.of_le hpass hle)
      exact ⟨x, List.mem_cons_of_mem _ hx, hcover⟩
    · have hstart := hy.le_start
      refine ⟨_, List.mem_cons_self, ?_⟩
      simp only
      omega

/-- The first span starts in front of all markers of the text. -/
theorem start_le (h : Leftmost c (x :: l)) {y : Span} (hy : y.In c) : x.start ≤ y.start := by
  obtain ⟨z, hz, hcover⟩ := h.covered y hy
  have hzy : z.start ≤ y.start := by omega
  rcases List.mem_cons.mp hz with rfl | hz
  · exact hzy
  · have hordered := (List.pairwise_cons.mp h.ordered).1 z hz
    have hx := (h.written x List.mem_cons_self).start_lt_stop
    omega

/-- The spans behind the first are the tokenization of what follows it. -/
theorem tail (h : Leftmost c (x :: l)) (hpass : c.Passes s e) (hstop : x.stop = e.offset) : Leftmost e l := by
  obtain ⟨hbehind, hordered⟩ := List.pairwise_cons.mp h.ordered
  refine ⟨?_, hordered, ?_⟩
  · intro y hy
    exact (h.written y (List.mem_cons_of_mem _ hy)).of_le hpass (hstop ▸ hbehind y hy)
  · intro y hy
    obtain ⟨z, hz, hcover⟩ := h.covered y (hy.behind hpass)
    rcases List.mem_cons.mp hz with rfl | hz
    · have hx := (h.written z List.mem_cons_self).start_lt_stop
      have hle := hy.le_start
      omega
    · exact ⟨z, hz, hcover⟩

/-- **A text has one leftmost tokenization only.** -/
theorem unique (h : Leftmost c l) (h' : Leftmost c l') : l = l' := by
  induction l generalizing c l' with
  | nil =>
    cases l' with
    | nil => rfl
    | cons y _ =>
      obtain ⟨x, hx, -⟩ := h.covered y (h'.written y List.mem_cons_self)
      cases hx
  | cons x l ih =>
    have hx := h.written x List.mem_cons_self
    cases l' with
    | nil =>
      obtain ⟨y, hy, -⟩ := h'.covered x hx
      cases hy
    | cons y l' =>
      have hy := h'.written y List.mem_cons_self
      have hxy : x = y := hx.eq_of_start_eq hy (Nat.le_antisymm (h.start_le hy) (h'.start_le hx))
      subst hxy
      obtain ⟨before, text, d, e, hbefore, htext, -, -, hstop⟩ := hx
      have hpass := hbefore.trans htext
      rw [ih (h.tail hpass hstop) (h'.tail hpass hstop)]

end Leftmost

/-! ## Reading from left to right -/

/-- The spans of the markers among candidates. -/
def spansOf (l : List Candidate) : List Span := (l.filterMap (·.outcome.toOption)).map Token.span

theorem spansOf_cons_ok (o : Nat) (t : Token) (l : List Candidate) :
    spansOf (⟨o, .ok t⟩ :: l) = t.span :: spansOf l := rfl

/-- **Candidates are read in leftmost order.** The induction follows the reading; a malformed candidate is no
marker, because what is written would have been read. -/
theorem exists_leftmost (found : List Candidate) (c : Cursor) :
    ∃ l, candidatesFrom found c = found.reverse ++ l ∧ Leftmost c (spansOf l) := by
  fun_induction candidatesFrom found c with
  | case1 found c h => exact ⟨[], by simp, .nil h⟩
  | case2 found c r f hread h ih =>
    obtain ⟨l, hl, hleft⟩ := ih
    refine ⟨⟨c.offset, .error f⟩ :: l, by simp [hl], .skip h ?_ hleft⟩
    intro slug as text d hwritten hpass
    obtain ⟨r', t, hr', hread', -, -⟩ := readMarker_of_written hwritten hpass
    obtain rfl := (List.cons.inj (h.symm.trans hr')).2
    rw [hread] at hread'
    cases hread'
  | case3 found c r t after hread h ih =>
    obtain ⟨l, hl, hleft⟩ := ih
    obtain ⟨text, hwritten, hpass, hstart, hstop⟩ := exists_written_of_readMarker hread
    refine ⟨⟨c.offset, .ok t⟩ :: l, by simp [hl], ?_⟩
    have hspan : t.span = ⟨c.offset, after.offset, t.slug.text, t.attributes.map Attribute.texts⟩ := by
      rw [Token.span, hstart, hstop]
    rw [spansOf_cons_ok, hspan]
    exact .cons hwritten ⟨h.trans hpass.rest, hpass.offset⟩ hleft
  | case4 found c x r h hx ih =>
    obtain ⟨l, hl, hleft⟩ := ih
    refine ⟨l, hl, .skip h ?_ hleft⟩
    intro slug as text d hwritten hpass
    cases hwritten
    obtain ⟨r', hr', -⟩ := hpass.of_cons
    exact hx (List.cons.inj (h.symm.trans hr')).1

/-- The markers that are read in a text. -/
def consumed (text : List Char) : List Span := (tokens text).map Token.span

theorem leftmost_consumed (text : List Char) : Leftmost (Cursor.start text) (consumed text) := by
  obtain ⟨l, hl, hleft⟩ := exists_leftmost [] (Cursor.start text)
  rw [consumed, tokens, candidates, hl]
  exact hleft

end FormTemplate.Marker
