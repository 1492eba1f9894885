import FormTemplate.Pattern.Meaning
import FormTemplate.Proofs.Pattern.Matching
import FormTemplate.Proofs.Pattern.Runs

/-!
# Bounds in order

The reader refuses a repetition whose bounds are out of order, and nothing behind it changes the bounds. So the
expression of every text that is read has all bounds in order, which is what matching asks for.

* `Ast.Ordered`, `State.Ordered` : all bounds are in order.
* `Ast.Ordered.wellFormed` : the expression of a pattern keeps them so.
* `readPart?_ordered`, `Ast.ordered_of_parse?` : what a step reads, and a whole text.
-/

set_option autoImplicit false

namespace FormTemplate.Pattern

variable {extended : Bool} {c : Char} {rest s u : List Char} {st st' : State}

/-! ## From written patterns to expressions -/

mutual

/-- The bounds of all repetitions in a pattern are in order. -/
def Ast.Ordered : Ast → Prop
  | .times a min max _ => a.Ordered ∧ ∀ m, max = some m → min ≤ m
  | .group _ a => a.Ordered
  | .alternatives branches => Ast.AllOrdered branches
  | .sequence items => Ast.AllOrdered items
  | _ => True

@[inherit_doc Ast.Ordered]
def Ast.AllOrdered : List Ast → Prop
  | [] => True
  | a :: rest => a.Ordered ∧ Ast.AllOrdered rest

end

theorem Ast.allOrdered_iff {as : List Ast} : Ast.AllOrdered as ↔ ∀ a ∈ as, a.Ordered := by
  induction as with
  | nil => simp [Ast.AllOrdered]
  | cons a as ih => simp [Ast.AllOrdered, ih]

theorem wellFormed_catKept {r s : Regex} (hr : r.WellFormed) (hs : s.WellFormed) : (catKept r s).WellFormed := by
  unfold catKept
  split
  · exact hs
  · exact hr
  · exact ⟨hr, hs⟩

theorem wellFormed_literalRegex (cs : List Char) : (literalRegex cs).WellFormed := by
  induction cs with
  | nil => trivial
  | cons c cs ih => exact wellFormed_catKept (r := .set _) trivial ih

theorem wellFormed_literal {fl : Flags} {l : Literal} {f : Form} (h : fl.literal? l = some f) : f.regex.WellFormed := by
  obtain ⟨n, -, rfl⟩ := Option.map_eq_some_iff.mp h
  dsimp only
  split
  · exact wellFormed_literalRegex _
  · trivial

mutual

theorem Ast.Ordered.wellFormed {fl fl' : Flags} {f : Form} : {a : Ast} → a.Ordered →
    a.formUnder? fl = some (f, fl') → f.regex.WellFormed
  | .empty, _, h => by cases h; trivial
  | .flags _, _, h => by cases h; trivial
  | .literal l, _, h => by
    obtain ⟨r, hr, heq⟩ := Option.map_eq_some_iff.mp h
    cases heq
    exact wellFormed_literal hr
  | .dot, _, h => by
    obtain ⟨r, hr, heq⟩ := Option.map_eq_some_iff.mp h
    cases heq
    trivial
  | .assertion _, _, h => by cases h; trivial
  | .letter _ _, _, h => by
    obtain ⟨r, hr, heq⟩ := Option.map_eq_some_iff.mp h
    cases heq
    trivial
  | .property _ _, _, h => by
    obtain ⟨r, hr, heq⟩ := Option.map_eq_some_iff.mp h
    cases heq
    trivial
  | .bracketed _ _, _, h => by
    obtain ⟨r, hr, heq⟩ := Option.map_eq_some_iff.mp h
    cases heq
    trivial
  | .times a min max greedy, ha, h => by
    obtain ⟨⟨r, fl'⟩, hr, heq⟩ := Option.map_eq_some_iff.mp h
    cases heq
    exact ⟨Ast.Ordered.wellFormed (a := a) ha.1 hr, ha.2⟩
  | .group .capture a, ha, h => by
    obtain ⟨⟨r, fl'⟩, hr, heq⟩ := Option.map_eq_some_iff.mp h
    cases heq
    exact (Ast.Ordered.wellFormed (a := a) ha hr : r.regex.WellFormed)
  | .group (.plain changes) a, ha, h => by
    obtain ⟨⟨r, fl'⟩, hr, heq⟩ := Option.map_eq_some_iff.mp h
    cases heq
    exact Ast.Ordered.wellFormed (a := a) ha hr
  | .alternatives branches, ha, h => by
    obtain ⟨⟨rs, fl'⟩, hr, heq⟩ := Option.map_eq_some_iff.mp h
    cases heq
    exact (Ast.AllOrdered.wellFormed (l := branches) ha hr).2
  | .sequence items, ha, h => by
    obtain ⟨⟨rs, fl'⟩, hr, heq⟩ := Option.map_eq_some_iff.mp h
    cases heq
    exact (Ast.AllOrdered.wellFormed (l := items) ha hr).1

theorem Ast.AllOrdered.wellFormed {fl fl' : Flags} {rs : List Form} : {l : List Ast} → Ast.AllOrdered l →
    Ast.formsUnder? fl l = some (rs, fl') → (Form.regexOfRow rs).WellFormed ∧ (Form.regexOfChoice rs).WellFormed
  | [], _, h => by cases h; exact ⟨trivial, trivial⟩
  | a :: l, ha, h => by
    obtain ⟨⟨r, fl₁⟩, hr, h⟩ := Option.bind_eq_some_iff.mp h
    obtain ⟨⟨rs, fl₂⟩, hrs, heq⟩ := Option.map_eq_some_iff.mp h
    cases heq
    have hwf := Ast.Ordered.wellFormed (a := a) ha.1 hr
    have hall := Ast.AllOrdered.wellFormed (l := l) ha.2 hrs
    refine ⟨wellFormed_catKept hwf hall.1, ?_⟩
    cases rs with
    | nil => exact hwf
    | cons r' rs => exact ⟨hwf, hall.2⟩

end

/-! ## From texts to written patterns -/

/-- All patterns read so far have their bounds in order. -/
structure State.Ordered (st : State) : Prop where
  items : ∀ a ∈ st.items, a.Ordered
  branches : ∀ a ∈ st.branches, a.Ordered
  frames : ∀ f ∈ st.frames, (∀ a ∈ f.items, a.Ordered) ∧ ∀ a ∈ f.branches, a.Ordered

/-- The bounds of a repetition that is read, and of what else is read, are in order. -/
def Part.Ordered : Part → Prop
  | .single a => a.Ordered
  | .times min max _ => ∀ m, max = some m → min ≤ m
  | _ => True

theorem ordered_sequenceOf {items : List Ast} (h : ∀ a ∈ items, a.Ordered) : (sequenceOf items).Ordered := by
  match items with
  | [] => trivial
  | [a] => exact h a (List.mem_singleton_self a)
  | a :: b :: items => exact Ast.allOrdered_iff.mpr fun x hx => h x (List.mem_reverse.mp hx)

namespace State.Ordered

theorem current (h : st.Ordered) : st.current.Ordered := by
  have hseq := ordered_sequenceOf h.items
  unfold State.current
  split
  · exact hseq
  · refine Ast.allOrdered_iff.mpr fun a ha => ?_
    rcases List.mem_append.mp ha with ha | ha
    · exact h.branches a (List.mem_reverse.mp ha)
    · exact List.mem_singleton.mp ha ▸ hseq

theorem opened? {o : Opening} (h : st.Ordered) (hst : st.opened? o = some st') : st'.Ordered := by
  have hframe (kind : GroupKind) (extended : Bool) (names : List String) :
      State.Ordered ⟨⟨st.items, st.branches, kind, st.extended⟩ :: st.frames, [], [], extended, names⟩ :=
    ⟨nofun, nofun, List.forall_mem_cons.mpr ⟨⟨h.items, h.branches⟩, h.frames⟩⟩
  cases o with
  | flags changes =>
    cases hst
    exact ⟨List.forall_mem_cons.mpr ⟨trivial, h.items⟩, h.branches, h.frames⟩
  | group kind name =>
    cases name with
    | none =>
      cases hst
      exact hframe kind _ _
    | some name =>
      simp only [State.opened?] at hst
      split at hst
      · cases hst
      · cases hst
        exact hframe kind _ _

theorem closed? (h : st.Ordered) (hst : st.closed? = some st') : st'.Ordered := by
  unfold State.closed? at hst
  cases hf : st.frames with
  | nil => simp [hf] at hst
  | cons f frames =>
    simp only [hf, Option.some.injEq] at hst
    subst hst
    obtain ⟨⟨hitems, hbranches⟩, hframes⟩ := List.forall_mem_cons.mp (hf ▸ h.frames)
    exact ⟨List.forall_mem_cons.mpr ⟨h.current, hitems⟩, hbranches, hframes⟩

theorem take? {p : Part} (h : st.Ordered) (hp : p.Ordered) (hst : st.take? p = some st') : st'.Ordered := by
  cases p with
  | opening o => exact h.opened? hst
  | close => exact h.closed? hst
  | bar =>
    cases hst
    exact ⟨nofun, List.forall_mem_cons.mpr ⟨ordered_sequenceOf h.items, h.branches⟩, h.frames⟩
  | single a =>
    cases hst
    exact ⟨List.forall_mem_cons.mpr ⟨hp, h.items⟩, h.branches, h.frames⟩
  | times min max greedy =>
    cases hi : st.items with
    | nil => simp [State.take?, hi] at hst
    | cons a items =>
      simp only [State.take?, hi] at hst
      split at hst
      · cases hst
        have hitems := List.forall_mem_cons.mp (hi ▸ h.items)
        exact ⟨List.forall_mem_cons.mpr ⟨⟨hitems.1, hp⟩, hitems.2⟩, h.branches, h.frames⟩
      · cases hst

end State.Ordered

theorem ordered_ast (p : Primitive) : p.ast.Ordered := by cases p <;> trivial

/-- A part is read with its bounds in order. -/
theorem readPart?_ordered {p : Part} (h : readPart? extended c s = some (p, rest)) : p.Ordered := by
  have htimes {min : Nat} {max : Option Nat} {s : List Char} (hbounds : ∀ m, max = some m → min ≤ m)
      (h : readTimes? min max s = some (p, rest)) : p.Ordered := by
    obtain ⟨greedy, rfl⟩ := exists_of_readTimes? h
    exact hbounds
  unfold readPart? at h
  split at h
  · obtain ⟨o, -, heq⟩ := Option.map_eq_some_iff.mp h
    cases heq
    trivial
  · cases h
    trivial
  · cases h
    trivial
  · obtain ⟨b, -, heq⟩ := Option.map_eq_some_iff.mp h
    cases heq
    trivial
  · exact htimes (by simp) h
  · exact htimes (by simp) h
  · exact htimes (by simp) h
  · obtain ⟨b, hb, h⟩ := Option.bind_eq_some_iff.mp h
    exact htimes (readBounds?_ordered hb) h
  · obtain ⟨e, -, heq⟩ := Option.map_eq_some_iff.mp h
    cases heq
    exact ordered_ast e.1
  all_goals
    cases h
    trivial

theorem next?_ordered (h : st.Ordered) (hst : st.next? s = some (st', rest)) : st'.Ordered := by
  obtain ⟨p, hp, htake⟩ := next?_eq_some_iff.mp hst
  unfold readNext? at hp
  split at hp
  · cases hp
  · exact h.take? (readPart?_ordered hp) htake

theorem Reaches.ordered (hreach : Reaches st s st' u) (h : st.Ordered) : st'.Ordered := by
  induction hreach with
  | refl => exact h
  | head hnext _ ih => exact ih (next?_ordered h hnext)

/-- The reader refuses bounds out of order. -/
theorem Ast.ordered_of_parse? {a : Ast} (h : Ast.parse? s = some a) : a.Ordered := by
  obtain ⟨st, u, hreach, -, -, rfl⟩ := Ast.parse?_eq_some_iff.mp h
  have hstart : State.Ordered {} := ⟨nofun, nofun, nofun⟩
  exact (hreach.ordered hstart).current

end FormTemplate.Pattern
