import FormTemplate.Proofs.Pattern.Steps

/-!
# Runs of the pattern reader

A text is a pattern if the reader comes to its end with all groups closed. A run on a text in front of a closing
parenthesis is a run on the text alone, up to the parenthesis; a run inside a group is a run outside of it, up to the end
of the group; and what is read on behind a part of a pattern does not hang on what the part is.

Together they say what anchors around a text do to it. They leave a pattern as it is, unless it ends in a comment. And
they make a pattern of a text that is none only if the text itself closes their group and goes on, with their own rest,
as a pattern could.

* `Reaches` : several steps in a row.
* `Ast.parse?` : the pattern that a text writes, however deeply it is nested.
* `Reaches.paren`, `Reaches.of_paren` : runs in front of a closing parenthesis.
* `State.within`, `Reaches.exists_close` : runs inside a group.
* `State.Follows`, `Reaches.follows` : runs behind a part of a pattern.
* `Ast.parse?_anchoredText` : a text between anchors.
-/

set_option autoImplicit false

namespace FormTemplate.Pattern

variable {c : Char} {n : Nat} {r rest s t u v : List Char} {st st₁ st' : State} {f : Frame}

/-! ## Runs -/

/-- Several steps of the reader lead from one state in front of a text to another. -/
inductive Reaches : State → List Char → State → List Char → Prop
  | refl (st : State) (s : List Char) : Reaches st s st s
  | head {st st₁ st' : State} {s t u : List Char} :
    st.next? s = some (st₁, t) → Reaches st₁ t st' u → Reaches st s st' u

theorem Reaches.trans {st₂ : State} (h : Reaches st s st₁ t) (h' : Reaches st₁ t st₂ u) : Reaches st s st₂ u := by
  induction h with
  | refl => exact h'
  | head hnext _ ih => exact .head hnext (ih h')

theorem Reaches.suffix (h : Reaches st s st' u) : u <:+ s := by
  induction h with
  | refl => exact List.suffix_rfl
  | head hnext _ ih => exact ih.trans (next?_shrinks _ _ _ _ hnext)

theorem Reaches.eq_of_nil (h : Reaches st s st' u) (hs : skipSpace st.extended s = []) : st' = st ∧ u = s := by
  cases h with
  | refl => exact ⟨rfl, rfl⟩
  | head hnext _ =>
    rw [next?_of_nil hs] at hnext
    cases hnext

/-- A run to the end of the text goes by way of the next state. -/
theorem Reaches.of_head (h : Reaches st s st' u) (hu : skipSpace st'.extended u = [])
    (hnext : st.next? s = some (st₁, t)) : Reaches st₁ t st' u := by
  cases h with
  | refl =>
    rw [next?_of_nil hu] at hnext
    cases hnext
  | head hnext' h =>
    obtain ⟨rfl, rfl⟩ := Prod.mk.inj (Option.some.inj (hnext.symm.trans hnext'))
    exact h

theorem run?_of_next? (h : st.next? s = some (st', rest)) : State.run? (n + 1) st s = State.run? n st' rest := by
  rw [State.run?]
  cases hs : skipSpace st.extended s with
  | nil =>
    rw [next?_of_nil hs] at h
    cases h
  | cons c t =>
    rw [next?_of_cons hs] at h
    simp only [h, Option.bind_some]

theorem run?_of_nil (h : skipSpace st.extended s = []) : State.run? (n + 1) st s = some st := by
  rw [State.run?, h]

/-- A run uses up fuel no faster than the text. -/
theorem Reaches.exists_run?_eq (h : Reaches st s st' u) (hn : s.length < n) :
    ∃ m, u.length < m ∧ State.run? n st s = State.run? m st' u := by
  induction h generalizing n with
  | refl => exact ⟨n, hn, rfl⟩
  | head hnext _ ih =>
    obtain ⟨n, rfl⟩ : ∃ m, n = m + 1 := ⟨n - 1, by omega⟩
    obtain ⟨m, hm, heq⟩ := ih (n := n) (by have := next?_length_lt hnext; omega)
    exact ⟨m, hm, (run?_of_next? hnext).trans heq⟩

theorem exists_reaches_of_run? (h : State.run? n st s = some st') :
    ∃ u, Reaches st s st' u ∧ skipSpace st'.extended u = [] := by
  induction n generalizing st s with
  | zero => cases h
  | succ n ih =>
    cases hs : skipSpace st.extended s with
    | nil =>
      obtain rfl : st = st' := by simpa [run?_of_nil hs] using h
      exact ⟨s, .refl st s, hs⟩
    | cons c t =>
      rw [State.run?, hs] at h
      obtain ⟨⟨st₁, rest⟩, hstep, hrun⟩ := Option.bind_eq_some_iff.mp h
      obtain ⟨u, hreach, hu⟩ := ih hrun
      exact ⟨u, .head ((next?_of_cons hs).trans hstep) hreach, hu⟩

/-! ## Patterns without regard to their depth -/

/-- The pattern that a text writes, however deeply it is nested. -/
def Ast.parse? (s : List Char) : Option Ast :=
  ((State.run? (s.length + 1) {} s).filter fun st => st.frames.isEmpty).map State.current

theorem Ast.read?_eq (s : List Char) : Ast.read? s = (Ast.parse? s).filter fun a => a.depth ≤ maxNesting := by
  unfold Ast.read? Ast.parse?
  cases State.run? (s.length + 1) {} s with
  | none => rfl
  | some st =>
    cases hf : st.frames.isEmpty with
    | true => simp [Option.filter, hf]
    | false => simp [Option.filter, hf]

theorem Ast.parse?_eq_some_iff {a : Ast} : Ast.parse? s = some a ↔
    ∃ st u, Reaches {} s st u ∧ skipSpace st.extended u = [] ∧ st.frames = [] ∧ st.current = a := by
  constructor
  · intro h
    obtain ⟨st, hst, rfl⟩ := Option.map_eq_some_iff.mp h
    obtain ⟨hrun, hf⟩ := Option.filter_eq_some_iff.mp hst
    obtain ⟨u, hreach, hu⟩ := exists_reaches_of_run? hrun
    exact ⟨st, u, hreach, hu, List.isEmpty_iff.mp hf, rfl⟩
  · rintro ⟨st, u, hreach, hu, hf, rfl⟩
    obtain ⟨m, hm, heq⟩ := hreach.exists_run?_eq (Nat.lt_succ_self s.length)
    obtain ⟨m, rfl⟩ : ∃ l, m = l + 1 := ⟨m - 1, by omega⟩
    rw [run?_of_nil hu] at heq
    simp [Ast.parse?, heq, hf]

/-- Nothing is written by a text at which the reader gets stuck. -/
theorem Ast.parse?_eq_none_of_reaches (h : Reaches {} s st u) (hu : skipSpace st.extended u = c :: t)
    (hnext : st.next? u = none) : Ast.parse? s = none := by
  obtain ⟨m, hm, heq⟩ := h.exists_run?_eq (Nat.lt_succ_self s.length)
  obtain ⟨m, rfl⟩ : ∃ l, m = l + 1 := ⟨m - 1, by omega⟩
  rw [next?_of_cons hu] at hnext
  rw [Ast.parse?, heq, State.run?, hu]
  simp [hnext]

/-! ## Runs in front of a closing parenthesis -/

/-- A run comes to the parenthesis behind the text, unless it ends in a comment, which the parenthesis belongs to. -/
theorem Reaches.paren (h : Reaches st s st' u) :
    (∀ r, Reaches st (s ++ ')' :: r) st' (u ++ ')' :: r)) ∨
      u = [] ∧ ∀ r, '\n' ∉ r → Reaches st (s ++ ')' :: r) st' [] := by
  induction h with
  | refl st s => exact .inl fun r => .refl st _
  | @head st st₁ st' s t u hnext hreach ih =>
    cases closed_next? st s with
    | @seen a rest ha hw =>
      obtain ⟨rfl, rfl⟩ : a = st₁ ∧ rest = t := by simpa [ha] using hnext
      exact ih.imp (fun h r => .head (hw r) (h r)) fun ⟨hu, h⟩ => ⟨hu, fun r hr => .head (hw r) (h r hr)⟩
    | @hidden a ha hw _ =>
      obtain ⟨rfl, rfl⟩ : a = st₁ ∧ [] = t := by simpa [ha] using hnext
      obtain ⟨rfl, rfl⟩ := hreach.eq_of_nil (skipSpace_nil _)
      exact .inr ⟨rfl, fun r hr => .head (hw r hr) (.refl _ _)⟩
    | lacking ha _ =>
      rw [ha] at hnext
      cases hnext

/-- A run that has passed the parenthesis does not come back to it. -/
theorem Reaches.not_paren_of_adrift (h : Reaches st s st' u) (hd : Adrift st.extended s r) :
    skipSpace st'.extended u ≠ ')' :: r := by
  induction h with
  | refl st s =>
    intro heq
    rcases hd with hle | ⟨t, rfl, -⟩
    · have hskip := (skipSpace_suffix st.extended s).length_le
      rw [heq, List.length_cons] at hskip
      omega
    · have hskip : skipSpace st.extended ('\x7b' :: t) = '\x7b' :: t := by cases st.extended <;> rfl
      rw [hskip] at heq
      cases heq
  | head hnext _ ih => exact ih (.inl (next?_adrift hd hnext))

/-- A run that comes to the parenthesis is a run on the text in front of it, whatever stands behind it. -/
theorem Reaches.of_paren (h : Reaches st (s ++ ')' :: r) st' v) (hv : skipSpace st'.extended v = ')' :: r) :
    ∃ u, Reaches st s st' u ∧ skipSpace st'.extended u = [] ∧
      ∀ r, Reaches st (s ++ ')' :: r) st' (u ++ ')' :: r) ∧ skipSpace st'.extended (u ++ ')' :: r) = ')' :: r := by
  generalize ht : s ++ ')' :: r = t at h
  induction h generalizing s with
  | refl st t =>
    subst ht
    cases (local_skipSpace st.extended).closed s (Nat.lt_succ_self _) with
    | @seen _ rest hs hw =>
      obtain rfl : rest = [] := by
        have := (Option.some.inj (hw r)).symm
        simpa [hv] using this
      exact ⟨s, .refl st s, by simpa using hs, fun r => ⟨.refl st _, by simpa using hw r⟩⟩
    | hidden _ _ hlost =>
      have hle := hlost r _ _ rfl
      rw [hv] at hle
      exact absurd hle (Nat.not_succ_le_self _)
    | lacking hs => cases hs
  | @head st st₁ st' t t' v hnext hreach ih =>
    subst ht
    have hlost : ¬ Adrift st₁.extended t' r := fun hd => hreach.not_paren_of_adrift hd hv
    cases closed_next? st s with
    | @seen a rest ha hw =>
      obtain ⟨rfl, rfl⟩ : a = st₁ ∧ rest ++ ')' :: r = t' := by simpa [hw] using hnext
      obtain ⟨u, hu, hskip, hall⟩ := ih hv rfl
      exact ⟨u, .head ha hu, hskip, fun r => ⟨.head (hw r) (hall r).1, (hall r).2⟩⟩
    | hidden _ _ hl => exact absurd (hl r _ _ hnext) hlost
    | lacking _ hl => exact absurd (hl r _ _ hnext) hlost

/-! ## Inside a group -/

/-- The state with a group around it. -/
def State.within (st : State) (f : Frame) : State := { st with frames := st.frames ++ [f] }

theorem opened?_within (st : State) (f : Frame) (o : Opening) :
    (st.within f).opened? o = (st.opened? o).map fun st => st.within f := by
  cases o with
  | flags changes => rfl
  | group kind name =>
    cases name with
    | none => rfl
    | some name => by_cases hn : st.names.contains name = true <;> simp only [State.opened?, State.within, hn] <;> rfl

theorem closed?_within (f : Frame) (hf : st.frames ≠ []) :
    (st.within f).closed? = st.closed?.map fun st => st.within f := by
  unfold State.closed? State.within
  cases hg : st.frames with
  | nil => exact absurd hg hf
  | cons g frames => rfl

theorem closed?_of_nil (hf : st.frames = []) : st.closed? = none := by
  simp only [State.closed?, hf]

/-- A part does the same inside a group, unless it closes the group. -/
theorem take?_within {p : Part} (f : Frame) (h : p = .close → st.frames ≠ []) :
    (st.within f).take? p = (st.take? p).map fun st => st.within f := by
  cases p with
  | opening o => exact opened?_within st f o
  | close => exact closed?_within f (h rfl)
  | bar => rfl
  | single a => rfl
  | times min max greedy =>
    simp only [State.take?, State.within]
    cases st.items with
    | nil => rfl
    | cons a items => by_cases ha : isRepeatable a = true <;> simp [ha]

theorem next?_within (f : Frame) (h : st.next? s = some (st', rest)) :
    (st.within f).next? s = some (st'.within f, rest) := by
  obtain ⟨p, hp, htake⟩ := next?_eq_some_iff.mp h
  refine next?_eq_some_iff.mpr ⟨p, hp, ?_⟩
  rw [take?_within f, htake, Option.map_some]
  rintro rfl hf
  rw [State.take?, closed?_of_nil hf] at htake
  cases htake

theorem Reaches.within (f : Frame) (h : Reaches st s st' u) : Reaches (st.within f) s (st'.within f) u := by
  induction h with
  | refl => exact .refl _ _
  | head hnext _ ih => exact .head (next?_within f hnext) ih

/-- A step inside a group is one outside of it, or it closes the group. -/
theorem next?_of_within (h : (st.within f).next? s = some (st', rest)) :
    (∃ st₁, st' = st₁.within f ∧ st.next? s = some (st₁, rest)) ∨
      st.frames = [] ∧ skipSpace st.extended s = ')' :: rest := by
  obtain ⟨p, hp, htake⟩ := next?_eq_some_iff.mp h
  by_cases hclose : p = .close ∧ st.frames = []
  · obtain ⟨rfl, hf⟩ := hclose
    exact .inr ⟨hf, readNext?_close hp⟩
  · rw [take?_within f fun hc hf => hclose ⟨hc, hf⟩] at htake
    obtain ⟨st₁, htake₁, rfl⟩ := Option.map_eq_some_iff.mp htake
    exact .inl ⟨st₁, rfl, next?_eq_some_iff.mpr ⟨p, hp, htake₁⟩⟩

/-- A run out of a group comes to the parenthesis that closes it. -/
theorem Reaches.exists_close (h : Reaches (st.within f) s st' u) (hf : st'.frames = []) :
    ∃ st₁ v rest, Reaches st s st₁ v ∧ st₁.frames = [] ∧ skipSpace st₁.extended v = ')' :: rest ∧
      Reaches (st₁.within f) v st' u := by
  generalize hw : st.within f = w at h
  induction h generalizing st with
  | refl w s =>
    subst hw
    simp [State.within] at hf
  | @head w w₁ st' s t u hnext hreach ih =>
    subst hw
    rcases next?_of_within hnext with ⟨st₁, rfl, hstep⟩ | ⟨hframes, hskip⟩
    · obtain ⟨st₂, v, rest, hv, h⟩ := ih hf rfl
      exact ⟨st₂, v, rest, .head hstep hv, h⟩
    · exact ⟨st, s, _, .refl st s, hframes, hskip, .head hnext hreach⟩

/-! ## Behind a part of a pattern -/

/-- What stands last in a state can be repeated. -/
def State.isRepeatable (st : State) : Bool := st.items.head?.any Pattern.isRepeatable

/-- What can be read on from one state can be read on from another: the same groups are open, whatever they hold, the
last part can be repeated in both or in none, and a name that is taken in the second one is taken in the first. -/
structure State.Follows (st st' : State) : Prop where
  frames : st'.frames.map Frame.extended = st.frames.map Frame.extended
  isRepeatable : st'.isRepeatable = st.isRepeatable
  extended : st'.extended = st.extended
  names : st'.names ⊆ st.names

namespace State.Follows

theorem opened? {o : Opening} (h : st.Follows st') (hst : st.opened? o = some st₁) :
    ∃ st₂, st'.opened? o = some st₂ ∧ st₁.Follows st₂ := by
  have hframes (g g' : Frame) (hg : g'.extended = g.extended) :
      (g' :: st'.frames).map Frame.extended = (g :: st.frames).map Frame.extended := by
    rw [List.map_cons, List.map_cons, hg, h.frames]
  cases o with
  | flags changes =>
    cases hst
    refine ⟨_, rfl, h.frames, rfl, ?_, h.names⟩
    simp only [h.extended]
  | group kind name =>
    cases name with
    | none =>
      cases hst
      exact ⟨_, rfl, hframes _ _ h.extended, rfl, by simp only [h.extended], h.names⟩
    | some name =>
      simp only [State.opened?] at hst ⊢
      split at hst
      · cases hst
      · have hfree : ¬ st'.names.contains name = true := fun hn =>
          absurd (List.contains_iff_mem.mpr (h.names (List.contains_iff_mem.mp hn))) ‹_›
        cases hst
        rw [if_neg hfree]
        refine ⟨_, rfl, hframes _ _ h.extended, rfl, by simp only [h.extended], ?_⟩
        exact List.cons_subset_cons _ h.names

theorem closed? (h : st.Follows st') (hst : st.closed? = some st₁) :
    ∃ st₂, st'.closed? = some st₂ ∧ st₁.Follows st₂ := by
  have hframes := h.frames
  unfold State.closed? at hst ⊢
  cases hf : st.frames with
  | nil => simp [hf] at hst
  | cons f frames =>
    simp only [hf, Option.some.injEq] at hst
    subst hst
    rw [hf, List.map_cons] at hframes
    obtain ⟨f', frames', hf', hext, hrest⟩ := List.map_eq_cons_iff.mp hframes
    simp only [hf']
    exact ⟨_, rfl, hrest, rfl, hext, h.names⟩

theorem take? {p : Part} (h : st.Follows st') (hst : st.take? p = some st₁) :
    ∃ st₂, st'.take? p = some st₂ ∧ st₁.Follows st₂ := by
  cases p with
  | opening o => exact h.opened? hst
  | close => exact h.closed? hst
  | bar =>
    cases hst
    exact ⟨_, rfl, h.frames, rfl, h.extended, h.names⟩
  | single a =>
    cases hst
    exact ⟨_, rfl, h.frames, rfl, h.extended, h.names⟩
  | times min max greedy =>
    have hrep := h.isRepeatable
    unfold State.isRepeatable at hrep
    cases hi : st.items with
    | nil => simp [State.take?, hi] at hst
    | cons a items =>
      by_cases ha : Pattern.isRepeatable a = true
      · simp only [State.take?, hi, ha, if_true, Option.some.injEq] at hst
        subst hst
        rw [hi, List.head?_cons, Option.any_some, ha] at hrep
        obtain ⟨a', hhead, ha'⟩ := (Option.any_eq_true _ _).mp hrep
        obtain ⟨items', hi'⟩ := List.head?_eq_some_iff.mp hhead
        simp only [State.take?, hi', ha', if_true]
        exact ⟨_, rfl, h.frames, rfl, h.extended, h.names⟩
      · simp [State.take?, hi, ha] at hst

theorem next? (h : st.Follows st') (hst : st.next? s = some (st₁, rest)) :
    ∃ st₂, st'.next? s = some (st₂, rest) ∧ st₁.Follows st₂ := by
  obtain ⟨p, hp, htake⟩ := next?_eq_some_iff.mp hst
  obtain ⟨st₂, htake', hfol⟩ := h.take? htake
  exact ⟨st₂, next?_eq_some_iff.mpr ⟨p, h.extended.symm ▸ hp, htake'⟩, hfol⟩

end State.Follows

theorem Reaches.follows (hreach : Reaches st s st₁ u) (h : st.Follows st') :
    ∃ st₂, Reaches st' s st₂ u ∧ st₁.Follows st₂ := by
  induction hreach generalizing st' with
  | refl => exact ⟨st', .refl _ _, h⟩
  | head hnext _ ih =>
    obtain ⟨st₂, hnext', hfol⟩ := h.next? hnext
    obtain ⟨st₃, hreach, hfol⟩ := ih hfol
    exact ⟨st₃, .head hnext' hreach, hfol⟩

/-! ## A pattern between anchors -/

/-- What the anchors make of a pattern. -/
def Ast.anchored (a : Ast) : Ast := .sequence [.assertion .caret, .group (.plain []) a, .assertion .dollar]

/-- The group that the anchors open. -/
def anchorFrame : Frame := ⟨[.assertion .caret], [], .plain [], false⟩

/-- A text between anchors. -/
def anchoredText (s : List Char) : List Char := "^(?:".toList ++ s ++ ")$".toList

theorem next?_caret (s : List Char) : State.next? {} (anchoredText s) =
    some (State.push {} (.assertion .caret), "(?:".toList ++ s ++ [')', '$']) := rfl

theorem next?_opening (s : List Char) :
    (State.push {} (.assertion .caret)).next? ("(?:".toList ++ s ++ [')', '$']) =
      some (State.within {} anchorFrame, s ++ [')', '$']) := rfl

/-- The state behind the group of the anchors. -/
theorem next?_anchorFrame (hf : st.frames = []) (hu : skipSpace st.extended u = ')' :: rest) :
    (st.within anchorFrame).next? u = some
      (⟨[], [.group (.plain []) st.current, .assertion .caret], [], false, st.names⟩, rest) := by
  rw [next?_close (show skipSpace (st.within anchorFrame).extended u = ')' :: rest from hu)]
  simp only [State.closed?, State.within, hf, List.nil_append, anchorFrame]
  rfl

/-- A text is a whole pattern, and a closing parenthesis behind it would be none of its characters. -/
def Ast.Ends (s : List Char) : Prop := (Ast.parse? s).isSome ∧ Ast.parse? (s ++ [')']) = none

/-- Where the reader stops in front of a parenthesis outside of all groups, a pattern ends. -/
theorem Ast.ends_of_reaches (h : Reaches {} s st u) (hu : skipSpace st.extended u = []) (hf : st.frames = [])
    (hp : ∀ r, Reaches {} (s ++ ')' :: r) st (u ++ ')' :: r) ∧ skipSpace st.extended (u ++ ')' :: r) = ')' :: r) :
    Ast.Ends s := by
  refine ⟨by rw [Ast.parse?_eq_some_iff.mpr ⟨st, u, h, hu, hf, rfl⟩]; rfl, ?_⟩
  refine Ast.parse?_eq_none_of_reaches (hp []).1 (hp []).2 ?_
  rw [next?_close (hp []).2, closed?_of_nil hf]
  rfl

/-- The reader stops in front of the parenthesis behind a pattern that ends there. -/
theorem Ast.Ends.exists_reaches {a : Ast} (h : Ast.Ends s) (ha : Ast.parse? s = some a) :
    ∃ st u, st.frames = [] ∧ st.current = a ∧ ∀ r,
      Reaches {} (s ++ ')' :: r) st (u ++ ')' :: r) ∧ skipSpace st.extended (u ++ ')' :: r) = ')' :: r := by
  obtain ⟨st, u, hreach, hu, hf, rfl⟩ := Ast.parse?_eq_some_iff.mp ha
  -- Otherwise the parenthesis belongs to a comment, and it can be read along with the pattern.
  have hopen (v : List Char) (hr : Reaches {} (s ++ [')']) st v) : skipSpace st.extended v ≠ [] := fun hv =>
    absurd h.2 (by rw [Ast.parse?_eq_some_iff.mpr ⟨st, v, hr, hv, hf, rfl⟩]; simp)
  refine ⟨st, u, hf, rfl, ?_⟩
  rcases hreach.paren with hp | ⟨-, hp⟩
  · intro r
    refine ⟨hp r, ?_⟩
    cases (local_skipSpace st.extended).closed u (Nat.lt_succ_self _) with
    | @seen _ rest hs hw =>
      obtain rfl : [] = rest := by simpa [hu] using hs
      simpa using hw r
    | hidden _ hw _ => exact absurd (by simpa using hw [] (by simp)) (hopen _ (hp []))
    | lacking hs => cases hs
  · exact absurd (skipSpace_nil _) (hopen [] (hp [] (by simp)))

theorem Ast.parse?_anchoredText_of_ends {a : Ast} (h : Ast.parse? s = some a) (hs : Ast.Ends s) :
    Ast.parse? (anchoredText s) = some a.anchored := by
  obtain ⟨st, u, hf, rfl, hp⟩ := hs.exists_reaches h
  have hgroup : Reaches {} (anchoredText s) (st.within anchorFrame) (u ++ [')', '$']) :=
    .head (next?_caret s) (.head (next?_opening s) ((hp ['$']).1.within anchorFrame))
  have hend : Reaches {} (anchoredText s)
      ⟨[], [.assertion .dollar, .group (.plain []) st.current, .assertion .caret], [], false, st.names⟩ [] :=
    hgroup.trans (.head (next?_anchorFrame hf (hp ['$']).2) (.head rfl (.refl _ _)))
  exact Ast.parse?_eq_some_iff.mpr ⟨_, [], hend, rfl, rfl, rfl⟩

/-- The group of the anchors is closed behind a pattern, and what follows is read on from there. -/
theorem Ast.exists_ends_of_parse?_anchoredText {a : Ast} (h : Ast.parse? (anchoredText s) = some a) :
    ∃ q rest, s ++ [')', '$'] = q ++ ')' :: rest ∧ Ast.Ends q ∧ (Ast.parse? ('x' :: rest)).isSome := by
  obtain ⟨st', u, hreach, hu, hf, -⟩ := Ast.parse?_eq_some_iff.mp h
  have hgroup := (hreach.of_head hu (next?_caret s)).of_head hu (next?_opening s)
  obtain ⟨st, v, rest, hv, hst, hclose, hrest⟩ := hgroup.exists_close hf
  obtain ⟨q, hq⟩ : ')' :: rest <:+ s ++ [')', '$'] := (hclose ▸ skipSpace_suffix _ v).trans hv.suffix
  rw [← hq] at hv
  obtain ⟨w, hw, hskip, hp⟩ := hv.of_paren hclose
  refine ⟨q, rest, hq.symm, Ast.ends_of_reaches hw hskip hst hp, ?_⟩
  -- Behind the group, the reader stands as it does behind any other part.
  have hfol : State.Follows ⟨[], [.group (.plain []) st.current, .assertion .caret], [], false, st.names⟩
      (State.push {} (.literal ⟨'x', false⟩)) := ⟨rfl, rfl, rfl, List.nil_subset _⟩
  obtain ⟨st₂, hreach₂, hend⟩ := (hrest.of_head hu (next?_anchorFrame hst hclose)).follows hfol
  have hx : State.next? {} ('x' :: rest) = some (State.push {} (.literal ⟨'x', false⟩), rest) := rfl
  have hframes : st₂.frames = [] := List.map_eq_nil_iff.mp (by rw [hend.frames, hf, List.map_nil])
  rw [Ast.parse?_eq_some_iff.mpr ⟨st₂, u, .head hx hreach₂, by rw [hend.extended, hu], hframes, rfl⟩]
  rfl

/-- The anchors leave a pattern as it is, if the parenthesis behind it does not belong to a comment, and they make no
pattern of a text that is none, if no text behind the end of their group, with their own rest, is that of a pattern. -/
theorem Ast.parse?_anchoredText (hends : (Ast.parse? s).isSome → Ast.parse? (s ++ [')']) = none)
    (hcloses : Ast.parse? s = none →
      ∀ q r, s = q ++ ')' :: r → Ast.Ends q → Ast.parse? ('x' :: (r ++ [')', '$'])) = none) :
    Ast.parse? (anchoredText s) = (Ast.parse? s).map Ast.anchored := by
  cases h : Ast.parse? s with
  | some a => exact Ast.parse?_anchoredText_of_ends h ⟨by rw [h]; rfl, hends (by rw [h]; rfl)⟩
  | none =>
    refine Option.eq_none_iff_forall_ne_some.mpr fun b hb => ?_
    obtain ⟨q, rest, heq, hq, hrest⟩ := Ast.exists_ends_of_parse?_anchoredText hb
    have hne : s ≠ q := fun hs => by simp [Ast.Ends, ← hs, h] at hq
    rcases List.append_eq_append_iff.mp heq with ⟨w, rfl, hw⟩ | ⟨w, rfl, hw⟩
    · -- The parenthesis is not that of the anchors, and none stands behind it.
      match w with
      | [] => simp at hne
      | [_] => simp at hw
      | _ :: _ :: _ => simp at hw
    · cases w with
      | nil => simp at hne
      | cons c w =>
        obtain ⟨rfl, rfl⟩ := List.cons.inj hw
        exact absurd (hcloses h q w rfl hq) (Option.isSome_iff_ne_none.mp hrest)

end FormTemplate.Pattern
