import FormTemplate.Pattern.Reader
import Mathlib.Data.List.Infix

/-!
# Readers in front of a closing parenthesis

Whether a text is read the same with a closing parenthesis behind it is settled reader by reader. A reader stops in
front of the parenthesis, or it stops in a comment, which the parenthesis then belongs to, or it needs more than the
text. In the last two cases what it makes of the longer text lies behind the parenthesis, or nearly so.

Readers are put together from few parts: skipping, one reader after another, a look at the next character. `Local`
says all that is needed about a part, and each way to put parts together keeps it.

* `Shrinks` : what is left of a text is a suffix of it.
* `Closed` : the three cases.
* `Local` : a reader, with and without the parenthesis.
-/

set_option autoImplicit false

namespace FormTemplate.Pattern

variable {α β : Type} {extended : Bool} {c : Char} {n k : Nat} {r rest s t : List Char}

/-! ## Suffixes -/

/-- What a reader leaves of a text is a suffix of it. -/
def Shrinks (s : List Char) (A : Option (α × List Char)) : Prop := ∀ a rest, A = some (a, rest) → rest <:+ s

namespace Shrinks

variable {A : Option (α × List Char)}

theorem none : Shrinks s (Option.none : Option (α × List Char)) := nofun

theorem some {a : α} (h : rest <:+ s) : Shrinks s (Option.some (a, rest)) := by
  rintro _ _ ⟨⟩
  exact h

theorem mono (h : Shrinks t A) (hst : t <:+ s) : Shrinks s A := fun a rest ha => (h a rest ha).trans hst

theorem cons (h : Shrinks r A) : Shrinks (c :: r) A := h.mono (List.suffix_cons c r)

theorem bind {S : α × List Char → Option (β × List Char)} (h : Shrinks s A)
    (hS : ∀ a rest, Shrinks rest (S (a, rest))) : Shrinks s (A.bind S) := by
  intro b rest hb
  obtain ⟨⟨a, t⟩, ha, hb⟩ := Option.bind_eq_some_iff.mp hb
  exact (hS a t b rest hb).trans (h a t ha)

theorem map {g : α × List Char → β × List Char} (h : Shrinks s A) (hg : ∀ a rest, (g (a, rest)).2 = rest) :
    Shrinks s (A.map g) := by
  intro b rest hb
  obtain ⟨⟨a, t⟩, ha, heq⟩ := Option.map_eq_some_iff.mp hb
  have htr : t = rest := by rw [← hg a t, heq]
  exact htr ▸ h a t ha

theorem length_le (h : Shrinks s A) {a : α} (ha : A = Option.some (a, rest)) : rest.length ≤ s.length :=
  (h a rest ha).length_le

theorem eq_nil (h : Shrinks [] A) {a : α} (ha : A = Option.some (a, rest)) : rest = [] :=
  List.suffix_nil.mp (h a rest ha)

end Shrinks

/-! ## The three cases -/

/-- What a reader makes of a text, and what it makes of the text with a closing parenthesis and `r` behind it.
`lost` describes what can come of the longer text where the reader does not stop in front of the parenthesis. -/
inductive Closed (lost : α → List Char → List Char → Prop) (A : Option (α × List Char))
    (W : List Char → Option (α × List Char)) : Prop
  /-- It stops in front of the parenthesis. -/
  | seen {a : α} {rest : List Char} : A = some (a, rest) → (∀ r, W r = some (a, rest ++ ')' :: r)) → Closed lost A W
  /-- It stops in a comment, which the parenthesis belongs to. -/
  | hidden {a : α} : A = some (a, []) → (∀ r, '\n' ∉ r → W r = some (a, [])) →
      (∀ r b rest, W r = some (b, rest) → lost b rest r) → Closed lost A W
  /-- It needs more than the text. -/
  | lacking : A = none → (∀ r b rest, W r = some (b, rest) → lost b rest r) → Closed lost A W

/-- All but the last `k` characters in front of `r` are gone. -/
abbrev short (k : Nat) (_ : α) (rest r : List Char) : Prop := rest.length ≤ r.length + k

namespace Closed

variable {lost : α → List Char → List Char → Prop} {lost' : β → List Char → List Char → Prop}
variable {A : Option (α × List Char)} {W : List Char → Option (α × List Char)}

theorem none (h : ∀ r, W r = Option.none) : Closed lost Option.none W :=
  .lacking rfl fun r b rest hb => by rw [h r] at hb; cases hb

theorem some (a : α) (rest : List Char) :
    Closed lost (Option.some (a, rest)) fun r => Option.some (a, rest ++ ')' :: r) :=
  .seen rfl fun _ => rfl

theorem mono {lost' : α → List Char → List Char → Prop} (h : Closed lost A W)
    (hlost : ∀ b rest r, lost b rest r → lost' b rest r) : Closed lost' A W := by
  cases h with
  | seen ha hw => exact .seen ha hw
  | hidden ha hw hl => exact .hidden ha hw fun r b rest hb => hlost b rest r (hl r b rest hb)
  | lacking ha hl => exact .lacking ha fun r b rest hb => hlost b rest r (hl r b rest hb)

theorem map {g : α × List Char → β × List Char} {f : α → β} (h : Closed lost A W)
    (hg : ∀ a rest, g (a, rest) = (f a, rest)) (hlost : ∀ a rest r, lost a rest r → lost' (f a) rest r) :
    Closed lost' (A.map g) fun r => (W r).map g := by
  have hl (hlw : ∀ r b rest, W r = Option.some (b, rest) → lost b rest r) :
      ∀ r b rest, (W r).map g = Option.some (b, rest) → lost' b rest r := by
    intro r b rest hb
    obtain ⟨⟨a, t⟩, ha, heq⟩ := Option.map_eq_some_iff.mp hb
    rw [hg] at heq
    cases heq
    exact hlost a _ r (hlw r a _ ha)
  cases h with
  | seen ha hw => exact .seen (by rw [ha, Option.map_some, hg]) fun r => by rw [hw, Option.map_some, hg]
  | hidden ha hw hlw =>
    exact .hidden (by rw [ha, Option.map_some, hg]) (fun r hr => by rw [hw r hr, Option.map_some, hg]) (hl hlw)
  | lacking ha hlw => exact .lacking (by rw [ha, Option.map_none]) (hl hlw)

/-- One reader after another. The second one makes the same of no text at all, whatever stands behind it. -/
theorem bind {S : α × List Char → Option (β × List Char)} {T : List Char → α × List Char → Option (β × List Char)}
    (h : Closed lost A W)
    (hS : ∀ a rest, A = Option.some (a, rest) → Closed lost' (S (a, rest)) fun r => T r (a, rest ++ ')' :: r))
    (hnil : ∀ r a, T r (a, []) = S (a, [])) (hshrinks : ∀ a, Shrinks [] (S (a, [])))
    (hlost : ∀ r a rest b rest', lost a rest r → T r (a, rest) = Option.some (b, rest') → lost' b rest' r) :
    Closed lost' (A.bind S) fun r => (W r).bind (T r) := by
  have hl (hlw : ∀ r b rest, W r = Option.some (b, rest) → lost b rest r) :
      ∀ r b rest, (W r).bind (T r) = Option.some (b, rest) → lost' b rest r := by
    intro r b rest hb
    obtain ⟨⟨a, t⟩, ha, hb⟩ := Option.bind_eq_some_iff.mp hb
    exact hlost r a t b rest (hlw r a t ha) hb
  cases h with
  | seen ha hw =>
    have := hS _ _ ha
    simp only [ha, hw, Option.bind_some]
    exact this
  | @hidden a ha hw hlw =>
    rw [ha, Option.bind_some]
    cases hs : S (a, []) with
    | none => exact .lacking rfl (hl hlw)
    | some p =>
      obtain ⟨b, rest⟩ := p
      obtain rfl := (hshrinks a).eq_nil hs
      refine .hidden rfl (fun r hr => ?_) (hl hlw)
      rw [hw r hr, Option.bind_some, hnil, hs]
  | lacking ha hlw =>
    rw [ha]
    exact .lacking rfl (hl hlw)

end Closed

/-! ## Readers put together -/

theorem dropWhile_paren {p : Char → Bool} (hp : p ')' = false) (s r : List Char) :
    (s ++ ')' :: r).dropWhile p = s.dropWhile p ++ ')' :: r := by
  rw [List.dropWhile_append, List.dropWhile_cons_of_neg (by simp [hp])]
  split
  · have hs : s.dropWhile p = [] := List.isEmpty_iff.mp ‹_›
    rw [hs, List.nil_append]
  · rfl

/-- A reader that refuses the empty text. -/
def needing (F : List Char → Option (α × List Char)) : List Char → Option (α × List Char)
  | [] => none
  | c :: s => F (c :: s)

/-- What is known of a reader `F`, and of the reader `G r` that takes its place where a closing parenthesis and `r`
stand behind the text, for texts of less than `n` characters. -/
structure Local (k n : Nat) (F : List Char → Option (α × List Char))
    (G : List Char → List Char → Option (α × List Char)) : Prop where
  nil : ∀ r, G r [] = F []
  shrinks : ∀ r s, Shrinks s (G r s)
  closed : ∀ s, s.length < n → Closed (short k) (F s) fun r => G r (s ++ ')' :: r)

namespace Local

variable {F : List Char → Option (α × List Char)} {G : List Char → List Char → Option (α × List Char)}

theorem shrinks_nil (h : Local k n F G) : Shrinks [] (F []) := h.nil [] ▸ h.shrinks [] []

theorem none : Local k n (fun _ => (Option.none : Option (α × List Char))) fun _ _ => Option.none :=
  ⟨fun _ => rfl, fun _ _ => .none, fun _ _ => .none fun _ => rfl⟩

theorem some (a : α) : Local k n (fun s => Option.some (a, s)) fun _ s => Option.some (a, s) :=
  ⟨fun _ => rfl, fun _ _ => .some List.suffix_rfl, fun s _ => .some a s⟩

/-- A reader that takes nothing and may refuse. -/
theorem ofOption (o : Option α) : Local k n (fun s => o.map fun a => (a, s)) fun _ s => o.map fun a => (a, s) := by
  cases o with
  | none => exact .none
  | some a => exact .some a

/-- Nothing is claimed of texts of less than no characters. -/
theorem zero (hnil : ∀ r, G r [] = F []) (hshrinks : ∀ r s, Shrinks s (G r s)) : Local k 0 F G :=
  ⟨hnil, hshrinks, fun _ h => absurd h (Nat.not_lt_zero _)⟩

theorem mono {k' m : Nat} (h : Local k n F G) (hk : k ≤ k') (hm : m ≤ n) : Local k' m F G :=
  ⟨h.nil, h.shrinks, fun s hs =>
    (h.closed s (Nat.lt_of_lt_of_le hs hm)).mono fun _ _ _ hl => Nat.le_trans hl (Nat.add_le_add_left hk _)⟩

/-- The reader without a parenthesis leaves a suffix too. -/
theorem shrinks_alone (h : Local k n F G) (hs : s.length < n) : Shrinks s (F s) := by
  intro a rest ha
  cases h.closed s hs with
  | @seen b t hf hg =>
    obtain ⟨rfl, rfl⟩ : b = a ∧ t = rest := by simpa [hf] using ha
    obtain ⟨u, hu⟩ := h.shrinks [] _ b _ (hg [])
    exact ⟨u, List.append_cancel_right (by simpa only [List.append_assoc] using hu)⟩
  | @hidden b hf _ _ =>
    obtain ⟨-, rfl⟩ : b = a ∧ [] = rest := by simpa [hf] using ha
    exact List.nil_suffix
  | lacking hf _ =>
    rw [hf] at ha
    cases ha

theorem bind {S : α → List Char → Option (β × List Char)} {T : List Char → α → List Char → Option (β × List Char)}
    (h : Local k n F G) (hS : ∀ a, Local k n (S a) fun r => T r a) :
    Local k n (fun s => (F s).bind fun p => S p.1 p.2) fun r s => (G r s).bind fun p => T r p.1 p.2 where
  nil r := by
    rw [h.nil r]
    cases hf : F [] with
    | none => rfl
    | some p =>
      obtain ⟨a, rest⟩ := p
      obtain rfl := h.shrinks_nil.eq_nil hf
      exact (hS a).nil r
  shrinks r s := (h.shrinks r s).bind fun a rest => (hS a).shrinks r rest
  closed s hs := (h.closed s hs).bind
    (fun a rest ha => (hS a).closed rest (Nat.lt_of_le_of_lt ((h.shrinks_alone hs).length_le ha) hs))
    (fun r a => (hS a).nil r) (fun a => (hS a).shrinks_nil)
    fun r a rest b rest' hl hb => Nat.le_trans (((hS a).shrinks r rest).length_le hb) hl

/-- One reader after another, where the second one takes a character. -/
theorem bindStrict {S : α → List Char → Option (β × List Char)}
    {T : List Char → α → List Char → Option (β × List Char)} (h : Local (k + 1) n F G)
    (hS : ∀ a, Local k n (S a) fun r => T r a)
    (hstrict : ∀ r a s b rest, T r a s = Option.some (b, rest) → rest.length < s.length) :
    Local k n (fun s => (F s).bind fun p => S p.1 p.2) fun r s => (G r s).bind fun p => T r p.1 p.2 where
  nil := (h.bind (fun a => (hS a).mono (Nat.le_succ k) (Nat.le_refl n))).nil
  shrinks := (h.bind (fun a => (hS a).mono (Nat.le_succ k) (Nat.le_refl n))).shrinks
  closed s hs := (h.closed s hs).bind
    (fun a rest ha => (hS a).closed rest (Nat.lt_of_le_of_lt ((h.shrinks_alone hs).length_le ha) hs))
    (fun r a => (hS a).nil r) (fun a => (hS a).shrinks_nil)
    fun r a rest b rest' hl hb => Nat.le_of_lt_succ (Nat.lt_of_lt_of_le (hstrict r a rest b rest' hb) hl)

theorem map {g : α × List Char → β × List Char} {f : α → β} (h : Local k n F G)
    (hg : ∀ a rest, g (a, rest) = (f a, rest)) : Local k n (fun s => (F s).map g) fun r s => (G r s).map g := by
  have hmap (A : Option (α × List Char)) : A.map g = A.bind fun p => Option.some (f p.1, p.2) := by
    cases A with
    | none => rfl
    | some p => exact congrArg Option.some (hg p.1 p.2)
  simp only [hmap]
  exact h.bind fun a => .some (f a)

/-- A reader that needs a character. -/
theorem cons {m : Nat} (hm : m ≤ n + 1) (hnil : F [] = Option.none) (hnil' : ∀ r, G r [] = Option.none)
    (h : ∀ c, Local k n (fun s => F (c :: s)) fun r s => G r (c :: s)) : Local k m F G where
  nil r := by rw [hnil, hnil']
  shrinks r s := by
    cases s with
    | nil => rw [hnil']; exact .none
    | cons c s => exact ((h c).shrinks r s).cons
  closed s hs := by
    cases s with
    | nil =>
      rw [hnil]
      exact .lacking rfl fun r b rest hb => Nat.le_add_right_of_le (((h ')').shrinks r r).length_le hb)
    | cons c s => exact (h c).closed s (Nat.lt_of_succ_lt_succ (Nat.lt_of_lt_of_le hs hm))

/-- A reader that needs a character, which it does not have to take. -/
theorem needing (h : Local k n F G) (hk : 0 < k) : Local k n (needing F) fun r => needing (G r) where
  nil _ := rfl
  shrinks r s := by
    cases s with
    | nil => exact .none
    | cons c s => exact h.shrinks r (c :: s)
  closed s hs := by
    cases s with
    | nil =>
      refine .lacking rfl fun r b rest hb => ?_
      have hlen := (h.shrinks r (')' :: r)).length_le hb
      rw [List.length_cons] at hlen
      omega
    | cons c s => exact h.closed (c :: s) hs

/-- A reader that takes a character of some kind, and does something else in front of any other. -/
theorem head {m : Nat} (P : Char → Prop) [DecidablePred P] {B : List Char → Option (α × List Char)}
    {B' : List Char → List Char → Option (α × List Char)} (hp : ¬ P ')') (hm : m ≤ n + 1)
    (h : ∀ c, P c → Local k n (fun s => F (c :: s)) fun r s => G r (c :: s)) (hB : Local k m B B')
    (hnil : F [] = B []) (hnil' : ∀ r, G r [] = B' r []) (hother : ∀ c s, ¬ P c → F (c :: s) = B (c :: s))
    (hother' : ∀ r c s, ¬ P c → G r (c :: s) = B' r (c :: s)) : Local k m F G where
  nil r := by rw [hnil, hnil', hB.nil]
  shrinks r s := by
    cases s with
    | nil => rw [hnil']; exact hB.shrinks r []
    | cons c s =>
      by_cases hc : P c
      · exact ((h c hc).shrinks r s).cons
      · rw [hother' r c s hc]; exact hB.shrinks r (c :: s)
  closed s hs := by
    cases s with
    | nil =>
      simp only [List.nil_append, hnil, hother' _ _ _ hp]
      exact hB.closed [] hs
    | cons c s =>
      by_cases hc : P c
      · exact (h c hc).closed s (Nat.lt_of_succ_lt_succ (Nat.lt_of_lt_of_le hs hm))
      · simp only [List.cons_append, hother c _ hc, hother' _ c _ hc]
        exact hB.closed (c :: s) hs

/-- Characters other than a closing parenthesis are dropped. -/
theorem dropWhile {p : Char → Bool} (hp : p ')' = false) :
    Local k n (fun s => Option.some ((), s.dropWhile p)) fun _ s => Option.some ((), s.dropWhile p) where
  nil _ := rfl
  shrinks _ s := .some (List.dropWhile_suffix p)
  closed s _ := .seen rfl fun r => by rw [dropWhile_paren hp]

/-- A reader that refuses some characters and needs one. -/
theorem refuse (P : Char → Bool) (h : Local k n F G) (hnil : F [] = Option.none) :
    Local k n (fun s => if s.head?.any P then Option.none else F s)
      fun r s => if s.head?.any P then Option.none else G r s where
  nil r := h.nil r
  shrinks r s := by
    split
    · exact .none
    · exact h.shrinks r s
  closed s hs := by
    cases s with
    | nil =>
      have hclosed := h.closed [] hs
      rw [hnil] at hclosed
      cases hclosed with
      | seen ha => cases ha
      | hidden ha => cases ha
      | lacking _ hlost =>
        refine .lacking (by simpa using hnil) fun r b rest hb => ?_
        split at hb
        · cases hb
        · exact hlost r b rest hb
    | cons c s =>
      simp only [List.cons_append, List.head?_cons, Option.any_some]
      by_cases hP : P c = true
      · simp only [hP, if_true]
        exact .none fun _ => rfl
      · simp only [hP]
        exact h.closed (c :: s) hs

/-- A reader with another one for what it refuses. It makes the same of the text whatever stands behind it. -/
theorem orElse {A : List Char → Option (β × List Char)} {S : β → List Char → Option (α × List Char)}
    {T : List Char → β → List Char → Option (α × List Char)} (hnil : A [] = Option.none)
    (hA : ∀ s r, A (s ++ ')' :: r) = (A s).map fun p => (p.1, p.2 ++ ')' :: r)) (hshrinks : ∀ s, Shrinks s (A s))
    (hS : ∀ a, Local k n (S a) fun r => T r a) (hF : Local k n F G) :
    Local k n (fun s => (A s).elim (F s) fun p => S p.1 p.2) fun r s => (A s).elim (G r s) fun p => T r p.1 p.2 where
  nil r := by simpa only [hnil, Option.elim_none] using hF.nil r
  shrinks r s := by
    cases hs : A s with
    | none => exact hF.shrinks r s
    | some p => exact ((hS p.1).shrinks r p.2).mono (hshrinks s p.1 p.2 hs)
  closed s hs := by
    simp only [hA]
    cases hp : A s with
    | none => exact hF.closed s hs
    | some p => exact (hS p.1).closed p.2 (Nat.lt_of_le_of_lt ((hshrinks s).length_le hp) hs)

/-! The same for a reader without fuel. -/

theorem bindSelf {S : α → List Char → Option (β × List Char)} (h : Local k n F fun _ => F)
    (hS : ∀ a, Local k n (S a) fun _ => S a) :
    Local k n (fun s => (F s).bind fun p => S p.1 p.2) fun _ s => (F s).bind fun p => S p.1 p.2 := h.bind hS

theorem consSelf (hnil : F [] = Option.none) (h : ∀ c, Local k n (fun s => F (c :: s)) fun _ s => F (c :: s)) :
    Local k n F fun _ => F := .cons (Nat.le_succ n) hnil (fun _ => hnil) h

theorem headSelf (P : Char → Prop) [DecidablePred P] {B : List Char → Option (α × List Char)} (hp : ¬ P ')')
    (h : ∀ c, P c → Local k n (fun s => F (c :: s)) fun _ s => F (c :: s)) (hB : Local k n B fun _ => B)
    (hnil : F [] = B []) (hother : ∀ c s, ¬ P c → F (c :: s) = B (c :: s)) : Local k n F fun _ => F :=
  .head P hp (Nat.le_succ n) h hB hnil (fun _ => hnil) hother fun _ => hother

end Local

/-! ## Fuel -/

/-- A reader with fuel, where there is enough of it for the text and for the longer text. -/
def Fuelled (k : Nat) (F : Nat → List Char → Option (α × List Char)) : Prop :=
  ∀ ⦃n m : Nat⦄ ⦃f : List Char → Nat⦄, n ≤ m → (∀ r, n + r.length < f r) → Local k n (F m) fun r => F (f r)

namespace Fuelled

variable {ι : Type} {F : ι → Nat → List Char → Option (α × List Char)}

/-- Readers that call each other with less fuel, when they have read a character. -/
theorem of_step (hzero : ∀ i s, Shrinks s (F i 0 s)) (hnil : ∀ i m, F i m [] = F i 0 [])
    (hstep : ∀ n m (f : List Char → Nat), (∀ i, Local k n (F i m) fun r => F i (f r)) →
      ∀ i, Local k (n + 1) (F i (m + 1)) fun r => F i (f r + 1)) (i : ι) : Fuelled k (F i) := by
  have hshrinks (m : Nat) : ∀ i s, Shrinks s (F i m s) := by
    induction m with
    | zero => exact hzero
    | succ m ih =>
      have hlocal (i : ι) : Local k 0 (F i m) fun _ => F i m := .zero (fun _ => rfl) fun _ s => ih i s
      exact fun i s => (hstep 0 m (fun _ => m) hlocal i).shrinks [] s
  intro n m f hm hf
  induction n generalizing m f i with
  | zero => exact .zero (fun r => by rw [hnil, hnil i m]) fun r s => hshrinks (f r) i s
  | succ n ih =>
    obtain ⟨m, rfl⟩ : ∃ l, m = l + 1 := ⟨m - 1, by omega⟩
    obtain ⟨g, rfl⟩ : ∃ g : List Char → Nat, f = fun r => g r + 1 :=
      ⟨fun r => f r - 1, funext fun r => (Nat.sub_add_cancel (Nat.zero_lt_of_lt (hf r))).symm⟩
    have hg (r : List Char) : n + r.length < g r := by
      have : n + 1 + r.length < g r + 1 := hf r
      omega
    exact hstep n m g (fun i => ih i (Nat.le_of_succ_le_succ hm) hg) i

variable {F : Nat → List Char → Option (α × List Char)}

theorem closed (h : Fuelled k F) {m : Nat} {f : List Char → Nat} (hm : s.length < m)
    (hf : ∀ r, s.length + 1 + r.length < f r) : Closed (short k) (F m s) fun r => F (f r) (s ++ ')' :: r) :=
  (h hm hf).closed s (Nat.lt_succ_self _)

theorem shrinks (h : Fuelled k F) (m : Nat) (s : List Char) : Shrinks s (F (m + 1) s) :=
  (h (Nat.le_refl 0) (f := fun r => m + 1 + r.length) fun r => by omega).shrinks [] s

/-- The length of a text is enough. -/
theorem ofLength (h : Fuelled k F) :
    Local k n (fun s => F (s.length + 1) s) fun _ s => F (s.length + 1) s where
  nil _ := rfl
  shrinks _ s := h.shrinks s.length s
  closed s _ := h.closed (Nat.lt_succ_self _) fun r => by simp only [List.length_append, List.length_cons]; omega

end Fuelled

/-! ## Space -/

theorem skipComments_suffix (comment : Bool) (s : List Char) : skipComments comment s <:+ s := by
  induction s generalizing comment with
  | nil => exact List.suffix_rfl
  | cons c r ih =>
    unfold skipComments
    split
    · exact (ih _).trans (List.suffix_cons c r)
    · split
      · exact (ih _).trans (List.suffix_cons c r)
      · split
        · exact (ih _).trans (List.suffix_cons c r)
        · exact List.suffix_rfl

theorem skipSpace_suffix (extended : Bool) (s : List Char) : skipSpace extended s <:+ s := by
  unfold skipSpace
  split
  · exact skipComments_suffix false s
  · exact List.suffix_rfl

@[simp] theorem skipSpace_nil (extended : Bool) : skipSpace extended [] = [] := by cases extended <;> rfl

/-- A comment takes the whole of a text in one line. -/
theorem skipComments_true_of_not_mem (h : '\n' ∉ s) : skipComments true s = [] := by
  induction s with
  | nil => rfl
  | cons c r ih =>
    have hc : (c != '\n') = true := bne_iff_ne.mpr fun hc => h (hc ▸ List.mem_cons_self)
    rw [skipComments, if_pos rfl, hc, ih fun hr => h (List.mem_cons_of_mem _ hr)]

theorem closed_skipComments (comment : Bool) (s : List Char) :
    Closed (short 0) (some ((), skipComments comment s)) fun r => some ((), skipComments comment (s ++ ')' :: r)) := by
  induction s generalizing comment with
  | nil =>
    cases comment with
    | false => exact .seen rfl fun r => rfl
    | true =>
      have hnext : ∀ r, skipComments true ([] ++ ')' :: r) = skipComments true r := fun _ => rfl
      refine .hidden rfl (fun r hr => ?_) fun r b rest hb => ?_
      · rw [hnext, skipComments_true_of_not_mem hr]
      · rw [hnext] at hb
        cases hb
        exact (skipComments_suffix true r).length_le
  | cons c r ih =>
    simp only [List.cons_append]
    unfold skipComments
    split
    · exact ih _
    · split
      · exact ih _
      · split
        · exact ih _
        · exact .some () (c :: r)

/-- What stands behind skipped space and comments starts neither. -/
theorem skipComments_eq_cons {comment : Bool} (h : skipComments comment s = c :: t) :
    Text.isBlank c = false ∧ (c == '#') = false := by
  fun_induction skipComments comment s with
  | case1 => cases h
  | case2 _ _ ih => exact ih h
  | case3 _ _ _ _ _ ih => exact ih h
  | case4 _ _ _ _ _ _ ih => exact ih h
  | case5 _ _ _ _ hblank hsign =>
    cases h
    exact ⟨Bool.eq_false_iff.mpr hblank, Bool.eq_false_iff.mpr hsign⟩

/-- Whether a character is skipped hangs on nothing behind it. -/
theorem skipSpace_cons_of_eq_cons (h : skipSpace extended s = c :: t) (r : List Char) :
    skipSpace extended (c :: r) = c :: r := by
  cases extended with
  | false => rfl
  | true =>
    obtain ⟨hblank, hsign⟩ := skipComments_eq_cons (show skipComments false s = c :: t from h)
    simp [skipSpace, skipComments, hblank, hsign]

@[simp] theorem skipSpace_skipSpace (extended : Bool) (s : List Char) :
    skipSpace extended (skipSpace extended s) = skipSpace extended s := by
  cases h : skipSpace extended s with
  | nil => exact skipSpace_nil extended
  | cons c t => exact skipSpace_cons_of_eq_cons h t

theorem skipSpace_paren (extended : Bool) (r : List Char) : skipSpace extended (')' :: r) = ')' :: r := by
  cases extended <;> rfl

/-- Skipping alone. -/
theorem local_skipSpace (extended : Bool) :
    Local 0 n (fun s => some ((), skipSpace extended s)) fun _ s => some ((), skipSpace extended s) where
  nil _ := rfl
  shrinks _ s := .some (skipSpace_suffix extended s)
  closed s _ := by
    unfold skipSpace
    split
    · exact closed_skipComments false s
    · exact .some () s

/-- Skipping up to a character does not come to the parenthesis. -/
theorem skipSpace_append_of_eq_cons (h : skipSpace extended s = c :: t) (r : List Char) :
    skipSpace extended (s ++ ')' :: r) = c :: t ++ ')' :: r := by
  cases (local_skipSpace extended).closed s (Nat.lt_succ_self _) with
  | @seen _ rest hs hw =>
    obtain rfl : skipSpace extended s = rest := by simpa using hs
    simpa [h] using hw r
  | hidden hs => simp [h] at hs
  | lacking hs => cases hs

/-- Where all of a text is skipped, the parenthesis comes next, or it is skipped too. -/
theorem skipSpace_append_of_eq_nil (h : skipSpace extended s = []) (r : List Char) :
    skipSpace extended (s ++ ')' :: r) = ')' :: r ∨ (skipSpace extended (s ++ ')' :: r)).length ≤ r.length := by
  cases (local_skipSpace extended).closed s (Nat.lt_succ_self _) with
  | @seen _ rest hs hw =>
    obtain rfl : skipSpace extended s = rest := by simpa using hs
    exact .inl (by simpa [h] using hw r)
  | hidden _ _ hlost => exact .inr (hlost r _ _ rfl)
  | lacking hs => cases hs

namespace Local

variable {F : List Char → Option (α × List Char)} {G : List Char → List Char → Option (α × List Char)}

/-- Space is skipped first. -/
theorem skip (h : Local k n F G) :
    Local k n (fun s => F (skipSpace extended s)) fun r s => G r (skipSpace extended s) :=
  ((local_skipSpace extended).mono (Nat.zero_le k) (Nat.le_refl n)).bind (S := fun _ => F) (T := fun r _ => G r)
    fun _ => h

/-- A reader that skips space and then needs a character. -/
theorem skipCons (extended : Bool) {m : Nat} (hm : m ≤ n + 1) (hF : ∀ s, F (skipSpace extended s) = F s)
    (hG : ∀ r s, G r (skipSpace extended s) = G r s) (hnil : F [] = Option.none) (hnil' : ∀ r, G r [] = Option.none)
    (h : ∀ c, (∀ s, skipSpace extended (c :: s) = c :: s) → Local k n (fun s => F (c :: s)) fun r s => G r (c :: s)) :
    Local k m F G := by
  have hshrinks (r s : List Char) : Shrinks s (G r s) := by
    rw [← hG]
    refine Shrinks.mono ?_ (skipSpace_suffix extended s)
    cases hs : skipSpace extended s with
    | nil => rw [hnil']; exact .none
    | cons c t => exact ((h c (skipSpace_cons_of_eq_cons hs)).shrinks r t).cons
  refine ⟨fun r => by rw [hnil, hnil'], hshrinks, fun s hs => ?_⟩
  have hbind : Closed (short k) ((Option.some ((), skipSpace extended s)).bind fun p => F p.2)
      fun r => (Option.some ((), skipSpace extended (s ++ ')' :: r))).bind fun p => G r p.2 := by
    refine ((local_skipSpace extended).closed s hs).bind (fun a rest ha => ?_) (fun r _ => ?_) (fun _ => ?_)
      fun r _ rest b rest' hl hb => Nat.le_trans ((hshrinks r rest).length_le hb) (Nat.le_add_right_of_le hl)
    · obtain rfl : skipSpace extended s = rest := by simpa using ha
      dsimp only
      cases ht : skipSpace extended s with
      | nil =>
        rw [hnil]
        exact .lacking rfl fun r b rest hb => Nat.le_add_right_of_le
          (((h ')' (skipSpace_paren extended)).shrinks r r).length_le hb)
      | cons c t =>
        have hlen := (skipSpace_suffix extended s).length_le
        rw [ht, List.length_cons] at hlen
        exact (h c (skipSpace_cons_of_eq_cons ht)).closed t (by omega)
    · rw [hnil, hnil']
    · rw [hnil]; exact .none
  simpa only [Option.bind_some, hF, hG] using hbind

theorem skipConsSelf (extended : Bool) (hF : ∀ s, F (skipSpace extended s) = F s) (hnil : F [] = Option.none)
    (h : ∀ c, (∀ s, skipSpace extended (c :: s) = c :: s) → Local k n (fun s => F (c :: s)) fun _ s => F (c :: s)) :
    Local k n F fun _ => F := .skipCons extended (Nat.le_succ n) hF (fun _ => hF) hnil (fun _ => hnil) h

/-- Space is skipped behind what is read. -/
theorem skipped (h : Local k n F G) (f : α → β) :
    Local k n (fun s => (F s).map fun p => (f p.1, skipSpace extended p.2))
      fun r s => (G r s).map fun p => (f p.1, skipSpace extended p.2) := by
  simp only [Option.map_eq_bind]
  exact h.bind (S := fun a s => Option.some (f a, skipSpace extended s))
    (T := fun _ a s => Option.some (f a, skipSpace extended s)) fun a => (Local.some (f a)).skip

end Local

theorem Fuelled.skip {F : Nat → List Char → Option (α × List Char)} (h : Fuelled k F) :
    Fuelled k fun m s => F m (skipSpace extended s) := fun _ _ _ hm hf => (h hm hf).skip

end FormTemplate.Pattern
