import FormTemplate.Proofs.Pattern.Local
import Mathlib.Data.List.TakeWhile

/-!
# The small readers of patterns

The bounds of a repetition, hexadecimal numbers, properties, escapes, and what stands behind an opening parenthesis:
each reader is put together as the pattern reader has it, and each is local, in front of a closing parenthesis too.

A word boundary is the exception. Behind `\b`, braces without a name are left to be the bounds of a repetition, and
those can reach over the parenthesis.

* `local_readBounds?`, `readBounds?_ordered` : the bounds of a repetition, which are in order.
* `local_readHex?`, `local_readProperty?`, `local_readEscape?` : escapes, but for `\b`.
* `Adrift`, `closed_readBoundary?` : where `\b` leaves the reader.
* `local_readOpening?` : the start of a group, or flags.
-/

set_option autoImplicit false

namespace FormTemplate.Pattern

variable {α β : Type} {extended : Bool} {c : Char} {n k : Nat} {rest s t : List Char}

/-- The first two parts of a result together. -/
def paired (p : α × β × List Char) : (α × β) × List Char := ((p.1, p.2.1), p.2.2)

/-! ## Numbers -/

theorem fuelled_readDigits (extended : Bool) : Fuelled 0 fun m s => some (readDigits extended m s) :=
  .of_step (F := fun (_ : Unit) m s => some (readDigits extended m s)) (fun _ _ => .some List.suffix_rfl)
    (fun _ m => by cases m <;> rfl)
    (fun n m f ih _ => by
      refine .head (fun c => c.isDigit) (by decide) (Nat.le_refl _) (fun c hc => ?_) (.some []) rfl (fun _ => rfl)
        (fun c s hc => ?_) fun r c s hc => ?_
      · simp only [readDigits, hc, if_true]
        exact (ih ()).skip.map (g := fun p => (c :: p.1, p.2)) fun _ _ => rfl
      · simp only [readDigits, hc]; rfl
      · simp only [readDigits, hc]; rfl) ()

/-- Digits are read to their end with more than enough fuel. -/
theorem readDigits_eq_of_length_le {m l : Nat} (hm : s.length ≤ m) (hl : s.length ≤ l) :
    readDigits extended m s = readDigits extended l s := by
  induction m generalizing l s with
  | zero =>
    obtain rfl := List.length_eq_zero_iff.mp (Nat.le_zero.mp hm)
    cases l <;> rfl
  | succ m ih =>
    cases s with
    | nil => cases l <;> rfl
    | cons c r =>
      obtain ⟨l, rfl⟩ : ∃ i, l = i + 1 := ⟨l - 1, by rw [List.length_cons] at hl; omega⟩
      have hr := (skipSpace_suffix extended r).length_le
      simp only [List.length_cons, Nat.add_le_add_iff_right] at hm hl
      simp only [readDigits, ih (hr.trans hm) (hr.trans hl)]

/-- Space behind digits, where there is some, and comments behind it. -/
def skipBehind (extended : Bool) (s : List Char) : List Char :=
  if s.head?.any Text.isBlank then skipSpace extended (s.dropWhile Text.isBlank) else s

/-- The count that digits write, if there are any and it is not too large. -/
def countOf? (ds : List Char) : Option (Option Nat) :=
  match Number.digits? ds with
  | none => some none
  | some n => if n < UInt32.size then some (some n) else none

theorem local_skipBehind (extended : Bool) :
    Local 0 n (fun s => some ((), skipBehind extended s)) fun _ s => some ((), skipBehind extended s) := by
  refine .head (fun c => Text.isBlank c) (by decide) (Nat.le_succ n) (fun c hc => ?_) (.some ()) rfl (fun _ => rfl)
    (fun c s hc => ?_) fun r c s hc => ?_
  · have hskip (s : List Char) : skipBehind extended (c :: s) = skipSpace extended (s.dropWhile Text.isBlank) := by
      rw [skipBehind, List.head?_cons, Option.any_some, if_pos hc, List.dropWhile_cons_of_pos hc]
    simp only [hskip]
    exact (Local.dropWhile (by decide)).skipped id
  · simp [skipBehind, hc]
  · simp [skipBehind, hc]

theorem readCount?_eq (extended : Bool) (s : List Char) : readCount? extended s =
    (some ((), s.dropWhile Text.isBlank)).bind fun p => (some (readDigits extended (p.2.length + 1) p.2)).bind fun p =>
      (some ((), skipBehind extended p.2)).bind fun q => (countOf? p.1).map fun count => (count, q.2) := by
  have hlen := (List.dropWhile_suffix (l := s) Text.isBlank).length_le
  have hdigits : readDigits extended ((s.dropWhile Text.isBlank).length + 1) (s.dropWhile Text.isBlank) =
      readDigits extended s.length (s.dropWhile Text.isBlank) := readDigits_eq_of_length_le (Nat.le_succ _) hlen
  simp only [Option.bind_some, hdigits]
  unfold readCount? countOf?
  generalize readDigits extended s.length (s.dropWhile Text.isBlank) = p
  obtain ⟨ds, rest⟩ := p
  dsimp only
  cases Number.digits? ds with
  | none => rfl
  | some n => by_cases hn : n < UInt32.size <;> simp [hn, skipBehind]

theorem local_readCount? (extended : Bool) : Local 0 n (readCount? extended) fun _ => readCount? extended := by
  rw [funext (readCount?_eq extended)]
  exact (Local.dropWhile (by decide)).bind fun _ => (fuelled_readDigits extended).ofLength.bind fun ds =>
    (local_skipBehind extended).bind fun _ => .ofOption (countOf? ds)

/-- The end of the bounds of a repetition behind the upper one. -/
def readBoundsEnd? (first last : Nat) : List Char → Option ((Nat × Option Nat) × List Char)
  | '\x7d' :: r => if first ≤ last then some ((first, some last), r) else none
  | _ => none

/-- The upper bound of a repetition, behind the comma and the space there. -/
def readLastBound? (extended : Bool) (first : Nat) : List Char → Option ((Nat × Option Nat) × List Char)
  | '\x7d' :: r => some ((first, none), r)
  | s => (readCount? extended s).bind fun p => p.1.bind fun last => readBoundsEnd? first last p.2

/-- What follows the lower bound of a repetition. -/
def readBehindFirst? (extended : Bool) (first : Nat) : List Char → Option ((Nat × Option Nat) × List Char)
  | '\x7d' :: r => some ((first, some first), r)
  | ',' :: r => readLastBound? extended first (skipSpace extended r)
  | _ => none

theorem readBounds?_eq (extended : Bool) (s : List Char) :
    readBounds? extended s = (readCount? extended (skipSpace extended s)).bind fun p =>
      p.1.bind fun first => readBehindFirst? extended first p.2 := rfl

theorem readBounds?_of_nil (h : skipSpace extended s = []) : readBounds? extended s = none := by
  rw [readBounds?_eq, h]
  rfl

theorem local_readBoundsEnd? (first last : Nat) :
    Local 0 n (readBoundsEnd? first last) fun _ => readBoundsEnd? first last := by
  refine .consSelf rfl fun c => ?_
  by_cases hc : c = '\x7d'
  · subst hc
    simp only [readBoundsEnd?]
    split
    · exact .some _
    · exact .none
  · simp only [readBoundsEnd?, List.cons.injEq, hc, false_and, false_imp_iff, forall_const]
    exact .none

/-- What is read behind a number, if there is one. -/
theorem local_optionBind {S : Nat → List Char → Option (α × List Char)} (h : ∀ i, Local k n (S i) fun _ => S i)
    (o : Option Nat) : Local k n (fun s => o.bind fun i => S i s) fun _ s => o.bind fun i => S i s := by
  cases o with
  | none => exact .none
  | some i => exact h i

theorem local_readLastBound? (extended : Bool) (first : Nat) :
    Local 0 n (readLastBound? extended first) fun _ => readLastBound? extended first := by
  refine .headSelf (· = '\x7d') (by decide) (fun c hc => ?_)
    ((local_readCount? extended).bindSelf (local_optionBind (local_readBoundsEnd? first))) rfl fun c s hc => ?_
  · subst hc
    exact .some _
  · simp only [readLastBound?, List.cons.injEq, hc, false_and, false_imp_iff, forall_const]

theorem local_readBehindFirst? (extended : Bool) (first : Nat) :
    Local 0 n (readBehindFirst? extended first) fun _ => readBehindFirst? extended first := by
  refine .consSelf rfl fun c => ?_
  by_cases hclose : c = '\x7d'
  · subst hclose
    exact .some _
  by_cases hcomma : c = ','
  · subst hcomma
    exact (local_readLastBound? extended first).skip
  simp only [readBehindFirst?, List.cons.injEq, hclose, hcomma, false_and, false_imp_iff, forall_const]
  exact .none

theorem local_readBounds? (extended : Bool) : Local 0 n (readBounds? extended) fun _ => readBounds? extended := by
  rw [funext (readBounds?_eq extended)]
  exact (local_readCount? extended).skip.bindSelf (local_optionBind (local_readBehindFirst? extended))

/-- The bounds of a repetition are in order. -/
theorem readBounds?_ordered {b : Nat × Option Nat} (h : readBounds? extended s = some (b, rest)) :
    ∀ m, b.2 = some m → b.1 ≤ m := by
  rw [readBounds?_eq] at h
  obtain ⟨⟨first, t⟩, -, h⟩ := Option.bind_eq_some_iff.mp h
  obtain ⟨first, rfl, h⟩ := Option.bind_eq_some_iff.mp h
  dsimp only at h
  unfold readBehindFirst? at h
  split at h
  · cases h
    exact fun _ hm => Nat.le_of_eq (Option.some.inj hm)
  · unfold readLastBound? at h
    split at h
    · cases h
      exact nofun
    · obtain ⟨⟨last, v⟩, -, h⟩ := Option.bind_eq_some_iff.mp h
      obtain ⟨last, rfl, h⟩ := Option.bind_eq_some_iff.mp h
      dsimp only at h
      unfold readBoundsEnd? at h
      split at h
      · split at h
        · cases h
          exact fun m hm => Option.some.inj hm ▸ ‹first ≤ last›
        · cases h
      · cases h
  · cases h

/-! ## Hexadecimal numbers -/

theorem local_readHexDigits?_cons {m : Nat} (c : Char)
    (h : Local 0 n (readHexDigits? extended m) fun _ => readHexDigits? extended m) :
    Local 0 n (fun s => readHexDigits? extended (m + 1) (c :: s))
      fun _ s => readHexDigits? extended (m + 1) (c :: s) := by
  simp only [readHexDigits?]
  split
  · exact h.skip.map fun _ _ => rfl
  · exact .none

theorem local_readHexDigits? (extended : Bool) (m : Nat) :
    Local 0 n (readHexDigits? extended m) fun _ => readHexDigits? extended m := by
  induction m generalizing n with
  | zero => exact .some []
  | succ m ih => exact .consSelf rfl fun c => local_readHexDigits?_cons c ih

theorem fuelled_readHexBrace? (extended : Bool) : Fuelled 0 (readHexBrace? extended) :=
  .of_step (F := fun _ : Unit => readHexBrace? extended) (fun _ _ => .none) (fun _ m => by cases m <;> rfl)
    (fun n m f ih _ => by
      refine .cons (Nat.le_refl _) rfl (fun _ => rfl) fun c => ?_
      by_cases hb : c = '\x7d'
      · subst hb
        exact (Local.some []).skip
      · simp only [readHexBrace?]
        split
        · exact (ih ()).skip.map fun _ _ => rfl
        · exact .none) ()

theorem local_readHex? (extended : Bool) (w : Nat) :
    Local 0 n (readHex? extended (w + 1)) fun _ => readHex? extended (w + 1) := by
  have hchar (b : Bool) (ds : List Char) : Local 0 n
      (fun rest => ((Text.hexValue? ds).bind scalar?).bind fun c => some ((⟨c, b⟩ : Literal), rest))
      fun _ rest => ((Text.hexValue? ds).bind scalar?).bind fun c => some ((⟨c, b⟩ : Literal), rest) := by
    cases (Text.hexValue? ds).bind scalar? with
    | none => exact .none
    | some c => exact .some _
  refine .skipConsSelf extended (fun s => ?_) ?_ fun c hc => ?_
  · simp only [readHex?, skipSpace_skipSpace]
  · simp only [readHex?, skipSpace_nil]; rfl
  · by_cases hb : c = '\x7b'
    · subst hb
      simp only [readHex?, hc]
      exact (fuelled_readHexBrace? extended).skip.ofLength.bind fun ds => hchar false ds
    · have hdigits (s : List Char) : readHex? extended (w + 1) (c :: s) =
          (readHexDigits? extended (w + 1) (c :: s)).bind fun p =>
            ((Text.hexValue? p.1).bind scalar?).bind fun c => some (⟨c, w + 1 == 2⟩, p.2) := by
        simp only [readHex?, hc]
        split
        · exact absurd (List.cons.inj ‹_›).1 hb
        · rfl
      simp only [hdigits]
      exact (local_readHexDigits?_cons c (local_readHexDigits? extended w)).bind fun ds => hchar _ ds

/-! ## Properties and boundaries -/

theorem fuelled_readBraced? (extended : Bool) : Fuelled 0 (readBraced? extended) :=
  .of_step (F := fun _ : Unit => readBraced? extended) (fun _ _ => .none) (fun _ m => by cases m <;> rfl)
    (fun n m f ih _ => by
      refine .cons (Nat.le_refl _) rfl (fun _ => rfl) fun c => ?_
      by_cases hb : c = '\x7d'
      · subst hb
        exact .some []
      · simp only [readBraced?]
        exact (ih ()).skip.map fun _ _ => rfl) ()

theorem local_readProperty? (extended negated : Bool) :
    Local 0 n (readProperty? extended negated) fun _ => readProperty? extended negated := by
  refine .skipConsSelf extended (fun s => ?_) ?_ fun c hc => ?_
  · simp only [readProperty?, skipSpace_skipSpace]
  · simp only [readProperty?, skipSpace_nil]
  · by_cases hb : c = '\x7b'
    · subst hb
      simp only [readProperty?, hc]
      exact (fuelled_readBraced? extended).skip.ofLength.map
        (f := fun name => .property (queryOf name).1 (negated != (queryOf name).2)) fun _ _ => rfl
    · simp only [readProperty?, hc]
      split
      · exact .none
      · exact (Local.some _).skip

theorem fuelled_readBoundaryName? (extended : Bool) : Fuelled 0 (readBoundaryName? extended) :=
  .of_step (F := fun _ : Unit => readBoundaryName? extended) (fun _ _ => .none) (fun _ m => by cases m <;> rfl)
    (fun n m f ih _ => by
      refine .cons (Nat.le_refl _) rfl (fun _ => rfl) fun c => ?_
      simp only [readBoundaryName?]
      split
      · exact (ih ()).skip.map fun _ _ => rfl
      · split
        · exact .some []
        · exact .none) ()

/-! ## Escapes -/

theorem local_readEscape? (hc : c ≠ 'b') :
    Local 0 n (fun s => readEscape? extended (c :: s)) fun _ s => readEscape? extended (c :: s) := by
  simp only [readEscape?]
  split
  case h_14 => exact absurd rfl hc
  case h_18 =>
    split
    · exact .some _
    · cases controlEscape? c with
      | none => exact .none
      | some d => exact .some _
  all_goals first
    | exact .some _
    | exact (local_readHex? extended _).map fun _ _ => rfl
    | exact local_readProperty? extended _

/-- What a word boundary can leave of the longer text: less than what stands behind the parenthesis, or braces that
hold no name and, as bounds of a repetition, leave less than that. -/
def Adrift (extended : Bool) (rest r : List Char) : Prop :=
  rest.length ≤ r.length ∨
    ∃ s, rest = '\x7b' :: s ∧ ∀ b rest', readBounds? extended s = some (b, rest') → rest'.length ≤ r.length

/-- The condition of a name. -/
def boundaryOf? (name : List Char) : Option AssertionName :=
  if name == "start".toList then some .wordStart
  else if name == "end".toList then some .wordEnd
  else if name == "start-half".toList then some .wordStartHalf
  else if name == "end-half".toList then some .wordEndHalf
  else none

/-- A condition by its name, behind the brace and the space there. -/
def readNamedBoundary? (extended : Bool) (s : List Char) : Option (AssertionName × List Char) :=
  (readBoundaryName? extended (s.length + 1) s).bind fun p => (boundaryOf? p.1).map fun a => (a, p.2)

theorem local_readNamedBoundary? (extended : Bool) :
    Local 0 n (readNamedBoundary? extended) fun _ => readNamedBoundary? extended :=
  (fuelled_readBoundaryName? extended).ofLength.bindSelf fun name => .ofOption (boundaryOf? name)

theorem readBoundary?_of_ne (hc : c ≠ '\x7b') (s : List Char) :
    readBoundary? extended (c :: s) = some (.wordBoundary, c :: s) := by simp [readBoundary?, hc]

theorem readBoundary?_of_nil (h : skipSpace extended s = []) : readBoundary? extended ('\x7b' :: s) = none := by
  simp only [readBoundary?, h]

theorem readBoundary?_of_cons (h : skipSpace extended s = c :: t) : readBoundary? extended ('\x7b' :: s) =
    if c.isAlpha || c == '-' then readNamedBoundary? extended (c :: t) else some (.wordBoundary, '\x7b' :: s) := by
  simp only [readBoundary?, h]
  split
  · unfold readNamedBoundary? boundaryOf?
    simp only [List.length_cons]
    cases readBoundaryName? extended (t.length + 1 + 1) (c :: t) with
    | none => rfl
    | some p => simp only [Option.bind_some, apply_ite (Option.map _), Option.map_some, Option.map_none]
  · rfl

theorem readBoundary?_shrinks (extended : Bool) (s : List Char) : Shrinks s (readBoundary? extended s) := by
  cases s with
  | nil => exact .some List.suffix_rfl
  | cons c s =>
    by_cases hc : c = '\x7b'
    · subst hc
      cases hs : skipSpace extended s with
      | nil =>
        rw [readBoundary?_of_nil hs]
        exact .none
      | cons c t =>
        rw [readBoundary?_of_cons hs]
        split
        · have hname := (local_readNamedBoundary? (n := 0) extended).shrinks [] (c :: t)
          exact (hname.mono (hs ▸ skipSpace_suffix extended s)).cons
        · exact .some List.suffix_rfl
    · rw [readBoundary?_of_ne hc]
      exact .some List.suffix_rfl

theorem closed_readBoundary? (extended : Bool) (s : List Char) :
    Closed (fun _ rest r => Adrift extended rest r) (readBoundary? extended s)
      fun r => readBoundary? extended (s ++ ')' :: r) := by
  cases s with
  | nil => exact .some AssertionName.wordBoundary []
  | cons c s =>
    by_cases hc : c = '\x7b'
    · subst hc
      cases hs : skipSpace extended s with
      | nil =>
        rw [readBoundary?_of_nil hs]
        refine .lacking rfl fun r a rest ha => ?_
        rw [List.cons_append] at ha
        cases ht : skipSpace extended (s ++ ')' :: r) with
        | nil =>
          rw [readBoundary?_of_nil ht] at ha
          cases ha
        | cons c t =>
          rw [readBoundary?_of_cons ht] at ha
          split at ha
          · -- A name starts behind the parenthesis, which is no letter.
            rename_i hletter
            have hlen := ((local_readNamedBoundary? (n := 0) extended).shrinks [] _).length_le ha
            rcases skipSpace_append_of_eq_nil hs r with heq | hle
            · obtain ⟨rfl, -⟩ := List.cons.inj (ht.symm.trans heq)
              exact absurd hletter (by decide)
            · exact .inl (hlen.trans (ht ▸ hle))
          · -- The braces are left to be bounds, which need what stands behind the parenthesis.
            cases ha
            refine .inr ⟨s ++ ')' :: r, rfl, ?_⟩
            cases (local_readBounds? extended).closed s (Nat.lt_succ_self _) with
            | seen hb => rw [readBounds?_of_nil hs] at hb; cases hb
            | hidden hb => rw [readBounds?_of_nil hs] at hb; cases hb
            | lacking _ hlost => exact hlost r
      | cons c t =>
        simp only [List.cons_append, readBoundary?_of_cons hs, readBoundary?_of_cons (skipSpace_append_of_eq_cons hs _)]
        split
        · exact ((local_readNamedBoundary? extended).closed (c :: t) (Nat.lt_succ_self _)).mono fun _ _ _ h => .inl h
        · exact .some AssertionName.wordBoundary ('\x7b' :: s)
    · simp only [List.cons_append, readBoundary?_of_ne hc]
      exact .some AssertionName.wordBoundary (c :: s)

/-! ## Groups -/

theorem readFlags?_shrinks (negated : Bool) (changes : FlagChanges) (s : List Char) :
    Shrinks s ((readFlags? negated changes s).map paired) := by
  fun_induction readFlags? negated changes s
  all_goals first
    | exact .none
    | exact (Shrinks.some List.suffix_rfl).cons
    | exact Shrinks.cons ‹_›

theorem local_readFlags? (negated : Bool) (changes : FlagChanges) :
    Local 0 n (fun s => (readFlags? negated changes s).map paired)
      fun _ s => (readFlags? negated changes s).map paired := by
  induction n generalizing negated changes with
  | zero => exact .zero (fun _ => rfl) fun _ => readFlags?_shrinks negated changes
  | succ n ih =>
    refine .cons (Nat.le_refl _) rfl (fun _ => rfl) fun c => ?_
    by_cases hcolon : c = ':'
    · subst hcolon
      exact .some (changes, true)
    by_cases hparen : c = ')'
    · subst hparen
      exact .some (changes, false)
    by_cases hsign : c = '-'
    · subst hsign
      have heq (s : List Char) : (readFlags? negated changes ('-' :: s)).map paired =
          if s.head?.any (fun d => negated || d == ':' || d == ')') then none
          else (readFlags? true changes s).map paired := by
        cases s with
        | nil => rfl
        | cons d s =>
          exact apply_ite (Option.map _) (negated || d == ':' || d == ')' : Bool) none (readFlags? true changes (d :: s))
      simp only [heq]
      exact (ih true changes).refuse _ rfl
    simp only [readFlags?, beq_iff_eq, hcolon, hparen, hsign, if_false]
    cases flagOf? c with
    | none => exact .none
    | some f =>
      dsimp only
      split
      · exact .none
      · exact ih _ _

theorem isNameChar_paren (atStart : Bool) : isNameChar atStart ')' = false := by
  cases atStart <;> rfl

/-- Whether a text is the name of a group. -/
def isGroupName : List Char → Bool
  | [] => false
  | c :: cs => isNameChar true c && cs.all (isNameChar false)

theorem isGroupName_of_paren (s r : List Char) : isGroupName (s ++ ')' :: r) = false := by
  cases s with
  | nil => simp [isGroupName, isNameChar_paren]
  | cons c s => simp [isGroupName, isNameChar_paren]

theorem readGroupName?_append (h : '>' ∉ s) (r : List Char) :
    readGroupName? (s ++ '>' :: r) = if isGroupName s then some (String.ofList s, r) else none := by
  have hne (c : Char) (hc : c ∈ s) : (c != '>') = true := bne_iff_ne.mpr fun heq => h (heq ▸ hc)
  have htake : (s ++ '>' :: r).takeWhile (· != '>') = s := by
    rw [List.takeWhile_append_of_pos hne, List.takeWhile_cons_of_neg (by simp), List.append_nil]
  have hdrop : (s ++ '>' :: r).dropWhile (· != '>') = '>' :: r := by
    rw [List.dropWhile_append_of_pos hne, List.dropWhile_cons_of_neg (by simp)]
  unfold readGroupName?
  simp only [htake, hdrop]
  cases s <;> rfl

theorem readGroupName?_of_not_mem (h : '>' ∉ s) : readGroupName? s = none := by
  have hdrop : s.dropWhile (· != '>') = [] :=
    List.dropWhile_eq_nil_iff.2 fun c hc => bne_iff_ne.mpr fun heq => h (heq ▸ hc)
  unfold readGroupName?
  simp only [hdrop]
  cases s.takeWhile (· != '>') <;> rfl

theorem local_readGroupName? : Local 0 n readGroupName? fun _ => readGroupName? where
  nil _ := rfl
  shrinks _ s := by
    by_cases h : '>' ∈ s
    · obtain ⟨u, v, rfl, hu⟩ := List.eq_append_cons_of_mem h
      rw [readGroupName?_append hu]
      split
      · exact .some ⟨u ++ ['>'], by simp⟩
      · exact .none
    · rw [readGroupName?_of_not_mem h]
      exact .none
  closed s _ := by
    by_cases h : '>' ∈ s
    · obtain ⟨u, v, rfl, hu⟩ := List.eq_append_cons_of_mem h
      simp only [List.append_assoc, List.cons_append, readGroupName?_append hu]
      split
      · exact .some _ v
      · exact .none fun _ => rfl
    · rw [readGroupName?_of_not_mem h]
      refine .none fun r => ?_
      by_cases hr : '>' ∈ r
      · obtain ⟨u, v, rfl, hu⟩ := List.eq_append_cons_of_mem hr
        rw [← List.cons_append, ← List.append_assoc, readGroupName?_append (by simp [h, hu]), isGroupName_of_paren]
        rfl
      · exact readGroupName?_of_not_mem (by simp [h, hr])

/-- A named group, behind the opening angle bracket. -/
theorem local_readNamed? : Local 0 n (fun s => (readGroupName? s).map fun p => (Opening.group .capture (some p.1), p.2))
    fun _ s => (readGroupName? s).map fun p => (Opening.group .capture (some p.1), p.2) :=
  local_readGroupName?.map (f := fun name => Opening.group .capture (some name)) fun _ _ => rfl

/-- What flags open, in front of a colon or a closing parenthesis. -/
def flagsOpening? : FlagChanges × Bool → Option Opening
  | (changes, true) => some (.group (.plain changes) none)
  | ([], false) => none
  | (changes, false) => some (.flags changes)

/-- What flags open, behind the question mark. -/
def readPlain? (s : List Char) : Option (Opening × List Char) :=
  ((readFlags? false [] s).map paired).bind fun p => (flagsOpening? p.1).map fun o => (o, p.2)

theorem local_readPlain? : Local 0 n readPlain? fun _ => readPlain? :=
  (local_readFlags? false []).bindSelf fun p => .ofOption (flagsOpening? p)

theorem readOpening?_plain (hP : ∀ t, s ≠ 'P' :: '<' :: t) (hname : ∀ t, s ≠ '<' :: t) :
    readOpening? false ('?' :: s) = readPlain? s := by
  unfold readOpening? readPlain?
  simp only [skipSpace]
  split
  · simp_all
  · simp_all
  · simp_all
  · simp_all
  · rename_i heq
    obtain ⟨-, rfl⟩ := List.cons.inj heq
    cases readFlags? false [] s with
    | none => rfl
    | some p =>
      obtain ⟨changes, b, rest⟩ := p
      cases b <;> cases changes <;> rfl
  · simp_all

theorem readGroupName?_cons_of_not (hc : isNameChar true c = false) (s : List Char) :
    readGroupName? (c :: s) = none := by
  by_cases h : '>' ∈ c :: s
  · obtain ⟨u, v, hs, hu⟩ := List.eq_append_cons_of_mem h
    have hname : isGroupName u = false := by
      cases u with
      | nil => rfl
      | cons d u =>
        obtain rfl : c = d := (List.cons.inj hs).1
        simp [isGroupName, hc]
    rw [hs, readGroupName?_append hu, hname]
    rfl
  · exact readGroupName?_of_not_mem h

/-- What looks like a condition on the text before it is no group name either. -/
theorem readOpening?_named (s : List Char) : readOpening? false ('?' :: '<' :: s) =
    (readGroupName? s).map fun p => (Opening.group .capture (some p.1), p.2) := by
  cases s with
  | nil => rfl
  | cons c s =>
    by_cases hafter : c = '='
    · rw [hafter, readGroupName?_cons_of_not (by decide)]
      rfl
    by_cases hnot : c = '!'
    · rw [hnot, readGroupName?_cons_of_not (by decide)]
      rfl
    unfold readOpening?
    simp only [skipSpace]
    split
    · simp_all
    · simp_all
    · simp_all
    · simp_all
    · rename_i hne heq
      exact absurd (List.cons.inj heq).2.symm (hne _)
    · simp_all

theorem local_readOpening? (extended : Bool) : Local 0 n (readOpening? extended) fun _ => readOpening? extended := by
  have hskip (s : List Char) : readOpening? extended s = readOpening? false (skipSpace extended s) := rfl
  rw [funext hskip]
  refine Local.skip (F := readOpening? false) (G := fun _ => readOpening? false) ?_
  refine .headSelf (· = '?') (by decide) (fun c hc => ?_) (.some (.group .capture none)) rfl fun c s hc => ?_
  · subst hc
    refine .headSelf (fun c => c = 'P' ∨ c = '<') (by decide) (fun c hc => ?_) local_readPlain? rfl fun c s hc => ?_
    · rcases hc with rfl | rfl
      · refine .consSelf rfl fun c => ?_
        by_cases hname : c = '<'
        · subst hname
          exact local_readNamed?
        · have hnone (s : List Char) : readOpening? false ('?' :: 'P' :: c :: s) = none :=
            readOpening?_plain (by simp [hname]) (by simp)
          simp only [hnone]
          exact .none
      · simp only [readOpening?_named]
        exact local_readNamed?
    · exact readOpening?_plain (by simp [not_or.mp hc]) (by simp [not_or.mp hc])
  · simp [readOpening?, skipSpace, hc]

end FormTemplate.Pattern
