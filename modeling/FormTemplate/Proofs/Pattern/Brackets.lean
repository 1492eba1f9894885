import FormTemplate.Proofs.Pattern.Tokens

/-!
# Sets in brackets in front of a closing parenthesis

A closing parenthesis inside brackets is a member of the set. So brackets that are open at the end of a text take the
parenthesis, and whatever they make of it ends behind it, at a bracket of the longer text.

The start of brackets and what follows a member look one character ahead, and may come to stop at the parenthesis
itself: they are local up to that character, and the bracket at the end makes up for it.

* `readAsciiClass?_paren` : a class between colons, whose name holds no parenthesis.
* `local_readClassRange?`, `local_readClassOpen?` : members and ranges, and the start of brackets.
* `ClassPart`, `readClassBody?_of_cons` : one round inside brackets.
* `fuelled_readClassBody?`, `local_readClass?` : brackets inside brackets, and a whole set.
-/

set_option autoImplicit false

namespace FormTemplate.Pattern

variable {α : Type} {extended : Bool} {c : Char} {n k : Nat} {rest s t : List Char}

/-! ## Classes between colons -/

/-- A class by its name, up to the colon and the bracket at its end. -/
def readAsciiName? (negated : Bool) (s : List Char) : Option (ClassNode × List Char) :=
  let name := String.ofList (s.takeWhile (· != ':'))
  match s.dropWhile (· != ':') with
  | ':' :: ']' :: rest => if asciiClassNames.contains name then some (.ascii name negated, rest) else none
  | _ => none

theorem readAsciiClass?_colon (s : List Char) : readAsciiClass? (':' :: s) =
    match s with
    | '^' :: t => readAsciiName? true t
    | _ => readAsciiName? false s := by
  cases s with
  | nil => rfl
  | cons c s =>
    by_cases hc : c = '^'
    · subst hc
      rfl
    · simp only [readAsciiClass?, readAsciiName?]
      split <;> simp_all

theorem readAsciiName?_append (negated : Bool) (h : ':' ∉ s) (r : List Char) :
    readAsciiName? negated (s ++ ':' :: r) =
      match r with
      | ']' :: rest =>
        if asciiClassNames.contains (String.ofList s) then some (.ascii (String.ofList s) negated, rest) else none
      | _ => none := by
  have hne (c : Char) (hc : c ∈ s) : (c != ':') = true := bne_iff_ne.mpr fun heq => h (heq ▸ hc)
  have htake : (s ++ ':' :: r).takeWhile (· != ':') = s := by
    rw [List.takeWhile_append_of_pos hne, List.takeWhile_cons_of_neg (by simp), List.append_nil]
  have hdrop : (s ++ ':' :: r).dropWhile (· != ':') = ':' :: r := by
    rw [List.dropWhile_append_of_pos hne, List.dropWhile_cons_of_neg (by simp)]
  unfold readAsciiName?
  simp only [htake, hdrop]
  cases r with
  | nil => rfl
  | cons c r =>
    by_cases hc : c = ']'
    · subst hc
      rfl
    · simp [hc]

theorem readAsciiName?_of_not_mem (negated : Bool) (h : ':' ∉ s) : readAsciiName? negated s = none := by
  have hdrop : s.dropWhile (· != ':') = [] :=
    List.dropWhile_eq_nil_iff.2 fun c hc => bne_iff_ne.mpr fun heq => h (heq ▸ hc)
  unfold readAsciiName?
  simp only [hdrop]

theorem not_contains_paren (s r : List Char) : asciiClassNames.contains (String.ofList (s ++ ')' :: r)) = false := by
  have hnames : ∀ name ∈ asciiClassNames, ')' ∉ name.toList := by decide
  refine Bool.eq_false_iff.mpr fun h => hnames _ (List.contains_iff_mem.mp h) ?_
  simp

/-- No name of a class goes on behind a parenthesis. -/
theorem readAsciiName?_paren (negated : Bool) (s r : List Char) : readAsciiName? negated (s ++ ')' :: r) =
    (readAsciiName? negated s).map fun p => (p.1, p.2 ++ ')' :: r) := by
  by_cases h : ':' ∈ s
  · obtain ⟨u, v, rfl, hu⟩ := List.eq_append_cons_of_mem h
    simp only [List.append_assoc, List.cons_append, readAsciiName?_append negated hu]
    cases v with
    | nil => rfl
    | cons c v =>
      by_cases hc : c = ']'
      · subst hc
        simp only [List.cons_append]
        split <;> rfl
      · simp [hc]
  · rw [readAsciiName?_of_not_mem negated h]
    by_cases hr : ':' ∈ r
    · obtain ⟨u, v, rfl, hu⟩ := List.eq_append_cons_of_mem hr
      rw [← List.cons_append, ← List.append_assoc, readAsciiName?_append negated (by simp [h, hu]), not_contains_paren]
      split <;> rfl
    · exact readAsciiName?_of_not_mem negated (by simp [h, hr])

theorem readAsciiName?_shrinks (negated : Bool) (s : List Char) : Shrinks s (readAsciiName? negated s) := by
  by_cases h : ':' ∈ s
  · obtain ⟨u, v, rfl, hu⟩ := List.eq_append_cons_of_mem h
    rw [readAsciiName?_append negated hu]
    split
    · rename_i rest
      split
      · exact .some ⟨u ++ [':', ']'], by simp⟩
      · exact .none
    · exact .none
  · rw [readAsciiName?_of_not_mem negated h]
    exact .none

theorem readAsciiClass?_shrinks (s : List Char) : Shrinks s (readAsciiClass? s) := by
  cases s with
  | nil => exact .none
  | cons c s =>
    by_cases hc : c = ':'
    · subst hc
      rw [readAsciiClass?_colon]
      split
      · exact (readAsciiName?_shrinks true _).cons.cons
      · exact (readAsciiName?_shrinks false _).cons
    · have hnone : readAsciiClass? (c :: s) = none := by simp [readAsciiClass?, hc]
      rw [hnone]
      exact .none

theorem readAsciiClass?_paren (s r : List Char) : readAsciiClass? (s ++ ')' :: r) =
    (readAsciiClass? s).map fun p => (p.1, p.2 ++ ')' :: r) := by
  cases s with
  | nil => rfl
  | cons c s =>
    by_cases hc : c = ':'
    · subst hc
      simp only [List.cons_append, readAsciiClass?_colon]
      cases s with
      | nil => exact readAsciiName?_paren false [] r
      | cons c s =>
        by_cases hneg : c = '^'
        · subst hneg
          exact readAsciiName?_paren true s r
        · simpa [hneg] using readAsciiName?_paren false (c :: s) r
    · simp [readAsciiClass?, hc]

/-! ## Members -/

/-- A member of a set and what is read behind it, where a condition is no member. -/
theorem local_readClassItem?_bind {S : Primitive → List Char → Option (α × List Char)}
    (hassertion : ∀ a s, S (.assertion a) s = none) (h : ∀ x, Local k n (S x) fun _ => S x) (c : Char) :
    Local k n (fun s => (readClassItem? extended (c :: s)).bind fun p => S p.1 p.2)
      fun _ s => (readClassItem? extended (c :: s)).bind fun p => S p.1 p.2 := by
  by_cases hc : c = '\\'
  · subst hc
    refine .consSelf rfl fun c => ?_
    by_cases hb : c = 'b'
    · subst hb
      have hnone (s : List Char) : ((readClassItem? extended ('\\' :: 'b' :: s)).bind fun p => S p.1 p.2) = none := by
        simp only [readClassItem?, readEscape?, Option.bind_map, Function.comp_def, hassertion]
        cases readBoundary? extended s <;> rfl
      simp only [hnone]
      exact .none
    · exact ((local_readEscape? hb).mono (Nat.zero_le k) (Nat.le_refl n)).bindSelf h
  · have hitem (s : List Char) : readClassItem? extended (c :: s) = some (.literal ⟨c, false⟩, s) := by
      simp [readClassItem?]
    simp only [hitem, Option.bind_some]
    exact h _

/-- The range between two members. -/
def rangeOf? : Primitive → Primitive → Option ClassNode
  | .literal a, .literal b => if a.char.toNat ≤ b.char.toNat then some (.range a b) else none
  | _, _ => none

/-- The end of a range, behind the hyphen and the space there. -/
def readRangeEnd? (extended : Bool) (first : Primitive) (s : List Char) : Option (ClassNode × List Char) :=
  (readClassItem? extended s).bind fun p => (rangeOf? first p.1).map fun node => (node, p.2)

/-- What follows a member. -/
def readBehindItem? (extended : Bool) (first : Primitive) : List Char → Option (ClassNode × List Char)
  | [] => none
  | '-' :: t =>
    if peekBehind extended ('-' :: t) == some ']' || peekBehind extended ('-' :: t) == some '-' then
      first.classNode?.map fun node => (node, '-' :: t)
    else readRangeEnd? extended first (skipSpace extended t)
  | s => first.classNode?.map fun node => (node, s)

theorem readClassRange?_eq (extended : Bool) (s : List Char) : readClassRange? extended s =
    (readClassItem? extended s).bind fun p => readBehindItem? extended p.1 (skipSpace extended p.2) := by
  have hclass (o : Option ClassNode) (s : List Char) : (do let node ← o; some (node, s)) = o.map fun node => (node, s) :=
    Option.map_eq_bind.symm
  unfold readClassRange?
  congr 1
  funext ⟨first, r⟩
  dsimp only
  cases hr : skipSpace extended r with
  | nil => rfl
  | cons c t =>
    by_cases hc : c = '-'
    · subst hc
      simp only [readBehindItem?]
      split
      · exact hclass _ _
      · unfold readRangeEnd?
        cases skipSpace extended t with
        | nil => rfl
        | cons c t =>
          refine congrArg (readClassItem? extended (c :: t)).bind (funext fun p => ?_)
          cases first <;> cases p.1
          case literal.literal a b =>
            unfold rangeOf?
            dsimp only
            split <;> rfl
          all_goals rfl
    · simp [readBehindItem?, hc, hclass]

theorem local_readRangeEnd? (extended : Bool) (first : Primitive) :
    Local 0 n (readRangeEnd? extended first) fun _ => readRangeEnd? extended first := by
  refine .consSelf rfl fun c => ?_
  refine local_readClassItem?_bind (S := fun last s => (rangeOf? first last).map fun node => (node, s)) (fun a s => ?_)
    (fun last => .ofOption (rangeOf? first last)) c
  cases first <;> rfl

/-- The next character but one is the parenthesis where there is none. -/
theorem peekBehind_paren (extended : Bool) (c : Char) (s r : List Char) :
    peekBehind extended (c :: (s ++ ')' :: r)) = (peekBehind extended (c :: s)).or (some ')') := by
  have hhead (s : List Char) : (s ++ ')' :: r).head? = s.head?.or (some ')') := by cases s <;> rfl
  cases extended with
  | false => exact hhead s
  | true =>
    have hdrop := dropWhile_paren (show Text.isBlank ')' = false from rfl)
    simp only [peekBehind, Bool.not_true, Bool.false_eq_true, if_false, hdrop]
    generalize s.dropWhile Text.isBlank = s
    by_cases hs : ∃ t, s = '#' :: t
    · obtain ⟨t, rfl⟩ := hs
      simp only [List.cons_append, hdrop, hhead]
    · cases s with
      | nil => rfl
      | cons d s =>
        have hd : d ≠ '#' := fun h => hs ⟨s, by rw [h]⟩
        simp [hd]

theorem readBehindItem?_hyphen (first : Primitive) (s : List Char) : readBehindItem? extended first ('-' :: s) =
    if (peekBehind extended ('-' :: s)).any fun c => c == ']' || c == '-' then
      first.classNode?.map fun node => (node, '-' :: s)
    else readRangeEnd? extended first (skipSpace extended s) := by
  simp only [readBehindItem?]
  cases peekBehind extended ('-' :: s) <;> rfl

theorem readBehindItem?_of_ne (hc : c ≠ '-') (first : Primitive) (s : List Char) :
    readBehindItem? extended first (c :: s) = first.classNode?.map fun node => (node, c :: s) := by
  simp [readBehindItem?, hc]

theorem local_readBehindItem? (extended : Bool) (first : Primitive) :
    Local 1 n (readBehindItem? extended first) fun _ => readBehindItem? extended first := by
  have hnode : Local 1 n (fun s => first.classNode?.map fun node => (node, s))
      fun _ s => first.classNode?.map fun node => (node, s) := .ofOption first.classNode?
  have hend : Local 1 n (fun s => readRangeEnd? extended first (skipSpace extended s))
      fun _ s => readRangeEnd? extended first (skipSpace extended s) :=
    (local_readRangeEnd? extended first).skip.mono (Nat.zero_le 1) (Nat.le_refl n)
  refine ⟨fun _ => rfl, fun r s => ?_, fun s hs => ?_⟩
  · cases s with
    | nil => exact .none
    | cons c s =>
      by_cases hc : c = '-'
      · subst hc
        rw [readBehindItem?_hyphen]
        split
        · exact hnode.shrinks r ('-' :: s)
        · exact (hend.shrinks r s).cons
      · rw [readBehindItem?_of_ne hc]
        exact hnode.shrinks r (c :: s)
  · cases s with
    | nil =>
      -- The parenthesis is no hyphen, so that the member is followed by it.
      refine .lacking rfl fun r b rest hb => ?_
      rw [List.nil_append, readBehindItem?_of_ne (by decide)] at hb
      exact (hnode.shrinks r (')' :: r)).length_le hb
    | cons c s =>
      by_cases hc : c = '-'
      · subst hc
        have hpeek (r : List Char) : ((peekBehind extended ('-' :: (s ++ ')' :: r))).any fun c => c == ']' || c == '-') =
            (peekBehind extended ('-' :: s)).any fun c => c == ']' || c == '-' := by
          rw [peekBehind_paren]
          cases peekBehind extended ('-' :: s) <;> rfl
        simp only [List.cons_append, readBehindItem?_hyphen, hpeek]
        split
        · exact hnode.closed ('-' :: s) hs
        · exact hend.closed s (Nat.lt_of_succ_lt hs)
      · simp only [List.cons_append, readBehindItem?_of_ne hc]
        exact hnode.closed (c :: s) hs

theorem local_readClassRange? (c : Char) : Local 1 n (fun s => readClassRange? extended (c :: s))
    fun _ s => readClassRange? extended (c :: s) := by
  simp only [readClassRange?_eq]
  refine local_readClassItem?_bind (S := fun first s => readBehindItem? extended first (skipSpace extended s))
    (fun a s => ?_) (fun first => (local_readBehindItem? extended first).skip) c
  cases skipSpace extended s with
  | nil => rfl
  | cons c s =>
    by_cases hc : c = '-'
    · subst hc
      rw [readBehindItem?_hyphen]
      split
      · rfl
      · unfold readRangeEnd?
        cases readClassItem? extended (skipSpace extended s) <;> rfl
    · exact readBehindItem?_of_ne hc _ s

/-! ## The start of brackets -/

theorem readHyphens?_hyphen (m : Nat) (s : List Char) : readHyphens? extended (m + 1) ('-' :: s) =
    (needing (readHyphens? extended m) (skipSpace extended s)).map fun p => (.literal ⟨'-', false⟩ :: p.1, p.2) := by
  rw [readHyphens?]
  cases skipSpace extended s <;> rfl

/-- Hyphens are read to their end with more than enough fuel. -/
theorem readHyphens?_eq_of_length_le {m l : Nat} (hm : s.length ≤ m) (hl : s.length ≤ l) :
    readHyphens? extended (m + 1) s = readHyphens? extended (l + 1) s := by
  induction m generalizing l s with
  | zero =>
    obtain rfl := List.length_eq_zero_iff.mp (Nat.le_zero.mp hm)
    rfl
  | succ m ih =>
    cases s with
    | nil => rfl
    | cons c s =>
      by_cases hc : c = '-'
      · subst hc
        obtain ⟨l, rfl⟩ : ∃ i, l = i + 1 := ⟨l - 1, by rw [List.length_cons] at hl; omega⟩
        have hs := (skipSpace_suffix extended s).length_le
        simp only [List.length_cons, Nat.add_le_add_iff_right] at hm hl
        rw [readHyphens?_hyphen, readHyphens?_hyphen]
        cases ht : skipSpace extended s with
        | nil => rfl
        | cons d t => simp only [needing, ih (ht ▸ hs.trans hm) (ht ▸ hs.trans hl)]
      · simp [readHyphens?, hc]

theorem fuelled_readHyphens? (extended : Bool) : Fuelled 1 fun m => readHyphens? extended (m + 1) :=
  .of_step (F := fun (_ : Unit) m => readHyphens? extended (m + 1)) (fun _ s => by
      unfold readHyphens?
      split
      · split
        · exact .none
        · exact .none
      · exact .some List.suffix_rfl)
    (fun _ m => rfl)
    (fun n m f ih _ => by
      refine .head (· = '-') (by decide) (Nat.le_refl _) (fun c hc => ?_) (.some []) rfl (fun _ => rfl)
        (fun c s hc => by simp [readHyphens?, hc]) fun _ c s hc => by simp [readHyphens?, hc]
      subst hc
      simp only [readHyphens?_hyphen]
      exact ((ih ()).needing Nat.zero_lt_one).skip.map fun _ _ => rfl) ()

/-- What follows the hyphens at the start of brackets. -/
def readBehindHyphens? (extended negated : Bool) (hyphens : List ClassNode) (s : List Char) :
    Option (Bool × List ClassNode × List Char) :=
  match hyphens, s with
  | _, [] => none
  | [], ']' :: r =>
    match skipSpace extended r with
    | [] => none
    | r => some (negated, [.literal ⟨']', false⟩], r)
  | _, _ => some (negated, hyphens, s)

/-- The start of brackets behind the sign of a negation, if there is one. -/
def readClassStart? (extended negated : Bool) (s : List Char) : Option (Bool × List ClassNode × List Char) :=
  (readHyphens? extended (s.length + 1) s).bind fun p => readBehindHyphens? extended negated p.1 p.2

/-- The start of brackets, with the sign of a negation if there is one. -/
def readSignedStart? (extended : Bool) : List Char → Option (Bool × List ClassNode × List Char)
  | '^' :: s => readClassStart? extended true (skipSpace extended s)
  | s => readClassStart? extended false s

theorem readBehindHyphens?_of_ne {negated : Bool} {hyphens : List ClassNode} (h : hyphens ≠ [] ∨ c ≠ ']')
    (s : List Char) : readBehindHyphens? extended negated hyphens (c :: s) = some (negated, hyphens, c :: s) := by
  unfold readBehindHyphens?
  split <;> simp_all

/-- A bracket at the start is a member, if anything stands behind it. -/
theorem readBehindHyphens?_bracket (negated : Bool) (s : List Char) :
    (readBehindHyphens? extended negated [] (']' :: s)).map paired =
      (needing (fun s => some ((), s)) (skipSpace extended s)).map
        fun p => ((negated, [.literal ⟨']', false⟩]), p.2) := by
  simp only [readBehindHyphens?]
  cases skipSpace extended s <;> rfl

theorem readSignedStart?_of_ne (hc : c ≠ '^') (s : List Char) :
    readSignedStart? extended (c :: s) = readClassStart? extended false (c :: s) := by
  unfold readSignedStart?
  split
  · exact absurd (List.cons.inj ‹_›).1 hc
  · rfl

theorem readClassOpen?_eq (extended : Bool) (s : List Char) :
    readClassOpen? extended s = readSignedStart? extended (skipSpace extended s) := by
  unfold readClassOpen?
  cases skipSpace extended s with
  | nil => rfl
  | cons c t =>
    by_cases hc : c = '^'
    · subst hc
      rfl
    · rw [readSignedStart?_of_ne hc]
      dsimp only
      split
      · exact absurd (List.cons.inj ‹c :: t = _›).1 hc
      · rfl

theorem local_readBehindHyphens? (extended negated : Bool) (hyphens : List ClassNode) :
    Local 1 n (fun s => (readBehindHyphens? extended negated hyphens s).map paired)
      fun _ s => (readBehindHyphens? extended negated hyphens s).map paired := by
  by_cases hh : hyphens = []
  · subst hh
    have heq (s : List Char) : (readBehindHyphens? extended negated [] s).map paired = needing (fun s =>
        if s.head? = some ']' then (readBehindHyphens? extended negated [] s).map paired
        else some ((negated, []), s)) s := by
      cases s with
      | nil => rfl
      | cons c s =>
        by_cases hc : c = ']'
        · simp [needing, hc]
        · simp [needing, hc, readBehindHyphens?_of_ne, paired]
    rw [funext heq]
    refine Local.needing ?_ Nat.zero_lt_one
    refine .headSelf (· = ']') (by decide) (fun c hc => ?_) (.some (negated, [])) rfl fun c s hc => by simp [hc]
    subst hc
    simp only [List.head?_cons, if_true, readBehindHyphens?_bracket]
    exact ((Local.some ()).needing Nat.zero_lt_one).skip.map (f := fun _ => (negated, [.literal ⟨']', false⟩]))
      fun _ _ => rfl
  · have heq (s : List Char) : (readBehindHyphens? extended negated hyphens s).map paired =
        needing (fun s => some ((negated, hyphens), s)) s := by
      cases s with
      | nil => cases hyphens <;> rfl
      | cons c s => rw [readBehindHyphens?_of_ne (.inl hh)]; rfl
    rw [funext heq]
    exact (Local.some _).needing Nat.zero_lt_one

theorem local_readClassStart? (extended negated : Bool) :
    Local 1 n (fun s => (readClassStart? extended negated s).map paired)
      fun _ s => (readClassStart? extended negated s).map paired := by
  have heq (s : List Char) : (readClassStart? extended negated s).map paired =
      (readHyphens? extended (s.length + 1 + 1) s).bind
        fun p => (readBehindHyphens? extended negated p.1 p.2).map paired := by
    rw [readClassStart?, readHyphens?_eq_of_length_le (Nat.le_refl s.length) (Nat.le_succ _), Option.map_bind]
    rfl
  simp only [heq]
  exact (fuelled_readHyphens? extended).ofLength.bindSelf (local_readBehindHyphens? extended negated)

theorem local_readClassOpen? (extended : Bool) :
    Local 1 n (fun s => (readClassOpen? extended s).map paired)
      fun _ s => (readClassOpen? extended s).map paired := by
  simp only [readClassOpen?_eq]
  refine Local.skip (F := fun s => (readSignedStart? extended s).map paired)
    (G := fun _ s => (readSignedStart? extended s).map paired) ?_
  refine .headSelf (· = '^') (by decide) (fun c hc => ?_) (local_readClassStart? extended false) rfl
    fun c s hc => by rw [readSignedStart?_of_ne hc]
  subst hc
  exact (local_readClassStart? extended true).skip

/-! ## Inside brackets -/

/-- What is read inside brackets, but for the bracket at their end. -/
inductive ClassPart where
  | member (node : ClassNode)
  | opening (negated : Bool) (start : List ClassNode)
  | operation (op : SetOperation)

/-- The operation of a sign that is written twice. -/
def operationOf? (c : Char) : Option SetOperation :=
  match c with
  | '&' => some .intersection
  | '-' => some .difference
  | '~' => some .symmetricDifference
  | _ => none

/-- A member, or a range of them. -/
def readMember? (extended : Bool) (s : List Char) : Option (ClassPart × List Char) :=
  (readClassRange? extended s).map fun p => (.member p.1, p.2)

/-- What is read at a character that is not skipped. -/
def readClassPart? (extended : Bool) (c : Char) (s : List Char) : Option (ClassPart × List Char) :=
  if c = '[' then
    (readAsciiClass? s).elim (((readClassOpen? extended s).map paired).map fun p => (.opening p.1.1 p.1.2, p.2))
      fun p => some (.member p.1, p.2)
  else
    match operationOf? c with
    | some op => if s.head? = some c then some (.operation op, s.tail) else readMember? extended (c :: s)
    | none => readMember? extended (c :: s)

/-- What a part makes of the sets that are open, and of the members of the innermost one. -/
def ClassPart.take (stack : List ClassFrame) (items : List ClassNode) :
    ClassPart → List ClassFrame × List ClassNode
  | .member node => (stack, node :: items)
  | .opening negated start => (.bracket items negated :: stack, start.reverse)
  | .operation op =>
    (.operation op (closeOperation stack (unionNode items)).1 :: (closeOperation stack (unionNode items)).2, [])

/-- What a closing bracket makes of them: a whole set, or sets that are still open. -/
def closeClass? (stack : List ClassFrame) (items : List ClassNode) :
    Option ((Bool × ClassNode) ⊕ (List ClassFrame × List ClassNode)) :=
  match closeOperation stack (unionNode items) with
  | (body, [.bracket _ negated]) => some (.inl (negated, body))
  | (body, .bracket outer negated :: rest) => some (.inr (rest, .bracketed negated body :: outer))
  | _ => none

section

variable {m : Nat} {stack : List ClassFrame} {items : List ClassNode}

theorem operationOf?_eq_some {op : SetOperation} (h : operationOf? c = some op) : c = '&' ∨ c = '-' ∨ c = '~' := by
  unfold operationOf? at h
  split at h
  · exact .inl rfl
  · exact .inr (.inl rfl)
  · exact .inr (.inr rfl)
  · cases h

/-- **One round inside brackets**: they are closed, or a part is read and put to what is open. -/
theorem readClassBody?_of_cons (hs : skipSpace extended s = c :: t) :
    (readClassBody? extended (m + 1) stack items s).map paired =
      if c = ']' then (closeClass? stack items).bind fun i =>
        i.elim (fun b => some (b, t)) fun i => (readClassBody? extended m i.1 i.2 t).map paired
      else (readClassPart? extended c t).bind fun p =>
        (readClassBody? extended m (p.1.take stack items).1 (p.1.take stack items).2 p.2).map paired := by
  rw [readClassBody?, hs]
  split
  · cases ‹c :: t = []›
  · -- an opening bracket
    obtain ⟨rfl, rfl⟩ := List.cons.inj ‹c :: t = _›
    rw [if_neg (by decide), readClassPart?, if_pos rfl]
    cases readAsciiClass? t with
    | some p => rfl
    | none => cases readClassOpen? extended t <;> rfl
  · -- a closing bracket
    obtain ⟨rfl, rfl⟩ := List.cons.inj ‹c :: t = _›
    rw [if_pos rfl, closeClass?]
    generalize closeOperation stack (unionNode items) = q
    obtain ⟨body, rest⟩ := q
    match rest with
    | [] => rfl
    | [.bracket _ _] => rfl
    | .bracket _ _ :: _ :: _ => rfl
    | .operation _ _ :: _ => rfl
  · obtain ⟨rfl, rfl⟩ := List.cons.inj ‹c :: t = _›
    rfl
  · obtain ⟨rfl, rfl⟩ := List.cons.inj ‹c :: t = _›
    rfl
  · obtain ⟨rfl, rfl⟩ := List.cons.inj ‹c :: t = _›
    rfl
  · -- a member: no bracket, and no sign that is written twice
    rename_i hopen hclose hand hminus htilde
    have hpart : readClassPart? extended c t = readMember? extended (c :: t) := by
      rw [readClassPart?, if_neg fun h => hopen t (by rw [h])]
      cases hop : operationOf? c with
      | none => rfl
      | some op =>
        refine if_neg fun hd => ?_
        obtain ⟨u, rfl⟩ := List.head?_eq_some_iff.mp hd
        rcases operationOf?_eq_some hop with rfl | rfl | rfl
        · exact hand u rfl
        · exact hminus u rfl
        · exact htilde u rfl
    rw [if_neg fun h => hclose t (by rw [h]), hpart, readMember?]
    cases readClassRange? extended (c :: t) <;> rfl

theorem readClassBody?_of_nil (hs : skipSpace extended s = []) : readClassBody? extended m stack items s = none := by
  cases m with
  | zero => rfl
  | succ m => rw [readClassBody?, hs]

theorem local_readMember? (c : Char) :
    Local 1 n (fun s => readMember? extended (c :: s)) fun _ s => readMember? extended (c :: s) :=
  (local_readClassRange? c).map (f := .member) fun _ _ => rfl

theorem local_readClassPart? (extended : Bool) (c : Char) :
    Local 1 n (readClassPart? extended c) fun _ => readClassPart? extended c := by
  unfold readClassPart?
  by_cases hopen : c = '['
  · simp only [if_pos hopen]
    have hclass : Local 1 n
        (fun s => ((readClassOpen? extended s).map paired).map fun p => (ClassPart.opening p.1.1 p.1.2, p.2))
        fun _ s => ((readClassOpen? extended s).map paired).map fun p => (ClassPart.opening p.1.1 p.1.2, p.2) :=
      (local_readClassOpen? extended).map (f := fun p => ClassPart.opening p.1 p.2) fun _ _ => rfl
    exact hclass.orElse (S := fun node s => some (ClassPart.member node, s))
      (T := fun _ node s => some (ClassPart.member node, s)) rfl readAsciiClass?_paren readAsciiClass?_shrinks
      fun node => .some (ClassPart.member node)
  simp only [if_neg hopen]
  cases hop : operationOf? c with
  | none => exact local_readMember? c
  | some op =>
    refine .headSelf (· = c) ?_ (fun d hd => ?_) (local_readMember? c) rfl fun d s hd => ?_
    · rintro rfl
      cases hop
    · subst hd
      simp only [List.head?_cons, if_true, List.tail_cons]
      exact .some _
    · simp only [List.head?_cons, Option.some.injEq, if_neg hd]

/-- The bracket at the end is the last character that is read. -/
theorem readClassBody?_suffix {b : Bool × ClassNode}
    (h : (readClassBody? extended m stack items s).map paired = some (b, rest)) : ']' :: rest <:+ s := by
  induction m generalizing stack items s with
  | zero => cases h
  | succ m ih =>
    cases hs : skipSpace extended s with
    | nil =>
      rw [readClassBody?_of_nil hs] at h
      cases h
    | cons c t =>
      have hsuffix : c :: t <:+ s := hs ▸ skipSpace_suffix extended s
      rw [readClassBody?_of_cons hs] at h
      split at h
      · rename_i hclose
        obtain ⟨i, -, h⟩ := Option.bind_eq_some_iff.mp h
        cases i with
        | inl b' =>
          cases h
          exact hclose ▸ hsuffix
        | inr i => exact (ih h).trans ((List.suffix_cons c t).trans hsuffix)
      · obtain ⟨⟨p, u⟩, hp, h⟩ := Option.bind_eq_some_iff.mp h
        have hu := (local_readClassPart? (n := 0) extended c).shrinks [] t p u hp
        exact (ih h).trans (hu.trans ((List.suffix_cons c t).trans hsuffix))

theorem readClassBody?_length_lt {b : Bool × ClassNode}
    (h : (readClassBody? extended m stack items s).map paired = some (b, rest)) : rest.length < s.length :=
  (readClassBody?_suffix h).length_le

end

theorem fuelled_readClassBody? (extended : Bool) (i : List ClassFrame × List ClassNode) :
    Fuelled 0 fun m s => (readClassBody? extended m i.1 i.2 s).map paired := by
  have hskip (m : Nat) (i : List ClassFrame × List ClassNode) (s : List Char) :
      (readClassBody? extended (m + 1) i.1 i.2 (skipSpace extended s)).map paired =
        (readClassBody? extended (m + 1) i.1 i.2 s).map paired := by
    cases hs : skipSpace extended s with
    | nil => rw [readClassBody?_of_nil hs, readClassBody?_of_nil (skipSpace_nil extended)]
    | cons c t => rw [readClassBody?_of_cons hs, readClassBody?_of_cons (skipSpace_cons_of_eq_cons hs t)]
  have hnil (m : Nat) (i : List ClassFrame × List ClassNode) :
      (readClassBody? extended m i.1 i.2 []).map paired = none := by
    rw [readClassBody?_of_nil (skipSpace_nil extended)]
    rfl
  refine .of_step
    (F := fun (i : List ClassFrame × List ClassNode) m s => (readClassBody? extended m i.1 i.2 s).map paired)
    (fun _ _ => .none) (fun i m => by rw [hnil, hnil]) (fun n m f ih i => ?_) i
  refine .skipCons extended (Nat.le_refl _) (hskip m i) (fun r => hskip (f r) i) (hnil _ i) (fun _ => hnil _ i)
    fun c hc => ?_
  have hstep (l : Nat) (s : List Char) : (readClassBody? extended (l + 1) i.1 i.2 (c :: s)).map paired = _ :=
    readClassBody?_of_cons (hc s)
  simp only [hstep]
  by_cases hclose : c = ']'
  · simp only [if_pos hclose]
    cases closeClass? i.1 i.2 with
    | none => exact .none
    | some j =>
      cases j with
      | inl b => exact .some b
      | inr j => exact ih j
  · simp only [if_neg hclose]
    exact (local_readClassPart? extended c).bindStrict (fun p => ih (p.take i.1 i.2))
      fun _ _ _ _ _ => readClassBody?_length_lt

theorem local_readClass? (extended : Bool) : Local 0 n (fun s => (readClass? extended s).map paired)
    fun _ s => (readClass? extended s).map paired := by
  have heq (s : List Char) : (readClass? extended s).map paired = ((readClassOpen? extended s).map paired).bind fun p =>
      (readClassBody? extended (s.length + 1) [.bracket [] p.1.1] p.1.2.reverse p.2).map paired := by
    unfold readClass?
    cases readClassOpen? extended s <;> rfl
  have hopen : Local 1 n (fun s => (readClassOpen? extended s).map paired)
      fun _ s => (readClassOpen? extended s).map paired := local_readClassOpen? extended
  have hbody (i : List ClassFrame × List ClassNode) := fuelled_readClassBody? extended i
  refine ⟨fun _ => rfl, fun r s => ?_, fun s hs => ?_⟩
  · rw [heq]
    exact (hopen.shrinks r s).bind fun p rest => (hbody (_, _)).shrinks s.length rest
  · simp only [heq]
    refine (hopen.closed s hs).bind (fun p rest hp => ?_) (fun r p => ?_)
      (fun p => (hbody (_, _)).shrinks s.length []) fun r p rest b rest' hl hb => ?_
    · have hlen := (hopen.shrinks [] s).length_le hp
      refine (hbody (_, _)).closed (Nat.lt_succ_of_le hlen) fun r => ?_
      simp only [List.length_append, List.length_cons]
      omega
    · rw [readClassBody?_of_nil (skipSpace_nil extended), readClassBody?_of_nil (skipSpace_nil extended)]
    · exact Nat.le_of_lt_succ (Nat.lt_of_lt_of_le (readClassBody?_length_lt hb) hl)

end FormTemplate.Pattern
