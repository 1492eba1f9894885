import FormTemplate.Proofs.Pattern.Brackets

/-!
# Steps of the pattern reader

A step skips space and comments, reads a part of a pattern, and puts it into the state. Reading looks at nothing of the
state but the flag for space, and the state takes a part whatever stands in the text. So what holds of a step is said for
the parts.

A step takes at least one character. In front of a closing parenthesis behind the text it does one of three things: it
stops there too, it ends in a comment that takes the parenthesis, or it has passed the parenthesis for good.

* `Part`, `readPart?`, `State.take?` : what a step reads, and what that makes of the state.
* `step?_eq`, `next?_eq_some_iff` : what a step does.
* `local_readPart?` : reading a part in front of a closing parenthesis.
* `closed_next?`, `next?_adrift` : a step in front of the parenthesis, and steps that have passed it.
-/

set_option autoImplicit false

namespace FormTemplate.Pattern

variable {extended : Bool} {c : Char} {n : Nat} {r rest s t : List Char} {st st' : State}

/-! ## What a step reads and what it does -/

/-- What a step reads. -/
inductive Part where
  | opening (o : Opening)
  | close
  | bar
  | single (a : Ast)
  | times (min : Nat) (max : Option Nat) (greedy : Bool)

/-- The sign behind a repetition that makes it take as little as it can. -/
def readTimes? (min : Nat) (max : Option Nat) : List Char → Option (Part × List Char)
  | '?' :: s => some (.times min max false, s)
  | s => some (.times min max true, s)

/-- What is read at a character that is not skipped. -/
def readPart? (extended : Bool) (c : Char) (s : List Char) : Option (Part × List Char) :=
  match c with
  | '(' => (readOpening? extended s).map fun p => (.opening p.1, p.2)
  | ')' => some (.close, s)
  | '|' => some (.bar, s)
  | '[' => ((readClass? extended s).map paired).map fun p => (.single (.bracketed p.1.1 p.1.2), p.2)
  | '?' => readTimes? 0 (some 1) s
  | '*' => readTimes? 0 none s
  | '+' => readTimes? 1 none s
  | '\x7b' => (readBounds? extended s).bind fun p => readTimes? p.1.1 p.1.2 (skipSpace extended p.2)
  | '\\' => (readEscape? extended s).map fun p => (.single p.1.ast, p.2)
  | '.' => some (.single .dot, s)
  | '^' => some (.single (.assertion .caret), s)
  | '$' => some (.single (.assertion .dollar), s)
  | _ => some (.single (.literal ⟨c, false⟩), s)

/-- What an opening parenthesis makes of the state. -/
def State.opened? (st : State) : Opening → Option State
  | .flags changes =>
    some { st.push (.flags changes) with extended := (changes.value? .ignoreSpace).getD st.extended }
  | .group kind name =>
    let extended := match kind with
      | .plain changes => (changes.value? .ignoreSpace).getD st.extended
      | .capture => st.extended
    let opened : State :=
      { frames := ⟨st.items, st.branches, kind, st.extended⟩ :: st.frames
        extended := extended
        names := name.toList ++ st.names }
    match name with
    | some n => if st.names.contains n then none else some opened
    | none => some opened

/-- What a closing parenthesis makes of the state. -/
def State.closed? (st : State) : Option State :=
  match st.frames with
  | [] => none
  | f :: frames =>
    some { st with
      frames := frames
      items := .group f.kind st.current :: f.items
      branches := f.branches
      extended := f.extended }

/-- What a part makes of the state. -/
def State.take? (st : State) : Part → Option State
  | .opening o => st.opened? o
  | .close => st.closed?
  | .bar => some { st with items := [], branches := sequenceOf st.items :: st.branches }
  | .single a => some (st.push a)
  | .times min max greedy =>
    match st.items with
    | [] => none
    | a :: items => if isRepeatable a then some { st with items := .times a min max greedy :: items } else none

theorem repeatLast?_eq (st : State) (min : Nat) (max : Option Nat) (s : List Char) : st.repeatLast? min max s =
    (readTimes? min max s).bind fun p => (st.take? p.1).map fun st => (st, p.2) := by
  unfold State.repeatLast?
  cases hi : st.items with
  | nil =>
    have hnone (greedy : Bool) : st.take? (.times min max greedy) = none := by simp only [State.take?, hi]
    change none = _
    unfold readTimes?
    split <;> simp [hnone]
  | cons a items =>
    have htake (greedy : Bool) : st.take? (.times min max greedy) =
        if isRepeatable a then some { st with items := .times a min max greedy :: items } else none := by
      simp only [State.take?, hi]
    unfold readTimes?
    cases s with
    | nil => by_cases ha : isRepeatable a = true <;> simp [htake, ha]
    | cons c s => by_cases hc : c = '?' <;> by_cases ha : isRepeatable a = true <;> simp [htake, hc, ha]

/-- A step reads a part, whatever the state but for the flag for space, and puts it into the state. -/
theorem step?_eq (st : State) (c : Char) (s : List Char) : st.step? c s =
    (readPart? st.extended c s).bind fun p => (st.take? p.1).map fun st => (st, p.2) := by
  unfold State.step?
  split
  · -- a group, or flags
    rw [show readPart? st.extended '(' s = (readOpening? st.extended s).map fun p => (.opening p.1, p.2) from rfl,
      Option.bind_map]
    refine congrArg (readOpening? st.extended s).bind (funext fun p => ?_)
    obtain ⟨opening, rest⟩ := p
    cases opening with
    | flags changes => rfl
    | group kind name =>
      cases name with
      | none => rfl
      | some name =>
        simp only [Function.comp_apply, State.take?, State.opened?]
        split <;> rfl
  · change _ = st.closed?.map fun st => (st, s)
    unfold State.closed?
    cases st.frames <;> rfl
  · rfl
  · change _ = (((readClass? st.extended s).map paired).map _).bind _
    cases readClass? st.extended s <;> rfl
  · exact repeatLast?_eq st 0 (some 1) s
  · exact repeatLast?_eq st 0 none s
  · exact repeatLast?_eq st 1 none s
  · change _ = ((readBounds? st.extended s).bind _).bind _
    rw [Option.bind_assoc]
    exact congrArg (readBounds? st.extended s).bind (funext fun p => repeatLast?_eq st p.1.1 p.1.2 _)
  · change _ = ((readEscape? st.extended s).map _).bind _
    cases readEscape? st.extended s <;> rfl
  · rfl
  · rfl
  · rfl
  · have hpart : readPart? st.extended c s = some (.single (.literal ⟨c, false⟩), s) := by
      unfold readPart?
      split
      all_goals first
        | exact absurd rfl ‹_›
        | rfl
    rw [hpart]
    rfl

/-! ## Parts in front of a closing parenthesis -/

theorem local_readTimes? (min : Nat) (max : Option Nat) :
    Local 0 n (readTimes? min max) fun _ => readTimes? min max := by
  refine .headSelf (· = '?') (by decide) (fun c hc => ?_) (.some (.times min max true)) rfl fun c s hc => ?_
  · subst hc
    exact .some _
  · simp [readTimes?, hc]

theorem local_readPart? (hc : c ≠ '\\') : Local 0 n (readPart? extended c) fun _ => readPart? extended c := by
  unfold readPart?
  split
  · exact (local_readOpening? extended).map fun _ _ => rfl
  · exact .some _
  · exact .some _
  · exact (local_readClass? extended).map (f := fun p => .single (.bracketed p.1 p.2)) fun _ _ => rfl
  · exact local_readTimes? 0 (some 1)
  · exact local_readTimes? 0 none
  · exact local_readTimes? 1 none
  · exact (local_readBounds? extended).bindSelf fun p => (local_readTimes? p.1 p.2).skip
  · exact absurd rfl hc
  all_goals exact .some _

theorem exists_of_readTimes? {min : Nat} {max : Option Nat} {p : Part} (h : readTimes? min max s = some (p, rest)) :
    ∃ greedy, p = .times min max greedy := by
  unfold readTimes? at h
  split at h
  · cases h
    exact ⟨false, rfl⟩
  · cases h
    exact ⟨true, rfl⟩

/-- Nothing but a closing parenthesis closes a group. -/
theorem eq_of_readPart?_close (h : readPart? extended c s = some (.close, rest)) : c = ')' ∧ rest = s := by
  have hne {min : Nat} {max : Option Nat} {s : List Char} (h : readTimes? min max s = some (.close, rest)) : False := by
    obtain ⟨greedy, hp⟩ := exists_of_readTimes? h
    cases hp
  unfold readPart? at h
  split at h
  · obtain ⟨p, -, heq⟩ := Option.map_eq_some_iff.mp h
    cases heq
  · cases h
    exact ⟨rfl, rfl⟩
  · cases h
  · obtain ⟨p, -, heq⟩ := Option.map_eq_some_iff.mp h
    cases heq
  · exact (hne h).elim
  · exact (hne h).elim
  · exact (hne h).elim
  · obtain ⟨p, -, h⟩ := Option.bind_eq_some_iff.mp h
    exact (hne h).elim
  · obtain ⟨p, -, heq⟩ := Option.map_eq_some_iff.mp h
    cases heq
  all_goals cases h

theorem readPart?_backslash (s : List Char) :
    readPart? extended '\\' s = (readEscape? extended s).map fun p => (.single p.1.ast, p.2) := rfl

theorem readPart?_shrinks (extended : Bool) (c : Char) (s : List Char) : Shrinks s (readPart? extended c s) := by
  by_cases hc : c = '\\'
  · rw [hc, readPart?_backslash]
    refine Shrinks.map ?_ fun _ _ => rfl
    cases s with
    | nil => exact .none
    | cons d s =>
      by_cases hb : d = 'b'
      · rw [hb]
        exact ((readBoundary?_shrinks extended s).map fun _ _ => rfl).cons
      · exact ((local_readEscape? (n := 0) hb).shrinks [] s).cons
  · exact (local_readPart? (n := 0) hc).shrinks [] s

theorem step?_shrinks (st : State) (c : Char) (s : List Char) : Shrinks s (st.step? c s) := by
  rw [step?_eq]
  have htake (p : Part) := Local.ofOption (k := 0) (n := 0) (st.take? p)
  exact (readPart?_shrinks st.extended c s).bind fun p rest => (htake p).shrinks [] rest

/-- A step in front of the parenthesis. Only a word boundary can leave braces that reach over it. -/
theorem closed_step? (st : State) (c : Char) (s : List Char) :
    Closed (fun st rest r => Adrift st.extended rest r) (st.step? c s) fun r => st.step? c (s ++ ')' :: r) := by
  by_cases hc : c = '\\'
  · subst hc
    have hstep (s : List Char) : st.step? '\\' s =
        (readEscape? st.extended s).map fun p => (st.push p.1.ast, p.2) := by
      rw [step?_eq, readPart?_backslash]
      cases readEscape? st.extended s <;> rfl
    simp only [hstep]
    have hescape : Closed (fun _ rest r => Adrift st.extended rest r) (readEscape? st.extended s)
        fun r => readEscape? st.extended (s ++ ')' :: r) := by
      cases s with
      | nil =>
        exact .lacking rfl fun r b rest hb => .inl
          (((local_readEscape? (n := 0) (c := ')') (by decide)).shrinks [] r).length_le hb)
      | cons d s =>
        by_cases hb : d = 'b'
        · subst hb
          exact (closed_readBoundary? st.extended s).map (fun _ _ => rfl) fun _ _ _ hl => hl
        · exact ((local_readEscape? hb).closed s (Nat.lt_succ_self _)).mono fun _ _ _ hl => .inl hl
    exact hescape.map (f := fun p => st.push p.ast) (fun _ _ => rfl) fun _ _ _ hl => hl
  · have hlocal : Local 0 (s.length + 1) (st.step? c) fun _ => st.step? c := by
      rw [funext (step?_eq st c)]
      exact (local_readPart? hc).bindSelf fun p => .ofOption (st.take? p)
    exact (hlocal.closed s (Nat.lt_succ_self _)).mono fun _ _ _ hl => .inl hl

/-! ## Steps -/

/-- One step of the reader. -/
def State.next? (st : State) (s : List Char) : Option (State × List Char) :=
  match skipSpace st.extended s with
  | [] => none
  | c :: r => st.step? c r

theorem next?_of_nil (h : skipSpace st.extended s = []) : st.next? s = none := by
  simp only [State.next?, h]

theorem next?_of_cons (h : skipSpace st.extended s = c :: t) : st.next? s = st.step? c t := by
  simp only [State.next?, h]

/-- What the next step reads. -/
def readNext? (extended : Bool) (s : List Char) : Option (Part × List Char) :=
  match skipSpace extended s with
  | [] => none
  | c :: r => readPart? extended c r

theorem readNext?_of_cons (h : skipSpace extended s = c :: t) : readNext? extended s = readPart? extended c t := by
  simp only [readNext?, h]

theorem readNext?_close (h : readNext? extended s = some (.close, rest)) : skipSpace extended s = ')' :: rest := by
  unfold readNext? at h
  split at h
  · cases h
  · rename_i heq
    obtain ⟨rfl, rfl⟩ := eq_of_readPart?_close h
    exact heq

/-- **What a step does**: it reads a part and puts it into the state. -/
theorem next?_eq_some_iff : st.next? s = some (st', rest) ↔
    ∃ p, readNext? st.extended s = some (p, rest) ∧ st.take? p = some st' := by
  unfold State.next? readNext?
  cases skipSpace st.extended s with
  | nil => simp
  | cons c t => simp [step?_eq, Option.bind_eq_some_iff]

theorem next?_close (h : skipSpace st.extended s = ')' :: rest) :
    st.next? s = st.closed?.map fun st => (st, rest) := by
  rw [next?_of_cons h, step?_eq]
  rfl

/-- A step takes a character. -/
theorem next?_length_lt (h : st.next? s = some (st', rest)) : rest.length < s.length := by
  cases hs : skipSpace st.extended s with
  | nil =>
    rw [next?_of_nil hs] at h
    cases h
  | cons c t =>
    rw [next?_of_cons hs] at h
    have hstep := (step?_shrinks st c t).length_le h
    have hskip := (skipSpace_suffix st.extended s).length_le
    rw [hs, List.length_cons] at hskip
    omega

theorem next?_shrinks (st : State) (s : List Char) : Shrinks s (st.next? s) := by
  cases hs : skipSpace st.extended s with
  | nil =>
    rw [next?_of_nil hs]
    exact .none
  | cons c t =>
    rw [next?_of_cons hs]
    exact (step?_shrinks st c t).cons.mono (hs ▸ skipSpace_suffix st.extended s)

theorem closed_next? (st : State) (s : List Char) :
    Closed (fun st rest r => Adrift st.extended rest r) (st.next? s) fun r => st.next? (s ++ ')' :: r) := by
  cases hs : skipSpace st.extended s with
  | nil =>
    rw [next?_of_nil hs]
    refine .lacking rfl fun r st' rest h => .inl ?_
    rcases skipSpace_append_of_eq_nil hs r with heq | hle
    · rw [next?_of_cons heq] at h
      exact (step?_shrinks st ')' r).length_le h
    · cases ht : skipSpace st.extended (s ++ ')' :: r) with
      | nil =>
        rw [next?_of_nil ht] at h
        cases h
      | cons c t =>
        rw [next?_of_cons ht] at h
        have hstep := (step?_shrinks st c t).length_le h
        rw [ht, List.length_cons] at hle
        omega
  | cons c t =>
    simp only [next?_of_cons hs, fun r => next?_of_cons (skipSpace_append_of_eq_cons hs r)]
    exact closed_step? st c t

/-- What has passed the parenthesis, or left it inside braces, does not come back to it. -/
theorem next?_adrift (hd : Adrift st.extended s r) (h : st.next? s = some (st', rest)) : rest.length ≤ r.length := by
  rcases hd with hle | ⟨t, rfl, hbounds⟩
  · exact (Nat.le_of_lt (next?_length_lt h)).trans hle
  · have hskip : skipSpace st.extended ('\x7b' :: t) = '\x7b' :: t := by cases st.extended <;> rfl
    obtain ⟨p, hp, -⟩ := next?_eq_some_iff.mp h
    rw [readNext?_of_cons hskip] at hp
    obtain ⟨⟨bounds, rest'⟩, hb, hr⟩ := Option.bind_eq_some_iff.mp hp
    have hlen := ((local_readTimes? (n := 0) bounds.1 bounds.2).shrinks [] _).length_le hr
    exact hlen.trans ((skipSpace_suffix _ _).length_le.trans (hbounds bounds rest' hb))

end FormTemplate.Pattern
