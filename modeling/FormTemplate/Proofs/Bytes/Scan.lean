import FormTemplate.Proofs.Bytes.Slices
import FormTemplate.Proofs.Marker.Blocks

/-!
# Scanning by byte positions

Scanning once more, over the bytes of a text and with every piece cut out of it between two positions. Reading stops
where a candidate is malformed, or where a piece is none. From a position between characters the second never happens,
and what is read is what is read from the cursor there.

* `valueAt`, `attributeAt`, `attributesAt`, `markerAt` : reading a candidate at a position;
* `markerAt_eq` : it reads what is read behind the cursor at the position;
* `candidateTurn`, `scanTurn` : from a position to behind the next marker, or behind the bracket of the next malformed
  candidate;
* `lt_of_scanTurn` : no turn stays where it is;
* `runs_scanTurn` : the loop runs to its end, with the markers of the text.
-/

set_option autoImplicit false

namespace FormTemplate.Marker

open Text (Cut Cursor Uniform Runs Turn peek? advance slice? sliceFrom? find? of_passes)

variable {text : String} {c d after : Cursor} {i j : Nat} {p : Char → Bool}

/-! ## Classes -/

theorem isAlphanum_eq_false {x : Char} (hx : 0x80 ≤ x.toNat) : x.isAlphanum = false := by
  have hbeyond : ∀ y : Char, y.toNat < 0x80 → ¬x.val ≤ y.val := fun y hy h =>
    absurd (UInt32.le_iff_toNat_le.mp h) (Nat.not_le_of_lt (Nat.lt_of_lt_of_le hy hx))
  have hupper : x.isUpper = false := decide_eq_false fun h => hbeyond 'Z' (by decide) h.2
  have hlower : x.isLower = false := Bool.and_eq_false_imp.mpr fun _ => decide_eq_false (hbeyond 'z' (by decide))
  have hdigit : x.isDigit = false := Bool.and_eq_false_imp.mpr fun _ => decide_eq_false (hbeyond '9' (by decide))
  change ((x.isUpper || x.isLower) || x.isDigit) = false
  rw [hupper, hlower, hdigit]
  rfl

theorem beq_eq_false_of_le {x y : Char} (hx : 0x80 ≤ x.toNat) (hy : y.toNat < 0x80) : (x == y) = false := by
  rw [beq_eq_false_iff_ne]
  rintro rfl
  omega

theorem uniform_of_const {b : Bool} (h : ∀ x : Char, 0x80 ≤ x.toNat → p x = b) : Uniform p :=
  fun x y hx hy => (h x hx).trans (h y hy).symm

theorem isAsciiBlank_eq_false_of_le {x : Char} (hx : 0x80 ≤ x.toNat) : Text.isAsciiBlank x = false := by
  simp +decide only [Text.isAsciiBlank, beq_eq_false_of_le hx]

theorem uniform_isAsciiBlank : Uniform Text.isAsciiBlank := uniform_of_const fun _ => isAsciiBlank_eq_false_of_le

theorem uniform_isSlugChar : Uniform isSlugChar := by
  refine uniform_of_const (b := false) fun x hx => ?_
  simp +decide only [isSlugChar, isAlphanum_eq_false hx, beq_eq_false_of_le hx]

theorem uniform_isKeyChar : Uniform isKeyChar := by
  refine uniform_of_const (b := false) fun x hx => ?_
  simp +decide only [isKeyChar, isAlphanum_eq_false hx, beq_eq_false_of_le hx]

theorem uniform_isBareChar : Uniform isBareChar := by
  refine uniform_of_const (b := true) fun x hx => ?_
  simp +decide only [isBareChar, isAsciiBlank_eq_false_of_le hx, beq_eq_false_of_le hx]

/-! ## Reading a candidate -/

/-- Why reading stops: a piece of the text is none, or the candidate is malformed. -/
inductive Stop where
  | missingPiece
  | malformed (offset : Nat) (reason : Malformation)
  deriving DecidableEq, Repr

/-- A piece that reading asks for. -/
def piece : Option String → Except Stop String
  | none => .error .missingPiece
  | some s => .ok s

/-- The text between a position and the end of the bytes of a class, and that end. -/
def takeRun (text : String) (p : Char → Bool) (i : Nat) : Except Stop (String × Nat) := do
  let stop := advance text p i
  let run ← piece (slice? text i stop)
  return (run, stop)

/-- The position behind white space. -/
def skipBlankAt (text : String) (i : Nat) : Nat := advance text Text.isAsciiBlank i

/-- A value at a position, and the position behind it. -/
def valueAt (text : String) (i : Nat) : Except Stop (String × Nat) :=
  if peek? text i = some '\'' then do
    let rest ← piece (sliceFrom? text (i + 1))
    match find? ['\''] rest with
    | none => throw (.malformed i .unterminatedQuote)
    | some n =>
      let value ← piece (slice? text (i + 1) (i + 1 + n))
      return (value, i + 1 + n + 1)
  else do
    let (value, stop) ← takeRun text isBareChar i
    if peek? text stop = some '[' then throw (.malformed stop .bracketInValue)
    else if peek? text stop = some '\'' then throw (.malformed stop .quoteInValue)
    else return (value, stop)

/-- An attribute behind its semicolon, with its key in lower case. -/
def attributeAt (text : String) (i : Nat) : Except Stop ((String × String) × Nat) := do
  let (key, i) ← takeRun text isKeyChar (skipBlankAt text i)
  if key = "" then throw (.malformed i .missingKey)
  else
    let i := skipBlankAt text i
    if peek? text i = some '=' then
      let (value, i) ← valueAt text (skipBlankAt text (i + 1))
      return ((String.ofList (key.toList.map Char.toLower), value), i)
    else throw (.malformed i .missingEquals)

/-! ### Progress -/

theorem bind_eq_ok_iff {ε α β : Type} {x : Except ε α} {f : α → Except ε β} {b : β} :
    x >>= f = .ok b ↔ ∃ a, x = .ok a ∧ f a = .ok b := by
  cases x with
  | error e =>
    constructor
    · intro h
      cases h
    · rintro ⟨a, h, -⟩
      cases h
  | ok a =>
    constructor
    · exact fun h => ⟨a, rfl, h⟩
    · rintro ⟨_, hx, h⟩
      cases hx
      exact h

theorem ok_bind {ε α β : Type} (a : α) (f : α → Except ε β) : Except.ok a >>= f = f a := rfl

theorem le_of_takeRun {q : String × Nat} (h : takeRun text p i = .ok q) : i ≤ q.2 := by
  obtain ⟨run, -, h⟩ := bind_eq_ok_iff.mp h
  cases h
  exact Text.le_advance text p i

theorem le_of_valueAt {q : String × Nat} (h : valueAt text i = .ok q) : i ≤ q.2 := by
  unfold valueAt at h
  split at h
  · obtain ⟨rest, -, h⟩ := bind_eq_ok_iff.mp h
    split at h
    · cases h
    · obtain ⟨value, -, h⟩ := bind_eq_ok_iff.mp h
      cases h
      simp only
      omega
  · obtain ⟨⟨value, stop⟩, hrun, h⟩ := bind_eq_ok_iff.mp h
    have hle := le_of_takeRun hrun
    simp only at h
    split at h
    · cases h
    · split at h
      · cases h
      · cases h
        exact hle

theorem le_of_attributeAt {q : (String × String) × Nat} (h : attributeAt text i = .ok q) : i ≤ q.2 := by
  obtain ⟨⟨key, k⟩, hkey, h⟩ := bind_eq_ok_iff.mp h
  have hblank := Text.le_advance text Text.isAsciiBlank i
  have hle := le_of_takeRun hkey
  simp only at h
  split at h
  · cases h
  · split at h
    · obtain ⟨⟨value, stop⟩, hvalue, h⟩ := bind_eq_ok_iff.mp h
      cases h
      have hequals := Text.le_advance text Text.isAsciiBlank k
      have hvalueBlank := Text.le_advance text Text.isAsciiBlank (skipBlankAt text k + 1)
      have hstop := le_of_valueAt hvalue
      simp only [skipBlankAt] at *
      omega
    · cases h

/-! ### Markers -/

/-- The attributes from a position on, and the position behind the closing bracket; `read` are those before. -/
def attributesAt (text : String) (read : List (String × String)) (i : Nat) :
    Except Stop (List (String × String) × Nat) :=
  match _hc : peek? text (skipBlankAt text i) with
  | none => throw (.malformed (skipBlankAt text i) .unterminatedMarker)
  | some y =>
    if y = ']' then return (read, skipBlankAt text i + 1)
    else if y = ';' then
      match _ha : attributeAt text (skipBlankAt text i + 1) with
      | .error e => throw e
      | .ok (a, next) => attributesAt text (read ++ [a]) next
    else throw (.malformed (skipBlankAt text i) .unexpectedCharacter)
termination_by (Text.bytes text).length - i
decreasing_by
  have hblank := Text.le_advance text Text.isAsciiBlank i
  have hlt := Text.peek?_isSome_iff.mp (Option.isSome_of_eq_some _hc)
  have hnext := le_of_attributeAt _ha
  simp only [skipBlankAt] at *
  omega

/-- Reading attributes once more, without what its end is proved from. -/
theorem attributesAt_eq (text : String) (read : List (String × String)) (i : Nat) : attributesAt text read i =
    match peek? text (skipBlankAt text i) with
    | none => throw (.malformed (skipBlankAt text i) .unterminatedMarker)
    | some y =>
      if y = ']' then return (read, skipBlankAt text i + 1)
      else if y = ';' then
        attributeAt text (skipBlankAt text i + 1) >>= fun q => attributesAt text (read ++ [q.1]) q.2
      else throw (.malformed (skipBlankAt text i) .unexpectedCharacter) := by
  rw [attributesAt.eq_def]
  split
  · rename_i hc
    rw [hc]
  · rename_i y hc
    rw [hc]
    simp only
    split
    · rfl
    · split
      · split
        · rename_i e he
          rw [he]
          rfl
        · rename_i a next ha
          rw [ha]
          rfl
      · rfl

theorem lt_of_attributesAt {read : List (String × String)} {q : List (String × String) × Nat}
    (h : attributesAt text read i = .ok q) : i < q.2 := by
  fun_induction attributesAt text read i with
  | case1 => cases h
  | case2 read i hc =>
    cases h
    exact Nat.lt_succ_of_le (Text.le_advance text Text.isAsciiBlank i)
  | case3 => cases h
  | case4 read i a next ha hc hne ih =>
    have hblank := Text.le_advance text Text.isAsciiBlank i
    have hnext := le_of_attributeAt ha
    have hlt := ih h
    simp only [skipBlankAt] at *
    omega
  | case5 => cases h

/-- A marker as it is cut out of the text. -/
structure RawMarker where
  slug : String
  attributes : List (String × String)
  stop : Nat
  deriving DecidableEq, Repr

/-- The marker whose opening bracket stands at a position. -/
def markerAt (text : String) (start : Nat) : Except Stop RawMarker := do
  let (slug, i) ← takeRun text isSlugChar (start + 1)
  if slug = "" then throw (.malformed i .emptySlug)
  else
    let (attributes, stop) ← attributesAt text [] i
    return ⟨slug, attributes, stop⟩

theorem lt_of_markerAt {raw : RawMarker} (h : markerAt text i = .ok raw) : i < raw.stop := by
  obtain ⟨⟨slug, k⟩, hslug, h⟩ := bind_eq_ok_iff.mp h
  have hle := le_of_takeRun hslug
  simp only at h
  split at h
  · cases h
  · obtain ⟨⟨attributes, stop⟩, hattributes, h⟩ := bind_eq_ok_iff.mp h
    have hlt := lt_of_attributesAt hattributes
    cases h
    simp only at *
    omega

/-! ## Positions and cursors -/

/-- What is read from a cursor, by positions. -/
def Stop.read {α β : Type} (f : α → β) : Except Failure (α × Cursor) → Except Stop (β × Nat)
  | .error e => .error (.malformed e.offset e.reason)
  | .ok (a, after) => .ok (f a, after.offset)

theorem takeRun_of (hc : c.Of text.toList) (hp : Uniform p) :
    takeRun text p c.offset = .ok ((c.takeWhile p).1.string, (c.takeWhile p).2.offset) := by
  have hpiece := Text.slice?_of_passes hc (Cursor.passes_takeWhile p c)
  rw [← Text.advance_of hc hp] at hpiece ⊢
  change piece (slice? text c.offset (advance text p c.offset)) >>= _ = _
  rw [hpiece]
  rfl

theorem skipBlankAt_of (hc : c.Of text.toList) : skipBlankAt text c.offset = (skipBlank c).offset :=
  Text.advance_of hc uniform_isAsciiBlank

theorem of_skipBlank (hc : c.Of text.toList) : (skipBlank c).Of text.toList := (Cursor.takeWhile_of hc).2

theorem valueAt_of (hc : c.Of text.toList) : valueAt text c.offset = Stop.read Cut.string (readValue c) := by
  have hquote : peek? text c.offset = some '\'' ↔ c.rest.head? = some '\'' := Text.peek?_eq_some_iff hc (by decide)
  unfold readValue
  split
  · rename_i r hr
    have hopen : (Cursor.mk (c.offset + 1) r).Of text.toList := of_passes hc (Cursor.passes_cons hr)
    have hrest := Text.sliceFrom?_of hopen
    rw [valueAt, if_pos (hquote.mpr (by rw [hr]; rfl))]
    simp only at hrest
    rw [hrest, piece, ok_bind, Text.find?_eq]
    cases hend : r.dropWhile (· != '\'') with
    | nil =>
      simp only [Cursor.takeWhile, hend]
      rfl
    | cons y rest =>
      have hvalue := Text.slice?_of_passes hopen (Cursor.passes_takeWhile (· != '\'') ⟨c.offset + 1, r⟩)
      simp only [Cursor.takeWhile, hend] at hvalue ⊢
      rw [if_neg (List.cons_ne_nil _ _)]
      change piece (slice? text (c.offset + 1) (c.offset + 1 + Text.byteLength _)) >>= _ = _
      rw [hvalue]
      rfl
  · rename_i hne
    have hrun := takeRun_of hc uniform_isBareChar
    have hstop := (Cursor.takeWhile_of hc (p := isBareChar)).2
    have hhead : ¬c.rest.head? = some '\'' := by
      intro hhead
      obtain ⟨r, hr⟩ := List.head?_eq_some_iff.mp hhead
      exact hne r hr
    have hbracket := Text.peek?_eq_some_iff hstop (y := '[') (by decide)
    have hinner := Text.peek?_eq_some_iff hstop (y := '\'') (by decide)
    rw [valueAt, if_neg (mt hquote.mp hhead), hrun, ok_bind]
    simp only [hbracket, hinner]
    split
    · rename_i hr
      obtain ⟨q, hq⟩ := List.head?_eq_some_iff.mp hr
      rw [hq]
      rfl
    · rename_i hnb
      split
      · rename_i hr
        obtain ⟨q, hq⟩ := List.head?_eq_some_iff.mp hr
        rw [hq]
        rfl
      · rename_i hnq
        split
        · rename_i q hq
          exact absurd (by rw [hq]; rfl) hnb
        · rename_i q hq
          exact absurd (by rw [hq]; rfl) hnq
        · rfl

/-- An attribute as it is reported. -/
def Attribute.pair (a : Attribute) : String × String := (String.ofList (a.key.text.map Char.toLower), a.value.string)

theorem readAttribute_of {a : Attribute} (hc : c.Of text.toList) (h : readAttribute c = .ok (a, after)) :
    after.Of text.toList := by
  obtain ⟨t, -, hpass⟩ := exists_written_of_readAttribute h
  exact of_passes hc hpass

theorem attributeAt_of (hc : c.Of text.toList) :
    attributeAt text c.offset = Stop.read Attribute.pair (readAttribute c) := by
  have hblank := of_skipBlank hc
  have hkey := takeRun_of hblank uniform_isKeyChar
  have hafterKey := (Cursor.takeWhile_of hblank (p := isKeyChar)).2
  have hequals := Text.peek?_eq_some_iff (of_skipBlank hafterKey) (y := '=') (by decide)
  have hempty : ((skipBlank c).takeWhile isKeyChar).1.string = "" ↔
      ((skipBlank c).takeWhile isKeyChar).1.text.isEmpty = true := by
    rw [← String.toList_inj, Cut.string, String.toList_ofList, List.isEmpty_iff]
    rfl
  rw [attributeAt, skipBlankAt_of hc, hkey, ok_bind]
  unfold readAttribute
  simp only [hempty, skipBlankAt_of hafterKey, hequals]
  split
  · rfl
  · split
    · rename_i hhead
      obtain ⟨r, hr⟩ := List.head?_eq_some_iff.mp hhead
      have hvalue : (Cursor.mk ((skipBlank ((skipBlank c).takeWhile isKeyChar).2).offset + 1) r).Of text.toList :=
        of_passes (of_skipBlank hafterKey) (Cursor.passes_cons hr)
      have hread := valueAt_of (of_skipBlank hvalue)
      rw [← skipBlankAt_of hvalue] at hread
      simp only [hr]
      rw [hread]
      cases readValue (skipBlank ⟨(skipBlank ((skipBlank c).takeWhile isKeyChar).2).offset + 1, r⟩) with
      | error f => rfl
      | ok q => simp [Stop.read, Attribute.pair, Cut.string]
    · rename_i hhead
      split
      · rename_i r hr
        exact absurd (by rw [hr]; rfl) hhead
      · rfl

/-- The induction follows the reading. -/
theorem attributesAt_of (read : List Attribute) (hc : c.Of text.toList) :
    attributesAt text (read.reverse.map Attribute.pair) c.offset =
      Stop.read (List.map Attribute.pair) (readAttributes read c) := by
  have hblank := of_skipBlank hc
  fun_induction readAttributes read c with
  | case1 read c h =>
    rw [attributesAt_eq, skipBlankAt_of hc, Text.peek?_nil hblank h]
    rfl
  | case2 read c r h =>
    obtain ⟨b, hb, hiff⟩ := Text.peek?_cons hblank h
    rw [attributesAt_eq, skipBlankAt_of hc, hb]
    simp only [hiff ']' (by decide)]
    rfl
  | case3 read c r f ha h hne =>
    obtain ⟨b, hb, hiff⟩ := Text.peek?_cons hblank h
    have hopen : (Cursor.mk ((skipBlank c).offset + 1) r).Of text.toList := of_passes hblank (Cursor.passes_cons h)
    have hread : attributeAt text ((skipBlank c).offset + 1) = _ := attributeAt_of hopen
    rw [ha] at hread
    rw [attributesAt_eq, skipBlankAt_of hc, hb]
    simp only [hiff ']' (by decide), hiff ';' (by decide)]
    rw [if_neg hne, if_pos trivial, hread]
    rfl
  | case4 read c r a after ha h hne ih =>
    obtain ⟨b, hb, hiff⟩ := Text.peek?_cons hblank h
    have hopen : (Cursor.mk ((skipBlank c).offset + 1) r).Of text.toList := of_passes hblank (Cursor.passes_cons h)
    have hread : attributeAt text ((skipBlank c).offset + 1) = _ := attributeAt_of hopen
    have hafter := readAttribute_of hopen ha
    have hrest := ih hafter (of_skipBlank hafter)
    rw [ha] at hread
    rw [List.reverse_cons, List.map_append] at hrest
    rw [attributesAt_eq, skipBlankAt_of hc, hb]
    simp only [hiff ']' (by decide), hiff ';' (by decide)]
    rw [if_neg hne, if_pos trivial, hread]
    exact hrest
  | case5 read c d r h hclose hsemicolon =>
    obtain ⟨b, hb, hiff⟩ := Text.peek?_cons hblank h
    rw [attributesAt_eq, skipBlankAt_of hc, hb]
    simp only [hiff ']' (by decide), hiff ';' (by decide), if_neg hclose, if_neg hsemicolon]
    rfl

/-- A marker as it is cut out of the text, from what is read behind its bracket. -/
def Token.raw (t : Token) : RawMarker := ⟨t.slug.string, attributesOf t, t.stop⟩

/-- **At a bracket the marker is read that is read behind the cursor**, and no piece of the text is missing. -/
theorem markerAt_eq {r : List Char} (hc : (Cursor.mk i ('[' :: r)).Of text.toList) : markerAt text i =
    match readMarker ⟨i + 1, r⟩ with
    | .error f => .error (.malformed f.offset f.reason)
    | .ok (t, _) => .ok t.raw := by
  have hpass : (Cursor.mk i ('[' :: r)).Passes ['['] ⟨i + 1, r⟩ := Cursor.passes_cons rfl
  have hopen := of_passes hc hpass
  have hslug := takeRun_of hopen uniform_isSlugChar
  have hafter := (Cursor.takeWhile_of hopen (p := isSlugChar)).2
  have hread := attributesAt_of [] hafter
  have hempty : ((Cursor.mk (i + 1) r).takeWhile isSlugChar).1.string = "" ↔
      ((Cursor.mk (i + 1) r).takeWhile isSlugChar).1.text.isEmpty = true := by
    rw [← String.toList_inj, Cut.string, String.toList_ofList, List.isEmpty_iff]
    rfl
  simp only at hslug
  rw [markerAt, hslug, ok_bind]
  unfold readMarker
  simp only [hempty]
  split
  · rfl
  · simp only [List.reverse_nil, List.map_nil] at hread
    rw [hread]
    cases readAttributes [] ((Cursor.mk (i + 1) r).takeWhile isSlugChar).2 with
    | error f => rfl
    | ok q => rfl

/-! ## The loop -/

/-- Where scanning has come to. -/
structure Scan where
  position : Nat := 0
  scopes : Scopes := {}
  markers : List Marker := []

/-- From the bracket of a candidate to behind its marker, or to behind the bracket if it is malformed. -/
def candidateTurn (text : String) (scopes : Scopes) (markers : List Marker) (start : Nat) :
    Option (Turn Scan (List Marker)) :=
  match markerAt text start with
  | .error .missingPiece => none
  | .error (.malformed _ _) => some (.again ⟨start + 1, scopes, markers⟩)
  | .ok raw =>
    match scopes.place raw.slug raw.attributes with
    | (scopes', none) => some (.again ⟨raw.stop, scopes', markers⟩)
    | (scopes', some (scope, kind)) =>
      some (.again ⟨raw.stop, scopes', markers ++ [⟨raw.slug, raw.attributes, scope, kind, start⟩]⟩)

/-- From a position to the bracket of the next candidate, and on from there. -/
def scanTurn (text : String) (s : Scan) : Option (Turn Scan (List Marker)) :=
  (sliceFrom? text s.position).bind fun rest =>
    match find? ['['] rest with
    | none => some (.done s.markers)
    | some n => candidateTurn text s.scopes s.markers (s.position + n)

theorem lt_of_candidateTurn {scopes : Scopes} {markers : List Marker} {s : Scan}
    (h : candidateTurn text scopes markers i = some (.again s)) : i < s.position := by
  unfold candidateTurn at h
  split at h
  · cases h
  · cases h
    exact Nat.lt_succ_self i
  · rename_i raw hraw
    split at h
    · cases h
      exact lt_of_markerAt hraw
    · cases h
      exact lt_of_markerAt hraw

/-- No turn stays where it is. -/
theorem lt_of_scanTurn {s s' : Scan} (h : scanTurn text s = some (.again s')) : s.position < s'.position := by
  obtain ⟨rest, -, h⟩ := Option.bind_eq_some_iff.mp h
  split at h
  · cases h
  · exact Nat.lt_of_le_of_lt (Nat.le_add_right _ _) (lt_of_candidateTurn h)

/-- At a bracket a turn reads the marker there. -/
theorem scanTurn_bracket {r : List Char} (hc : c.Of text.toList) (h : c.rest = '[' :: r) (scopes : Scopes)
    (markers : List Marker) : scanTurn text ⟨c.offset, scopes, markers⟩ =
      match readMarker ⟨c.offset + 1, r⟩ with
      | .error _ => some (.again ⟨c.offset + 1, scopes, markers⟩)
      | .ok (t, _) => some (.again ⟨t.stop, scopes.next t, markers ++ (scopes.mark? t).toList⟩) := by
  have hbracket : (Cursor.mk c.offset ('[' :: r)).Of text.toList := by
    rw [← h]
    exact hc
  have hrest := Text.sliceFrom?_of hbracket
  simp only at hrest
  rw [scanTurn, hrest, Option.bind_some, Text.find?_cons_self]
  simp only [Nat.add_zero]
  rw [candidateTurn, markerAt_eq hbracket]
  cases hread : readMarker ⟨c.offset + 1, r⟩ with
  | error f => rfl
  | ok q =>
    obtain ⟨t, after⟩ := q
    obtain ⟨-, -, -, hstart, -⟩ := exists_written_of_readMarker hread
    simp only [Token.raw, Scopes.next, Scopes.mark?]
    cases scopes.place t.slug.string (attributesOf t) with
    | mk scopes' place =>
      cases place with
      | none => simp
      | some q => simp [hstart]

/-- In front of another character a turn looks on behind it. -/
theorem scanTurn_other {x : Char} {r : List Char} (hc : c.Of text.toList) (h : c.rest = x :: r)
    (hx : x ≠ '[') (scopes : Scopes) (markers : List Marker) :
    scanTurn text ⟨c.offset, scopes, markers⟩ = scanTurn text ⟨c.offset + x.utf8Size, scopes, markers⟩ := by
  have hnext := Text.sliceFrom?_of (of_passes hc (Cursor.passes_cons h))
  have hrest := Text.sliceFrom?_of hc
  rw [h] at hrest
  simp only at hnext
  simp only [scanTurn, hrest, hnext, Option.bind_some, Text.find?_cons_of_ne hx]
  cases find? ['['] (String.ofList r) with
  | none => rfl
  | some n => simp only [Option.map_some, Nat.add_assoc]

theorem scanTurn_end (hc : c.Of text.toList) (h : c.rest = []) (scopes : Scopes) (markers : List Marker) :
    scanTurn text ⟨c.offset, scopes, markers⟩ = some (.done markers) := by
  have hrest := Text.sliceFrom?_of hc
  rw [h] at hrest
  rw [scanTurn, hrest]
  rfl

/-- The induction follows the reading. -/
theorem exists_runs (found : List Candidate) (hc : c.Of text.toList) :
    ∃ l, candidatesFrom found c = found.reverse ++ l ∧ ∀ (scopes : Scopes) (markers : List Marker),
      Runs (scanTurn text) Scan.position ⟨c.offset, scopes, markers⟩
        (markers ++ placeAll [] scopes (l.filterMap (·.outcome.toOption))) := by
  fun_induction candidatesFrom found c with
  | case1 found c h =>
    refine ⟨[], by simp, fun scopes markers => .done ?_⟩
    rw [scanTurn_end hc h, List.filterMap_nil, placeAll, List.reverse_nil, List.append_nil]
  | case2 found c r f hread h ih =>
    obtain ⟨l, hl, hruns⟩ := ih (of_passes hc (Cursor.passes_cons h))
    refine ⟨⟨c.offset, .error f⟩ :: l, by simp [hl], fun scopes markers => ?_⟩
    have hturn := scanTurn_bracket hc h scopes markers
    rw [hread] at hturn
    exact .again hturn (lt_of_scanTurn hturn) (hruns scopes markers)
  | case3 found c r t after hread h ih =>
    obtain ⟨text, -, hpass, -, hstop⟩ := exists_written_of_readMarker hread
    obtain ⟨l, hl, hruns⟩ := ih (of_passes hc ⟨h.trans hpass.rest, hpass.offset⟩)
    refine ⟨⟨c.offset, .ok t⟩ :: l, by simp [hl], fun scopes markers => ?_⟩
    have hturn := scanTurn_bracket hc h scopes markers
    rw [hread] at hturn
    simp only at hturn
    refine .again hturn (lt_of_scanTurn hturn) ?_
    have hrest := hruns (scopes.next t) (markers ++ (scopes.mark? t).toList)
    rw [List.append_assoc, ← placeAll_nil_cons, ← hstop] at hrest
    exact hrest
  | case4 found c x r h hx ih =>
    obtain ⟨l, hl, hruns⟩ := ih (of_passes hc (Cursor.passes_cons h))
    exact ⟨l, hl, fun scopes markers => (hruns scopes markers).of_turn_eq lt_of_scanTurn (scanTurn_other hc h hx _ _)⟩

/-- **Scanning runs to its end**, with the markers of the text. -/
theorem runs_scanTurn (text : String) : Runs (scanTurn text) Scan.position {} (scan text) := by
  have hstart : (Cursor.start text.toList).Of text.toList := ⟨[], rfl, rfl⟩
  obtain ⟨l, hl, hruns⟩ := exists_runs [] hstart
  rw [scan, tokens, candidates, hl]
  exact hruns {} []

end FormTemplate.Marker
