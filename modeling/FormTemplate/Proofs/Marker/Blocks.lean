import FormTemplate.Proofs.Marker.Roles
import Mathlib.Data.List.Induction

/-!
# Begins and ends of blocks

Blocks are matched by name. Scanning keeps one list of open names for all blocks, closes them in any order and ignores
that a block is begun again. What comes of it for one name does not depend on the others: every begin is reported, and an
end is reported exactly if the name was begun since the last end that was reported.

* `Scopes.mark?`, `Scopes.after` : one step and a run of scanning;
* `mem_scan_iff` : what is reported at a bracket is what the step there gives;
* `isOpen_iff` : a block is open if it was begun since its last reported end;
* `BlocksMatch` : how the begins and ends of a name are reported;
* `scan_matches_blocks` : every text is scanned so, for every name.
-/

set_option autoImplicit false

namespace FormTemplate.Marker

variable {s : Scopes} {t : Token} {ts us : List Token} {m : Marker} {text name : String}

/-! ## Steps of scanning -/

namespace Scopes

/-- What is open behind a marker. -/
def next (s : Scopes) (t : Token) : Scopes := (s.place t.slug.string (attributesOf t)).1

/-- What is reported of a marker, if it is reported. -/
def mark? (s : Scopes) (t : Token) : Option Marker :=
  (s.place t.slug.string (attributesOf t)).2.map fun p => ⟨t.slug.string, attributesOf t, p.1, p.2, t.start⟩

/-- What is open behind markers. -/
def after (s : Scopes) (ts : List Token) : Scopes := ts.foldl next s

theorem offset_of_mark? (h : s.mark? t = some m) : m.offset = t.start := by
  obtain ⟨p, -, rfl⟩ := Option.map_eq_some_iff.mp h
  rfl

end Scopes

theorem placeAll_cons_mark (found : List Marker) (s : Scopes) (t : Token) (ts : List Token) :
    placeAll found s (t :: ts) = placeAll ((s.mark? t).toList ++ found) (s.next t) ts := by
  rw [placeAll, Scopes.mark?, Scopes.next]
  cases s.place t.slug.string (attributesOf t) with
  | mk s' place => cases place <;> rfl

theorem placeAll_found (found : List Marker) (s : Scopes) (ts : List Token) :
    placeAll found s ts = found.reverse ++ placeAll [] s ts := by
  induction ts generalizing found s with
  | nil => simp [placeAll]
  | cons t ts ih =>
    rw [placeAll_cons_mark, placeAll_cons_mark [], ih, ih ((s.mark? t).toList ++ [])]
    simp

theorem placeAll_nil_cons (s : Scopes) (t : Token) (ts : List Token) :
    placeAll [] s (t :: ts) = (s.mark? t).toList ++ placeAll [] (s.next t) ts := by
  rw [placeAll_cons_mark, placeAll_found]
  cases s.mark? t <;> rfl

theorem placeAll_append (s : Scopes) (ts us : List Token) :
    placeAll [] s (ts ++ us) = placeAll [] s ts ++ placeAll [] (s.after ts) us := by
  induction ts generalizing s with
  | nil => rfl
  | cons t ts ih => rw [List.cons_append, placeAll_nil_cons, placeAll_nil_cons, ih, List.append_assoc]; rfl

/-- What is reported comes from a step at one of the markers. -/
theorem exists_mark?_of_mem_placeAll (h : m ∈ placeAll [] s ts) : ∃ s', ∃ t ∈ ts, Scopes.mark? s' t = some m := by
  induction ts generalizing s with
  | nil => cases h
  | cons t ts ih =>
    rw [placeAll_nil_cons] at h
    rcases List.mem_append.mp h with h | h
    · exact ⟨s, t, List.mem_cons_self, Option.mem_toList.mp h⟩
    · obtain ⟨s', u, hu, hm⟩ := ih h
      exact ⟨s', u, List.mem_cons_of_mem _ hu, hm⟩

theorem exists_of_mem_placeAll (h : m ∈ placeAll [] s ts) : ∃ t ∈ ts, m.offset = t.start := by
  obtain ⟨s', t, ht, hm⟩ := exists_mark?_of_mem_placeAll h
  exact ⟨t, ht, Scopes.offset_of_mark? hm⟩

/-! ## Positions -/

/-- The markers of a text start one behind the other. -/
theorem pairwise_start_consumed (text : List Char) : (consumed text).Pairwise fun x y => x.start < y.start := by
  have hleft := leftmost_consumed text
  refine hleft.ordered.imp_of_mem fun hx _ hxy => ?_
  exact Nat.lt_of_lt_of_le (hleft.written _ hx).start_lt_stop hxy

theorem pairwise_start_tokens (text : List Char) : (tokens text).Pairwise fun t u => t.start < u.start := by
  have hconsumed := pairwise_start_consumed text
  rwa [consumed, List.pairwise_map] at hconsumed

/-- **What is reported at a bracket is what the step there gives.** -/
theorem mem_scan_iff (h : tokens text.toList = ts ++ t :: us) :
    m ∈ scan text ∧ m.offset = t.start ↔ (Scopes.after {} ts).mark? t = some m := by
  have hordered := pairwise_start_tokens text.toList
  rw [h] at hordered
  obtain ⟨-, hafter, hbefore⟩ := List.pairwise_append.mp hordered
  have hscan : scan text = placeAll [] {} ts ++
      (((Scopes.after {} ts).mark? t).toList ++ placeAll [] ((Scopes.after {} ts).next t) us) := by
    rw [scan, h, placeAll_append, placeAll_nil_cons]
  rw [hscan, List.mem_append, List.mem_append, Option.mem_toList]
  constructor
  · rintro ⟨hm | hm | hm, hoffset⟩
    · obtain ⟨u, hu, hm⟩ := exists_of_mem_placeAll hm
      have := hbefore u hu t List.mem_cons_self
      omega
    · exact hm
    · obtain ⟨u, hu, hm⟩ := exists_of_mem_placeAll hm
      have := (List.pairwise_cons.mp hafter).1 u hu
      omega
  · intro hm
    exact ⟨.inr (.inl hm), Scopes.offset_of_mark? hm⟩

/-! ## The steps of blocks -/

/-- The marker that begins or ends a block as it is reported. -/
def Span.block (x : Span) (kind : MarkerKind) : Marker := ⟨x.slugText, x.attributeTexts, .topLevel, kind, x.start⟩

theorem Tracks.next {earlier : List Span} (h : Tracks s earlier) (t : Token) :
    Tracks (s.next t) (earlier ++ [t.span]) := by
  have hplace := h.place t.span
  rwa [← attributesOf_eq] at hplace

theorem Tracks.after {earlier : List Span} (h : Tracks s earlier) (ts : List Token) :
    Tracks (s.after ts) (earlier ++ ts.map Token.span) := by
  induction ts generalizing s earlier with
  | nil =>
    rw [List.map_nil, List.append_nil]
    exact h
  | cons t ts ih =>
    rw [List.map_cons, List.append_cons]
    exact ih (h.next t)

/-- The open names behind markers are those of the blocks that are open. -/
theorem tracks_after (ts : List Token) : Tracks (Scopes.after {} ts) (ts.map Token.span) := tracks_nil.after ts

theorem mark?_eq (s : Scopes) (t : Token) :
    s.mark? t = (s.place t.span.slugText t.span.attributeTexts).2.map fun p =>
      ⟨t.span.slugText, t.span.attributeTexts, p.1, p.2, t.span.start⟩ := by
  rw [Scopes.mark?, attributesOf_eq]
  rfl

/-- Every begin is reported. -/
theorem mark?_of_opens (h : t.span.opens name = true) : s.mark? t = some (t.span.block .blockBegin) := by
  obtain ⟨hrole, -⟩ := of_decide_eq_true h
  rw [mark?_eq, Scopes.place, show blockRole t.span.attributeTexts = .opens from hrole]
  rfl

/-- An end is reported if its block is open. -/
theorem Tracks.mark?_of_closes {earlier : List Span} (htracks : Tracks s earlier) (h : t.span.closes name = true) :
    s.mark? t = if isOpen earlier name then some (t.span.block .blockEnd) else none := by
  obtain ⟨hrole, rfl⟩ := of_decide_eq_true h
  rw [mark?_eq, Scopes.place, show blockRole t.span.attributeTexts = .closes from hrole]
  have hopen : s.opened.contains (slugHead t.span.slugText) = isOpen earlier t.span.blockName := by
    rw [Bool.eq_iff_iff, ← htracks.mem_iff, List.contains_iff_mem]
    rfl
  simp only [hopen]
  cases isOpen earlier t.span.blockName <;> rfl

/-! ## Ends -/

/-- The end `x` of a block is reported. -/
def EndReported (text : String) (x : Span) : Prop := x.block .blockEnd ∈ scan text

theorem exists_split_of_mem_consumed {l : List Char} {x : Span} (h : x ∈ consumed l) :
    ∃ ts t us, tokens l = ts ++ t :: us ∧ x = t.span := by
  obtain ⟨t, ht, rfl⟩ := List.mem_map.mp h
  obtain ⟨ts, us, hsplit⟩ := List.append_of_mem ht
  exact ⟨ts, t, us, hsplit, rfl⟩

/-- The markers in front of a marker are those that start before it. -/
theorem mem_map_span_iff {l : List Char} (h : tokens l = ts ++ t :: us) {x : Span} :
    x ∈ ts.map Token.span ↔ x ∈ consumed l ∧ x.start < t.span.start := by
  have hordered := pairwise_start_consumed l
  rw [consumed, h, List.map_append, List.map_cons] at hordered ⊢
  obtain ⟨-, htail, hbefore⟩ := List.pairwise_append.mp hordered
  constructor
  · intro hx
    exact ⟨List.mem_append_left _ hx, hbefore x hx _ List.mem_cons_self⟩
  · rintro ⟨hx, hlt⟩
    rcases List.mem_append.mp hx with hx | hx
    · exact hx
    · rcases List.mem_cons.mp hx with rfl | hx
      · omega
      · have := (List.pairwise_cons.mp htail).1 x hx
        omega

theorem endReported_iff (h : tokens text.toList = ts ++ t :: us) (hclose : t.span.closes name = true) :
    EndReported text t.span ↔ isOpen (ts.map Token.span) name = true := by
  have hmark := (tracks_after ts).mark?_of_closes hclose
  have hscan : t.span.block .blockEnd ∈ scan text ∧ t.span.start = t.start ↔
      (Scopes.after {} ts).mark? t = some (t.span.block .blockEnd) := mem_scan_iff h
  rw [hmark] at hscan
  unfold EndReported
  constructor
  · intro hmem
    have hsome := hscan.mp ⟨hmem, rfl⟩
    split at hsome
    · assumption
    · cases hsome
  · intro hopen
    rw [if_pos hopen] at hscan
    exact (hscan.mpr rfl).1

theorem not_closes_of_opens {x : Span} (h : x.opens name = true) : x.closes name = false := by
  obtain ⟨hrole, -⟩ := of_decide_eq_true h
  simp [Span.closes, hrole]

/-- **A block is open if it was begun and no end of it was reported since.** The induction goes through the markers from
the left; an end that comes while the block is open is reported, so the last begin does not outlive it. -/
theorem isOpen_iff (h : tokens text.toList = ts ++ us) :
    isOpen (ts.map Token.span) name = true ↔ ∃ b ∈ ts.map Token.span, b.opens name = true ∧
      ∀ y ∈ ts.map Token.span, y.closes name = true → b.start < y.start → ¬EndReported text y := by
  induction ts using List.reverseRecOn generalizing us with
  | nil => simp [isOpen]
  | append_singleton ts t ih =>
    have hsplit : tokens text.toList = ts ++ t :: us := by rw [h, List.append_assoc, List.singleton_append]
    have hopen := ih hsplit
    rw [List.map_append, List.map_singleton, isOpen_concat]
    constructor
    · rintro ⟨hclose, hbegun⟩
      rcases hbegun with hbegun | hbegun
      · refine ⟨t.span, List.mem_append_right _ List.mem_cons_self, hbegun, fun y hy _ hlt => ?_⟩
        rcases List.mem_append.mp hy with hy | hy
        · have := ((mem_map_span_iff hsplit).mp hy).2
          omega
        · rw [List.mem_singleton.mp hy] at hlt
          omega
      · obtain ⟨b, hb, hbegin, hnone⟩ := hopen.mp hbegun
        refine ⟨b, List.mem_append_left _ hb, hbegin, fun y hy hend hlt => ?_⟩
        rcases List.mem_append.mp hy with hy | hy
        · exact hnone y hy hend hlt
        · rw [List.mem_singleton.mp hy, hclose] at hend
          cases hend
    · rintro ⟨b, hb, hbegin, hnone⟩
      have hbefore : b ∈ ts.map Token.span → isOpen (ts.map Token.span) name = true := fun hb =>
        hopen.mpr ⟨b, hb, hbegin, fun y hy => hnone y (List.mem_append_left _ hy)⟩
      rcases List.mem_append.mp hb with hb | hb
      · refine ⟨Bool.eq_false_iff.mpr fun hend => ?_, .inr (hbefore hb)⟩
        have hlt := ((mem_map_span_iff hsplit).mp hb).2
        refine hnone t.span (List.mem_append_right _ List.mem_cons_self) hend hlt ?_
        exact (endReported_iff hsplit hend).mpr (hbefore hb)
      · rw [List.mem_singleton.mp hb] at hbegin
        exact ⟨not_closes_of_opens hbegin, .inl hbegin⟩

/-! ## Blocks of other names -/

/-- A marker with this slug and these attributes begins or ends the block of a name. -/
def delimits (name slug : String) (attributes : List (String × String)) : Bool :=
  slugHead slug = name ∧ (blockRole attributes = .opens ∨ blockRole attributes = .closes)

/-- The token begins or ends the block of a name. -/
def Token.delimits (name : String) (t : Token) : Bool := Marker.delimits name t.slug.string (attributesOf t)

theorem delimits_of_mark? (h : s.mark? t = some m) : delimits name m.slug m.attributes = t.delimits name := by
  obtain ⟨p, -, rfl⟩ := Option.map_eq_some_iff.mp h
  rfl

theorem Token.delimits_iff : t.delimits name = true ↔ t.span.opens name = true ∨ t.span.closes name = true := by
  rw [Token.delimits, Marker.delimits, attributesOf_eq]
  simp only [Span.opens, Span.closes, decide_eq_true_eq]
  show slugHead t.span.slugText = name ∧ (t.span.role = .opens ∨ t.span.role = .closes) ↔
    t.span.role = .opens ∧ slugHead t.span.slugText = name ∨ t.span.role = .closes ∧ slugHead t.span.slugText = name
  tauto

/-- A begin or an end is reported in the same way wherever its block is open to the same extent. -/
theorem Tracks.mark?_congr {s' : Scopes} {earlier earlier' : List Span} (h : Tracks s earlier)
    (h' : Tracks s' earlier') (hopen : isOpen earlier name = isOpen earlier' name) (ht : t.delimits name = true) :
    s.mark? t = s'.mark? t := by
  rcases Token.delimits_iff.mp ht with hbegin | hend
  · rw [mark?_of_opens hbegin, mark?_of_opens hbegin]
  · rw [h.mark?_of_closes hend, h'.mark?_of_closes hend, hopen]

theorem filter_mark? (s : Scopes) (t : Token) :
    (s.mark? t).toList.filter (fun m => delimits name m.slug m.attributes) =
      if t.delimits name then (s.mark? t).toList else [] := by
  cases hmark : s.mark? t with
  | none => simp
  | some m => simp [delimits_of_mark? hmark, List.filter_cons]

theorem isOpen_concat_of_not_delimits {earlier : List Span} (ht : t.delimits name = false) :
    isOpen (earlier ++ [t.span]) name = isOpen earlier name := by
  have hneither : ¬(t.span.opens name = true ∨ t.span.closes name = true) := by
    rw [← Token.delimits_iff, ht]
    exact Bool.false_ne_true
  rw [not_or, Bool.not_eq_true, Bool.not_eq_true] at hneither
  rw [Bool.eq_iff_iff, isOpen_concat, hneither.1, hneither.2]
  simp

/-- **Scanning for one block is scanning its own markers.** The induction goes through the markers with two lists of open
names, one of all blocks and one of the markers of this block, which agree on whether it is open. -/
theorem filter_placeAll {s s' : Scopes} {earlier earlier' : List Span} (h : Tracks s earlier)
    (h' : Tracks s' earlier') (hopen : isOpen earlier name = isOpen earlier' name) (ts : List Token) :
    (placeAll [] s ts).filter (fun m => delimits name m.slug m.attributes) =
      placeAll [] s' (ts.filter (·.delimits name)) := by
  induction ts generalizing s s' earlier earlier' with
  | nil => rfl
  | cons t ts ih =>
    rw [placeAll_nil_cons, List.filter_append, filter_mark?]
    cases ht : t.delimits name with
    | false =>
      rw [List.filter_cons_of_neg (by simp [ht])]
      exact ih (h.next t) h' ((isOpen_concat_of_not_delimits ht).trans hopen)
    | true =>
      have hopen' : isOpen (earlier ++ [t.span]) name = isOpen (earlier' ++ [t.span]) name := by
        rw [Bool.eq_iff_iff, isOpen_concat, isOpen_concat, hopen]
      rw [List.filter_cons_of_pos ht, placeAll_nil_cons, ← h.mark?_congr h' hopen ht,
        ih (h.next t) (h'.next t) hopen']
      rfl

/-! ## Matching -/

/-- How the begins and the ends of a name are reported. -/
structure BlocksMatch (text name : String) : Prop where
  /-- The last `block` attribute says what is a begin and what is an end, and the slug up to its first dot of what. -/
  roles : ∀ x : Span, (x.opens name = true ↔ x.LastBlock "begin" ∧ x.Named name) ∧
    (x.closes name = true ↔ x.LastBlock "end" ∧ x.Named name)
  /-- Every begin is reported. -/
  begins : ∀ x ∈ consumed text.toList, x.opens name = true → x.block .blockBegin ∈ scan text
  /-- An end is reported exactly if an earlier begin has no reported end between itself and this one. -/
  ends : ∀ x ∈ consumed text.toList, x.closes name = true → (EndReported text x ↔
    ∃ b ∈ consumed text.toList, b.opens name = true ∧ b.start < x.start ∧
      ∀ y ∈ consumed text.toList, y.closes name = true → b.start < y.start → y.start < x.start → ¬EndReported text y)
  /-- At a begin or an end nothing else is reported. -/
  only : ∀ x ∈ consumed text.toList, ∀ m ∈ scan text, m.offset = x.start →
    (x.opens name = true → m = x.block .blockBegin) ∧ (x.closes name = true → m = x.block .blockEnd)
  /-- Between two ends that are reported there is a begin. -/
  between : ∀ x ∈ consumed text.toList, ∀ y ∈ consumed text.toList, x.closes name = true → y.closes name = true →
    EndReported text x → EndReported text y → x.start < y.start →
      ∃ b ∈ consumed text.toList, b.opens name = true ∧ x.start < b.start ∧ b.start < y.start
  /-- Wherever scanning stands, it goes on with a list of open names that holds none of them twice. -/
  once : ∀ ts us, tokens text.toList = ts ++ us →
    scan text = placeAll (placeAll [] {} ts).reverse (Scopes.after {} ts) us ∧ (Scopes.after {} ts).opened.Nodup
  /-- What is reported of the block is what scanning its own begins and ends reports. -/
  apart : (scan text).filter (fun m => delimits name m.slug m.attributes) =
    placeAll [] {} ((tokens text.toList).filter (·.delimits name))

theorem begin_mem_scan {x : Span} (hx : x ∈ consumed text.toList) (h : x.opens name = true) :
    x.block .blockBegin ∈ scan text := by
  obtain ⟨ts, t, us, hsplit, rfl⟩ := exists_split_of_mem_consumed hx
  exact ((mem_scan_iff hsplit).mpr (mark?_of_opens h)).1

theorem endReported_iff_begun {x : Span} (hx : x ∈ consumed text.toList) (h : x.closes name = true) :
    EndReported text x ↔ ∃ b ∈ consumed text.toList, b.opens name = true ∧ b.start < x.start ∧
      ∀ y ∈ consumed text.toList, y.closes name = true → b.start < y.start → y.start < x.start →
        ¬EndReported text y := by
  obtain ⟨ts, t, us, hsplit, rfl⟩ := exists_split_of_mem_consumed hx
  rw [endReported_iff hsplit h, isOpen_iff hsplit]
  constructor
  · rintro ⟨b, hb, hbegin, hnone⟩
    obtain ⟨hb, hlt⟩ := (mem_map_span_iff hsplit).mp hb
    exact ⟨b, hb, hbegin, hlt, fun y hy hend hafter hbefore =>
      hnone y ((mem_map_span_iff hsplit).mpr ⟨hy, hbefore⟩) hend hafter⟩
  · rintro ⟨b, hb, hbegin, hlt, hnone⟩
    refine ⟨b, (mem_map_span_iff hsplit).mpr ⟨hb, hlt⟩, hbegin, fun y hy hend hafter => ?_⟩
    obtain ⟨hy, hbefore⟩ := (mem_map_span_iff hsplit).mp hy
    exact hnone y hy hend hafter hbefore

theorem eq_block_of_mem_scan {x : Span} (hx : x ∈ consumed text.toList) (hm : m ∈ scan text)
    (hoffset : m.offset = x.start) : (x.opens name = true → m = x.block .blockBegin) ∧
      (x.closes name = true → m = x.block .blockEnd) := by
  obtain ⟨ts, t, us, hsplit, rfl⟩ := exists_split_of_mem_consumed hx
  have hmark := (mem_scan_iff hsplit).mp ⟨hm, hoffset⟩
  constructor
  · intro hbegin
    rw [mark?_of_opens hbegin] at hmark
    exact (Option.some.inj hmark).symm
  · intro hend
    rw [(tracks_after ts).mark?_of_closes hend] at hmark
    split at hmark
    · exact (Option.some.inj hmark).symm
    · cases hmark

/-- **Begins and ends of blocks are matched per name**, in every text and for every name. -/
theorem scan_matches_blocks (text name : String) : BlocksMatch text name where
  roles _ := ⟨Span.opens_iff, Span.closes_iff⟩
  begins _ hx := begin_mem_scan hx
  ends _ hx := endReported_iff_begun hx
  only _ hx _ hm := eq_block_of_mem_scan hx hm
  between := by
    intro x hx y hy hendx hendy hxreported hyreported hlt
    obtain ⟨b, hb, hbegin, hby, hnone⟩ := (endReported_iff_begun hy hendy).mp hyreported
    have hle : x.start ≤ b.start := Nat.le_of_not_lt fun hbx => hnone x hx hendx hbx hlt hxreported
    have hne : x.start ≠ b.start := by
      intro heq
      -- only one thing is reported at a bracket, so an end is no begin
      have hsame := (eq_block_of_mem_scan hx (begin_mem_scan hb hbegin) heq.symm).2 hendx
      cases congrArg Marker.kind hsame
    exact ⟨b, hb, hbegin, Nat.lt_of_le_of_ne hle hne, hby⟩
  once := by
    intro ts us hsplit
    refine ⟨?_, (tracks_after ts).nodup⟩
    rw [scan, hsplit, placeAll_append, placeAll_found (placeAll [] {} ts).reverse, List.reverse_reverse]
  apart := filter_placeAll tracks_nil tracks_nil rfl (tokens text.toList)

/-- Blocks end in any order. The second end of `a` has no begin of its own. -/
example :
    (scan "[a;block=begin][b;block=begin][a;block=end][b;block=end][a.x;block=end]").map (fun m => (m.slug, m.kind)) =
      [("a", .blockBegin), ("b", .blockBegin), ("a", .blockEnd), ("b", .blockEnd)] := by decide +kernel

end FormTemplate.Marker
