import FormTemplate.Marker
import FormTemplate.Proofs.Marker.Tokenization

/-!
# Reported markers

Scanning a text gives one marker for each marker of the leftmost tokenization, in the order of the text, with its
position, its slug and its attributes. It leaves out an end of a block that is not open. A block is open where it
was begun and has not been ended since.

* `isOpen` : whether a block is open behind the markers of a text;
* `reported` : the markers of a tokenization without the ends of blocks that are not open;
* `Tracks` : the names of open blocks that scanning keeps are those of the blocks that are open;
* `scan_leftmost` : scanning reports the leftmost tokenization but for such ends.
-/

set_option autoImplicit false

namespace FormTemplate.Marker

open Text (Cursor)

variable {s : Scopes} {earlier : List Span} {x : Span}

/-! ## Open blocks -/

namespace Span

/-- The slug as it is written. -/
def slugText (x : Span) : String := String.ofList x.slug

/-- The attributes in the order of the text, with keys in lower case. -/
def attributeTexts (x : Span) : List (String × String) :=
  x.attributes.map fun a => (String.ofList (a.1.map Char.toLower), String.ofList a.2)

/-- The name of the block that the marker belongs to. -/
def blockName (x : Span) : String := slugHead x.slugText

/-- What the last `block` attribute asks for. -/
def role (x : Span) : BlockRole := blockRole x.attributeTexts

/-- Whether the marker begins the block of a name. -/
def opens (name : String) (x : Span) : Bool := x.role = .opens ∧ x.blockName = name

/-- Whether the marker ends the block of a name. -/
def closes (name : String) (x : Span) : Bool := x.role = .closes ∧ x.blockName = name

end Span

/-- Whether a block is open behind markers: since its last end it was begun. -/
def isOpen (earlier : List Span) (name : String) : Bool :=
  (earlier.reverse.takeWhile fun x => !x.closes name).any (Span.opens name)

/-- The markers behind `earlier`, without the ends of blocks that are not open. -/
def reported (earlier : List Span) : List Span → List Span
  | [] => []
  | x :: rest =>
    if x.role = .closes ∧ isOpen earlier x.blockName = false then reported (earlier ++ [x]) rest
    else x :: reported (earlier ++ [x]) rest

/-- A block is open behind a marker that begins it, and behind one that does not end it if it was open before. -/
theorem isOpen_concat {name : String} :
    isOpen (earlier ++ [x]) name = true ↔
      x.closes name = false ∧ (x.opens name = true ∨ isOpen earlier name = true) := by
  unfold isOpen
  rw [List.reverse_append, List.reverse_singleton, List.singleton_append, List.takeWhile_cons]
  cases x.closes name <;> simp

/-! ## Keeping track -/

/-- The names that are kept are those of the open blocks, each once. -/
structure Tracks (s : Scopes) (earlier : List Span) : Prop where
  nodup : s.opened.Nodup
  mem_iff : ∀ name, name ∈ s.opened ↔ isOpen earlier name = true

theorem tracks_nil : Tracks {} [] := ⟨.nil, fun name => by simp [isOpen]⟩

theorem Tracks.of_opened_eq {s' : Scopes} (h : Tracks s earlier) (hs : s'.opened = s.opened)
    (hopens : x.role ≠ .opens) (hcloses : x.role ≠ .closes) : Tracks s' (earlier ++ [x]) := by
  refine ⟨hs ▸ h.nodup, fun name => ?_⟩
  rw [isOpen_concat, hs, h.mem_iff]
  simp [Span.opens, Span.closes, hopens, hcloses]

theorem Tracks.begin (h : Tracks s earlier) (hrole : x.role = .opens) :
    Tracks { s with
      opened := if s.opened.contains x.blockName then s.opened else s.opened ++ [x.blockName] } (earlier ++ [x]) := by
  have hconcat : ∀ name, isOpen (earlier ++ [x]) name = true ↔ x.blockName = name ∨ name ∈ s.opened := by
    intro name
    rw [isOpen_concat, h.mem_iff]
    simp [Span.opens, Span.closes, hrole]
  by_cases hopen : x.blockName ∈ s.opened
  · rw [if_pos (by simpa using hopen)]
    refine ⟨h.nodup, fun name => ?_⟩
    rw [hconcat]
    exact ⟨.inr, fun hname => hname.elim (fun heq => heq ▸ hopen) id⟩
  · rw [if_neg (by simpa using hopen)]
    have hdisjoint : ∀ a ∈ s.opened, ∀ b ∈ [x.blockName], a ≠ b := by
      rintro a ha b hb rfl
      exact hopen (List.mem_singleton.mp hb ▸ ha)
    refine ⟨List.nodup_append.mpr ⟨h.nodup, by simp, hdisjoint⟩, fun name => ?_⟩
    rw [hconcat, List.mem_append, List.mem_singleton, or_comm, eq_comm]

theorem Tracks.close (h : Tracks s earlier) (hrole : x.role = .closes) :
    Tracks { s with opened := s.opened.erase x.blockName } (earlier ++ [x]) := by
  refine ⟨h.nodup.erase _, fun name => ?_⟩
  rw [isOpen_concat, ← h.mem_iff, h.nodup.mem_erase_iff]
  have hcloses : x.closes name = false ↔ name ≠ x.blockName := by simp [Span.closes, hrole, eq_comm]
  have hopens : x.opens name = false := by simp [Span.opens, hrole]
  rw [hcloses, hopens]
  simp

/-- Each marker leaves the open blocks as they are kept. -/
theorem Tracks.place (h : Tracks s earlier) (x : Span) :
    Tracks (s.place x.slugText x.attributeTexts).1 (earlier ++ [x]) := by
  unfold Scopes.place
  simp only
  split
  · rename_i hrole
    exact h.begin hrole
  · rename_i hrole
    split
    · exact h.close hrole
    · rename_i hopen
      have herase : s.opened.erase x.blockName = s.opened :=
        List.erase_of_not_mem (by simpa [Span.blockName] using hopen)
      have hclose := h.close hrole
      rwa [herase] at hclose
  · rename_i hrole
    exact h.of_opened_eq rfl (by simp [Span.role, hrole]) (by simp [Span.role, hrole])
  · rename_i hrole
    split <;> exact h.of_opened_eq rfl (by simp [Span.role, hrole]) (by simp [Span.role, hrole])

/-- A marker is left out exactly if it ends a block that is not open. -/
theorem Tracks.place_eq_none_iff (h : Tracks s earlier) (x : Span) :
    (s.place x.slugText x.attributeTexts).2 = none ↔ x.role = .closes ∧ isOpen earlier x.blockName = false := by
  rw [Bool.eq_false_iff, ne_eq, ← h.mem_iff]
  unfold Scopes.place
  simp only [Span.role, Span.blockName]
  cases blockRole x.attributeTexts with
  | opens => simp
  | closes => by_cases hopen : slugHead x.slugText ∈ s.opened <;> simp [hopen]
  | tableRow => simp
  | plain => by_cases hdot : isDotted x.slugText = true <;> simp [hdot]

/-! ## Scanning -/

/-- The position, the slug and the attributes of a marker. -/
def source (m : Marker) : Nat × String × List (String × String) := (m.offset, m.slug, m.attributes)

/-- The position, the slug and the attributes of a marker as they are written. -/
def Span.source (x : Span) : Nat × String × List (String × String) := (x.start, x.slugText, x.attributeTexts)

theorem attributesOf_eq (t : Token) : attributesOf t = t.span.attributeTexts := by
  simp [attributesOf, Span.attributeTexts, Token.span, Attribute.texts, Text.Cut.string]

theorem Tracks.placeAll (h : Tracks s earlier) (found : List Marker) (ts : List Token) :
    (placeAll found s ts).map source =
      found.reverse.map source ++ (reported earlier (ts.map Token.span)).map Span.source := by
  induction ts generalizing found s earlier with
  | nil => simp [Marker.placeAll, reported]
  | cons t rest ih =>
    have hnext := h.place t.span
    have hnone := h.place_eq_none_iff t.span
    have hslug : t.slug.string = t.span.slugText := rfl
    rw [Marker.placeAll, hslug, attributesOf_eq, List.map_cons, reported]
    cases hplace : s.place t.span.slugText t.span.attributeTexts with
    | mk s' place =>
      rw [hplace] at hnext hnone
      cases place with
      | none =>
        rw [if_pos (hnone.mp rfl)]
        exact ih hnext found
      | some p =>
        rw [if_neg (fun hleft => by cases hnone.mpr hleft)]
        simp only
        rw [ih hnext]
        simp [source, Span.source, Token.span]

theorem scan_eq_reported (text : String) :
    (scan text).map source = (reported [] (consumed text.toList)).map Span.source := by
  rw [scan, tracks_nil.placeAll]
  rfl

/-- **Scanning reports the leftmost tokenization.** What is read in a text is its leftmost tokenization, the only
one there is. Each marker of it is reported with the position of its bracket, its slug and its attributes, in the
order of the text, except for ends of blocks that are not open. -/
theorem scan_leftmost (text : String) :
    Leftmost (Cursor.start text.toList) (consumed text.toList) ∧
      (∀ l, Leftmost (Cursor.start text.toList) l → l = consumed text.toList) ∧
      (scan text).map source = (reported [] (consumed text.toList)).map Span.source :=
  ⟨leftmost_consumed _, fun _ h => h.unique (leftmost_consumed _), scan_eq_reported text⟩

end FormTemplate.Marker
