import FormTemplate.Text.Hex

/-!
# Sets of code points

A set of characters is a list of closed ranges of code points. The set operations keep the ranges in
increasing order and apart from each other, so two sets with the same members have the same ranges.
Surrogates are no characters; a complement leaves them out.

* `CodeSet.contains` : membership of a character.
* `CodeSet.ofRanges` : the set of any list of ranges.
* `CodeSet.union`, `inter`, `diff`, `compl` : the set operations.
* `CodeSet.ofText` : the set listed by a table such as `41-5A AA B5`.
-/

set_option autoImplicit false

namespace FormTemplate.Unicode

/-- A set of code points, as closed ranges. -/
structure CodeSet where
  ranges : List (Nat × Nat)
  deriving DecidableEq, Repr

namespace CodeSet

/-- The set without members. -/
def empty : CodeSet := ⟨[]⟩

/-- All code points that are characters. -/
def all : CodeSet := ⟨[(0, 0xD7FF), (0xE000, 0x10FFFF)]⟩

/-- The set of one code point. -/
def single (n : Nat) : CodeSet := ⟨[(n, n)]⟩

/-- The set of one closed range. -/
def range (lo hi : Nat) : CodeSet := ⟨[(lo, hi)]⟩

/-- Whether a code point lies in one of the ranges. -/
def containsCode (s : CodeSet) (n : Nat) : Bool := s.ranges.any fun r => r.1 ≤ n && n ≤ r.2

/-- Whether a character belongs to the set. -/
def contains (s : CodeSet) (c : Char) : Bool := s.containsCode c.toNat

/-- Whether the set has no member. -/
def isEmpty (s : CodeSet) : Bool := s.ranges.isEmpty

/-- Joins ranges that touch or overlap, given in order of their starts. -/
def coalesce : List (Nat × Nat) → List (Nat × Nat)
  | [] => []
  | r :: rest =>
    match coalesce rest with
    | [] => [r]
    | q :: qs => if q.1 ≤ r.2 + 1 then (r.1, max r.2 q.2) :: qs else r :: q :: qs

/-- The set of all code points in any of the ranges, in ordered form. -/
def ofRanges (rs : List (Nat × Nat)) : CodeSet :=
  ⟨coalesce ((rs.filter fun r => r.1 ≤ r.2).mergeSort fun a b => a.1 ≤ b.1)⟩

/-- Members of either set. -/
def union (s t : CodeSet) : CodeSet := ofRanges (s.ranges ++ t.ranges)

/-- The gaps between ordered ranges, from the code point `from_` up to `last`. -/
def gaps (last : Nat) : Nat → List (Nat × Nat) → List (Nat × Nat)
  | start, [] => if start ≤ last then [(start, last)] else []
  | start, r :: rest =>
    if start < r.1 then (start, r.1 - 1) :: gaps last (r.2 + 1) rest
    else gaps last (max start (r.2 + 1)) rest

/-- The characters outside the set. -/
def compl (s : CodeSet) : CodeSet :=
  ⟨gaps 0x10FFFF 0 (ofRanges ((0xD800, 0xDFFF) :: s.ranges)).ranges⟩

/-- Characters in both sets. -/
def inter (s t : CodeSet) : CodeSet := (union s.compl t.compl).compl

/-- Characters of the first set that are not in the second. -/
def diff (s t : CodeSet) : CodeSet := inter s t.compl

/-- Characters in exactly one of the sets. -/
def symmDiff (s t : CodeSet) : CodeSet := union (diff s t) (diff t s)

/-- The union of a list of sets. -/
def unions (ss : List CodeSet) : CodeSet := ofRanges (ss.flatMap (·.ranges))

end CodeSet

/-! ## Tables in text form -/

/-- The pieces of a text between separators, without empty ones. -/
def splitAll (sep : Char → Bool) : List Char → List (List Char)
  | [] => []
  | c :: r =>
    let rest := splitAll sep r
    if sep c then [] :: rest
    else
      match rest with
      | [] => [[c]]
      | w :: ws => (c :: w) :: ws

/-- The words of a table. -/
def tableWords (s : String) : List (List Char) :=
  (splitAll (fun c => c == ' ' || c == '\n') s.toList).filter (! ·.isEmpty)

/-- A range written `41-5A`, or `AA` for a single code point. -/
def readRange? (w : List Char) : Option (Nat × Nat) :=
  match splitAll (· == '-') w with
  | [a] => (Text.hexValue? a).map fun n => (n, n)
  | [a, b] => (Text.hexValue? a).bind fun m => (Text.hexValue? b).map fun n => (m, n)
  | _ => none

/-- The set that a table of ranges lists. -/
def CodeSet.ofText (s : String) : CodeSet := .ofRanges ((tableWords s).filterMap readRange?)

/-- The set in the row of a table that has a name among its names. -/
def namedSet? (table : List (String × String)) (name : String) : Option CodeSet :=
  (table.find? fun row => (tableWords row.1).contains name.toList).map fun row => .ofText row.2

end FormTemplate.Unicode
