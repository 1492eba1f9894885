import FormTemplate.Unicode.CodeSet

/-!
# Characters as ranges of bytes

The UTF-8 forms of the characters in a range are written by a few sequences of byte ranges: each takes one range
for the first byte, one for the second, and so on. A set of characters is written by the sequences of its
ranges, which share their starts in a tree.

* `utf8Sequences` : the sequences that write a range of characters.
* `setSequences`, `ByteTree.ofSet` : the sequences of a set, in order and as a tree.
-/

set_option autoImplicit false

namespace FormTemplate.Pattern

open Unicode (CodeSet)

/-- A closed range of bytes. -/
abbrev ByteRange := Nat × Nat

/-- The bytes of a code point in UTF-8. -/
def utf8Bytes (n : Nat) : List Nat :=
  if n < 0x80 then [n]
  else if n < 0x800 then [0xC0 + n / 64, 0x80 + n % 64]
  else if n < 0x10000 then [0xE0 + n / 4096, 0x80 + n / 64 % 64, 0x80 + n % 64]
  else [0xF0 + n / 262144, 0x80 + n / 4096 % 64, 0x80 + n / 64 % 64, 0x80 + n % 64]

/-- Where a range of code points has to be split so that its parts vary in whole bytes only: the last code point
of the first part. -/
def splitPoint? (lo hi : Nat) : Option Nat :=
  let encodedSplit := [0x7F, 0x7FF, 0xFFFF].find? fun m => lo ≤ m && m < hi
  let blockSplit (size : Nat) : Option Nat :=
    if lo / size == hi / size then none
    else if lo % size != 0 then some (lo / size * size + size - 1)
    else if hi % size != size - 1 then some (hi / size * size - 1)
    else none
  encodedSplit.or <|
    if hi < 0x80 then none
    else ((blockSplit 64).or (blockSplit 4096)).or (blockSplit 262144)

/-- The sequences of byte ranges that write the code points of a range, in order. -/
def utf8Sequences : Nat → Nat → Nat → List (List ByteRange)
  | 0, _, _ => []
  | fuel + 1, lo, hi =>
    match splitPoint? lo hi with
    | some m => utf8Sequences fuel lo m ++ utf8Sequences fuel (m + 1) hi
    | none => [(utf8Bytes lo).zip (utf8Bytes hi)]

/-- The sequences of byte ranges that write the members of a set. -/
def setSequences (s : CodeSet) : List (List ByteRange) :=
  (s.inter .all).ranges.flatMap fun r => utf8Sequences 32 r.1 r.2

/-- A tree of byte ranges. -/
inductive ByteTree where
  | node (children : List (ByteRange × ByteTree))

/-- Adds a sequence of byte ranges behind all others; a common start is shared with the last one. -/
def ByteTree.append : ByteTree → List ByteRange → ByteTree
  | t, [] => t
  | .node children, r :: rest =>
    match children.getLast? with
    | some (q, t) =>
      if q == r then .node (children.dropLast ++ [(q, t.append rest)])
      else .node (children ++ [(r, (ByteTree.node []).append rest)])
    | none => .node [(r, (ByteTree.node []).append rest)]
termination_by _ rest => rest.length

/-- The tree of a set. -/
def ByteTree.ofSet (s : CodeSet) : ByteTree := (setSequences s).foldl ByteTree.append (.node [])

end FormTemplate.Pattern
