import FormTemplate.Pattern.Form
import FormTemplate.Pattern.Plan

/-!
# The size of a pattern

A pattern is refused if an automaton for its normal form would take too much room. There is one that reads
forwards and one that reads backwards, and both work on bytes.

* `WordTree` : alternatives between words, which share their starts.
* `Form.plan` : the plan of an automaton.
* `Form.isSmall` : both automata stay within the limit.
-/

set_option autoImplicit false

namespace FormTemplate.Pattern

open Unicode (CodeSet)

/-! ## Words -/

/-- The bytes of characters in a row. -/
def literalBytes (cs : List Char) : List Nat := cs.flatMap fun c => utf8Bytes c.toNat

/-- A tree of words. A word that ends at a node closes the bytes that follow there: words given later rank below
it and do not share them. A word that ends where nothing follows and one has ended before changes nothing. -/
inductive WordTree where
  | node (closed : List (List (Nat × WordTree))) (current : List (Nat × WordTree))

namespace WordTree

/-- The tree without words. -/
def empty : WordTree := .node [] []

/-- Whether no byte follows. -/
def isLeaf : WordTree → Bool
  | .node closed current => closed.all List.isEmpty && current.isEmpty

/-- Adds a word. -/
def insert : List Nat → WordTree → WordTree
  | [], .node closed current =>
    if !closed.isEmpty && isLeaf (.node closed current) then .node closed current
    else .node (closed ++ [current]) []
  | b :: rest, .node closed current =>
    match current.find? (·.1 == b) with
    | some (_, t) => .node closed ((b, insert rest t) :: current.filter (·.1 != b))
    | none => .node closed ((b, insert rest empty) :: current)

/-- The room of bytes that lead from one state. -/
def linksRoom (n : Nat) : Room := if n == 0 then {} else if n == 1 then ⟨1, 0⟩ else ⟨1, 8 * n⟩

mutual

/-- The room of a tree. A leaf takes none, because what leads to it leads to the end. -/
def room : WordTree → Room
  | .node closed current =>
    if isLeaf (.node closed current) then {}
    else
      let chunks := (closed ++ [current]).map List.length
      let links := chunks.map linksRoom
      let choices := (chunks.filter (· != 0)).length + closed.length
      (links.foldl Room.and ⟨1, 4 * choices⟩).and ((roomOfAll closed).and (roomOf current))

@[inherit_doc room]
def roomOf : List (Nat × WordTree) → Room
  | [] => {}
  | (_, t) :: rest => t.room.and (roomOf rest)

@[inherit_doc room]
def roomOfAll : List (List (Nat × WordTree)) → Room
  | [] => {}
  | ts :: rest => (roomOf ts).and (roomOfAll rest)

end

end WordTree

/-! ## The plan of a form -/

/-- The plan of one character of a set. -/
def setPlan (backwards : Bool) (s : CodeSet) : Plan :=
  if s.ranges.all (·.2 < 0x80) then .states 2 (8 * s.ranges.length)
  else if backwards then .chains (setSequences s)
  else .tree (.ofSet s)

/-- The plan of alternatives between words. -/
def wordsPlan (backwards : Bool) (words : List (List Nat)) : Plan :=
  let tree := words.foldl (fun t w => t.insert (if backwards then w.reverse else w)) WordTree.empty
  .fixed (tree.room.and ⟨1, 0⟩)

/-- The plan of alternatives. The states where they part and meet are made behind the second one. -/
def choicePlan : List Plan → Plan
  | p :: q :: rest => .row (p :: q :: .states 2 (4 * (rest.length + 2)) :: rest)
  | ps => .row ps

/-- The plan of a repetition. `isLong` holds where a piece takes a character. -/
def timesPlan (p : Plan) (isLong : Bool) (min : Nat) (max : Option Nat) : Plan :=
  match min, max with
  | 0, some 1 => .row [.states 1 8, p, .states 1 0]
  | 0, none => if isLong then .row [.states 1 8, p] else .row [p, .states 3 16]
  | min, none => .row [.exactly min p, .states 1 8]
  | min, some max =>
    if max ≤ min then .exactly min p
    else .row [.exactly min p, .states 1 0, .exactly (max - min) (.row [.states 1 8, p])]

/-- The characters of a literal. -/
def Form.literal? : Form → Option (List Char)
  | .literal cs => some cs
  | _ => none

mutual

/-- The plan of an automaton for a form. Groups are marked forwards only. -/
def Form.plan (backwards : Bool) : Form → Plan
  | .empty => .states 1 0
  | .literal cs => .states (literalBytes cs).length 0
  | .set _ s => setPlan backwards s
  | .assertion _ => .states 1 0
  | .times r min max _ => timesPlan (r.plan backwards) (r.minLength.any (0 < ·)) min max
  | .group r => if backwards then r.plan backwards else .row [.states 1 0, r.plan backwards, .states 1 0]
  | .cat rs => if backwards then .row (Form.plans backwards rs).reverse else .row (Form.plans backwards rs)
  | .alt rs =>
    match rs.mapM Form.literal? with
    | some words => wordsPlan backwards (words.map literalBytes)
    | none => choicePlan (Form.plans backwards rs)

@[inherit_doc Form.plan]
def Form.plans (backwards : Bool) : List Form → List Plan
  | [] => []
  | r :: rest => r.plan backwards :: Form.plans backwards rest

end

/-- The plan of a whole automaton. Where a piece can stand anywhere, three states skip what is not in it. -/
def Form.wholePlan (backwards : Bool) (r : Form) : Plan :=
  .row [if r.isAnchored backwards then .states 1 0 else .states 3 16,
    if backwards then r.plan true else (Form.group r).plan false, .states 1 0]

/-- Whether the automata for the normal form of a pattern stay within the limit. -/
def Form.isSmall (r : Form) : Bool :=
  let r := r.normal
  ((r.wholePlan false).build {}).fits && ((r.wholePlan true).build {}).fits

end FormTemplate.Pattern
