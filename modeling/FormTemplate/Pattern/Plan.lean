import FormTemplate.Pattern.ByteRange
import Std.Data.HashMap

/-!
# Plans of automata

A plan says which states an automaton gets and in which order. States are numbered as they are made, and each
takes some room. For a set of characters, states that lead to the same places are shared as far as a table of
limited size remembers them: a new state drops the one that had its slot before. What is shared therefore hangs
on the numbers of the states, so equal parts of a plan need not take equal room.

* `Room` : the number of states and the bytes that they take.
* `Assembly` : the states made for a set, with the table of those that can be shared.
* `Plan`, `Plan.build` : plans, and the room behind a plan that is built after other states.
* `Plan.followedBy`, `Plan.exactly` : plans made of plans; room that is known is added up at once.
-/

set_option autoImplicit false

namespace FormTemplate.Pattern

open Unicode (CodeSet)

/-! ## Room -/

/-- States, and the bytes that they take beside what every state takes. -/
structure Room where
  states : Nat := 0
  extra : Nat := 0
  deriving DecidableEq, Repr

/-- The number of bytes in a room. -/
def Room.bytes (r : Room) : Nat := 32 * r.states + r.extra

/-- Two rooms together. -/
def Room.and (r s : Room) : Room := ⟨r.states + s.states, r.extra + s.extra⟩

/-- A number of equal rooms together. -/
def Room.scale (n : Nat) (r : Room) : Room := ⟨n * r.states, n * r.extra⟩

/-- The greatest number of bytes that an automaton may take. -/
def maxRoom : Nat := 10 * 1024 * 1024

/-- Whether a room stays within the limit. -/
def Room.fits (r : Room) : Bool := r.bytes ≤ maxRoom

/-! ## Shared states -/

/-- A hash of numbers. -/
def hashNumbers (ns : List Nat) : UInt64 :=
  ns.foldl (fun h n => (h ^^^ n.toUInt64) * 1099511628211) 14695981039346656037

/-- The states made so far, and for each slot of a table the description and the number of the state in it. -/
structure Assembly where
  room : Room
  known : Std.HashMap Nat (List Nat × Nat) := ∅

/-- The state with a description, which is the one in its slot or a new one with `extra` bytes. -/
def Assembly.state (a : Assembly) (slots : UInt64) (description : List Nat) (extra : Nat) : Nat × Assembly :=
  let slot := (hashNumbers description % slots).toNat
  match a.known[slot]?.filter (·.1 == description) with
  | some found => (found.2, a)
  | none =>
    let new := a.room.states
    (new, ⟨a.room.and ⟨1, extra⟩, a.known.insert slot (description, new)⟩)

mutual

/-- The state for a tree of byte ranges whose ends all lead to `goal`. It is described by its ranges and by the
states that they lead to. -/
def ByteTree.state (goal : Nat) (a : Assembly) : ByteTree → Nat × Assembly
  | .node [] => (goal, a)
  | .node children =>
    let (links, a) := ByteTree.links goal a children
    a.state 10000 links (8 * children.length)

/-- The ranges of a tree, each with the state that it leads to. -/
def ByteTree.links (goal : Nat) (a : Assembly) : List (ByteRange × ByteTree) → List Nat × Assembly
  | [] => ([], a)
  | ((lo, hi), t) :: rest =>
    let (next, a) := t.state goal a
    let (links, a) := ByteTree.links goal a rest
    (lo :: hi :: next :: links, a)

end

/-- The states for a sequence of byte ranges that is read from its end and leads to `goal`. The state that chooses
between sequences grows by four bytes. -/
def Assembly.chain (goal : Nat) (a : Assembly) (ranges : List ByteRange) : Assembly :=
  let (_, a) := ranges.foldl (fun (next, a) (lo, hi) => a.state 1000 [next, lo, hi] 0) (goal, a)
  { a with room := a.room.and ⟨0, 4⟩ }

/-! ## Plans -/

/-- A plan of an automaton. -/
inductive Plan where
  /-- States whose room is known. -/
  | fixed (room : Room)
  /-- A set of characters, forwards. -/
  | tree (t : ByteTree)
  /-- A set of characters, backwards. -/
  | chains (sequences : List (List ByteRange))
  | both (p q : Plan)
  | copies (n : Nat) (p : Plan)

namespace Plan

/-- Builds a number of times, but no further than to the limit. -/
def repeatWithin (build : Room → Room) : Nat → Room → Room
  | 0, r => r
  | n + 1, r => if r.fits then repeatWithin build n (build r) else r

/-- The room behind a plan that is built after other states. -/
def build : Plan → Room → Room
  | .fixed room, r => r.and room
  | .tree t, r => (t.state r.states ⟨r.and ⟨1, 0⟩, ∅⟩).2.room
  | .chains sequences, r => (sequences.foldl (Assembly.chain (r.states + 1)) ⟨r.and ⟨2, 0⟩, ∅⟩).room
  | .both p q, r => q.build (p.build r)
  | .copies n p, r => repeatWithin p.build n r

/-- One plan after another. -/
def followedBy : Plan → Plan → Plan
  | .fixed r, .fixed s => .fixed (r.and s)
  | p, q => .both p q

/-- A number of states, with bytes of their own. -/
def states (n extra : Nat) : Plan := .fixed ⟨n, extra⟩

/-- Plans in a row. -/
def row (ps : List Plan) : Plan := ps.foldl followedBy (states 0 0)

/-- A plan a number of times, or one state in place of none. -/
def exactly (n : Nat) (p : Plan) : Plan :=
  if n == 0 then states 1 0
  else
    match p with
    | .fixed r => .fixed (r.scale n)
    | p => .copies n p

end Plan

end FormTemplate.Pattern
