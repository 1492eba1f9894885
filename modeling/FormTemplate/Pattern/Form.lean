import FormTemplate.Pattern.Regex

/-!
# Resolved patterns

A resolved pattern has its flags worked in: every class is a set of characters and every condition says what it
looks at. It keeps what a regular expression for matching can forget, that is numbered groups, how much a
repetition takes, and which characters were written as such.

The normal form is what the size of a pattern is measured on. Rows inside rows and alternatives inside
alternatives are opened, characters side by side are one literal, alternatives between single characters are a
set, a start that all alternatives share stands once in front of them, and an empty piece is not repeated.

* `Form` : resolved patterns.
* `Form.regex` : the regular expression to match with.
* `Form.normal` : the normal form.
* `Form.isVoid`, `Form.minLength`, `Form.isAnchored` : what a form says about the pieces that it matches.
-/

set_option autoImplicit false

namespace FormTemplate.Pattern

open Unicode (CodeSet)

/-- A resolved pattern. -/
inductive Form where
  | empty
  /-- Characters in a row. -/
  | literal (cs : List Char)
  /-- One character of a set, which consists of bytes where the Unicode flag was off. -/
  | set (ofBytes : Bool) (s : CodeSet)
  | assertion (a : Assertion)
  | times (r : Form) (min : Nat) (max : Option Nat) (greedy : Bool)
  /-- A numbered or named group. -/
  | group (r : Form)
  | cat (rs : List Form)
  | alt (rs : List Form)
  deriving Repr

/-- One expression after another; the empty piece leaves no trace. -/
def catKept : Regex → Regex → Regex
  | .empty, s => s
  | r, .empty => r
  | r, s => .cat r s

/-- The expression for characters in a row. -/
def literalRegex (cs : List Char) : Regex := cs.foldr (fun c r => catKept (.set (.single c.toNat)) r) .empty

namespace Form

mutual

/-- The regular expression to match with. Whether a text matches depends neither on groups nor on greed. -/
def regex : Form → Regex
  | .empty => .empty
  | .literal cs => literalRegex cs
  | .set _ s => .set s
  | .assertion a => .assertion a
  | .times r min max _ => .times r.regex min max
  | .group r => r.regex
  | .cat rs => regexOfRow rs
  | .alt rs => regexOfChoice rs

/-- The expression for forms in a row. -/
def regexOfRow : List Form → Regex
  | [] => .empty
  | r :: rest => catKept r.regex (regexOfRow rest)

/-- The expression for alternatives. -/
def regexOfChoice : List Form → Regex
  | [] => .set .empty
  | [r] => r.regex
  | r :: rest => .alt r.regex (regexOfChoice rest)

end

/-! ## Lengths -/

mutual

/-- Whether a form is made of conditions alone, so that it matches nothing but the empty piece. -/
def isVoid : Form → Bool
  | .empty => true
  | .literal cs => cs.isEmpty
  | .set _ _ => false
  | .assertion _ => true
  | .times r _ _ _ => r.isVoid
  | .group r => r.isVoid
  | .cat rs => areVoid rs
  | .alt rs => areVoid rs

@[inherit_doc isVoid]
def areVoid : List Form → Bool
  | [] => true
  | r :: rest => r.isVoid && areVoid rest

end

mutual

/-- The least number of characters in a piece, if none of the sets inside is empty. -/
def minLength : Form → Option Nat
  | .empty => some 0
  | .literal cs => some cs.length
  | .set _ s => if s.isEmpty then none else some 1
  | .assertion _ => some 0
  | .times r min _ _ => r.minLength.map (min * ·)
  | .group r => r.minLength
  | .cat rs => (minLengths? rs).map (·.foldl (· + ·) 0)
  | .alt rs => (minLengths? rs).bind List.min?

@[inherit_doc minLength]
def minLengths? : List Form → Option (List Nat)
  | [] => some []
  | r :: rest => r.minLength.bind fun n => (minLengths? rest).map (n :: ·)

end

mutual

/-- Whether every piece has to stand at an end of the text: a condition that is met there comes first, or last
where the form is read backwards. -/
def isAnchored (backwards : Bool) : Form → Bool
  | .assertion a => a == if backwards then .textEnd else .textStart
  | .times r min _ _ => min != 0 && r.isAnchored backwards
  | .group r => r.isAnchored backwards
  | .cat rs => if backwards then lastIsAnchored rs else firstIsAnchored rs
  | .alt rs => !rs.isEmpty && areAnchored backwards rs
  | _ => false

@[inherit_doc isAnchored]
def areAnchored (backwards : Bool) : List Form → Bool
  | [] => true
  | r :: rest => r.isAnchored backwards && areAnchored backwards rest

/-- Whether the first form of a row that takes a character, or one before it, asks for the start of the text. -/
def firstIsAnchored : List Form → Bool
  | [] => false
  | r :: rest => r.isAnchored false || (r.isVoid && firstIsAnchored rest)

/-- Whether the last form of a row that takes a character, or one behind it, asks for the end of the text. -/
def lastIsAnchored : List Form → Bool
  | [] => false
  | r :: rest => lastIsAnchored rest || (areVoid rest && r.isAnchored true)

end

/-! ## The normal form -/

mutual

/-- Whether two forms are alike. Two groups never are, because they have different numbers. -/
def same : Form → Form → Bool
  | .empty, .empty => true
  | .literal a, .literal b => a == b
  | .set p s, .set q t => p == q && s == t
  | .assertion a, .assertion b => a == b
  | .times r m n g, .times s m' n' g' => m == m' && n == n' && g == g' && r.same s
  | .cat rs, .cat ss => sameAll rs ss
  | .alt rs, .alt ss => sameAll rs ss
  | _, _ => false

@[inherit_doc same]
def sameAll : List Form → List Form → Bool
  | [], [] => true
  | r :: rs, s :: ss => r.same s && sameAll rs ss
  | _, _ => false

end

/-- A form that matches nothing. -/
def fail : Form := .set true .empty

/-- One character of a set. A set of one character is a literal. -/
def ofSet (ofBytes : Bool) (s : CodeSet) : Form :=
  match s.ranges with
  | [] => fail
  | [(lo, hi)] => if lo == hi then .literal [Char.ofNat lo] else .set ofBytes s
  | _ => .set ofBytes s

/-- The forms of a row; the empty form is a row of none. -/
def parts : Form → List Form
  | .empty => []
  | .cat rs => rs
  | r => [r]

/-- Puts a form in front of a row and joins two literals. -/
def precede : Form → List Form → List Form
  | .literal a, .literal b :: rest => .literal (a ++ b) :: rest
  | r, rest => r :: rest

/-- Normal forms in a row. -/
def row (rs : List Form) : Form :=
  match (rs.flatMap parts).foldr precede [] with
  | [] => .empty
  | [r] => r
  | rs => .cat rs

/-- The alternatives of a form. -/
def branches : Form → List Form
  | .alt rs => rs
  | r => [r]

/-- The character of a literal with only one. -/
def char? : Form → Option Char
  | .literal [c] => some c
  | _ => none

/-- The set of a form that is one. -/
def set? : Form → Option CodeSet
  | .set _ s => some s
  | _ => none

/-- The forms of a form that is a row. -/
def row? : Form → Option (List Form)
  | .cat rs => some rs
  | _ => none

/-- Alternatives between normal forms, without regard to a common start. -/
def openChoice (rs : List Form) : Form :=
  match rs.flatMap branches with
  | [] => fail
  | [r] => r
  | rs =>
    match rs.mapM char?, rs.mapM set? with
    | some cs, _ => ofSet false (.ofRanges (cs.map fun c => (c.toNat, c.toNat)))
    | none, some ss => ofSet false (.unions ss)
    | none, none => .alt rs

/-- The longest start that two rows share. -/
def commonStart : List Form → List Form → List Form
  | r :: rs, s :: ss => if r.same s then r :: commonStart rs ss else []
  | _, _ => []

/-- Alternatives between normal forms. What is left behind a common start has no common start again. -/
def choice (rs : List Form) : Form :=
  match openChoice rs with
  | .alt rs =>
    match rs.mapM row? with
    | some (first :: others) =>
      let start := others.foldl commonStart first
      if start.isEmpty then .alt rs
      else row (start ++ [openChoice ((first :: others).map fun r => row (r.drop start.length))])
    | _ => .alt rs
  | r => r

/-- A normal form repeated. More than one empty piece is as good as one. -/
def repeated (r : Form) (min : Nat) (max : Option Nat) (greedy : Bool) : Form :=
  let bounds := if r.isVoid then (Nat.min min 1, some (Nat.min (max.getD 1) 1)) else (min, max)
  if bounds.2 == some 0 then .empty
  else if bounds == (1, some 1) then r
  else .times r bounds.1 bounds.2 greedy

mutual

/-- The normal form. -/
def normal : Form → Form
  | .times r min max greedy => repeated r.normal min max greedy
  | .group r => .group r.normal
  | .cat rs => row (normals rs)
  | .alt rs => choice (normals rs)
  | .set ofBytes s => ofSet ofBytes s
  | r => r

@[inherit_doc normal]
def normals : List Form → List Form
  | [] => []
  | r :: rest => r.normal :: normals rest

end

end Form

end FormTemplate.Pattern
