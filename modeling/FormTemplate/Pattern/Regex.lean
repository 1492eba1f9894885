import FormTemplate.Unicode.Property

/-!
# Regular expressions

An expression describes which pieces of a text match, given the characters around the piece. Assertions match
the empty piece at certain places.

Matching goes through the text once. What can still follow is a list of expressions; a character leads from each
of them to its partial derivatives by that character.

* `Regex` : the expressions.
* `Regex.nullable` : the expression matches the empty piece at a place.
* `Regex.partials` : what may follow a character.
* `Regex.search` : some piece of a text matches.
-/

set_option autoImplicit false

namespace FormTemplate.Pattern

open Unicode (CodeSet)

/-- Conditions on a place between two characters. Where `ascii` holds, words are made of ASCII characters. -/
inductive Assertion where
  | textStart
  | textEnd
  /-- The start of a line; with `crlf`, lines end with carriage returns too, and with the pair of both. -/
  | lineStart (crlf : Bool)
  | lineEnd (crlf : Bool)
  | wordBoundary (ascii : Bool)
  | notWordBoundary (ascii : Bool)
  | wordStart (ascii : Bool)
  | wordEnd (ascii : Bool)
  | wordStartHalf (ascii : Bool)
  | wordEndHalf (ascii : Bool)
  deriving DecidableEq, Repr

/-- Whether a character stands at a side of a place and belongs to a word. -/
def isWordSide (ascii : Bool) : Option Char → Bool
  | none => false
  | some c => if ascii then Unicode.isAsciiWord c else Unicode.isWord c

/-- Whether a condition holds between two characters, either of which is absent at an end of the text. -/
def Assertion.holds (previous next : Option Char) : Assertion → Bool
  | .textStart => previous.isNone
  | .textEnd => next.isNone
  | .lineStart false => previous.isNone || previous == some '\n'
  | .lineStart true => previous.isNone || previous == some '\n' || (previous == some '\r' && next != some '\n')
  | .lineEnd false => next.isNone || next == some '\n'
  | .lineEnd true => next.isNone || next == some '\r' || (next == some '\n' && previous != some '\r')
  | .wordBoundary ascii => isWordSide ascii previous != isWordSide ascii next
  | .notWordBoundary ascii => isWordSide ascii previous == isWordSide ascii next
  | .wordStart ascii => !isWordSide ascii previous && isWordSide ascii next
  | .wordEnd ascii => isWordSide ascii previous && !isWordSide ascii next
  | .wordStartHalf ascii => !isWordSide ascii previous
  | .wordEndHalf ascii => !isWordSide ascii next

/-- A regular expression. -/
inductive Regex where
  /-- The empty piece. -/
  | empty
  /-- One character of a set. -/
  | set (s : CodeSet)
  | assertion (a : Assertion)
  | cat (r s : Regex)
  | alt (r s : Regex)
  /-- At least `min` and at most `max` pieces in a row. -/
  | times (r : Regex) (min : Nat) (max : Option Nat)
  deriving DecidableEq, Repr

namespace Regex

/-- Any text. -/
def anything : Regex := .times (.set .all) 0 none

/-- The expression matches the empty piece between two characters. -/
def nullable (previous next : Option Char) : Regex → Bool
  | .empty => true
  | .set _ => false
  | .assertion a => a.holds previous next
  | .cat r s => nullable previous next r && nullable previous next s
  | .alt r s => nullable previous next r || nullable previous next s
  | .times r min _ => min == 0 || nullable previous next r

/-- One expression after another; nothing is kept of the empty piece. -/
def follow (s : Regex) : Regex → Regex
  | .empty => s
  | r => .cat r s

/-- What may follow the character `c` in a piece that starts with it behind `previous`. Pieces of a repetition
that are empty at this place can be left out, so they count towards the least number. -/
def partials (previous : Option Char) (c : Char) : Regex → List Regex
  | .empty => []
  | .set s => if s.contains c then [.empty] else []
  | .assertion _ => []
  | .cat r s =>
    (partials previous c r).map (follow s) ++
      if nullable previous (some c) r then partials previous c s else []
  | .alt r s => partials previous c r ++ partials previous c s
  | .times r min max =>
    if max == some 0 then []
    else
      let rest := .times r (if nullable previous (some c) r then 0 else min - 1) (max.map (· - 1))
      (partials previous c r).map (follow rest)

/-- Whether one of the expressions matches a whole text behind `previous`. -/
def matchesFrom (previous : Option Char) (rs : List Regex) : List Char → Bool
  | [] => rs.any (nullable previous none)
  | c :: t => matchesFrom (some c) ((rs.flatMap (partials previous c)).eraseDups) t

/-- Whether an expression matches a whole text. -/
def matchesWhole (r : Regex) (text : List Char) : Bool := matchesFrom none [r] text

/-- Whether an expression matches some piece of a text. -/
def search (r : Regex) (text : List Char) : Bool := matchesWhole (.cat anything (.cat r anything)) text

end Regex

end FormTemplate.Pattern
