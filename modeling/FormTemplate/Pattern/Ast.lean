/-!
# Written patterns

A pattern as it is written: groups, alternatives, repetitions and classes in brackets, with the flags that
change the meaning of what follows them.

* `Ast`, `ClassNode` : patterns and the inside of brackets.
* `Ast.depth` : how deeply a pattern is nested.
-/

set_option autoImplicit false

namespace FormTemplate.Pattern

/-- A character of a pattern. A character written with two hexadecimal digits can stand for a byte. -/
structure Literal where
  char : Char
  isByte : Bool := false
  deriving DecidableEq, Repr

/-- What a property in a pattern asks for: a name, or a name and a value. -/
inductive PropertyQuery where
  | name (n : String)
  | value (name value : String)
  deriving DecidableEq, Repr

/-- The classes with a letter of their own. -/
inductive LetterClass where
  | digit
  | space
  | word
  deriving DecidableEq, Repr

/-- Operations on two sets in brackets. -/
inductive SetOperation where
  | intersection
  | difference
  | symmetricDifference
  deriving DecidableEq, Repr

/-- The inside of brackets. -/
inductive ClassNode where
  | literal (l : Literal)
  | range (first last : Literal)
  | ascii (name : String) (negated : Bool)
  | letter (l : LetterClass) (negated : Bool)
  | property (q : PropertyQuery) (negated : Bool)
  | bracketed (negated : Bool) (body : ClassNode)
  | union (items : List ClassNode)
  | operation (op : SetOperation) (left right : ClassNode)
  deriving Repr

/-- Flags of a pattern. -/
inductive Flag where
  | ignoreCase
  | multiLine
  | dotMatchesNewLine
  | swapGreed
  | unicode
  | crlf
  | ignoreSpace
  deriving DecidableEq, Repr

/-- Flags with the values that they are given. -/
abbrev FlagChanges := List (Flag × Bool)

/-- The value given to a flag. -/
def FlagChanges.value? (changes : FlagChanges) (f : Flag) : Option Bool :=
  (changes.find? (·.1 == f)).map (·.2)

/-- Conditions on a place, as they are written. -/
inductive AssertionName where
  | caret
  | dollar
  | textStart
  | textEnd
  | wordBoundary
  | notWordBoundary
  | wordStart
  | wordEnd
  | wordStartHalf
  | wordEndHalf
  deriving DecidableEq, Repr

/-- How a group is opened. -/
inductive GroupKind where
  | capture
  | plain (changes : FlagChanges)
  deriving DecidableEq, Repr

/-- A written pattern. -/
inductive Ast where
  | empty
  | flags (changes : FlagChanges)
  | literal (l : Literal)
  | dot
  | assertion (a : AssertionName)
  | letter (l : LetterClass) (negated : Bool)
  | property (q : PropertyQuery) (negated : Bool)
  | bracketed (negated : Bool) (body : ClassNode)
  /-- At least `min` and at most `max` pieces in a row, as many as possible where `greedy` holds. -/
  | times (a : Ast) (min : Nat) (max : Option Nat) (greedy : Bool)
  | group (kind : GroupKind) (a : Ast)
  | alternatives (branches : List Ast)
  | sequence (items : List Ast)
  deriving Repr

/-! ## Depth -/

mutual

/-- The depth of the inside of brackets. -/
def ClassNode.depth : ClassNode → Nat
  | .bracketed _ body => body.depth + 1
  | .union [] => 0
  | .union items => ClassNode.depthOfItems items + 1
  | .operation _ left right => max left.depth right.depth + 1
  | _ => 0

@[inherit_doc ClassNode.depth]
def ClassNode.depthOfItems : List ClassNode → Nat
  | [] => 0
  | n :: r => max n.depth (ClassNode.depthOfItems r)

end

mutual

/-- The number of constructs that stand inside each other. -/
def Ast.depth : Ast → Nat
  | .bracketed _ body => body.depth + 1
  | .times a _ _ _ => a.depth + 1
  | .group _ a => a.depth + 1
  | .alternatives branches => Ast.depthOfItems branches + 1
  | .sequence items => Ast.depthOfItems items + 1
  | _ => 0

@[inherit_doc Ast.depth]
def Ast.depthOfItems : List Ast → Nat
  | [] => 0
  | a :: r => max a.depth (Ast.depthOfItems r)

end

/-- The greatest depth of a pattern. -/
def maxNesting : Nat := 250

end FormTemplate.Pattern
