import FormTemplate.Pattern.Ast
import FormTemplate.Pattern.Form
import FormTemplate.Unicode.Age
import FormTemplate.Unicode.Casing
import FormTemplate.Unicode.Script
import FormTemplate.Unicode.Segmentation

/-!
# The meaning of written patterns

A written pattern is resolved under flags, which groups and flag settings change on the way. A pattern has no
meaning if it asks for a property that does not exist, or if it could match only a part of a character, which is
possible once the Unicode flag is off.

* `Flags` : the flags that matter for the meaning.
* `propertySet?` : the characters with a property.
* `ClassNode.set?` : the characters of a set in brackets.
* `Ast.form?` : the resolved form of a pattern.
-/

set_option autoImplicit false

namespace FormTemplate.Pattern

open Unicode (CodeSet)

/-- The flags under which a part of a pattern is read. -/
structure Flags where
  ignoreCase : Bool := false
  multiLine : Bool := false
  dotMatchesNewLine : Bool := false
  swapGreed : Bool := false
  unicode : Bool := true
  crlf : Bool := false
  deriving DecidableEq, Repr

/-- Gives a flag a value. -/
def Flags.set (fl : Flags) (change : Flag × Bool) : Flags :=
  match change.1 with
  | .ignoreCase => { fl with ignoreCase := change.2 }
  | .multiLine => { fl with multiLine := change.2 }
  | .dotMatchesNewLine => { fl with dotMatchesNewLine := change.2 }
  | .swapGreed => { fl with swapGreed := change.2 }
  | .unicode => { fl with unicode := change.2 }
  | .crlf => { fl with crlf := change.2 }
  | .ignoreSpace => fl

/-- Gives several flags their values. -/
def Flags.apply (fl : Flags) (changes : FlagChanges) : Flags := changes.foldl Flags.set fl

/-! ## Sets -/

/-- The folded spelling of a name: ASCII letters in lower case, without blanks, hyphens, underscores and a
leading `is`. -/
def foldName (name : String) : String :=
  let keep (s : List Char) :=
    (s.filter fun c => c.toNat < 0x80 && !(c == ' ' || c == '_' || c == '-')).map Char.toLower
  match name.toList with
  | a :: b :: rest =>
    if a.toLower == 'i' && b.toLower == 's' then
      let folded := keep rest
      if folded == ['c'] then "isc" else String.ofList folded
    else String.ofList (keep (a :: b :: rest))
  | s => String.ofList (keep s)

/-- The characters with a property. Three short names are both a category and another property; they mean the
category. -/
def propertySet? : PropertyQuery → Option CodeSet
  | .name n =>
    let name := foldName n
    ((Unicode.propertyByName? name).or (Unicode.categoryByName? name)).or (Unicode.scriptByName? name)
  | .value n v =>
    let name := foldName n
    let value := foldName v
    if name == "gc" || name == "generalcategory" then Unicode.categoryByName? value
    else if name == "sc" || name == "script" then Unicode.scriptByName? value
    else if name == "scx" || name == "scriptextensions" then Unicode.scriptExtensionByName? value
    else if name == "age" then Unicode.ageByName? value
    else if name == "gcb" || name == "graphemeclusterbreak" then Unicode.graphemeBreakByName? value
    else if name == "wb" || name == "wordbreak" then Unicode.wordBreakByName? value
    else if name == "sb" || name == "sentencebreak" then Unicode.sentenceBreakByName? value
    else none

/-- The ASCII characters of a class between colons. -/
def asciiSet (name : String) : CodeSet :=
  .ofText <|
    if name == "alnum" then "30-39 41-5A 61-7A"
    else if name == "alpha" then "41-5A 61-7A"
    else if name == "ascii" then "0-7F"
    else if name == "blank" then "9 20"
    else if name == "cntrl" then "0-1F 7F"
    else if name == "digit" then "30-39"
    else if name == "graph" then "21-7E"
    else if name == "lower" then "61-7A"
    else if name == "print" then "20-7E"
    else if name == "punct" then "21-2F 3A-40 5B-60 7B-7E"
    else if name == "space" then "9-D 20"
    else if name == "upper" then "41-5A"
    else if name == "word" then "30-39 41-5A 5F 61-7A"
    else "30-39 41-46 61-66"

/-- The characters of a class with a letter of its own. -/
def letterSet (fl : Flags) : LetterClass → CodeSet
  | .digit => if fl.unicode then Unicode.digitSet else asciiSet "digit"
  | .space => if fl.unicode then Unicode.blankSet else asciiSet "space"
  | .word => if fl.unicode then Unicode.wordSet else asciiSet "word"

/-- A set with the ASCII letters that differ from its members in case. -/
def foldAscii (s : CodeSet) : CodeSet :=
  let letters := (List.range 26).flatMap fun i =>
    (if s.containsCode (0x41 + i) then [(0x61 + i, 0x61 + i)] else []) ++
      (if s.containsCode (0x61 + i) then [(0x41 + i, 0x41 + i)] else [])
  .ofRanges (s.ranges ++ letters)

/-- A set with everything that matches its members, where case is ignored. -/
def Flags.fold (fl : Flags) (s : CodeSet) : CodeSet :=
  if fl.ignoreCase then (if fl.unicode then s.foldClosure else foldAscii s) else s

/-- The opposite of a set where it is asked for. Without the Unicode flag it would hold parts of characters. -/
def Flags.negate? (fl : Flags) (negated : Bool) (s : CodeSet) : Option CodeSet :=
  if !negated then some s else if fl.unicode then some s.compl else none

/-- The code point of a character of a pattern. Without the Unicode flag, a byte beyond ASCII is none. -/
def Flags.code? (fl : Flags) (l : Literal) : Option Nat :=
  if !fl.unicode && l.isByte && 0x80 ≤ l.char.toNat then none else some l.char.toNat

/-- The code point of a member of a set, which is ASCII without the Unicode flag. -/
def Flags.memberCode? (fl : Flags) (l : Literal) : Option Nat :=
  if fl.unicode || l.char.toNat < 0x80 then some l.char.toNat else none

/-- The characters with a property, under flags. -/
def Flags.property? (fl : Flags) (q : PropertyQuery) (negated : Bool) : Option CodeSet :=
  if fl.unicode then (propertySet? q).bind fun s => fl.negate? negated (fl.fold s) else none

mutual

/-- The characters of a set in brackets. -/
def ClassNode.set? (fl : Flags) : ClassNode → Option CodeSet
  | .literal l => (fl.memberCode? l).map CodeSet.single
  | .range a b => (fl.memberCode? a).bind fun m => (fl.memberCode? b).map fun n => CodeSet.ofRanges [(m, n)]
  | .ascii name negated => fl.negate? negated (fl.fold (asciiSet name))
  | .letter l negated => fl.negate? negated (letterSet fl l)
  | .property q negated => fl.property? q negated
  | .bracketed negated body => (body.set? fl).bind fun s => fl.negate? negated (fl.fold s)
  | .union items => (ClassNode.sets? fl items).map CodeSet.unions
  | .operation op left right =>
    (left.set? fl).bind fun l => (right.set? fl).map fun r =>
      let l := fl.fold l
      let r := fl.fold r
      match op with
      | .intersection => l.inter r
      | .difference => l.diff r
      | .symmetricDifference => l.symmDiff r

@[inherit_doc ClassNode.set?]
def ClassNode.sets? (fl : Flags) : List ClassNode → Option (List CodeSet)
  | [] => some []
  | n :: r => (n.set? fl).bind fun s => (ClassNode.sets? fl r).map (s :: ·)

end

/-! ## Patterns -/

/-- The characters that a dot stands for. -/
def Flags.dotSet? (fl : Flags) : Option CodeSet :=
  if !fl.unicode then none
  else if fl.dotMatchesNewLine then some .all
  else if fl.crlf then some (CodeSet.all.diff (.ofText "A D"))
  else some (CodeSet.all.diff (.single 0xA))

/-- The condition of a name, under flags. -/
def Flags.assertion (fl : Flags) : AssertionName → Assertion
  | .caret => if fl.multiLine then .lineStart fl.crlf else .textStart
  | .dollar => if fl.multiLine then .lineEnd fl.crlf else .textEnd
  | .textStart => .textStart
  | .textEnd => .textEnd
  | .wordBoundary => .wordBoundary !fl.unicode
  | .notWordBoundary => .notWordBoundary !fl.unicode
  | .wordStart => .wordStart !fl.unicode
  | .wordEnd => .wordEnd !fl.unicode
  | .wordStartHalf => .wordStartHalf !fl.unicode
  | .wordEndHalf => .wordEndHalf !fl.unicode

/-- A set of characters that was written under flags. -/
def Flags.form (fl : Flags) (s : CodeSet) : Form := .set (!fl.unicode) s

/-- A character that was written under flags; where case is ignored, it can stand for several. -/
def Flags.literal? (fl : Flags) (l : Literal) : Option Form :=
  (fl.code? l).map fun n =>
    let s := fl.fold (.single n)
    if s == .single n then .literal [l.char] else fl.form s

mutual

/-- The resolved form of a pattern under flags, and the flags behind it. -/
def Ast.formUnder? (fl : Flags) : Ast → Option (Form × Flags)
  | .empty => some (.empty, fl)
  | .flags changes => some (.empty, fl.apply changes)
  | .literal l => (fl.literal? l).map fun r => (r, fl)
  | .dot => fl.dotSet?.map fun s => (fl.form s, fl)
  | .assertion a => some (.assertion (fl.assertion a), fl)
  | .letter l negated => (fl.negate? negated (letterSet fl l)).map fun s => (fl.form s, fl)
  | .property q negated => (fl.property? q negated).map fun s => (fl.form s, fl)
  | .bracketed negated body =>
    ((body.set? fl).bind fun s => fl.negate? negated (fl.fold s)).map fun s => (fl.form s, fl)
  | .times a min max greedy =>
    (a.formUnder? fl).map fun (r, fl) => (.times r min max (greedy != fl.swapGreed), fl)
  | .group .capture a => (a.formUnder? fl).map fun (r, _) => (.group r, fl)
  | .group (.plain changes) a => (a.formUnder? (fl.apply changes)).map fun (r, _) => (r, fl)
  | .alternatives branches => (Ast.formsUnder? fl branches).map fun (rs, fl) => (.alt rs, fl)
  | .sequence items => (Ast.formsUnder? fl items).map fun (rs, fl) => (.cat rs, fl)

/-- The resolved forms of patterns. Flags set in one hold in the next, also from branch to branch. -/
def Ast.formsUnder? (fl : Flags) : List Ast → Option (List Form × Flags)
  | [] => some ([], fl)
  | a :: rest =>
    (a.formUnder? fl).bind fun (r, fl) => (Ast.formsUnder? fl rest).map fun (rs, fl) => (r :: rs, fl)

end

/-- The resolved form of a pattern. -/
def Ast.form? (a : Ast) : Option Form := (a.formUnder? {}).map (·.1)

end FormTemplate.Pattern
