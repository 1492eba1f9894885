import FormTemplate.Number.Decimal
import FormTemplate.Pattern.Ast
import FormTemplate.Text.Blank
import FormTemplate.Text.Hex
import FormTemplate.Unicode.Property

/-!
# Reading patterns

A pattern is read from left to right with a stack of the groups that are open. Where the flag for it is set,
white space between the parts of a pattern and comments up to the end of a line are skipped.

There is no look-around and no reference back to a group: what looks like one is refused, and so is an escape of
a letter without a meaning, a count out of order, a repetition of nothing, and a bracket that is not closed.

* `readEscape?` : what follows a backslash.
* `readClass?` : what follows an opening bracket.
* `State.step?` : one step of the reader.
* `Ast.read?` : the pattern that a text writes.
-/

set_option autoImplicit false

namespace FormTemplate.Pattern

/-! ## Space and comments -/

/-- Skips white space and comments; `comment` holds inside a comment. -/
def skipComments (comment : Bool) : List Char → List Char
  | [] => []
  | c :: r =>
    if comment then skipComments (c != '\n') r
    else if Text.isBlank c then skipComments false r
    else if c == '#' then skipComments true r
    else c :: r

/-- Skips white space and comments where the flag for it is set. -/
def skipSpace (extended : Bool) (s : List Char) : List Char := if extended then skipComments false s else s

/-- The next character but one that is not skipped. A comment sign is stepped over, its comment is not. -/
def peekBehind (extended : Bool) : List Char → Option Char
  | [] => none
  | _ :: r =>
    if !extended then r.head?
    else
      let r := r.dropWhile Text.isBlank
      match r with
      | '#' :: t => (t.dropWhile Text.isBlank).head?
      | _ => r.head?

/-! ## Numbers -/

/-- Digits with skipped space between them, and the text behind them. -/
def readDigits (extended : Bool) : Nat → List Char → List Char × List Char
  | 0, s => ([], s)
  | n + 1, s =>
    match s with
    | [] => ([], [])
    | c :: r =>
      if c.isDigit then
        let (ds, rest) := readDigits extended n (skipSpace extended r)
        (c :: ds, rest)
      else ([], c :: r)

/-- A count of thirty-two bits between white space. The outer result is absent where the count is too large, the
inner one where there are no digits. -/
def readCount? (extended : Bool) (s : List Char) : Option (Option Nat × List Char) :=
  let (ds, rest) := readDigits extended s.length (s.dropWhile Text.isBlank)
  let rest := if (rest.head?.any Text.isBlank) then skipSpace extended (rest.dropWhile Text.isBlank) else rest
  match Number.digits? ds with
  | none => some (none, rest)
  | some n => if n < UInt32.size then some (some n, rest) else none

/-- The bounds of a counted repetition behind its opening brace, and the text behind its closing brace. -/
def readBounds? (extended : Bool) (s : List Char) : Option ((Nat × Option Nat) × List Char) := do
  let (first, r) ← readCount? extended (skipSpace extended s)
  let first ← first
  match r with
  | '\x7d' :: r => some ((first, some first), r)
  | ',' :: r =>
    match skipSpace extended r with
    | '\x7d' :: r => some ((first, none), r)
    | r =>
      let (last, r) ← readCount? extended r
      let last ← last
      match r with
      | '\x7d' :: r => if first ≤ last then some ((first, some last), r) else none
      | _ => none
  | _ => none

/-! ## Escapes -/

/-- A part of a pattern without parts of its own. -/
inductive Primitive where
  | literal (l : Literal)
  | assertion (a : AssertionName)
  | letter (l : LetterClass) (negated : Bool)
  | property (q : PropertyQuery) (negated : Bool)
  deriving DecidableEq, Repr

/-- A primitive as a pattern. -/
def Primitive.ast : Primitive → Ast
  | .literal l => .literal l
  | .assertion a => .assertion a
  | .letter l n => .letter l n
  | .property q n => .property q n

/-- The characters with a meaning of their own. -/
def isMeta (c : Char) : Bool := "\\.+*?()|[]\x7b\x7d^$#&-~".toList.contains c

/-- Whether a backslash in front of a character only takes away its meaning. -/
def isEscapable (c : Char) : Bool :=
  isMeta c || (c.toNat < 0x80 && !c.isAlphanum && c != '<' && c != '>')

/-- The character of a code point, if there is one. -/
def scalar? (n : Nat) : Option Char := if h : n.isValidChar then some (Char.ofNatAux n h) else none

/-- A number of hexadecimal digits with skipped space between them. -/
def readHexDigits? (extended : Bool) : Nat → List Char → Option (List Char × List Char)
  | 0, s => some ([], s)
  | n + 1, s =>
    match s with
    | [] => none
    | c :: r =>
      if (Text.hexDigit? c).isSome then
        (readHexDigits? extended n (skipSpace extended r)).map fun (ds, rest) => (c :: ds, rest)
      else none

/-- The hexadecimal digits up to a closing brace. -/
def readHexBrace? (extended : Bool) : Nat → List Char → Option (List Char × List Char)
  | 0, _ => none
  | n + 1, s =>
    match s with
    | [] => none
    | '\x7d' :: r => some ([], skipSpace extended r)
    | c :: r =>
      if (Text.hexDigit? c).isSome then
        (readHexBrace? extended n (skipSpace extended r)).map fun (ds, rest) => (c :: ds, rest)
      else none

/-- A character by its code point, behind the letter of the escape; `width` is the number of digits without
braces. -/
def readHex? (extended : Bool) (width : Nat) (s : List Char) : Option (Literal × List Char) := do
  let s := skipSpace extended s
  match s with
  | '\x7b' :: r =>
    let (ds, rest) ← readHexBrace? extended (r.length + 1) (skipSpace extended r)
    let c ← (Text.hexValue? ds).bind scalar?
    some (⟨c, false⟩, rest)
  | _ =>
    let (ds, rest) ← readHexDigits? extended width s
    let c ← (Text.hexValue? ds).bind scalar?
    some (⟨c, width == 2⟩, rest)

/-- The text up to a closing brace, without what is skipped. -/
def readBraced? (extended : Bool) : Nat → List Char → Option (List Char × List Char)
  | 0, _ => none
  | n + 1, s =>
    match s with
    | [] => none
    | '\x7d' :: r => some ([], r)
    | c :: r => (readBraced? extended n (skipSpace extended r)).map fun (cs, rest) => (c :: cs, rest)

/-- Splits a text at the first occurrence of a separator. -/
def splitOnce? (sep : List Char) : List Char → Option (List Char × List Char)
  | [] => none
  | c :: r =>
    if sep.isPrefixOf (c :: r) then some ([], (c :: r).drop sep.length)
    else (splitOnce? sep r).map fun p => (c :: p.1, p.2)

/-- The property that a text in braces asks for, and whether it asks for the opposite. -/
def queryOf (s : List Char) : PropertyQuery × Bool :=
  match splitOnce? ['!', '='] s with
  | some (n, v) => (.value (String.ofList n) (String.ofList v), true)
  | none =>
    match (splitOnce? [':'] s).or (splitOnce? ['='] s) with
    | some (n, v) => (.value (String.ofList n) (String.ofList v), false)
    | none => (.name (String.ofList s), false)

/-- A property behind the letter of its escape. -/
def readProperty? (extended negated : Bool) (s : List Char) : Option (Primitive × List Char) :=
  match skipSpace extended s with
  | [] => none
  | '\x7b' :: r =>
    (readBraced? extended (r.length + 1) (skipSpace extended r)).map fun (name, rest) =>
      let (q, opposite) := queryOf name
      (.property q (negated != opposite), rest)
  | c :: r =>
    if c == '\\' then none
    else some (.property (.name (String.singleton c)) negated, skipSpace extended r)

/-- The name of a condition in braces. -/
def readBoundaryName? (extended : Bool) : Nat → List Char → Option (List Char × List Char)
  | 0, _ => none
  | n + 1, s =>
    match s with
    | [] => none
    | c :: r =>
      if c.isAlpha || c == '-' then
        (readBoundaryName? extended n (skipSpace extended r)).map fun (cs, rest) => (c :: cs, rest)
      else if c == '\x7d' then some ([], r)
      else none

/-- A word boundary behind its letter: braces with a name ask for one side of a word. Braces that start with
anything else are a repetition. -/
def readBoundary? (extended : Bool) (s : List Char) : Option (AssertionName × List Char) :=
  match s with
  | '\x7b' :: r =>
    match skipSpace extended r with
    | [] => none
    | c :: t =>
      if c.isAlpha || c == '-' then
        match readBoundaryName? extended (t.length + 2) (c :: t) with
        | none => none
        | some (name, rest) =>
          if name == "start".toList then some (.wordStart, rest)
          else if name == "end".toList then some (.wordEnd, rest)
          else if name == "start-half".toList then some (.wordStartHalf, rest)
          else if name == "end-half".toList then some (.wordEndHalf, rest)
          else none
      else some (.wordBoundary, s)
  | _ => some (.wordBoundary, s)

/-- The character of a control escape. -/
def controlEscape? (c : Char) : Option Char :=
  match c with
  | 'a' => some '\x07'
  | 'f' => some '\x0c'
  | 't' => some '\t'
  | 'n' => some '\n'
  | 'r' => some '\r'
  | 'v' => some '\x0b'
  | _ => none

/-- What follows a backslash. -/
def readEscape? (extended : Bool) : List Char → Option (Primitive × List Char)
  | [] => none
  | c :: r =>
    match c with
    | 'x' => (readHex? extended 2 r).map fun (l, rest) => (.literal l, rest)
    | 'u' => (readHex? extended 4 r).map fun (l, rest) => (.literal l, rest)
    | 'U' => (readHex? extended 8 r).map fun (l, rest) => (.literal l, rest)
    | 'p' => readProperty? extended false r
    | 'P' => readProperty? extended true r
    | 'd' => some (.letter .digit false, r)
    | 'D' => some (.letter .digit true, r)
    | 's' => some (.letter .space false, r)
    | 'S' => some (.letter .space true, r)
    | 'w' => some (.letter .word false, r)
    | 'W' => some (.letter .word true, r)
    | 'A' => some (.assertion .textStart, r)
    | 'z' => some (.assertion .textEnd, r)
    | 'b' => (readBoundary? extended r).map fun (a, rest) => (.assertion a, rest)
    | 'B' => some (.assertion .notWordBoundary, r)
    | '<' => some (.assertion .wordStart, r)
    | '>' => some (.assertion .wordEnd, r)
    | _ =>
      if isEscapable c then some (.literal ⟨c, false⟩, r)
      else (controlEscape? c).map fun d => (.literal ⟨d, false⟩, r)

/-! ## Brackets -/

/-- The names of the classes between colons. -/
def asciiClassNames : List String :=
  ["alnum", "alpha", "ascii", "blank", "cntrl", "digit", "graph", "lower", "print", "punct", "space", "upper",
    "word", "xdigit"]

/-- A class between colons, behind its opening bracket. -/
def readAsciiClass? : List Char → Option (ClassNode × List Char)
  | ':' :: r =>
    let (negated, r) := match r with
      | '^' :: t => (true, t)
      | _ => (false, r)
    let name := String.ofList (r.takeWhile (· != ':'))
    match r.dropWhile (· != ':') with
    | ':' :: ']' :: rest => if asciiClassNames.contains name then some (.ascii name negated, rest) else none
    | _ => none
  | _ => none

/-- One member of a set, or one end of a range. -/
def readClassItem? (extended : Bool) : List Char → Option (Primitive × List Char)
  | [] => none
  | '\\' :: r => readEscape? extended r
  | c :: r => some (.literal ⟨c, false⟩, r)

/-- A primitive as a member of a set. -/
def Primitive.classNode? : Primitive → Option ClassNode
  | .literal l => some (.literal l)
  | .letter l n => some (.letter l n)
  | .property q n => some (.property q n)
  | .assertion _ => none

/-- A range of characters, or one member of a set. A hyphen before a closing bracket or before another hyphen
makes no range. -/
def readClassRange? (extended : Bool) (s : List Char) : Option (ClassNode × List Char) := do
  let (first, r) ← readClassItem? extended s
  let r := skipSpace extended r
  match r with
  | [] => none
  | '-' :: t =>
    let behind := peekBehind extended r
    if behind == some ']' || behind == some '-' then
      let n ← first.classNode?
      some (n, r)
    else
      match skipSpace extended t with
      | [] => none
      | t =>
        let (last, t) ← readClassItem? extended t
        match first, last with
        | .literal a, .literal b => if a.char.toNat ≤ b.char.toNat then some (.range a b, t) else none
        | _, _ => none
  | _ =>
    let n ← first.classNode?
    some (n, r)

/-- What is open inside brackets: a bracket with the members in front of it, last first, or an operation. -/
inductive ClassFrame where
  | bracket (outer : List ClassNode) (negated : Bool)
  | operation (op : SetOperation) (left : ClassNode)

/-- Members of a set, last first, as one node. -/
def unionNode : List ClassNode → ClassNode
  | [n] => n
  | ns => .union ns.reverse

/-- Applies the operation that waits for its right side. -/
def closeOperation (stack : List ClassFrame) (right : ClassNode) : ClassNode × List ClassFrame :=
  match stack with
  | .operation op left :: rest => (.operation op left right, rest)
  | _ => (right, stack)

/-- Hyphens at the start of brackets. -/
def readHyphens? (extended : Bool) : Nat → List Char → Option (List ClassNode × List Char)
  | 0, _ => none
  | n + 1, s =>
    match s with
    | '-' :: r =>
      match skipSpace extended r with
      | [] => none
      | r => (readHyphens? extended n r).map fun (ns, rest) => (.literal ⟨'-', false⟩ :: ns, rest)
    | _ => some ([], s)

/-- The start of brackets: whether they are negated, and members that would have a meaning elsewhere. -/
def readClassOpen? (extended : Bool) (s : List Char) : Option (Bool × List ClassNode × List Char) := do
  let s := skipSpace extended s
  let (negated, s) := match s with
    | '^' :: r => (true, skipSpace extended r)
    | _ => (false, s)
  let (hyphens, s) ← readHyphens? extended (s.length + 1) s
  match hyphens, s with
  | _, [] => none
  | [], ']' :: r =>
    match skipSpace extended r with
    | [] => none
    | r => some (negated, [.literal ⟨']', false⟩], r)
  | _, _ => some (negated, hyphens, s)

/-- Reads on inside brackets. `items` holds the members of the innermost set, last first. -/
def readClassBody? (extended : Bool) :
    Nat → List ClassFrame → List ClassNode → List Char → Option (Bool × ClassNode × List Char)
  | 0, _, _, _ => none
  | n + 1, stack, items, s =>
    let operation (op : SetOperation) (r : List Char) :=
      let (left, rest) := closeOperation stack (unionNode items)
      readClassBody? extended n (.operation op left :: rest) [] r
    match skipSpace extended s with
    | [] => none
    | '[' :: r =>
      match readAsciiClass? r with
      | some (node, rest) => readClassBody? extended n stack (node :: items) rest
      | none =>
        match readClassOpen? extended r with
        | none => none
        | some (negated, start, rest) =>
          readClassBody? extended n (.bracket items negated :: stack) start.reverse rest
    | ']' :: r =>
      let (body, rest) := closeOperation stack (unionNode items)
      match rest with
      | [.bracket _ negated] => some (negated, body, r)
      | .bracket outer negated :: rest => readClassBody? extended n rest (.bracketed negated body :: outer) r
      | _ => none
    | '&' :: '&' :: r => operation .intersection r
    | '-' :: '-' :: r => operation .difference r
    | '~' :: '~' :: r => operation .symmetricDifference r
    | s =>
      match readClassRange? extended s with
      | none => none
      | some (node, rest) => readClassBody? extended n stack (node :: items) rest

/-- A set behind its opening bracket: whether it is negated, its body, and the text behind it. -/
def readClass? (extended : Bool) (s : List Char) : Option (Bool × ClassNode × List Char) := do
  let (negated, start, rest) ← readClassOpen? extended s
  readClassBody? extended (s.length + 1) [.bracket [] negated] start.reverse rest

/-! ## Groups -/

/-- The flag of a letter. -/
def flagOf? (c : Char) : Option Flag :=
  match c with
  | 'i' => some .ignoreCase
  | 'm' => some .multiLine
  | 's' => some .dotMatchesNewLine
  | 'U' => some .swapGreed
  | 'u' => some .unicode
  | 'R' => some .crlf
  | 'x' => some .ignoreSpace
  | _ => none

/-- The flags up to a colon or a closing parenthesis, each at most once, with at most one sign, which stands in
front of a flag. -/
def readFlags? (negated : Bool) (changes : FlagChanges) : List Char → Option (FlagChanges × Bool × List Char)
  | [] => none
  | c :: r =>
    if c == ':' then some (changes, true, r)
    else if c == ')' then some (changes, false, r)
    else if c == '-' then
      match r with
      | d :: _ => if negated || d == ':' || d == ')' then none else readFlags? true changes r
      | [] => none
    else
      match flagOf? c with
      | none => none
      | some f =>
        if (changes.value? f).isSome then none else readFlags? negated (changes ++ [(f, !negated)]) r

/-- The letters and digits of the names of groups. -/
def isNameLetter (c : Char) : Bool :=
  if c.toNat < 0x80 then c.isAlpha
  else Unicode.alphabeticSet.contains c

/-- Whether a character may stand in the name of a group. -/
def isNameChar (atStart : Bool) (c : Char) : Bool :=
  c == '_' || isNameLetter c ||
    (!atStart && (c == '.' || c == '[' || c == ']' || c.isDigit ||
      (0x80 ≤ c.toNat && Unicode.numericSet.contains c)))

/-- The name of a group up to its closing angle bracket. -/
def readGroupName? (s : List Char) : Option (String × List Char) :=
  let name := s.takeWhile (· != '>')
  match name, s.dropWhile (· != '>') with
  | c :: cs, '>' :: rest =>
    if isNameChar true c && cs.all (isNameChar false) then some (String.ofList name, rest) else none
  | _, _ => none

/-- What an opening parenthesis opens. -/
inductive Opening where
  | group (kind : GroupKind) (name : Option String)
  | flags (changes : FlagChanges)

/-- What follows an opening parenthesis. -/
def readOpening? (extended : Bool) (s : List Char) : Option (Opening × List Char) :=
  match skipSpace extended s with
  | '?' :: 'P' :: '<' :: r => (readGroupName? r).map fun (name, rest) => (.group .capture (some name), rest)
  | '?' :: '<' :: '=' :: _ => none
  | '?' :: '<' :: '!' :: _ => none
  | '?' :: '<' :: r => (readGroupName? r).map fun (name, rest) => (.group .capture (some name), rest)
  | '?' :: r =>
    match readFlags? false [] r with
    | none => none
    | some (changes, true, rest) => some (.group (.plain changes) none, rest)
    | some ([], false, _) => none
    | some (changes, false, rest) => some (.flags changes, rest)
  | r => some (.group .capture none, r)

/-! ## Patterns -/

/-- A group that is open: what stood in front of it, last first, and whether space was skipped there. -/
structure Frame where
  items : List Ast
  branches : List Ast
  kind : GroupKind
  extended : Bool

/-- The state of the reader: the open groups, the parts of the innermost branch, last first, the branches before
it, last first, whether space is skipped, and the names of groups. -/
structure State where
  frames : List Frame := []
  items : List Ast := []
  branches : List Ast := []
  extended : Bool := false
  names : List String := []

/-- The parts of a branch, last first, as one pattern. -/
def sequenceOf : List Ast → Ast
  | [] => .empty
  | [a] => a
  | items => .sequence items.reverse

/-- The pattern of the innermost group so far. -/
def State.current (st : State) : Ast :=
  match st.branches with
  | [] => sequenceOf st.items
  | bs => .alternatives (bs.reverse ++ [sequenceOf st.items])

/-- Whether a part of a pattern can be repeated. -/
def isRepeatable : Ast → Bool
  | .empty => false
  | .flags _ => false
  | _ => true

/-- Repeats the last part, behind the bounds of the repetition. A question mark there makes it take as little as
it can. -/
def State.repeatLast? (st : State) (min : Nat) (max : Option Nat) (s : List Char) : Option (State × List Char) :=
  match st.items with
  | a :: rest =>
    let (greedy, s) := match s with
      | '?' :: r => (false, r)
      | _ => (true, s)
    if isRepeatable a then some ({ st with items := .times a min max greedy :: rest }, s) else none
  | [] => none

/-- Appends a part. -/
def State.push (st : State) (a : Ast) : State := { st with items := a :: st.items }

/-- One step of the reader, at a character that is not skipped. -/
def State.step? (st : State) (c : Char) (r : List Char) : Option (State × List Char) :=
  match c with
  | '(' => do
    let (opening, rest) ← readOpening? st.extended r
    match opening with
    | .flags changes =>
      some ({ st.push (.flags changes) with extended := (changes.value? .ignoreSpace).getD st.extended }, rest)
    | .group kind name =>
      let extended := match kind with
        | .plain changes => (changes.value? .ignoreSpace).getD st.extended
        | .capture => st.extended
      let opened : State :=
        { frames := ⟨st.items, st.branches, kind, st.extended⟩ :: st.frames
          extended := extended
          names := name.toList ++ st.names }
      match name with
      | some n => if st.names.contains n then none else some (opened, rest)
      | none => some (opened, rest)
  | ')' =>
    match st.frames with
    | [] => none
    | f :: frames =>
      some ({ st with
        frames := frames
        items := .group f.kind st.current :: f.items
        branches := f.branches
        extended := f.extended }, r)
  | '|' => some ({ st with items := [], branches := sequenceOf st.items :: st.branches }, r)
  | '[' => (readClass? st.extended r).map fun (negated, body, rest) => (st.push (.bracketed negated body), rest)
  | '?' => st.repeatLast? 0 (some 1) r
  | '*' => st.repeatLast? 0 none r
  | '+' => st.repeatLast? 1 none r
  | '\x7b' =>
    (readBounds? st.extended r).bind fun ((min, max), rest) =>
      st.repeatLast? min max (skipSpace st.extended rest)
  | '\\' => (readEscape? st.extended r).map fun (p, rest) => (st.push p.ast, rest)
  | '.' => some (st.push .dot, r)
  | '^' => some (st.push (.assertion .caret), r)
  | '$' => some (st.push (.assertion .dollar), r)
  | _ => some (st.push (.literal ⟨c, false⟩), r)

/-- Reads on to the end of the text. Each step takes a character. -/
def State.run? : Nat → State → List Char → Option State
  | 0, _, _ => none
  | n + 1, st, s =>
    match skipSpace st.extended s with
    | [] => some st
    | c :: r => (st.step? c r).bind fun (st, rest) => run? n st rest

/-- The pattern that a text writes. -/
def Ast.read? (s : List Char) : Option Ast :=
  match State.run? (s.length + 1) {} s with
  | some st => if st.frames.isEmpty && st.current.depth ≤ maxNesting then some st.current else none
  | none => none

end FormTemplate.Pattern
