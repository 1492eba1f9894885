import FormTemplate.Text.Search

/-!
# Paths

A path is kept as it is written. Its steps are the parts between slashes; empty parts and parts of one dot name
no step. The file name is the last step, unless that leads to the parent directory. The extension follows the
last dot of the file name; a dot in front of everything else starts no extension.

* `Path.steps`, `Path.fileName?`, `Path.stem`, `Path.extension?` : the parts of a path.
* `Path.join` : a name inside a directory.
* `Path.parent?` : the path without its last step.
-/

set_option autoImplicit false

namespace FormTemplate

/-- A path as it is written. -/
structure Path where
  text : String
  deriving DecidableEq, Repr

namespace Path

/-- The parts of a text between slashes; there is at least one. -/
def parts : List Char → List (List Char)
  | [] => [[]]
  | c :: r =>
    if c == '/' then [] :: parts r
    else
      match parts r with
      | [] => [[c]]
      | p :: ps => (c :: p) :: ps

/-- The step to the parent directory. -/
def upward : List Char := ['.', '.']

/-- Whether a part names a step. -/
def isStep (part : List Char) : Bool := !part.isEmpty && part != ['.']

/-- The steps of a path. -/
def steps (p : Path) : List (List Char) := (parts p.text.toList).filter isStep

/-- Whether a path starts at the root directory. -/
def isAbsolute (p : Path) : Bool := p.text.toList.head? == some '/'

/-- Whether a path starts at the current directory by name. -/
def isDotted (p : Path) : Bool := (parts p.text.toList).head? == some ['.']

/-- The name of the file or directory that a path leads to, unless its last step leads upward. -/
def fileName? (p : Path) : Option (List Char) := p.steps.getLast?.filter (· != upward)

/-- A file name cut at its last dot, if a dot separates two parts of which the first is not empty. -/
def cutExtension? (name : List Char) : Option (List Char × List Char) :=
  match name.reverse.dropWhile (· != '.') with
  | [] => none
  | _ :: before =>
    if before.isEmpty then none
    else some (before.reverse, (name.reverse.takeWhile (· != '.')).reverse)

/-- The extension of the file name. -/
def extension? (p : Path) : Option String :=
  (p.fileName?.bind cutExtension?).map fun e => String.ofList e.2

/-- The file name without its extension; nothing without a file name. -/
def stem (p : Path) : String :=
  match p.fileName? with
  | none => ""
  | some name => String.ofList (((cutExtension? name).map (·.1)).getD name)

/-- The path of a name inside a directory. -/
def join (directory : Path) (name : String) : Path :=
  match directory.text.toList.getLast? with
  | none => ⟨name⟩
  | some c => if c == '/' then ⟨directory.text ++ name⟩ else ⟨directory.text ++ "/" ++ name⟩

/-- The path of steps. -/
def ofSteps (absolute : Bool) (steps : List (List Char)) : Path :=
  ⟨(if absolute then "/" else "") ++ "/".intercalate (steps.map String.ofList)⟩

/-- A path without its last step. The path of the current directory, by name, counts as a step; the empty path
and the root directory have no parent. -/
def parent? (p : Path) : Option Path :=
  let all := if p.isDotted then ['.'] :: p.steps else p.steps
  if all.isEmpty then none else some (ofSteps p.isAbsolute all.dropLast)

end Path

end FormTemplate
