import FormTemplate.CommandLine.Arguments
import FormTemplate.Files.Path

/-!
# Commands

* `Command` : what the program can do, with its operands.
* `Invocation.read` : the command of a command line, and the configuration file for it.
-/

set_option autoImplicit false

namespace FormTemplate.CommandLine

/-- What the program can do. -/
inductive Command where
  /-- Prints the schema of a template whose text a file holds. -/
  | parse (template text : Path) (templateId : Option String)
  /-- Prints the flattened view of the schema of a template. -/
  | legacy (template text : Path) (templateId : Option String)
  /-- Parses a template again and settles which schema is kept. -/
  | reparse (id : String) (template text : Path)
  /-- Prints the schema that is kept. -/
  | display (id : String)
  /-- Prints a summary of the schema that is kept. -/
  | summary (id : String)
  /-- Removes the schema that is kept. -/
  | delete (id : String)
  /-- Prints the blob of submitted values. -/
  | fill (id : String) (values : Path) (previous : Option Path)
  /-- Prints the blob of a list of values. -/
  | encode (values : Path)
  /-- Prints the values of a blob. -/
  | decode (blob : Path)
  deriving DecidableEq, Repr

/-- A command with the configuration file to use. -/
structure Invocation where
  config : Option Path
  command : Command
  deriving DecidableEq, Repr

/-- The option that every command has. -/
def configOption : Slot := { name := "config", letter := some 'c' }

/-- A command by its name: what it takes, and what it becomes. -/
structure CommandForm where
  name : String
  operands : List Slot
  options : List Slot
  make : (String → Option String) → Option Command

namespace CommandForm

/-- An operand or option that is a path. -/
def path (name : String) : Slot := { name := name }

/-- An operand or option that is any text. -/
def text (name : String) : Slot := { name := name, mayBeEmpty := true }

/-- The forms of all commands. -/
def all : List CommandForm := [
  ⟨"parse", [path "template"], [path "text", text "template-id"], fun value => do
    return .parse ⟨← value "template"⟩ ⟨← value "text"⟩ (value "template-id")⟩,
  ⟨"legacy", [path "template"], [path "text", text "template-id"], fun value => do
    return .legacy ⟨← value "template"⟩ ⟨← value "text"⟩ (value "template-id")⟩,
  ⟨"reparse", [text "id", path "template"], [path "text"], fun value => do
    return .reparse (← value "id") ⟨← value "template"⟩ ⟨← value "text"⟩⟩,
  ⟨"show", [text "id"], [], fun value => do return .display (← value "id")⟩,
  ⟨"summary", [text "id"], [], fun value => do return .summary (← value "id")⟩,
  ⟨"delete", [text "id"], [], fun value => do return .delete (← value "id")⟩,
  ⟨"fill", [text "id", path "values"], [path "previous"], fun value => do
    return .fill (← value "id") ⟨← value "values"⟩ ((value "previous").map Path.mk)⟩,
  ⟨"encode", [path "values"], [], fun value => do return .encode ⟨← value "values"⟩⟩,
  ⟨"decode", [path "blob"], [], fun value => do return .decode ⟨← value "blob"⟩⟩]

/-- What may be given behind the name of a command. -/
def level (f : CommandForm) : Level := { options := configOption :: f.options, operands := f.operands }

end CommandForm

/-- The command that tells about the others. -/
def helpName : String := "help"

/-- What may be given in front of the name of a command. -/
def topLevel : Level where
  options := [configOption]
  commands := CommandForm.all.map (·.name) ++ [helpName]
  hasVersion := true

/-- The outcome of asking about commands. -/
def readHelp : List String → Usage
  | [] => .help
  | [name] => if topLevel.commands.contains name then .help else .wrong
  | _ => .wrong

namespace Invocation

/-- The command of a command line. A configuration file behind the name of the command comes before one in front
of it. -/
def read (words : List String) : Except Usage Invocation := do
  match ← topLevel.read words with
  | (_, none) => throw .wrong
  | (outer, some (name, rest)) =>
    match CommandForm.all.find? (·.name == name) with
    | none => throw (readHelp rest)
    | some form =>
      let (inner, _) ← form.level.read rest
      let inner ← inner.settle
      let outer ← outer.settle
      match form.make inner.value? with
      | none => throw .wrong
      | some command => return ⟨((inner.value? "config").or (outer.value? "config")).map Path.mk, command⟩

end Invocation

end FormTemplate.CommandLine
