/-!
# Words of a command line

A program takes options anywhere, a command, and behind it the operands and options of the command. An option is
written with two hyphens and its name, or with one hyphen and its letter; its value follows behind an equals
sign, behind the letter, or as the next word. Two hyphens alone turn all further words into operands.

An option or operand is settled once the next one comes: it must have a value then, must not have been given
before at its place, and must not be empty unless it may be.

* `Level` : what may be given at a place.
* `Level.read` : the values given, up to the name of a command.
* `Usage` : why the words give nothing to do.
-/

set_option autoImplicit false

namespace FormTemplate.CommandLine

/-- Why the words give nothing to do: they ask for a text about the program, or they are wrong. -/
inductive Usage where
  | help
  | version
  | wrong
  deriving DecidableEq, Repr

/-- The exit code of a program that does nothing for this reason. -/
def Usage.exitCode : Usage → Nat
  | .help | .version => 0
  | .wrong => 2

/-- What takes a value. -/
structure Slot where
  name : String
  mayBeEmpty : Bool := false
  /-- The letter of an option that has one. -/
  letter : Option Char := none
  deriving DecidableEq, Repr

/-- What may be given at a place. -/
structure Level where
  options : List Slot
  operands : List Slot := []
  /-- The names of commands that may follow. -/
  commands : List String := []
  /-- Whether one may ask for the version. -/
  hasVersion : Bool := false
  deriving DecidableEq, Repr

/-- What has been given so far at a place. -/
structure Given where
  values : List (String × String) := []
  /-- What is not settled yet; an option may still lack its value. -/
  pending : Option (Slot × Option String) := none
  /-- The operands to come. -/
  operands : List Slot
  /-- Whether all further words are operands. -/
  onlyOperands : Bool := false
  deriving DecidableEq, Repr

namespace Given

/-- The value of a name. -/
def value? (g : Given) (name : String) : Option String := (g.values.find? (·.1 == name)).map (·.2)

/-- Takes a value for good. -/
def accept (g : Given) (slot : Slot) (value : String) : Except Usage Given :=
  if (value.isEmpty && !slot.mayBeEmpty) || (g.value? slot.name).isSome then .error .wrong
  else .ok { g with values := (slot.name, value) :: g.values, pending := none }

/-- Settles what is pending. -/
def settle (g : Given) : Except Usage Given :=
  match g.pending with
  | none => .ok g
  | some (_, none) => .error .wrong
  | some (slot, some value) => g.accept slot value

/-- Settles what is pending, and ends with a text about the program. -/
def askFor (g : Given) (usage : Usage) : Except Usage Given := do
  let _ ← g.settle
  throw usage

/-- Whether an option waits for the next word. -/
def awaits (g : Given) : Bool :=
  !g.onlyOperands && match g.pending with
    | some (_, none) => true
    | _ => false

/-- Takes an option with its value, or one that waits for it. -/
def option (g : Given) (slot : Slot) (value : Option String) : Except Usage Given := do
  let g ← g.settle
  match value with
  | some v => g.accept slot v
  | none => return { g with pending := some (slot, none) }

/-- Takes a word as the next operand. -/
def operand (g : Given) (word : String) : Except Usage Given :=
  match g.operands with
  | [] => .error .wrong
  | slot :: rest => do
    let g ← g.settle
    return { g with pending := some (slot, some word), operands := rest }

end Given

namespace Level

/-- Takes a name behind two hyphens, with the value behind an equals sign. -/
def readLong (l : Level) (g : Given) (name : String) (value : Option String) : Except Usage Given :=
  match l.options.find? (·.name == name) with
  | some slot => g.option slot value
  | none =>
    if value.isSome then .error .wrong
    else if name == "help" then g.askFor .help
    else if l.hasVersion && name == "version" then g.askFor .version
    else .error .wrong

/-- The value that follows a letter in the same word. -/
def attachedValue : List Char → Option String
  | [] => none
  | '=' :: r => some (String.ofList r)
  | r => some (String.ofList r)

/-- Takes a letter behind a hyphen, with what follows it in the same word. -/
def readShort (l : Level) (g : Given) (letter : Char) (rest : List Char) : Except Usage Given :=
  match l.options.find? (·.letter == some letter) with
  | some slot => g.option slot (attachedValue rest)
  | none =>
    if letter == 'h' then g.askFor .help
    else if l.hasVersion && letter == 'V' then g.askFor .version
    else .error .wrong

/-- Takes a word that is no option. -/
def readPlain (g : Given) (word : String) : Except Usage Given :=
  match g.awaits, g.pending with
  | true, some (slot, _) => .ok { g with pending := some (slot, some word) }
  | _, _ => g.operand word

/-- Takes a word that is no command. -/
def readWord (l : Level) (g : Given) (word : String) : Except Usage Given :=
  if g.onlyOperands then g.operand word
  else
    match word.toList with
    | ['-', '-'] => .ok { g with onlyOperands := true }
    | '-' :: '-' :: body =>
      let value := match body.dropWhile (· != '=') with
        | [] => none
        | _ :: v => some (String.ofList v)
      l.readLong g (String.ofList (body.takeWhile (· != '='))) value
    | '-' :: letter :: rest => l.readShort g letter rest
    | _ => readPlain g word

/-- Takes words up to the name of a command, and gives the name with the words behind it. -/
def readFrom (l : Level) (g : Given) : List String → Except Usage (Given × Option (String × List String))
  | [] => .ok (g, none)
  | word :: rest =>
    if !g.onlyOperands && !g.awaits && l.commands.contains word then .ok (g, some (word, rest))
    else do
      let g ← l.readWord g word
      l.readFrom g rest

/-- Takes the words at a place. -/
def read (l : Level) (words : List String) : Except Usage (Given × Option (String × List String)) :=
  l.readFrom { operands := l.operands } words

end Level

end FormTemplate.CommandLine
