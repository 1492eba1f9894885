import FormTemplate.CommandLine.Command
import FormTemplate.Config
import FormTemplate.Document.Json
import FormTemplate.Legacy
import FormTemplate.Store.Reparse

/-!
# Carrying out commands

A command gives the text to print or the reason why there is none. It reaches files through their operations
only. A store in memory lasts for one command.

* `Failure` : the reasons, with their texts.
* `Command.execute` : what a command does under given settings.
* `run` : what a command line does.
-/

set_option autoImplicit false

namespace FormTemplate.CommandLine

/-- Why a command has nothing to print. -/
inductive Failure where
  | usage (reason : Usage)
  | config (reason : Config.Failure)
  | store (error : StoreError)
  | template (path : Path) (cause : ParseFailure)
  | noSchema (id : String)
  | unreadable (path : Path) (cause : FileError)
  | badSubmission (path : Path)
  | badValues (path : Path)
  | items (error : ItemsError)
  deriving DecidableEq, Repr

/-- The text of a failure. -/
def Failure.message : Failure → String
  | .usage .help => "commands: " ++ ", ".intercalate (CommandForm.all.map (·.name))
  | .usage .version => "version 0.1.0"
  | .usage .wrong => "unexpected or missing argument; try --help"
  | .config reason => reason.message
  | .store e => e.message
  | .template path _ => "Failed to parse template " ++ path.text
  | .noSchema id => "No schema stored for '" ++ id ++ "'"
  | .unreadable path _ => "Failed to read " ++ path.text
  | .badSubmission path => "Invalid submitted values in " ++ path.text
  | .badValues path => "Invalid field values in " ++ path.text
  | .items e => e.message

/-- The monad of commands: texts kept in memory, over access to files. -/
abbrev Session (m : Type → Type) : Type → Type := StateT (Dict String) m

variable {m : Type → Type} [Monad m]

/-- An action of the store as a part of a command. -/
def fromStore {α : Type} (action : ExceptT StoreError (Session m) α) : ExceptT Failure (Session m) α := do
  match ← action.run with
  | .ok a => return a
  | .error e => throw (.store e)

/-- The store that the settings ask for. -/
def openStore (files : FileAccess (Session m)) (config : Config) : ExceptT Failure (Session m) (Backend (Session m)) :=
  match config.store.kind with
  | .file => fromStore (Backend.openDirectory files config.store.path)
  | .memory => return Backend.memory

/-- The schema that is kept. -/
def storedSchema (b : Backend (Session m)) (id : String) : ExceptT Failure (Session m) Schema := do
  match ← fromStore (Store.get b id) with
  | some s => return s
  | none => throw (.noSchema id)

/-- The text of a file. -/
def readFile (files : FileAccess (Session m)) (path : Path) : ExceptT Failure (Session m) String := do
  match ← files.readText path with
  | .ok text => return text
  | .error e => throw (.unreadable path e)

/-- The text of a file that may not be asked for. -/
def readFile? (files : FileAccess (Session m)) : Option Path → ExceptT Failure (Session m) (Option String)
  | none => return none
  | some path => return some (← readFile files path)

/-- The schema of a template, under the stem of its file name unless an identifier is given. -/
def parseTemplate (files : FileAccess (Session m)) (now : Calendar.Timestamp) (template text : Path)
    (id : Option String) : ExceptT Failure (Session m) Schema := do
  match ← (Template.schema files template (.file text) (id.getD template.stem) now).run with
  | .ok s => return s
  | .error e => throw (.template template e)

/-- What a command prints. -/
def Command.execute (files : FileAccess (Session m)) (config : Config) (now : Calendar.Timestamp) :
    Command → ExceptT Failure (Session m) String
  | .parse template text id => do
    return (← parseTemplate files now template text id).toJson.prettyString
  | .legacy template text id => do
    return (legacyToJson (← parseTemplate files now template text id).legacyView).prettyString
  | .reparse id template text => do
    let b ← openStore files config
    let outcome ← fromStore (Store.reparse files b ⟨id, template, .requested⟩ (.file text) now)
    return outcome.toJson.prettyString
  | .display id => do
    let b ← openStore files config
    return (← storedSchema b id).toJson.prettyString
  | .summary id => do
    let b ← openStore files config
    return (← storedSchema b id).summary.toJson.prettyString
  | .delete id => do
    let b ← openStore files config
    fromStore (Store.delete b id)
    return "Deleted schema '" ++ id ++ "'"
  | .fill id values previous => do
    let b ← openStore files config
    let schema ← storedSchema b id
    match Submission.readDict? (← readFile files values) with
    | none => throw (.badSubmission values)
    | some submitted =>
      let previous ← readFile? files previous
      match saveDocument schema submitted previous config.codec with
      | .error e => throw (.items e)
      | .ok saved => return saved.blob
  | .encode values => do
    match FieldValue.readList? (← readFile files values) with
    | none => throw (.badValues values)
    | some vs => return Blob.encode vs
  | .decode blob => do
    return (FieldValue.dictToJson (Blob.decode (← readFile files blob))).prettyString

/-- The settings of an invocation. -/
def loadConfig (files : FileAccess (Session m)) : Option Path → ExceptT Failure (Session m) Config
  | none => return {}
  | some path => do
    match ← (Config.load files path).run with
    | .ok config => return config
    | .error e => throw (.config e)

/-- What the words of a command line do, with a memory that lasts as long. -/
def perform (files : FileAccess (Session m)) (now : Calendar.Timestamp) (words : List String) :
    ExceptT Failure (Session m) String :=
  match Invocation.read words with
  | .error reason => throw (.usage reason)
  | .ok invocation => do
    let config ← loadConfig files invocation.config
    invocation.command.execute files config now

/-- What a command line does: the text to print, or the reason why there is none. -/
def run (files : FileAccess m) (now : Calendar.Timestamp) (words : List String) : m (Except Failure String) :=
  ((perform (files.withState (Dict String)) now words).run).run' Dict.empty

end FormTemplate.CommandLine
