import FormTemplate.Files.Access
import FormTemplate.Schema.Json
import FormTemplate.Text.Hex

/-!
# The schema store

Schemas are kept as texts under keys of their identifiers. A save replaces the whole text and refuses a schema
older than the one that is kept; a text without a version is no obstacle. A read that fails, and a text that is
no schema or breaks the rules of the name spaces, are errors and never an absent schema.

* `Backend` : where texts are kept under keys.
* `Backend.memory`, `Backend.directory` : texts in a dictionary, and one file for each key.
* `Store.save`, `Store.get`, `Store.delete` : the operations on schemas.
-/

set_option autoImplicit false

namespace FormTemplate

/-- Why an operation of the store has no result. -/
inductive StoreError where
  | unavailable (reason : String)
  | corrupt (id reason : String)
  | versionRegression (id : String) (stored incoming : UInt32)
  deriving DecidableEq, Repr

/-- The text of an error. -/
def StoreError.message : StoreError → String
  | .unavailable reason => "Storage unavailable: " ++ reason
  | .corrupt id reason => "Stored schema '" ++ id ++ "' is corrupt: " ++ reason
  | .versionRegression id stored incoming =>
    "Refusing to replace schema '" ++ id ++ "' v" ++ stored.toNat.repr ++ " with older v" ++ incoming.toNat.repr

/-- Where texts are kept under keys. -/
structure Backend (m : Type → Type) where
  /-- The text of a key, if there is one. -/
  read : String → ExceptT StoreError m (Option String)
  /-- Keeps a text under a key, in place of the one before. -/
  write : String → String → ExceptT StoreError m Unit
  /-- Removes a key, if it is there. -/
  remove : String → ExceptT StoreError m Unit

namespace Backend

/-! ## Texts in memory -/

variable {m : Type → Type} [Monad m]

/-- Texts in a dictionary that is the state. -/
def memory : Backend (StateT (Dict String) m) where
  read key := return (← get).get? key
  write key text := modify fun d => d.insert key text
  remove key := modify fun d => d.erase key

/-! ## Texts in files -/

/-- The characters that stand for themselves in a file name. -/
def isNameByte (b : UInt8) : Bool :=
  (0x30 ≤ b && b ≤ 0x39) || (0x41 ≤ b && b ≤ 0x5A) || (0x61 ≤ b && b ≤ 0x7A) || b == 0x5F || b == 0x2D

/-- A byte of a key in a file name: itself, or a percent sign with two digits. -/
def nameChars (b : UInt8) : List Char :=
  if isNameByte b then [Char.ofNat b.toNat]
  else ['%', Text.hexUpper (b.toNat / 16), Text.hexUpper (b.toNat % 16)]

/-- The file name of a key. -/
def fileName (key : String) : String := String.ofList (key.toUTF8.toList.flatMap nameChars) ++ ".json"

/-- The error of a file that cannot be accessed. -/
def inaccessible (path : Path) (e : FileError) : StoreError := .unavailable (path.text ++ ": " ++ e.message)

/-- One file for each key, inside a directory. -/
def directory (files : FileAccess m) (root : Path) : Backend m where
  read key := do
    let path := root.join (fileName key)
    match ← files.readText path with
    | .ok text => return some text
    | .error .notFound => return none
    | .error e => throw (inaccessible path e)
  write key text := do
    let path := root.join (fileName key)
    match ← files.write path text with
    | .ok () => return ()
    | .error e => throw (inaccessible path e)
  remove key := do
    let path := root.join (fileName key)
    match ← files.remove path with
    | .ok () | .error .notFound => return ()
    | .error e => throw (inaccessible path e)

/-- Makes the directory of a store, if it is not there. -/
def openDirectory (files : FileAccess m) (root : Path) : ExceptT StoreError m (Backend m) := do
  match ← files.makePath root with
  | .ok () => return directory files root
  | .error e => throw (inaccessible root e)

end Backend

namespace Store

variable {m : Type → Type} [Monad m]

/-- The key of a schema. -/
def key (id : String) : String := "template_schema:" ++ id

/-- The keys under which earlier releases kept parts of a schema. -/
def mirrorKeys (id : String) : List String := ["template_fields:" ++ id, "template_fields_legacy:" ++ id]

/-- Keeps a schema, unless one with a greater version is kept. -/
def save (b : Backend m) (id : String) (s : Schema) : ExceptT StoreError m Unit := do
  match (← b.read (key id)).bind Schema.readVersion? with
  | some stored =>
    if s.version < stored then throw (.versionRegression id stored s.version)
    else b.write (key id) s.text
  | none => b.write (key id) s.text

/-- The schema that a text holds and that keeps the rules of the name spaces. -/
def decode (id text : String) : Except StoreError Schema :=
  match Json.orRefusal (Schema.read? text) with
  | .error reason => .error (.corrupt id reason)
  | .ok s =>
    match s.check with
    | .error e => .error (.corrupt id e.message)
    | .ok () => .ok s

/-- The schema that is kept, if there is one. -/
def get (b : Backend m) (id : String) : ExceptT StoreError m (Option Schema) := do
  match ← b.read (key id) with
  | none => return none
  | some text =>
    match decode id text with
    | .error e => throw e
    | .ok s => return some s

/-- Removes keys in order. -/
def removeAll (b : Backend m) : List String → ExceptT StoreError m Unit
  | [] => return ()
  | key :: rest => do
    b.remove key
    removeAll b rest

/-- Removes a schema and what earlier releases kept of it. -/
def delete (b : Backend m) (id : String) : ExceptT StoreError m Unit := removeAll b (key id :: mirrorKeys id)

end Store

end FormTemplate
