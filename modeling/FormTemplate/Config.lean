import FormTemplate.Document
import FormTemplate.Files.Access
import FormTemplate.Toml.Reader

/-!
# Configuration

A configuration file says where schemas are kept, how many items of a list are kept and what is logged. All
parts may be absent. A part of the wrong form is refused; a part that is not known is ignored. A group may be
written as an array with its parts in order, and a date in the place of a group is a group without parts.

* `Config` : the settings, with their defaults.
* `Config.read?` : the settings of a text.
* `Config.load` : the settings of a file.
-/

set_option autoImplicit false

namespace FormTemplate

/-- Where schemas are kept. -/
inductive StoreKind where
  | file
  | memory
  deriving DecidableEq, Repr

namespace StoreKind

/-- The name of a kind of store. -/
def name : StoreKind → String
  | .file => "file"
  | .memory => "memory"

/-- The kind of store with a name, spelled exactly. -/
def ofName? (name : String) : Option StoreKind :=
  if name == "file" then some .file
  else if name == "memory" then some .memory
  else none

end StoreKind

/-- Where schemas are kept, and in which directory if in files. -/
structure StoreConfig where
  kind : StoreKind := .file
  path : Path := ⟨"./schemas"⟩
  deriving DecidableEq, Repr

/-- The settings. -/
structure Config where
  store : StoreConfig := {}
  codec : CodecOptions := {}
  /-- What is logged. -/
  filter : String := "info"
  deriving DecidableEq, Repr

/-! ## Parts of values -/

namespace Toml

/-- Values by their positions among so many; those that are missing are absent. -/
def byPosition (count : Nat) (items : List Toml) : List (Option Toml) :=
  (items.map some ++ List.replicate count none).take count

/-- The parts of a group: by key, or by position. -/
def group? (names : List String) : Toml → Option (List (Option Toml))
  | .table origin entries => some (names.map (Table.get? (origin, entries)))
  | .array items => some (byPosition names.length items)
  | .tables items => some (byPosition names.length (items.map fun (t : Table) => .table t.1 t.2))
  | .dateTime _ => some (names.map fun _ => none)
  | _ => none

/-- A part that may be absent, with the value it then has. -/
def orDefault? {α : Type} (value : α) (read : Toml → Option α) : Option Toml → Option α
  | none => some value
  | some v => read v

/-- The text of a string. -/
def string? : Toml → Option String
  | .string s => some s
  | _ => none

/-- The number of an integer that is not negative. -/
def nat? : Toml → Option Nat
  | .integer n => if 0 ≤ n then some n.toNat else none
  | _ => none

/-- Whether a value is an array or a table with nothing in it. -/
def isHollow : Toml → Bool
  | .array items => items.isEmpty
  | .table _ entries => entries.isEmpty
  | .tables items => items.isEmpty
  | _ => false

/-- The name of a constant: a string, or a table whose only key it is, with nothing as its value. -/
def constant? : Toml → Option String
  | .string s => some s
  | .table _ [(key, v)] => if v.isHollow then some key else none
  | _ => none

end Toml

/-! ## Settings -/

/-- The settings of the store. -/
def StoreConfig.ofToml? (v : Toml) : Option StoreConfig :=
  match v.group? ["backend", "path"] with
  | some [kind, path] => do
    let kind ← Toml.orDefault? .file (fun v => v.constant?.bind StoreKind.ofName?) kind
    let path ← Toml.orDefault? ⟨"./schemas"⟩ (fun v => v.string?.map Path.mk) path
    return ⟨kind, path⟩
  | _ => none

/-- The limits on stored values. -/
def CodecOptions.ofToml? (v : Toml) : Option CodecOptions :=
  match v.group? ["max_array_items"] with
  | some [maxItems] => (Toml.orDefault? 20 Toml.nat? maxItems).map CodecOptions.mk
  | _ => none

/-- What is logged. -/
def filterOfToml? (v : Toml) : Option String :=
  match v.group? ["filter"] with
  | some [filter] => Toml.orDefault? "info" Toml.string? filter
  | _ => none

namespace Config

/-- The settings of a text. -/
def read? (text : String) : Option Config := do
  let entries ← Toml.parse? text.toList
  let part := Toml.Table.get? (.stated, entries)
  let store ← Toml.orDefault? {} StoreConfig.ofToml? (part "store")
  let codec ← Toml.orDefault? {} CodecOptions.ofToml? (part "codec")
  let filter ← Toml.orDefault? "info" filterOfToml? (part "logging")
  return ⟨store, codec, filter⟩

/-- Why there are no settings. -/
inductive Failure where
  | unreadable (path : Path)
  | malformed
  deriving DecidableEq, Repr

/-- The text of a failure. -/
def Failure.message : Failure → String
  | .unreadable path => "Failed to read config file: " ++ path.text
  | .malformed => "Failed to parse TOML configuration"

/-- The settings of a file. -/
def load {m : Type → Type} [Monad m] (files : FileAccess m) (path : Path) : ExceptT Failure m Config := do
  match ← files.readText path with
  | .error _ => throw (.unreadable path)
  | .ok text =>
    match read? text with
    | none => throw .malformed
    | some config => return config

end Config

end FormTemplate
