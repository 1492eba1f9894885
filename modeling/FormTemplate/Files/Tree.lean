import FormTemplate.Dict
import FormTemplate.Files.Access

/-!
# Files in memory

A tree of directories and files, with the operations of a disk. A path is followed step by step from the root of
the tree, which is the current directory as well and its own parent. Every step on the way has to lead to a
directory.

* `FileTree` : the tree.
* `FileTree.find` : what a path leads to.
* `FileTree.files` : the operations, on a tree that is the state.
-/

set_option autoImplicit false

namespace FormTemplate

/-- A file or a directory. The entries of a directory have different names. -/
inductive FileTree where
  | file (bytes : ByteArray)
  | directory (entries : List (String × FileTree))

namespace FileTree

/-- The directory without entries. -/
def empty : FileTree := .directory []

/-- The entry with a name. -/
def child? (name : String) : List (String × FileTree) → Option FileTree
  | [] => none
  | e :: rest => if e.1 == name then some e.2 else child? name rest

/-- Puts an entry in place of the one with its name, or behind all others. -/
def putEntry (name : String) (tree : FileTree) : List (String × FileTree) → List (String × FileTree)
  | [] => [(name, tree)]
  | e :: rest => if e.1 == name then (name, tree) :: rest else e :: putEntry name tree rest

/-- The names in a directory; a file has none. -/
def names : FileTree → List String
  | .file _ => []
  | .directory entries => entries.map (·.1)

/-! ## Following a path -/

/-- The longest name in bytes. -/
def maxName : Nat := 255

/-- The longest path in bytes. -/
def maxPath : Nat := 4095

/-- The subtree at an address, which names directories from the root down. -/
def at? : List String → FileTree → Option FileTree
  | [], t => some t
  | _ :: _, .file _ => none
  | name :: rest, .directory entries => (child? name entries).bind (at? rest)

/-- Replaces the subtree at an address, or puts it there if only the last name is missing; `none` removes it. -/
def setAt : List String → Option FileTree → FileTree → FileTree
  | [], new, t => new.getD t
  | _ :: _, _, .file bytes => .file bytes
  | [name], none, .directory entries => .directory (entries.filter (·.1 != name))
  | [name], some new, .directory entries => .directory (putEntry name new entries)
  | name :: next :: rest, new, .directory entries =>
    match child? name entries with
    | none => .directory entries
    | some t => .directory (putEntry name (setAt (next :: rest) new t) entries)

/-- What a path leads to: an address with the subtree that is there, or the address of an entry that is missing
from a directory. -/
inductive Target where
  | found (address : List String) (tree : FileTree)
  | missing (address : List String)

/-- Follows parts of a path from the directory at an address. A part may be empty or name no step; it still asks
for a directory in front of it. -/
def follow (root : FileTree) : List String → List (List Char) → Except FileError Target
  | address, [] =>
    match root.at? address with
    | some t => .ok (.found address t)
    | none => .ok (.missing address)
  | address, part :: rest =>
    match root.at? address with
    | none => .error .notFound
    | some (.file _) => .error .notADirectory
    | some (.directory _) =>
      if !Path.isStep part then follow root address rest
      else if part == Path.upward then follow root address.dropLast rest
      else if maxName < (String.ofList part).utf8ByteSize then .error .nameTooLong
      else follow root (address ++ [String.ofList part]) rest

/-- What a path leads to. -/
def find (root : FileTree) (p : Path) : Except FileError Target :=
  if p.text.toList.contains '\x00' then .error .nullInName
  else if p.text.isEmpty then .error .notFound
  else if maxPath < p.text.utf8ByteSize then .error .nameTooLong
  else follow root [] (Path.parts p.text.toList)

/-! ## Operations -/

/-- The bytes of a file. -/
def read (root : FileTree) (p : Path) : Except FileError ByteArray :=
  match root.find p with
  | .error e => .error e
  | .ok (.missing _) => .error .notFound
  | .ok (.found _ (.directory _)) => .error .isADirectory
  | .ok (.found _ (.file bytes)) => .ok bytes

/-- The tree with a file of some bytes at a path. -/
def write (root : FileTree) (p : Path) (bytes : ByteArray) : Except FileError FileTree :=
  match root.find p with
  | .error e => .error e
  | .ok (.found _ (.directory _)) => .error .isADirectory
  | .ok (.found address (.file _)) | .ok (.missing address) => .ok (root.setAt address (some (.file bytes)))

/-- The tree without the file at a path. -/
def remove (root : FileTree) (p : Path) : Except FileError FileTree :=
  match root.find p with
  | .error e => .error e
  | .ok (.missing _) => .error .notFound
  | .ok (.found _ (.directory _)) => .error .isADirectory
  | .ok (.found address (.file _)) => .ok (root.setAt address none)

/-- A path without slashes at its end. -/
def withoutEndSlash (p : Path) : Path :=
  match p.text.toList.reverse.dropWhile (· == '/') with
  | [] => p
  | r => ⟨String.ofList r.reverse⟩

/-- The tree with an empty directory at a path. -/
def makeDirectory (root : FileTree) (p : Path) : Except FileError FileTree :=
  match root.find (withoutEndSlash p) with
  | .error e => .error e
  | .ok (.found _ _) => .error .alreadyExists
  | .ok (.missing address) => .ok (root.setAt address (some empty))

/-- Whether a path leads to a directory. -/
def isDirectory (root : FileTree) (p : Path) : Bool :=
  match root.find p with
  | .ok (.found _ (.directory _)) => true
  | _ => false

/-- Takes a changed tree as the state. -/
def commit (result : Except FileError FileTree) : StateM FileTree (Except FileError Unit) :=
  match result with
  | .error e => return .error e
  | .ok tree => do
    set tree
    return .ok ()

/-- The operations on a tree that is the state. -/
def files : FileAccess (StateM FileTree) where
  read p := return (← get).read p
  write p s := do commit ((← get).write p s.toUTF8)
  remove p := do commit ((← get).remove p)
  makeDirectory p := do commit ((← get).makeDirectory p)
  isDirectory p := return (← get).isDirectory p

end FileTree

end FormTemplate
