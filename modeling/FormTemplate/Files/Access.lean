import FormTemplate.Files.Path

/-!
# Access to files

The library reaches files only through the operations of a `FileAccess m`, so that it runs on a disk and on a tree
in memory alike. An operation answers with its result or with the reason why there is none.

* `FileError` : the reasons, with their texts.
* `FileAccess` : the operations.
* `FileAccess.readText`, `FileAccess.makePath` : what is made of them.
-/

set_option autoImplicit false

namespace FormTemplate

/-- Why a file operation has no result. -/
inductive FileError where
  | notFound
  | alreadyExists
  | notADirectory
  | isADirectory
  | nameTooLong
  /-- The bytes of a text file are no UTF-8. -/
  | notText
  /-- The name holds a null character. -/
  | nullInName
  /-- Another reason of the system, with its text. -/
  | other (text : String)
  deriving DecidableEq, Repr

/-- The text of a reason. -/
def FileError.message : FileError → String
  | .notFound => "No such file or directory (os error 2)"
  | .alreadyExists => "File exists (os error 17)"
  | .notADirectory => "Not a directory (os error 20)"
  | .isADirectory => "Is a directory (os error 21)"
  | .nameTooLong => "File name too long (os error 36)"
  | .notText => "stream did not contain valid UTF-8"
  | .nullInName => "file name contained an unexpected NUL byte"
  | .other text => text

/-- The operations on files. -/
structure FileAccess (m : Type → Type) where
  /-- The bytes of a file. -/
  read : Path → m (Except FileError ByteArray)
  /-- Makes a file of a text, in place of the file that was there. -/
  write : Path → String → m (Except FileError Unit)
  /-- Removes a file. -/
  remove : Path → m (Except FileError Unit)
  /-- Makes one directory. -/
  makeDirectory : Path → m (Except FileError Unit)
  /-- Whether a path leads to a directory. -/
  isDirectory : Path → m Bool

namespace FileAccess

variable {m : Type → Type} [Monad m]

/-- The text of bytes. -/
def textOf (bytes : ByteArray) : Except FileError String :=
  match String.fromUTF8? bytes with
  | some s => .ok s
  | none => .error .notText

/-- The text of a file. -/
def readText (files : FileAccess m) (p : Path) : m (Except FileError String) := do
  return (← files.read p) >>= textOf

/-- Makes a directory, or accepts the one that is there. -/
def ensureDirectory (files : FileAccess m) (p : Path) : m (Except FileError Unit) := do
  match ← files.makeDirectory p with
  | .ok () => return .ok ()
  | .error e => if ← files.isDirectory p then return .ok () else return .error e

/-- Makes a directory and the directories on the way to it. A path has fewer than `steps` parents. -/
def makePathWithin (files : FileAccess m) : Nat → Path → m (Except FileError Unit)
  | 0, p => files.ensureDirectory p
  | steps + 1, p => do
    if p.steps.isEmpty && !p.isAbsolute && !p.isDotted then return .ok ()
    match ← files.makeDirectory p with
    | .ok () => return .ok ()
    | .error .notFound =>
      match p.parent? with
      | none => return .error (.other "failed to create whole tree")
      | some parent =>
        match ← files.makePathWithin steps parent with
        | .error e => return .error e
        | .ok () => files.ensureDirectory p
    | .error e => if ← files.isDirectory p then return .ok () else return .error e

/-- Makes a directory and the directories on the way to it; those that are there are left as they are. -/
def makePath (files : FileAccess m) (p : Path) : m (Except FileError Unit) :=
  files.makePathWithin (p.steps.length + 2) p

/-- The operations next to a state of another kind. -/
def withState (σ : Type) (files : FileAccess m) : FileAccess (StateT σ m) where
  read p := liftM (files.read p)
  write p s := liftM (files.write p s)
  remove p := liftM (files.remove p)
  makeDirectory p := liftM (files.makeDirectory p)
  isDirectory p := liftM (files.isDirectory p)

end FileAccess

end FormTemplate
