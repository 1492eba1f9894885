import FormTemplate.CommandLine.Execution
import Std.Time.DateTime.Timestamp

/-!
# The program

The command line tool gives the library access to the disk and to the clock. It prints what a command gives and
exits with zero, or prints the reason why there is nothing and exits with another code.

* `diskFiles` : the operations on the files of the disk.
* `now` : the time of the clock.
-/

set_option autoImplicit false

namespace FormTemplate

/-- The code of an error of the system; some operations give it as a negative number. -/
def systemCode (code : UInt32) : Nat := if 2 * code.toNat < UInt32.size then code.toNat else UInt32.size - code.toNat

/-- The reason that an error of the system stands for. -/
def fileErrorOf : IO.Error → FileError
  | .noFileOrDirectory .. => .notFound
  | .alreadyExists .. => .alreadyExists
  | .inappropriateType _ code _ => if systemCode code == 20 then .notADirectory else .isADirectory
  | .invalidArgument file code text =>
    if systemCode code == 36 then .nameTooLong else .other (toString (IO.Error.invalidArgument file code text))
  | e => .other (toString e)

/-- The result of an operation on the disk, or the reason why there is none. -/
def attempt {α : Type} (action : IO α) : IO (Except FileError α) := do
  try
    return .ok (← action)
  catch e =>
    return .error (fileErrorOf e)

/-- The operations on the files of the disk. -/
def diskFiles : FileAccess IO where
  read p := attempt (IO.FS.readBinFile p.text)
  write p s := attempt (IO.FS.writeFile p.text s)
  remove p := attempt (IO.FS.removeFile p.text)
  makeDirectory p := attempt (IO.FS.createDir p.text)
  isDirectory p := do
    match ← attempt (IO.FS.realPath p.text) with
    | .ok path => path.isDir
    | .error _ => return false

/-- The time of the clock. -/
def now : IO Calendar.Timestamp := do
  return .ofClock (← Std.Time.Timestamp.now).toNanosecondsSinceUnixEpoch.val

end FormTemplate

/-- Carries out a command line. -/
def main (words : List String) : IO UInt32 := do
  match ← FormTemplate.CommandLine.run FormTemplate.diskFiles (← FormTemplate.now) words with
  | .ok text =>
    IO.println text
    return 0
  | .error (.usage reason) =>
    let text := (FormTemplate.CommandLine.Failure.usage reason).message
    if reason.exitCode == 0 then IO.println text else IO.eprintln text
    return UInt32.ofNat reason.exitCode
  | .error failure =>
    IO.eprintln ("Error: " ++ failure.message)
    return 1
