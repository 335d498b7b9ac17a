/-!
# Faults of the file system

Why an operation on files fails, and the text that the system has for it.
-/

namespace Scaffold.Files

inductive Fault where
  | notFound
  | exists_
  | notDirectory
  | isDirectory
  | invalidArgument
  | nameTooLong
  | notEmpty
  | tooManyLinks
  | busy
  /-- The content of a file is no UTF-8 text. -/
  | notText
  /-- A path holds the character NUL. -/
  | nulInPath
  deriving DecidableEq, Repr

/-- The number and the description of a fault that the system reports. -/
def Fault.system? : Fault → Option (Nat × String)
  | .notFound => some (2, "No such file or directory")
  | .busy => some (16, "Device or resource busy")
  | .exists_ => some (17, "File exists")
  | .notDirectory => some (20, "Not a directory")
  | .isDirectory => some (21, "Is a directory")
  | .invalidArgument => some (22, "Invalid argument")
  | .nameTooLong => some (36, "File name too long")
  | .notEmpty => some (39, "Directory not empty")
  | .tooManyLinks => some (40, "Too many levels of symbolic links")
  | .notText | .nulInPath => none

def Fault.message (f : Fault) : String :=
  match f.system? with
  | some (number, text) => text ++ " (os error " ++ toString number ++ ")"
  | none =>
    match f with
    | .notText => "stream did not contain valid UTF-8"
    | _ => "file name contained an unexpected NUL byte"

end Scaffold.Files
