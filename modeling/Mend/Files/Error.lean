import Mend.Text.Decimal

/-!
# Failures of the file system

* `FileError` : why an operation on a file or a program failed;
* `FileError.reason` : its wording;
* `FileError.text` : its wording with the number that the system gives it.
-/

namespace Mend

/-- Why a file operation failed. -/
inductive FileError where
  | notFound
  | permissionDenied
  | alreadyExists
  | notADirectory
  | isADirectory
  | invalidArgument
  | nameTooLong
  | notEmpty
  | notExecutable
  | notRegular
  | notText
  | nulInName
  | nulInCommand
deriving DecidableEq

namespace FileError

def reason : FileError → String
  | .notFound => "No such file or directory"
  | .permissionDenied => "Permission denied"
  | .alreadyExists => "File exists"
  | .notADirectory => "Not a directory"
  | .isADirectory => "Is a directory"
  | .invalidArgument => "Invalid argument"
  | .notRegular => "the source path is neither a regular file nor a symlink to a regular file"
  | .nameTooLong => "File name too long"
  | .notEmpty => "Directory not empty"
  | .notExecutable => "Exec format error"
  | .notText => "stream did not contain valid UTF-8"
  | .nulInName => "file name contained an unexpected NUL byte"
  | .nulInCommand => "nul byte found in provided data"

def number? : FileError → Option Nat
  | .notFound => some 2
  | .permissionDenied => some 13
  | .alreadyExists => some 17
  | .notADirectory => some 20
  | .isADirectory => some 21
  | .invalidArgument => some 22
  | .nameTooLong => some 36
  | .notEmpty => some 39
  | .notExecutable => some 8
  | .notRegular | .notText | .nulInName | .nulInCommand => none

/-- The wording of a failure, with its number behind it if it has one. -/
def text (e : FileError) : String :=
  match e.number? with
  | some n => e.reason ++ " (os error " ++ Text.Decimal.ofNat n ++ ")"
  | none => e.reason

end FileError

end Mend
