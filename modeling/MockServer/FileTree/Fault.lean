/-
Faults of the operations on files.

A fault of the machine has a number, which its wording shows; a fault that is found
before the machine is asked has none.
-/
namespace MockServer

/-- Why an operation on files failed. -/
inductive FileFault where
  | notFound
  | badFormat
  | permissionDenied
  | alreadyExists
  | notDirectory
  | isDirectory
  | nameTooLong
  | tooManyLinks
  | nulInName
  | nulInArgument
  | notText
  deriving DecidableEq, Repr

namespace FileFault

/-- The reason of a fault in words. -/
def reason : FileFault → String
  | .notFound => "No such file or directory"
  | .badFormat => "Exec format error"
  | .permissionDenied => "Permission denied"
  | .alreadyExists => "File exists"
  | .notDirectory => "Not a directory"
  | .isDirectory => "Is a directory"
  | .nameTooLong => "File name too long"
  | .tooManyLinks => "Too many levels of symbolic links"
  | .nulInName => "file name contained an unexpected NUL byte"
  | .nulInArgument => "nul byte found in provided data"
  | .notText => "stream did not contain valid UTF-8"

/-- The number of a fault that the machine tells. -/
def number? : FileFault → Option String
  | .notFound => some "2"
  | .badFormat => some "8"
  | .permissionDenied => some "13"
  | .alreadyExists => some "17"
  | .notDirectory => some "20"
  | .isDirectory => some "21"
  | .nameTooLong => some "36"
  | .tooManyLinks => some "40"
  | .nulInName => none
  | .nulInArgument => none
  | .notText => none

/-- The wording of a fault. -/
def message (fault : FileFault) : String :=
  match fault.number? with
  | some number => fault.reason ++ " (os error " ++ number ++ ")"
  | none => fault.reason

end FileFault
end MockServer
