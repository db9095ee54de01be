/-!
# Errors of the operating system

`reason` is the bare text of an error, `message` also gives its number where it has one.
-/

namespace Looplet

/-- Why the system refuses an operation. -/
inductive SystemError where
  | notPermitted
  | noEntry
  | noProcess
  | noDevice
  | argumentsTooLong
  | badFormat
  | badDescriptor
  | permissionDenied
  | alreadyExists
  | notDirectory
  | isDirectory
  | invalidArgument
  | noSpace
  | nameTooLong
  | notEmpty
  | tooManyLinks
  | invalidText
  | zeroByte
  | other (number : Nat) (reason : String)
  deriving DecidableEq

namespace SystemError

/-- The text of an error. -/
def reason : SystemError → String
  | notPermitted => "Operation not permitted"
  | noEntry => "No such file or directory"
  | noProcess => "No such process"
  | noDevice => "No such device or address"
  | argumentsTooLong => "Argument list too long"
  | badFormat => "Exec format error"
  | badDescriptor => "Bad file descriptor"
  | permissionDenied => "Permission denied"
  | alreadyExists => "File exists"
  | notDirectory => "Not a directory"
  | isDirectory => "Is a directory"
  | invalidArgument => "Invalid argument"
  | noSpace => "No space left on device"
  | nameTooLong => "File name too long"
  | notEmpty => "Directory not empty"
  | tooManyLinks => "Too many levels of symbolic links"
  | invalidText => "stream did not contain valid UTF-8"
  | zeroByte => "nul byte found in provided data"
  | other _ r => r

/-- The number of an error. Bytes that are not text, and a zero byte where none can be passed on,
are not found by the system, so those errors have none. -/
def number? : SystemError → Option Nat
  | notPermitted => some 1
  | noEntry => some 2
  | noProcess => some 3
  | noDevice => some 6
  | argumentsTooLong => some 7
  | badFormat => some 8
  | badDescriptor => some 9
  | permissionDenied => some 13
  | alreadyExists => some 17
  | notDirectory => some 20
  | isDirectory => some 21
  | invalidArgument => some 22
  | noSpace => some 28
  | nameTooLong => some 36
  | notEmpty => some 39
  | tooManyLinks => some 40
  | invalidText => none
  | zeroByte => none
  | other n _ => some n

/-- The text of an error with its number. -/
def message (e : SystemError) : String :=
  match e.number? with
  | some n => e.reason ++ " (os error " ++ Nat.repr n ++ ")"
  | none => e.reason

end SystemError

end Looplet
