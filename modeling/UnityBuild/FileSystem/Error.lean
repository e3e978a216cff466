/-!
# Errors of files and programs

What the system reports has a number besides its text; what is found before the system is asked has
none.
-/

namespace UnityBuild

/-- What can go wrong with files and programs. -/
inductive SystemError where
  | notPermitted
  | noEntry
  | noDevice
  | argumentsTooLong
  | notExecutableFormat
  | badDescriptor
  | permissionDenied
  | busy
  | alreadyExists
  | notDirectory
  | isDirectory
  | invalidArgument
  | noSpace
  | nameTooLong
  | notEmpty
  | tooManyLevels
  | nulInPath
  | nulInArgument
  | notUtf8
  | noTree
deriving DecidableEq, Repr

/-- The text of a system error, without its number. -/
def SystemError.text : SystemError → String
  | notPermitted => "Operation not permitted"
  | noEntry => "No such file or directory"
  | noDevice => "No such device or address"
  | argumentsTooLong => "Argument list too long"
  | notExecutableFormat => "Exec format error"
  | badDescriptor => "Bad file descriptor"
  | permissionDenied => "Permission denied"
  | busy => "Device or resource busy"
  | alreadyExists => "File exists"
  | notDirectory => "Not a directory"
  | isDirectory => "Is a directory"
  | invalidArgument => "Invalid argument"
  | noSpace => "No space left on device"
  | nameTooLong => "File name too long"
  | notEmpty => "Directory not empty"
  | tooManyLevels => "Too many levels of symbolic links"
  | nulInPath => "file name contained an unexpected NUL byte"
  | nulInArgument => "nul byte found in provided data"
  | notUtf8 => "stream did not contain valid UTF-8"
  | noTree => "failed to create whole tree"

/-- The number of a system error; what the system itself did not report has none. -/
def SystemError.number? : SystemError → Option Nat
  | notPermitted => some 1
  | noEntry => some 2
  | noDevice => some 6
  | argumentsTooLong => some 7
  | notExecutableFormat => some 8
  | badDescriptor => some 9
  | permissionDenied => some 13
  | busy => some 16
  | alreadyExists => some 17
  | notDirectory => some 20
  | isDirectory => some 21
  | invalidArgument => some 22
  | noSpace => some 28
  | nameTooLong => some 36
  | notEmpty => some 39
  | tooManyLevels => some 40
  | nulInPath => none
  | nulInArgument => none
  | notUtf8 => none
  | noTree => none

/-- The text of a system error with its number. -/
def SystemError.message (e : SystemError) : String :=
  match e.number? with
  | some number => e.text ++ " (os error " ++ toString number ++ ")"
  | none => e.text

end UnityBuild
