/-
Why the file system or the start of a program refuses, and how the system words it.
-/
import SkipAudit.Text.Basic

namespace SkipAudit

/-- A refusal. -/
inductive FileError where
  | notPermitted
  | notFound
  | noProcess
  | interrupted
  | listTooLong
  | noDevice
  | badDescriptor
  | permission
  | notExecutable
  | alreadyExists
  | otherDevice
  | busy
  | notDirectory
  | isDirectory
  | invalidArgument
  | tooManyFiles
  | notTerminal
  | textBusy
  | tooLarge
  | noSpace
  | illegalSeek
  | brokenPipe
  | nameTooLong
  | notEmpty
  | tooManyLinks
  /-- A path with a NUL character cannot be handed to the system. -/
  | nulInPath
  /-- Nor can an argument with one. -/
  | nulInArgument
  /-- The file is not UTF-8. -/
  | notUtf8
deriving DecidableEq, Repr

namespace FileError

/-- The cause in words. -/
def reason : FileError → Text
  | .notPermitted => text "Operation not permitted"
  | .notFound => text "No such file or directory"
  | .noProcess => text "No such process"
  | .interrupted => text "Interrupted system call"
  | .noDevice => text "No such device or address"
  | .listTooLong => text "Argument list too long"
  | .notExecutable => text "Exec format error"
  | .badDescriptor => text "Bad file descriptor"
  | .permission => text "Permission denied"
  | .alreadyExists => text "File exists"
  | .busy => text "Device or resource busy"
  | .otherDevice => text "Invalid cross-device link"
  | .notDirectory => text "Not a directory"
  | .isDirectory => text "Is a directory"
  | .invalidArgument => text "Invalid argument"
  | .tooManyFiles => text "Too many open files"
  | .notTerminal => text "Inappropriate ioctl for device"
  | .textBusy => text "Text file busy"
  | .tooLarge => text "File too large"
  | .noSpace => text "No space left on device"
  | .illegalSeek => text "Illegal seek"
  | .brokenPipe => text "Broken pipe"
  | .nameTooLong => text "File name too long"
  | .notEmpty => text "Directory not empty"
  | .tooManyLinks => text "Too many levels of symbolic links"
  | .nulInPath => text "file name contained an unexpected NUL byte"
  | .nulInArgument => text "nul byte found in provided data"
  | .notUtf8 => text "stream did not contain valid UTF-8"

/-- The system's number for the cause, if the system was asked at all. -/
def number? : FileError → Option Nat
  | .notPermitted => some 1
  | .notFound => some 2
  | .noProcess => some 3
  | .interrupted => some 4
  | .noDevice => some 6
  | .listTooLong => some 7
  | .notExecutable => some 8
  | .badDescriptor => some 9
  | .permission => some 13
  | .alreadyExists => some 17
  | .busy => some 16
  | .otherDevice => some 18
  | .notDirectory => some 20
  | .isDirectory => some 21
  | .invalidArgument => some 22
  | .tooManyFiles => some 24
  | .notTerminal => some 25
  | .textBusy => some 26
  | .tooLarge => some 27
  | .noSpace => some 28
  | .illegalSeek => some 29
  | .brokenPipe => some 32
  | .nameTooLong => some 36
  | .notEmpty => some 39
  | .tooManyLinks => some 40
  | .nulInPath | .nulInArgument | .notUtf8 => none

/-- The wording of a refusal: the cause, and its number if it has one. -/
def message (e : FileError) : Text :=
  match e.number? with
  | some n => e.reason ++ text " (os error " ++ Text.ofNat n ++ text ")"
  | none => e.reason

end FileError

end SkipAudit
