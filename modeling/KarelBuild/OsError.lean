import KarelBuild.Text

/-!
# Refusals of the operating system

Each refusal has a wording and a number. A name with a NUL character never reaches the system and
has no number.
-/

namespace KarelBuild

inductive OsError where
  | notPermitted
  | noEntry
  | noDevice
  | notExecutable
  | badDescriptor
  | permission
  | busy
  | alreadyThere
  | notDirectory
  | isDirectory
  | invalid
  | nameTooLong
  | noSpace
  | notEmpty
  | tooManyLinks
  | tooManyFiles
  | argumentsTooLong
  | brokenPipe
  | tooLarge
  | nulInName
  | nulInArgument
  deriving DecidableEq, Repr

namespace OsError

def wording : OsError → String
  | notPermitted => "Operation not permitted"
  | noEntry => "No such file or directory"
  | noDevice => "No such device or address"
  | notExecutable => "Exec format error"
  | badDescriptor => "Bad file descriptor"
  | permission => "Permission denied"
  | busy => "Device or resource busy"
  | alreadyThere => "File exists"
  | notDirectory => "Not a directory"
  | isDirectory => "Is a directory"
  | invalid => "Invalid argument"
  | nameTooLong => "File name too long"
  | noSpace => "No space left on device"
  | notEmpty => "Directory not empty"
  | tooManyLinks => "Too many levels of symbolic links"
  | tooManyFiles => "Too many open files"
  | argumentsTooLong => "Argument list too long"
  | brokenPipe => "Broken pipe"
  | tooLarge => "File too large"
  | nulInName => "file name contained an unexpected NUL byte"
  | nulInArgument => "nul byte found in provided data"

def number? : OsError → Option Nat
  | notPermitted => some 1
  | noEntry => some 2
  | noDevice => some 6
  | argumentsTooLong => some 7
  | notExecutable => some 8
  | badDescriptor => some 9
  | permission => some 13
  | busy => some 16
  | alreadyThere => some 17
  | notDirectory => some 20
  | isDirectory => some 21
  | invalid => some 22
  | tooManyFiles => some 24
  | tooLarge => some 27
  | noSpace => some 28
  | brokenPipe => some 32
  | nameTooLong => some 36
  | notEmpty => some 39
  | tooManyLinks => some 40
  | nulInName => none
  | nulInArgument => none

def message (e : OsError) : Text :=
  match e.number? with
  | some n => e.wording.toList ++ " (os error ".toList ++ Text.ofNat n ++ ")".toList
  | none => e.wording.toList

end OsError

end KarelBuild
