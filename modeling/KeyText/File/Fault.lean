/-!
# Why a file cannot be read

The faults that a system tells by a number, in its wording, and a path that it is never asked about.
-/

namespace KeyText.File

/-- Why the bytes of a file cannot be had. -/
inductive Fault where
  | missing
  | denied
  /-- A name is looked up in what is no directory. -/
  | notDirectory
  /-- A directory has no bytes. -/
  | directory
  | nameTooLong
  | tooManyLinks
  /-- A path that has a zero byte in it names nothing. -/
  | zeroByte
  /-- Another reason, in the words of the system. -/
  | other (reason : String)
  deriving DecidableEq, Repr

/-- The fault with a number. -/
def Fault.ofNumber? : Nat → Option Fault
  | 2 => some missing
  | 13 => some denied
  | 20 => some notDirectory
  | 21 => some directory
  | 36 => some nameTooLong
  | 40 => some tooManyLinks
  | _ => none

/-- The wording of a fault. -/
def Fault.message : Fault → String
  | missing => "No such file or directory (os error 2)"
  | denied => "Permission denied (os error 13)"
  | notDirectory => "Not a directory (os error 20)"
  | directory => "Is a directory (os error 21)"
  | nameTooLong => "File name too long (os error 36)"
  | tooManyLinks => "Too many levels of symbolic links (os error 40)"
  | zeroByte => "file name contained an unexpected NUL byte"
  | other reason => reason

end KeyText.File
