import KeyText.Command.Exit

/-!
# The program

Reads the command line, the file it names and the clock, and writes how the run ends.
-/

namespace KeyText.Main

open Command

/-- The path of the file that a request reads, if any. -/
def fileOf? : Invocation → Option String
  | .version | .run .networks _ _ => none
  | .run (.encode a) _ _ => a.source.file?
  | .run (.decode a) _ _ => a.source.file?
  | .run (.repair a) _ _ => a.source.file?
  | .run (.address a) _ _ => a.source.file?
  | .run (.inspect a) _ _ => a.source.file?

/-- The number of an error and its details, as the system gives them. -/
def systemError : IO.Error → UInt32 × String
  | .noFileOrDirectory _ code details | .interrupted _ code details | .invalidArgument _ code details
  | .permissionDenied _ code details | .resourceExhausted _ code details | .inappropriateType _ code details
  | .noSuchThing _ code details | .alreadyExists _ code details | .otherError code details | .resourceBusy code details
  | .resourceVanished code details | .unsupportedOperation code details | .hardwareFault code details
  | .unsatisfiedConstraints code details | .illegalOperation code details | .protocolError code details
  | .timeExpired code details => (code, details)
  | .unexpectedEof => (0, "unexpected end of file")
  | .userError details => (0, details)

/-- Why a file could not be read. Some parts of the system give the number of an error with a minus sign. -/
def faultOf (error : IO.Error) : File.Fault :=
  let (code, details) := systemError error
  let number := code.toInt32.toInt.natAbs
  (File.Fault.ofNumber? number).getD (.other s!"{details} (os error {number})")

/-- The bytes of a file. -/
def readFile (path : String) : IO (Except File.Fault (List UInt8)) := do
  match ← (IO.FS.readBinFile path).toBaseIO with
  | .ok bytes => return .ok bytes.toList
  | .error error => return .error (faultOf error)

/-- Writes how a run ends and answers its exit code. -/
def finish (exit : Exit) : IO UInt32 := do
  if let some line := exit.output? then IO.println line
  if let some line := exit.error? then IO.eprintln s!"error: {line}"
  return UInt32.ofNat exit.code

end KeyText.Main

open KeyText Command in
/-- Runs the program. -/
def main (arguments : List String) : IO UInt32 := do
  match parse arguments with
  | .error error =>
    IO.eprintln s!"error: {error.message}\n\nusage: key-tool [OPTIONS] <COMMAND>"
    return 2
  | .ok invocation =>
    let content ←
      match Main.fileOf? invocation with
      | some path => Main.readFile path
      | none => pure (.error .missing)
    let begun ← IO.monoMsNow
    let exit ← invocation.perform (fun _ => content) fun _ => do return (← IO.monoMsNow) - begun
    Main.finish exit
