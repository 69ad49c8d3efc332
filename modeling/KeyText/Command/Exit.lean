import KeyText.Command.Arguments
import KeyText.Command.LogFilter
import KeyText.Digest.Published

/-!
# How a run ends

An answer goes to the standard output. An error goes to the standard error as text, or, where answers are JSON, to the
standard output as JSON. Either is one line.
-/

namespace KeyText.Command

/-- How a run ends: its exit code, and the lines on the standard output and on the standard error, if any. -/
structure Exit where
  code : Nat
  output? : Option String := none
  error? : Option String := none
  deriving DecidableEq, Repr

/-- Causes as one text, from the outermost inward. -/
def joined (causes : List String) : String :=
  String.intercalate ": " causes

/-- The name and the version of the program. -/
def versionLine : String :=
  "key-tool 0.1.0"

/-- How a run ends whose log filter has a fault. The report is text even where answers are JSON. A severed character breaks
the run off without a report. -/
def Exit.ofLogFault (filter : String) (fault : LogFilter.Fault) : Exit :=
  match fault with
  | .severed => { code := 101 }
  | fault => { code := 1, error? := joined (fault.causes filter) }

/-- Does what a command line asks for, with the published digests. A filter with a fault ends the run before its request. -/
def Invocation.perform {m : Type → Type} [Monad m] (files : Files) (clock : Nat → m Nat) : Invocation → m Exit
  | .version => pure { code := 0, output? := versionLine }
  | .run request json logFilter? => do
    if let some filter := logFilter? then
      if let .error fault := LogFilter.check filter then return Exit.ofLogFault filter fault
    match ← request.answer files clock with
    | .ok value => return { code := 0, output? := Report.render json value }
    | .error error =>
      if json then return { code := 1, output? := Report.errorJson error.causes }
      else return { code := 1, error? := joined error.causes }

end KeyText.Command
