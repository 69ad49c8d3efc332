import KeyText.Address
import KeyText.Command.Input
import KeyText.Repair.Answer

/-!
# Errors of commands

Why a command has no answer. An error keeps its causes, one inside the other; they are worded only when they are written,
from the outermost inward.
-/

namespace KeyText.Command

/-- What was being decoded when an error arose. -/
inductive Decoded where
  | plain
  | checked
  deriving DecidableEq, Repr

/-- How a message calls what was being decoded. -/
def Decoded.name : Decoded → String
  | .plain => "Base58"
  | .checked => "Base58Check"

/-- Why a command has no answer. -/
inductive Error where
  | input (error : InputError)
  | network (error : Network.LookupError)
  | address (error : Address.Error)
  /-- A text that is not Base58. -/
  | codec (decoded : Decoded) (error : Base58.CodecError)
  /-- A checksum of some kind that does not match. -/
  | mismatch (kind : ChecksumKind)
  /-- A search without a result. -/
  | repair (failure : Repair.Failure)

/-- The advice that comes with a checksum that does not match. -/
def mismatchHint : String :=
  "the input may contain a typo; `key-tool repair` can search for substituted characters " ++
    "(slow for many changes, and a match may be a false positive)"

/-- The causes of an error, from the outermost inward. -/
def Error.causes : Error → List String
  | .input error => error.causes
  | .network error => [error.message]
  | .address error => [error.message]
  | .codec decoded error => [s!"failed to decode {decoded.name} input", error.message]
  | .mismatch kind =>
    [s!"{Base58.CodecError.checksumMismatch.message} ({kind.name} checksum)\nhint: {mismatchHint}"]
  | .repair failure => ["repair failed", failure.message]

end KeyText.Command
