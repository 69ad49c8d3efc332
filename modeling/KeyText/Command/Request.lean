import KeyText.Command.Error
import KeyText.Repair.Search
import KeyText.Report.Response

/-!
# The commands

Each command reads its input, does its work and answers a report, or says why it cannot. What a command needs to know comes
as a record of arguments; how these are written on the command line is no concern here. The commands are the same for any
digest functions.
-/

namespace KeyText.Command

/-- What to encode, and whether with a checksum. -/
structure EncodeArguments where
  source : Source
  format : InputFormat := .hex
  check : Bool := false
  kind : ChecksumKind := default
  deriving DecidableEq, Repr

/-- What to decode, and whether its checksum is verified. -/
structure DecodeArguments where
  source : Source
  check : Bool := false
  kind : ChecksumKind := default
  deriving DecidableEq, Repr

/-- What to repair, and how long. The time is in seconds. -/
structure RepairArguments where
  source : Source
  kind : ChecksumKind := default
  maxChanges : Nat := 1
  maxCandidates : Option Nat := none
  seconds : Option Nat := none
  deriving DecidableEq, Repr

/-- The limits that the arguments of a repair set. -/
def RepairArguments.limits (a : RepairArguments) : Repair.Limits :=
  { maxChanges := a.maxChanges, maxCandidates := a.maxCandidates, deadline := a.seconds.map (1000 * ·) }

/-- The key or hash to build an address of, and the network. -/
structure AddressArguments where
  source : Source
  network : String := "bitcoin"
  deriving DecidableEq, Repr

/-- The payload to look at. -/
structure InspectArguments where
  source : Source
  kind : ChecksumKind := default
  deriving DecidableEq, Repr

variable [Digests]

/-- Encodes bytes. -/
def encode (files : Files) (a : EncodeArguments) : Except Error Report.Encoding := do
  let bytes ← (a.source.readBytes files a.format).mapError .input
  if a.check then return ⟨Base58.encodeChecked bytes a.kind.checksum, some a.kind.name⟩
  else return ⟨Base58.encode bytes, none⟩

/-- Decodes a text with a checksum; where it does not match, the error names its kind. -/
def decodeChecked (text : String) (kind : ChecksumKind) : Except Error (List UInt8) :=
  match Base58.decodeChecked (Utf8.encode text) kind.checksum with
  | .ok payload => .ok payload
  | .error .checksumMismatch => .error (.mismatch kind)
  | .error error => .error (.codec .checked error)

/-- Decodes a text. -/
def decode (files : Files) (a : DecodeArguments) : Except Error Report.Decoding := do
  let text ← (a.source.readText files).mapError .input
  if a.check then
    let payload ← decodeChecked text a.kind
    return ⟨Hex.encode payload, payload.length, some a.kind.name⟩
  else
    let payload ← (Base58.decode (Utf8.encode text)).mapError (.codec .plain)
    return ⟨Hex.encode payload, payload.length, none⟩

/-- Repairs a text, and tells the progress that the search reported. -/
def repairWithProgress {m : Type → Type} [Monad m] (files : Files) (a : RepairArguments) (clock : Nat → m Nat) :
    m (Except Error Report.Repair × Array Repair.Progress) := do
  match a.source.readText files with
  | .error error => return (.error (.input error), #[])
  | .ok text =>
    let outcome ← Repair.search text a.kind.checksum a.limits clock
    match outcome.answer with
    | .ok repaired => return (.ok (Report.Repair.ofRepaired repaired), outcome.reports)
    | .error failure => return (.error (.repair failure), outcome.reports)

/-- Repairs a text. -/
def repair {m : Type → Type} [Monad m] (files : Files) (a : RepairArguments) (clock : Nat → m Nat) :
    m (Except Error Report.Repair) :=
  Prod.fst <$> repairWithProgress files a clock

/-- Builds the address for the hash of a public key or for the key itself, whichever the length tells. -/
def address (files : Files) (a : AddressArguments) : Except Error Report.AddressBuilt := do
  let network ← (Network.byName a.network).mapError .network
  let bytes ← (a.source.readBytes files .hex).mapError .input
  if bytes.length = Address.hashLength then
    let address ← (Address.ofHash160 bytes network.publicKeyVersion).mapError .address
    return ⟨network.name, none, Hex.encode bytes, address⟩
  else
    let address ← (Address.ofPublicKey bytes network).mapError .address
    return ⟨network.name, some (Hex.encode (Digests.sha256 bytes).toList), Hex.encode (Address.hash160 bytes).toList, address⟩

/-- Says what a payload is. -/
def inspect (files : Files) (a : InspectArguments) : Except Error Report.Inspection := do
  let text ← (a.source.readText files).mapError .input
  return Report.Inspection.ofPayload (← decodeChecked text a.kind)

/-- A command with its arguments. -/
inductive Request where
  | encode (a : EncodeArguments)
  | decode (a : DecodeArguments)
  | repair (a : RepairArguments)
  | address (a : AddressArguments)
  | inspect (a : InspectArguments)
  | networks
  deriving DecidableEq, Repr

/-- The record that a command answers. -/
def Request.answer {m : Type → Type} [Monad m] (files : Files) (clock : Nat → m Nat) :
    Request → m (Except Error Report.Value)
  | .encode a => pure ((Command.encode files a).map (·.value))
  | .decode a => pure ((Command.decode files a).map (·.value))
  | .repair a => return (← Command.repair files a clock).map (·.value)
  | .address a => pure ((Command.address files a).map (·.value))
  | .inspect a => pure ((Command.inspect files a).map (·.value))
  | .networks => pure (.ok Report.networksValue)

end KeyText.Command
