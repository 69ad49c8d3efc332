import KeyText.Address
import KeyText.Report.Value
import KeyText.Repair.Answer

/-!
# What the commands answer

For each command, the fields of its answer and the record that is written of them. A field that an answer lacks is left out.
-/

namespace KeyText.Report

/-- A field that may be missing. -/
def optional (key : String) (value? : Option String) : List (String × Value) :=
  value?.toList.map fun s => (key, .text s)

/-- Bytes as Base58, and the checksum they carry, if any. -/
structure Encoding where
  encoded : String
  checksum? : Option String := none
  deriving DecidableEq, Repr

/-- The record of an encoding. -/
def Encoding.value (r : Encoding) : Value :=
  .record ([("encoded", .text r.encoded)] ++ optional "checksum" r.checksum?)

/-- Base58 as bytes in hexadecimal, their number, and the checksum that was verified, if any. -/
structure Decoding where
  payload : String
  length : Nat
  checksum? : Option String := none
  deriving DecidableEq, Repr

/-- The record of a decoding. -/
def Decoding.value (r : Decoding) : Value :=
  .record ([("payload", .text r.payload), ("length", .int r.length)] ++ optional "checksum" r.checksum?)

/-- A repaired text. The three texts come first, so that they stand under one another. -/
structure Repair where
  given : String
  fixed : String
  diff : String
  payload : String
  changes : Nat
  tried : Nat
  falsePositives : Float

/-- What is reported of a search that found a candidate. -/
def Repair.ofRepaired (r : KeyText.Repair.Repaired) : Repair :=
  { given := r.given
    fixed := r.fixed
    diff := r.diff
    payload := Hex.encode r.payload
    changes := r.changes
    tried := r.tried
    falsePositives := r.falsePositives }

/-- The record of a repair. -/
def Repair.value (r : Repair) : Value :=
  .record
    [("original", .text r.given), ("fixed", .text r.fixed), ("diff", .text r.diff), ("payload", .text r.payload),
      ("changes", .int r.changes), ("candidates_tried", .int r.tried),
      ("false_positive_probability", .ofFloat r.falsePositives)]

/-- An address, with the hashes that lead to it; the first of them is missing when the second was given. -/
structure AddressBuilt where
  network : String
  sha256? : Option String := none
  hash160 : String
  address : String
  deriving DecidableEq, Repr

/-- The record of an address. -/
def AddressBuilt.value (r : AddressBuilt) : Value :=
  .record ([("network", .text r.network)] ++ optional "sha256" r.sha256? ++
    [("hash160", .text r.hash160), ("address", .text r.address)])

/-- What a payload is. -/
structure Inspection where
  kind : Address.PayloadKind
  version? : Option UInt8
  network? : Option String
  payloadLength : Nat
  payload : String
  deriving DecidableEq, Repr

/-- What is reported of a payload. -/
def Inspection.ofPayload (payload : List UInt8) : Inspection :=
  let (kind, network?) := Address.classify payload
  { kind
    version? := payload.head?
    network? := network?.map (·.name)
    payloadLength := payload.length
    payload := Hex.encode payload }

/-- The record of an inspection. An empty payload has no version, which is null. -/
def Inspection.value (r : Inspection) : Value :=
  let version : Value :=
    match r.version? with
    | some v => .int v.toNat
    | none => .null
  .record ([("kind", .text r.kind.name), ("version", version)] ++ optional "network" r.network? ++
    [("payload_length", .int r.payloadLength), ("payload", .text r.payload)])

/-- The record of a network. -/
def networkValue (n : Network) : Value :=
  .record
    [("name", .text n.name), ("hrp", .text n.hrp), ("public_key_prefix", .int n.publicKeyVersion.toNat),
      ("script_prefix", .int n.scriptVersion.toNat), ("private_key_prefix", .int n.privateKeyVersion.toNat)]

/-- The list of all networks. -/
def networksValue : Value :=
  .list (Network.table.map networkValue)

end KeyText.Report
