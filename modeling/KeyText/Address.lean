import KeyText.Base58.Codec
import KeyText.Bytes.Hex
import KeyText.Network

/-!
# Addresses

An address that pays to a public key is the Base58Check text of a version byte and the 20-byte hash of the key. The other way
round, the length and the version of a payload tell what it is: an address of one of two kinds, or a private key, with a
last byte of one when its public key is written compressed.
-/

namespace KeyText.Address

/-- The length of a hash that an address holds. -/
def hashLength : Nat := 20

/-- The length of a private key. -/
def privateKeyLength : Nat := 32

/-- The hash of a public key or a script: RIPEMD-160 of SHA-256. -/
def hash160 [Digests] (bytes : List UInt8) : Vector UInt8 20 :=
  Digests.ripemd160 (Digests.sha256 bytes).toList

/-- Why no address can be built. -/
inductive Error where
  /-- Bytes that have not the shape of a public key: their number, and the first of them. -/
  | invalidPublicKey (length : Nat) (first? : Option UInt8)
  /-- A hash of a wrong length. -/
  | wrongHashLength (length : Nat)
  deriving DecidableEq, Repr

/-- The wording of an error. -/
def Error.message : Error → String
  | .invalidPublicKey length first? =>
    let first :=
      match first? with
      | some b => s!"Some({Quoted.text (Hex.encode [b])})"
      | none => "None"
    s!"invalid public key: {length} bytes with prefix {first} (expected 33 bytes 02/03 or 65 bytes 04)"
  | .wrongHashLength length => s!"hash160 must be {hashLength} bytes, got {length}"

/-- Checks the shape of a public key: 33 bytes that begin with two or three, or 65 that begin with four. -/
def validatePublicKey (key : List UInt8) : Except Error Unit :=
  if key.length = 33 ∧ (key.head? = some 0x02 ∨ key.head? = some 0x03) ∨ key.length = 65 ∧ key.head? = some 0x04 then .ok ()
  else .error (.invalidPublicKey key.length key.head?)

/-- The address for a hash of 20 bytes under a version. -/
def ofHash160 [Digests] (hash : List UInt8) (version : UInt8) : Except Error String :=
  if hash.length = hashLength then .ok (Base58.encodeChecked (version :: hash) ChecksumKind.doubleSha256.checksum)
  else .error (.wrongHashLength hash.length)

/-- The address that pays to a public key on a network. -/
def ofPublicKey [Digests] (key : List UInt8) (network : Network) : Except Error String :=
  match validatePublicKey key with
  | .ok () => ofHash160 (hash160 key).toList network.publicKeyVersion
  | .error e => .error e

/-- What a payload is. -/
inductive PayloadKind where
  | p2pkhAddress
  | p2shAddress
  | privateKeyUncompressed
  | privateKeyCompressed
  | unknown
  deriving DecidableEq, Repr

/-- The name of a kind. -/
def PayloadKind.name : PayloadKind → String
  | p2pkhAddress => "p2pkh-address"
  | p2shAddress => "p2sh-address"
  | privateKeyUncompressed => "private-key-uncompressed"
  | privateKeyCompressed => "private-key-compressed"
  | unknown => "unknown"

/-- A kind with the network that a look-up found, or nothing known. -/
def recognised (kind : PayloadKind) : Except Network.LookupError Network → PayloadKind × Option Network
  | .ok network => (kind, some network)
  | .error _ => (.unknown, none)

/-- What a payload is and on which network, by its length and its version. A version that stands for hashes of public keys on
one network and of scripts on another is taken for the former. -/
def classify : List UInt8 → PayloadKind × Option Network
  | [] => (.unknown, none)
  | version :: rest =>
    if rest.length = hashLength then
      match Network.byPublicKeyVersion version with
      | .ok network => (.p2pkhAddress, some network)
      | .error _ => recognised .p2shAddress (Network.byScriptVersion version)
    else if rest.length = privateKeyLength then
      recognised .privateKeyUncompressed (Network.byPrivateKeyVersion version)
    else if rest.length = privateKeyLength + 1 ∧ rest.getLast? = some 0x01 then
      recognised .privateKeyCompressed (Network.byPrivateKeyVersion version)
    else (.unknown, none)

end KeyText.Address
