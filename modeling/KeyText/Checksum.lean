import KeyText.Text.Quoted

/-!
# Checksums

A checksum strategy is any function from payloads to digests of 32 bytes; what is appended to a payload is the first four of
them. Three strategies have names, by which settings and messages speak of them. They are made of digest functions that are
given from outside; only the lengths of their results are fixed here.
-/

namespace KeyText

/-- The digest functions of which checksums and addresses are made. -/
class Digests where
  sha256 : List UInt8 → Vector UInt8 32
  keccak256 : List UInt8 → Vector UInt8 32
  ripemd160 : List UInt8 → Vector UInt8 20

/-- A strategy: the digest of a payload. -/
structure Checksum where
  digest : List UInt8 → Vector UInt8 32

namespace Checksum

/-- How many bytes of a digest are appended to a payload. -/
def size : Nat := 4

/-- The bytes that are appended to a payload. -/
def suffix (checksum : Checksum) (payload : List UInt8) : List UInt8 :=
  (checksum.digest payload).toList.take size

/-- A payload followed by its checksum. -/
def append (checksum : Checksum) (payload : List UInt8) : List UInt8 :=
  payload ++ checksum.suffix payload

@[simp] theorem length_suffix (checksum : Checksum) (payload : List UInt8) : (checksum.suffix payload).length = size := by
  simp [suffix, size]

end Checksum

/-- The strategies that have names. -/
inductive ChecksumKind where
  /-- SHA-256 of SHA-256, used by Bitcoin and its relatives. -/
  | doubleSha256
  /-- SHA-256 once. -/
  | sha256
  /-- Keccak-256 with the padding it had before it became SHA-3, used by Ethereum. -/
  | keccak256
  deriving DecidableEq, Repr

namespace ChecksumKind

/-- The strategy that is used when none is chosen. -/
instance : Inhabited ChecksumKind := ⟨doubleSha256⟩

/-- All kinds, in the order in which messages list them. -/
def all : List ChecksumKind := [doubleSha256, sha256, keccak256]

/-- The name of a kind. -/
def name : ChecksumKind → String
  | doubleSha256 => "double-sha256"
  | sha256 => "sha256"
  | keccak256 => "keccak256"

/-- The strategy of a kind. -/
def checksum [Digests] : ChecksumKind → Checksum
  | doubleSha256 => ⟨fun payload => Digests.sha256 (Digests.sha256 payload).toList⟩
  | sha256 => ⟨Digests.sha256⟩
  | keccak256 => ⟨Digests.keccak256⟩

/-- The kind with a name, in any mix of ASCII cases. -/
def ofName? (text : String) : Option ChecksumKind :=
  all.find? fun kind => kind.name.toLower == text.toLower

/-- The message for a name that no kind has. -/
def unknownMessage (text : String) : String :=
  s!"unknown checksum {Quoted.text text} (expected double-sha256, sha256 or keccak256)"

end ChecksumKind

end KeyText
