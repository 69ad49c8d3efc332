import KeyText.Command.Request
import KeyText.Proofs.Address
import KeyText.Proofs.Command.Input

/-!
# What the commands answer

For each command, which answers there are for which input. Encoding answers with the text that a byte string is written as,
and decoding succeeds on exactly those inputs that are such a text, apart from white space around it (`encode_eq_ok_iff`,
`decode_eq_ok_iff`). An address is built of a public key or of its hash (`Builds`); given neither, the command reports the
bytes as what should have been a public key (`address_eq_ok_iff`, `address_eq_error`). A payload is looked at by way of its text
(`inspect_eq_ok_iff`). All of this holds for any digest functions.
-/

namespace KeyText.Command

/-- What is told of a version that some network has for public keys, and of a hash behind it. -/
theorem ofPayload_cons {hash : List UInt8} {version : UInt8} {network : Network} (hlength : hash.length = Address.hashLength)
    (hfirst : Network.table.find? (·.publicKeyVersion == version) = some network) :
    Report.Inspection.ofPayload (version :: hash) =
      ⟨.p2pkhAddress, some version, some network.name, 21, Hex.encode (version :: hash)⟩ := by
  simp [Report.Inspection.ofPayload, Address.classify_cons hlength hfirst, hlength, Address.hashLength]

variable [Digests] {files : Files} {check : Bool} {kind : ChecksumKind} {bytes : List UInt8}

/-! ## Encoding and decoding -/

/-- The text of a byte string, with a checksum of a kind or without. -/
def written (check : Bool) (kind : ChecksumKind) (bytes : List UInt8) : String :=
  if check then Base58.encodeChecked bytes kind.checksum else Base58.encode bytes

/-- The checksum that an answer names, if it carries one. -/
def named (check : Bool) (kind : ChecksumKind) : Option String :=
  if check then some kind.name else none

/-- The text of a byte string holds no white space. -/
theorem not_isBlank_of_mem_written : ∀ c ∈ (written check kind bytes).toList, ¬isBlank c := by
  intro c hc
  unfold written at hc
  split at hc
  · exact Base58.not_isBlank_of_mem_encode hc
  · exact Base58.not_isBlank_of_mem_encode hc

/-- A text has a payload under a checksum exactly when it is the text of that payload. -/
theorem decodeChecked_eq_ok_iff {text : String} :
    decodeChecked text kind = .ok bytes ↔ Base58.encodeChecked bytes kind.checksum = text := by
  rw [← Base58.decodeChecked_utf8_eq_ok_iff]
  unfold decodeChecked
  split
  · rename_i payload h
    simp [h]
  · rename_i h
    simp [h]
  · rename_i h
    simp [h]

/-- The answers of encoding. -/
theorem encode_eq_ok_iff {a : EncodeArguments} {r : Report.Encoding} :
    encode files a = .ok r ↔
      ∃ bytes, a.source.readBytes files a.format = .ok bytes ∧ ⟨written a.check a.kind bytes, named a.check a.kind⟩ = r := by
  simp only [encode, bind_eq_ok, mapError_eq_ok]
  refine exists_congr fun bytes => and_congr_right fun _ => ?_
  cases a.check <;> simp [written, named]

/-- The answers of decoding. -/
theorem decode_eq_ok_iff {a : DecodeArguments} {r : Report.Decoding} :
    decode files a = .ok r ↔
      ∃ bytes, a.source.readText files = .ok (written a.check a.kind bytes) ∧
        ⟨Hex.encode bytes, bytes.length, named a.check a.kind⟩ = r := by
  obtain ⟨source, check, kind⟩ := a
  cases check
  all_goals
    simp only [decode, bind_eq_ok, mapError_eq_ok, pure_eq_ok, if_true, if_false, Bool.false_eq_true,
      Base58.decode_utf8_eq_ok_iff, decodeChecked_eq_ok_iff]
    exact exists_and_exists_eq

/-- The answers of looking at a payload. -/
theorem inspect_eq_ok_iff {a : InspectArguments} {r : Report.Inspection} :
    inspect files a = .ok r ↔
      ∃ payload, a.source.readText files = .ok (Base58.encodeChecked payload a.kind.checksum) ∧
        Report.Inspection.ofPayload payload = r := by
  simp only [inspect, bind_eq_ok, mapError_eq_ok, pure_eq_ok, decodeChecked_eq_ok_iff]
  exact exists_and_exists_eq

/-- Of an input that is the text of a payload, the answer tells that payload. -/
theorem Source.Holds.inspect_eq {source : Source} {payload : List UInt8}
    (h : source.Holds files (Base58.encodeChecked payload kind.checksum)) :
    inspect files { source, kind } = .ok (Report.Inspection.ofPayload payload) :=
  inspect_eq_ok_iff.mpr ⟨payload, h.readText_eq (Pads.refl _) fun _ => Base58.not_isBlank_of_mem_encode, rfl⟩

/-! ## Building addresses -/

/-- What is built on a network, of a hash as it is, and of a public key by way of its hash. -/
inductive Builds (network : Network) : List UInt8 → Report.AddressBuilt → Prop
  | hash {hash : List UInt8} {text : String} : Address.ofHash160 hash network.publicKeyVersion = .ok text →
      Builds network hash ⟨network.name, none, Hex.encode hash, text⟩
  | key {key : List UInt8} {text : String} : Address.PublicKeyShape key →
      Address.ofHash160 (Address.hash160 key).toList network.publicKeyVersion = .ok text →
      Builds network key
        ⟨network.name, some (Hex.encode (Digests.sha256 key).toList), Hex.encode (Address.hash160 key).toList, text⟩

/-- The answers of building an address. -/
theorem address_eq_ok_iff {a : AddressArguments} {r : Report.AddressBuilt} :
    address files a = .ok r ↔ ∃ network ∈ Network.table, network.name.toLower = a.network.toLower ∧
      ∃ bytes, a.source.readBytes files .hex = .ok bytes ∧ Builds network bytes r := by
  simp only [address, bind_eq_ok, mapError_eq_ok, Network.byName_eq_ok_iff, and_assoc]
  refine exists_congr fun network => and_congr_right fun _ => and_congr_right fun _ => ?_
  refine exists_congr fun bytes => and_congr_right fun _ => ?_
  split
  · rename_i hlength
    simp only [bind_eq_ok, mapError_eq_ok, pure_eq_ok]
    constructor
    · rintro ⟨text, htext, rfl⟩
      exact .hash htext
    · rintro (htext | ⟨hshape, -⟩)
      · exact ⟨_, htext, rfl⟩
      · exact absurd hlength hshape.length_ne
  · rename_i hlength
    simp only [bind_eq_ok, mapError_eq_ok, pure_eq_ok, Address.ofPublicKey_eq_ok_iff]
    constructor
    · rintro ⟨text, ⟨hshape, htext⟩, rfl⟩
      exact .key hshape htext
    · rintro (htext | ⟨hshape, htext⟩)
      · exact absurd (Address.ofHash160_eq_ok_iff.mp htext).1 hlength
      · exact ⟨_, ⟨hshape, htext⟩, rfl⟩

/-- Bytes that are neither a hash nor a public key are reported as what should have been a public key. -/
theorem address_eq_error {a : AddressArguments} {network : Network} {bytes : List UInt8} (hnetwork : network ∈ Network.table)
    (hname : network.name.toLower = a.network.toLower) (hread : a.source.readBytes files .hex = .ok bytes)
    (hlength : bytes.length ≠ Address.hashLength) (hshape : ¬Address.PublicKeyShape bytes) :
    address files a = .error (.address (.invalidPublicKey bytes.length bytes.head?)) := by
  have hlookup : Network.byName a.network = .ok network := Network.byName_eq_ok_iff.mpr ⟨hnetwork, hname⟩
  simp [address, hlookup, hread, hlength, Address.ofPublicKey, Address.validatePublicKey_eq_error hshape, bind, Except.bind]

end KeyText.Command
