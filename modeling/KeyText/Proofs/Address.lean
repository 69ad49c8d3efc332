import KeyText.Address
import KeyText.Proofs.Base58.Texts
import KeyText.Proofs.Network

/-!
# Addresses and their payloads

The bytes that count as a public key have one of two shapes (`PublicKeyShape`). Whatever the digest functions are, an address
is the text of its version and its hash, so it tells both of them (`ofHash160_inj`), and its payload is seen to be that of an
address (`classify_cons`).
-/

namespace KeyText.Address

/-- The shapes of a public key. -/
inductive PublicKeyShape : List UInt8 → Prop
  /-- One coordinate, behind a byte that says which of two points has it. -/
  | compressed (first : UInt8) (coordinate : List UInt8) :
      first = 0x02 ∨ first = 0x03 → coordinate.length = 32 → PublicKeyShape (first :: coordinate)
  /-- Both coordinates. -/
  | uncompressed (coordinates : List UInt8) : coordinates.length = 64 → PublicKeyShape (0x04 :: coordinates)

/-- The check lets the bytes pass that have one of the shapes, and reports all others by their length and their first byte. -/
theorem validatePublicKey_eq_ok_iff {key : List UInt8} : validatePublicKey key = .ok () ↔ PublicKeyShape key := by
  unfold validatePublicKey
  constructor
  · intro h
    split at h
    · rename_i hshape
      rcases key with _ | ⟨first, rest⟩
      · simp at hshape
      · simp only [List.length_cons, List.head?_cons, Option.some.injEq] at hshape
        rcases hshape with ⟨hlength, hfirst⟩ | ⟨hlength, rfl⟩
        · exact .compressed first rest hfirst (by omega)
        · exact .uncompressed rest (by omega)
    · cases h
  · rintro (⟨first, coordinate, hfirst, hlength⟩ | ⟨coordinates, hlength⟩)
    · rw [if_pos]
      exact Or.inl ⟨by rw [List.length_cons, hlength], by simpa using hfirst⟩
    · rw [if_pos]
      exact Or.inr ⟨by rw [List.length_cons, hlength], rfl⟩

theorem validatePublicKey_eq_error {key : List UInt8} (h : ¬PublicKeyShape key) :
    validatePublicKey key = .error (.invalidPublicKey key.length key.head?) := by
  rw [← validatePublicKey_eq_ok_iff] at h
  unfold validatePublicKey at h ⊢
  split at h
  · exact absurd rfl h
  · rename_i hshape
    rw [if_neg hshape]

/-- A key has not the length of a hash. -/
theorem PublicKeyShape.length_ne {key : List UInt8} (h : PublicKeyShape key) : key.length ≠ hashLength := by
  cases h with
  | compressed first coordinate hfirst hlength => simp [hlength, hashLength]
  | uncompressed coordinates hlength => simp [hlength, hashLength]

section

variable [Digests]

/-- The hash of a public key is as long as an address needs it. -/
theorem length_hash160 (key : List UInt8) : (hash160 key).toList.length = hashLength := by
  simp [hashLength]

/-- An address is the text of a version and a hash of 20 bytes. -/
theorem ofHash160_eq_ok_iff {hash : List UInt8} {version : UInt8} {text : String} :
    ofHash160 hash version = .ok text ↔ hash.length = hashLength ∧
      Base58.encodeChecked (version :: hash) ChecksumKind.doubleSha256.checksum = text := by
  unfold ofHash160
  split
  · rename_i h
    simp [h]
  · rename_i h
    simp [h]

/-- A hash of 20 bytes has an address under every version. -/
theorem ofHash160_of_length {hash : List UInt8} (version : UInt8) (h : hash.length = hashLength) :
    ofHash160 hash version = .ok (Base58.encodeChecked (version :: hash) ChecksumKind.doubleSha256.checksum) :=
  ofHash160_eq_ok_iff.mpr ⟨h, rfl⟩

/-- The address that pays to a public key is that for its hash. -/
theorem ofPublicKey_eq_ok_iff {key : List UInt8} {network : Network} {text : String} :
    ofPublicKey key network = .ok text ↔
      PublicKeyShape key ∧ ofHash160 (hash160 key).toList network.publicKeyVersion = .ok text := by
  by_cases hshape : PublicKeyShape key
  · simp [ofPublicKey, validatePublicKey_eq_ok_iff.mpr hshape, hshape]
  · simp [ofPublicKey, validatePublicKey_eq_error hshape, hshape]

/-- Addresses of different versions or hashes differ. -/
theorem ofHash160_inj {hash hash' : List UInt8} {version version' : UInt8} {text : String}
    (h : ofHash160 hash version = .ok text) (h' : ofHash160 hash' version' = .ok text) : version = version' ∧ hash = hash' := by
  obtain ⟨-, rfl⟩ := ofHash160_eq_ok_iff.mp h
  obtain ⟨-, htext⟩ := ofHash160_eq_ok_iff.mp h'
  obtain ⟨rfl, rfl⟩ := List.cons.inj (Base58.encodeChecked_inj.mp htext)
  exact ⟨rfl, rfl⟩

end

/-- A version that some network has for public keys, and a hash, are seen as an address on the first such network. -/
theorem classify_cons {hash : List UInt8} {version : UInt8} {network : Network} (hlength : hash.length = hashLength)
    (hfirst : Network.table.find? (·.publicKeyVersion == version) = some network) :
    classify (version :: hash) = (.p2pkhAddress, some network) := by
  have hversion : Network.byPublicKeyVersion version = .ok network := Network.first_eq_ok_iff.mpr hfirst
  simp [classify, hlength, hversion]

end KeyText.Address
