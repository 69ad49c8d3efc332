import KeyText.Proofs.Address

/-!
# Payloads of the networks

A payload is told to be of a kind exactly when it is one of that kind on some network of the table (`PayloadOf`), and then the
first network is named that has its version for payloads of the kind (`classify_recognises`). Payloads of different kinds differ
in their lengths, but for the two kinds of address; these differ in their versions, which no two networks of the table share
(`publicKeyVersion_ne_scriptVersion`).
-/

namespace KeyText.Address

/-- The payloads of a network, by their kinds: an address is a version and a hash, and a private key is a version and the key, with
a last byte of one when its public key is written compressed. -/
inductive PayloadOf (network : Network) : PayloadKind → List UInt8 → Prop
  | p2pkhAddress {hash : List UInt8} : hash.length = 20 →
      PayloadOf network .p2pkhAddress (network.publicKeyVersion :: hash)
  | p2shAddress {hash : List UInt8} : hash.length = 20 → PayloadOf network .p2shAddress (network.scriptVersion :: hash)
  | privateKeyUncompressed {key : List UInt8} : key.length = 32 →
      PayloadOf network .privateKeyUncompressed (network.privateKeyVersion :: key)
  | privateKeyCompressed {key : List UInt8} : key.length = 32 →
      PayloadOf network .privateKeyCompressed (network.privateKeyVersion :: (key ++ [0x01]))

/-- The version of a network for payloads of a kind. -/
def PayloadKind.version? (network : Network) : PayloadKind → Option UInt8
  | .p2pkhAddress => some network.publicKeyVersion
  | .p2shAddress => some network.scriptVersion
  | .privateKeyUncompressed | .privateKeyCompressed => some network.privateKeyVersion
  | .unknown => none

/-- The first network of the table with the same version for payloads of a kind as another network. -/
def firstAlike (kind : PayloadKind) (network : Network) : Option Network :=
  Network.table.find? fun n => kind.version? n == kind.version? network

variable {network : Network} {kind : PayloadKind} {payload : List UInt8}

/-- No version stands for hashes of public keys on one network and for hashes of scripts on another. -/
theorem publicKeyVersion_ne_scriptVersion :
    ∀ m ∈ Network.table, ∀ n ∈ Network.table, m.publicKeyVersion ≠ n.scriptVersion := by
  decide +kernel

/-- Behind a version that some network has for a kind, a look-up by that version recognises the kind. -/
theorem recognised_first {holds : Network → Bool} {error : Network.LookupError} (hmem : network ∈ Network.table)
    (hholds : holds network) : recognised kind (Network.first holds error) = (kind, Network.table.find? holds) := by
  obtain ⟨first, hfirst⟩ := Network.exists_first hmem hholds
  rw [Network.first_eq_ok_iff.mpr hfirst, hfirst, recognised]

/-- A payload of a network in the table is told to be of its kind, with the first network that has its version. -/
theorem PayloadOf.classify_eq (h : PayloadOf network kind payload) (hmem : network ∈ Network.table) :
    classify payload = (kind, firstAlike kind network) := by
  cases h with
  | p2pkhAddress hlength =>
    obtain ⟨first, hfirst⟩ := @Network.exists_first network (·.publicKeyVersion == network.publicKeyVersion) hmem (by simp)
    rw [classify_cons hlength hfirst, ← hfirst]
    rfl
  | @p2shAddress hash hlength =>
    have hlength : hash.length = hashLength := hlength
    have hother : Network.table.find? (·.publicKeyVersion == network.scriptVersion) = none := by
      rw [List.find?_eq_none]
      intro other hother
      simpa using publicKeyVersion_ne_scriptVersion other hother network hmem
    rw [classify, if_pos hlength, Network.byPublicKeyVersion, Network.first, hother]
    exact recognised_first hmem (by simp)
  | @privateKeyUncompressed key hlength =>
    have hlength : key.length = privateKeyLength := hlength
    rw [classify, if_neg (by rw [hlength]; decide), if_pos hlength]
    exact recognised_first hmem (by simp)
  | @privateKeyCompressed key hlength =>
    have hlength' : (key ++ [0x01]).length = privateKeyLength + 1 := by
      rw [List.length_append, hlength]
      rfl
    rw [classify, if_neg (by rw [hlength']; decide), if_neg (by rw [hlength']; decide),
      if_pos ⟨hlength', List.getLast?_concat⟩]
    exact recognised_first hmem (by simp)

/-- What may be told of a byte string: nothing, or that it is a payload of some kind on a network of the table, where it is one. -/
inductive Told (payload : List UInt8) : PayloadKind × Option Network → Prop
  | unknown : Told payload (.unknown, none)
  | known {kind : PayloadKind} {network : Network} : network ∈ Network.table → PayloadOf network kind payload →
      Told payload (kind, some network)

/-- A look-up by a version may tell the kind, if that is the kind of the payload on every network that has the version. -/
theorem told_recognised {holds : Network → Bool} {error : Network.LookupError}
    (h : ∀ network, holds network → PayloadOf network kind payload) :
    Told payload (recognised kind (Network.first holds error)) := by
  rw [Network.first]
  cases hfind : Network.table.find? holds with
  | none => exact .unknown
  | some network => exact .known (List.mem_of_find?_eq_some hfind) (h network (List.find?_some hfind))

/-- What is told of a byte string may be told of it: each length is that of one kind, or of the two kinds of address. -/
theorem told_classify (payload : List UInt8) : Told payload (classify payload) := by
  cases payload with
  | nil => exact .unknown
  | cons version rest =>
    rw [classify]
    split
    · rename_i hlength
      split
      · rename_i network hfirst
        have hfind := Network.first_eq_ok_iff.mp hfirst
        obtain rfl : network.publicKeyVersion = version := by simpa using List.find?_some hfind
        exact .known (List.mem_of_find?_eq_some hfind) (.p2pkhAddress hlength)
      · refine told_recognised fun network hversion => ?_
        obtain rfl : network.scriptVersion = version := by simpa using hversion
        exact .p2shAddress hlength
    · split
      · rename_i hlength
        refine told_recognised fun network hversion => ?_
        obtain rfl : network.privateKeyVersion = version := by simpa using hversion
        exact .privateKeyUncompressed hlength
      · split
        · rename_i hshape
          obtain ⟨key, rfl⟩ := List.getLast?_eq_some_iff.mp hshape.2
          have hlength : key.length = 32 := by simpa [privateKeyLength] using hshape.1
          refine told_recognised fun network hversion => ?_
          obtain rfl : network.privateKeyVersion = version := by simpa using hversion
          exact .privateKeyCompressed hlength
        · exact .unknown

/-- The payloads of the networks in the table are recognised, each with its kind and the first network that has its version for
payloads of that kind; and nothing else is. A network is told exactly where the kind is known, and then the byte string is a payload
of that kind on that network. -/
theorem classify_recognises :
    (∀ network ∈ Network.table, ∀ kind payload, PayloadOf network kind payload →
      classify payload = (kind, firstAlike kind network)) ∧
    ∀ payload, ((classify payload).2.isSome ↔ (classify payload).1 ≠ .unknown) ∧
      ∀ kind, (classify payload).1 = kind → kind ≠ .unknown →
        ∃ network ∈ Network.table, (classify payload).2 = some network ∧ PayloadOf network kind payload := by
  refine ⟨fun network hmem kind payload h => h.classify_eq hmem, fun payload => ?_⟩
  have htold := told_classify payload
  generalize classify payload = told at htold
  cases htold with
  | unknown => exact ⟨by simp, fun kind hkind hknown => absurd hkind.symm hknown⟩
  | @known kind network hmem hpayload =>
    have hknown : kind ≠ .unknown := by
      rintro rfl
      cases hpayload
    refine ⟨by simp [hknown], ?_⟩
    rintro _ rfl -
    exact ⟨network, hmem, rfl, hpayload⟩

/-- A payload of an address that pays to a script on a network, whose version two networks before it have as well; and one of a
private key of a test network. -/
theorem classify_recognises_shared_versions :
    PayloadOf ⟨"feathercoin", "fc", 14, 5⟩ .p2shAddress (5 :: List.replicate 20 0xFF) ∧
      classify (5 :: List.replicate 20 0xFF) = (.p2shAddress, some ⟨"bitcoin", "bc", 0, 5⟩) ∧
      PayloadOf ⟨"namecoin-testnet", "tn", 111, 196⟩ .privateKeyCompressed (239 :: (List.replicate 32 0x01 ++ [0x01])) ∧
      classify (239 :: (List.replicate 32 0x01 ++ [0x01])) =
        (.privateKeyCompressed, some ⟨"bitcoin-testnet", "tb", 111, 196⟩) := by
  have hscript : PayloadOf ⟨"feathercoin", "fc", 14, 5⟩ .p2shAddress (5 :: List.replicate 20 0xFF) := .p2shAddress rfl
  have hkey : PayloadOf ⟨"namecoin-testnet", "tn", 111, 196⟩ .privateKeyCompressed
      (239 :: (List.replicate 32 0x01 ++ [0x01])) := .privateKeyCompressed rfl
  have hfeathercoin : (⟨"feathercoin", "fc", 14, 5⟩ : Network) ∈ Network.table := by decide +kernel
  have hnamecoin : (⟨"namecoin-testnet", "tn", 111, 196⟩ : Network) ∈ Network.table := by decide +kernel
  refine ⟨hscript, (classify_recognises.1 _ hfeathercoin _ _ hscript).trans ?_, hkey,
    (classify_recognises.1 _ hnamecoin _ _ hkey).trans ?_⟩
  · rfl
  · rfl

end KeyText.Address
