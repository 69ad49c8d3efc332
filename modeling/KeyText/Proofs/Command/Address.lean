import KeyText.Digest.Published
import KeyText.Proofs.Command.Answers

/-!
# Building addresses and looking at them

A public key and its hash lead to the same address, for any digest functions. Of an address that was built, looking at it tells
the version and the hash again; versions are shared, so the network that is named is the first one with that version.
-/

namespace KeyText.Command

/-- Whatever functions the digests are, with results of 32 and 20 bytes. On every network, by its name in any mix of cases: a
public key has an address, and so has its hash, with the same answer except for the SHA-256 of the key. An address of any hash
of 20 bytes is looked at as one that pays to a public key, with the version of the network and the hash as its payload, on the
first network with that version. Other bytes are an error. And no two pairs of a version and a hash have the same address. -/
theorem address_paths_agree [Digests] :
    (∀ network ∈ Network.table, ∀ name : String, network.name.toLower = name.toLower →
      (∀ files source key, Source.readBytes files source .hex = .ok key → Address.PublicKeyShape key →
        ∃ r, address files { source, network := name } = .ok r ∧ r.network = network.name ∧
          r.sha256? = some (Hex.encode (Digests.sha256 key).toList) ∧ r.hash160 = Hex.encode (Address.hash160 key).toList ∧
          ∀ files' source', Source.readBytes files' source' .hex = .ok (Address.hash160 key).toList →
            address files' { source := source', network := name } = .ok { r with sha256? := none }) ∧
      (∀ files source hash, Source.readBytes files source .hex = .ok hash → hash.length = 20 →
        ∃ r first, address files { source, network := name } = .ok r ∧
          Address.ofHash160 hash network.publicKeyVersion = .ok r.address ∧
          Network.table.find? (·.publicKeyVersion == network.publicKeyVersion) = some first ∧
          ∀ files' source', Source.Holds files' source' r.address →
            inspect files' { source := source', kind := .doubleSha256 } =
              .ok ⟨.p2pkhAddress, some network.publicKeyVersion, some first.name, 21,
                Hex.encode (network.publicKeyVersion :: hash)⟩) ∧
      ∀ files source bytes, Source.readBytes files source .hex = .ok bytes → bytes.length ≠ 20 →
        ¬Address.PublicKeyShape bytes →
          address files { source, network := name } = .error (.address (.invalidPublicKey bytes.length bytes.head?))) ∧
    ∀ version version' hash hash' text, Address.ofHash160 hash version = .ok text →
      Address.ofHash160 hash' version' = .ok text → version = version' ∧ hash = hash' := by
  refine ⟨fun network hnetwork name hname => ⟨?_, ?_, ?_⟩, ?_⟩
  · intro files source key hread hshape
    have htext := Address.ofHash160_of_length network.publicKeyVersion (Address.length_hash160 key)
    refine ⟨_, address_eq_ok_iff.mpr ⟨network, hnetwork, hname, key, hread, .key hshape htext⟩, rfl, rfl, rfl, ?_⟩
    intro files' source' hread'
    exact address_eq_ok_iff.mpr ⟨network, hnetwork, hname, _, hread', .hash htext⟩
  · intro files source hash hread hlength
    have htext := Address.ofHash160_of_length network.publicKeyVersion hlength
    obtain ⟨first, hfirst⟩ := @Network.exists_first network (·.publicKeyVersion == network.publicKeyVersion) hnetwork (by simp)
    refine ⟨_, first, address_eq_ok_iff.mpr ⟨network, hnetwork, hname, hash, hread, .hash htext⟩, htext, hfirst, ?_⟩
    intro files' source' hholds
    exact hholds.inspect_eq.trans (congrArg _ (ofPayload_cons hlength hfirst))
  · intro files source bytes hread hlength hshape
    exact address_eq_error hnetwork hname hread hlength hshape
  · intro version version' hash hash' text h h'
    exact Address.ofHash160_inj h h'

/-- A public key and its hash, on a network whose name is written in capitals. An address of twenty zero bytes on a test network,
which is told to be on the first test network with that version. A byte that is no public key. -/
theorem address_paths_agree_litecoin :
    (∃ r, address (fun _ => .ok [])
        { source := { value? := some "0x021111111111111111111111111111111111111111111111111111111111111111" },
          network := "LITECOIN" } = .ok r ∧
      r.network = "litecoin" ∧
      address (fun _ => .ok []) { source := { value? := some r.hash160 }, network := "LITECOIN" } =
        .ok { r with sha256? := none }) ∧
    (∃ r, address (fun _ => .ok [])
        { source := { value? := some "0000000000000000000000000000000000000000" }, network := "Litecoin-Testnet" } = .ok r ∧
      inspect (fun _ => .ok []) { source := { value? := some r.address } } =
        .ok ⟨.p2pkhAddress, some 111, some "bitcoin-testnet", 21, "6f0000000000000000000000000000000000000000"⟩) ∧
    address (fun _ => .ok []) { source := { value? := some "04" } } =
      .error (.address (.invalidPublicKey 1 (some 0x04))) := by
  have hlitecoin : (⟨"litecoin", "ltc", 48, 5⟩ : Network) ∈ Network.table := by decide +kernel
  have htestnet : (⟨"litecoin-testnet", "tltc", 111, 196⟩ : Network) ∈ Network.table := by decide +kernel
  have hbitcoin : (⟨"bitcoin", "bc", 0, 5⟩ : Network) ∈ Network.table := by decide +kernel
  have hkey : Spells "0x021111111111111111111111111111111111111111111111111111111111111111"
      (0x02 :: List.replicate 32 0x11) := by
    decide +kernel
  have hhash : Spells "0000000000000000000000000000000000000000" (List.replicate 20 0) := by decide +kernel
  have hbyte : Spells "04" [0x04] := by decide +kernel
  obtain ⟨hnetworks, -⟩ := address_paths_agree
  refine ⟨?_, ?_, ?_⟩
  · obtain ⟨hkeys, -⟩ := hnetworks _ hlitecoin "LITECOIN" (Network.toLower_eq_iff.mpr (by decide +kernel))
    have hread := Source.readBytes_eq_ok_iff.mpr ⟨_, Source.holds_value (fun _ => .ok []) _, hkey⟩
    obtain ⟨r, hr, hnetwork, -, hhash160, hagree⟩ := hkeys _ _ _ hread (.compressed _ _ (Or.inl rfl) rfl)
    refine ⟨r, hr, hnetwork, hagree _ _ (Source.readBytes_eq_ok_iff.mpr ⟨_, Source.holds_value _ _, ?_⟩)⟩
    rw [hhash160]
    exact spells_encode _
  · obtain ⟨-, hhashes, -⟩ := hnetworks _ htestnet "Litecoin-Testnet" (Network.toLower_eq_iff.mpr (by decide +kernel))
    have hread := Source.readBytes_eq_ok_iff.mpr ⟨_, Source.holds_value (fun _ => .ok []) _, hhash⟩
    obtain ⟨r, first, hr, -, hfirst, hinspect⟩ := hhashes _ _ _ hread rfl
    obtain rfl : (⟨"bitcoin-testnet", "tb", 111, 196⟩ : Network) = first := Option.some.inj hfirst
    have hpayload : Hex.encode (111 :: List.replicate 20 0) = "6f0000000000000000000000000000000000000000" := by
      decide +kernel
    rw [← hpayload]
    exact ⟨r, hr, hinspect _ _ (Source.holds_value _ _)⟩
  · obtain ⟨-, -, hothers⟩ := hnetworks _ hbitcoin "bitcoin" rfl
    have hread := Source.readBytes_eq_ok_iff.mpr ⟨_, Source.holds_value (fun _ => .ok []) _, hbyte⟩
    refine hothers _ _ _ hread (by decide) ?_
    rintro (⟨-, -, -, hlength⟩ | ⟨-, hlength⟩)
    · cases hlength
    · cases hlength

end KeyText.Command
