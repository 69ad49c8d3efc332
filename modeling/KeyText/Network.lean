/-!
# Networks

The payload of a key or an address begins with a version byte, which says what it is and on which network it is used. The
table lists the version bytes of the networks. Test networks share some of theirs, so a look-up by version answers the first
network in the order of the table.
-/

namespace KeyText

/-- A network and its version bytes. -/
structure Network where
  name : String
  /-- What the network's segwit addresses begin with. -/
  hrp : String
  /-- The version of an address that pays to the hash of a public key. -/
  publicKeyVersion : UInt8
  /-- The version of an address that pays to the hash of a script. -/
  scriptVersion : UInt8
  deriving DecidableEq, Repr

/-- The version of a private key, which is that of the public key with the highest bit turned. -/
def Network.privateKeyVersion (n : Network) : UInt8 :=
  n.publicKeyVersion + 128

namespace Network

/-- The networks in the order of preference. -/
def table : List Network :=
  [⟨"bitcoin", "bc", 0, 5⟩,
    ⟨"bitcoin-testnet", "tb", 111, 196⟩,
    ⟨"litecoin", "ltc", 48, 5⟩,
    ⟨"litecoin-testnet", "tltc", 111, 196⟩,
    ⟨"feathercoin", "fc", 14, 5⟩,
    ⟨"feathercoin-testnet", "tfc", 111, 196⟩,
    ⟨"dogecoin", "dc", 30, 22⟩,
    ⟨"dogecoin-testnet", "tdc", 113, 196⟩,
    ⟨"quarkcoin", "qc", 58, 9⟩,
    ⟨"quarkcoin-testnet", "tqc", 119, 199⟩,
    ⟨"darkcoin", "xc", 76, 9⟩,
    ⟨"darkcoin-testnet", "txc", 111, 196⟩,
    ⟨"jumbucks", "jb", 43, 105⟩,
    ⟨"jumbucks-testnet", "tjb", 107, 176⟩,
    ⟨"peercoin", "pc", 55, 117⟩,
    ⟨"peercoin-testnet", "tpc", 111, 196⟩,
    ⟨"namecoin", "nc", 52, 13⟩,
    ⟨"namecoin-testnet", "tn", 111, 196⟩,
    ⟨"komodo", "zs", 60, 85⟩]

/-- Why a look-up found no network. -/
inductive LookupError where
  | unknownName (name : String)
  | unknownHrp (hrp : String)
  | unknownVersion (version : UInt8)
  deriving DecidableEq, Repr

/-- The wording of a failed look-up. -/
def LookupError.message : LookupError → String
  | .unknownName name => s!"unknown network: {name}"
  | .unknownHrp hrp => s!"unknown segwit hrp: {hrp}"
  | .unknownVersion version => s!"no network uses version byte {version.toNat}"

/-- The first network with a property, or an error. -/
def first (holds : Network → Bool) (error : LookupError) : Except LookupError Network :=
  match table.find? holds with
  | some n => .ok n
  | none => .error error

/-- The network with a name, in any mix of ASCII cases. -/
def byName (name : String) : Except LookupError Network :=
  first (fun n => n.name.toLower == name.toLower) (.unknownName name)

/-- The network whose segwit addresses begin with a text, in any mix of ASCII cases. -/
def byHrp (hrp : String) : Except LookupError Network :=
  first (fun n => n.hrp.toLower == hrp.toLower) (.unknownHrp hrp)

/-- The first network with a version for private keys. -/
def byPrivateKeyVersion (version : UInt8) : Except LookupError Network :=
  first (fun n => n.privateKeyVersion == version) (.unknownVersion version)

/-- The first network with a version for hashes of public keys. -/
def byPublicKeyVersion (version : UInt8) : Except LookupError Network :=
  first (fun n => n.publicKeyVersion == version) (.unknownVersion version)

/-- The first network with a version for hashes of scripts. -/
def byScriptVersion (version : UInt8) : Except LookupError Network :=
  first (fun n => n.scriptVersion == version) (.unknownVersion version)

end Network

end KeyText
