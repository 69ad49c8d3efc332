import KeyText.Checksum
import KeyText.Digest.Keccak256
import KeyText.Digest.Ripemd160
import KeyText.Digest.Sha256

/-!
# The published digests

The digest functions with which the program runs. Checksums, addresses and commands are defined for any digest functions, and
what is proved of them does not depend on these.
-/

namespace KeyText.Digest

/-- SHA-256, Keccak-256 and RIPEMD-160 as they are published. -/
instance published : Digests where
  sha256 := sha256
  keccak256 := keccak256
  ripemd160 := ripemd160

end KeyText.Digest
