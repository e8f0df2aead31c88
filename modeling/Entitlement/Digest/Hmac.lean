import Entitlement.Digest.Sha256

/-!
# Keyed digests

* `hmac` : the digest of a message under a key, of any length.
-/

namespace Entitlement.Digest

/-- A key that is longer than a block is digested first. -/
def blockKey (key : List UInt8) : List UInt8 :=
  let short := if 64 < key.length then sha256 key else key
  short ++ List.replicate (64 - short.length) 0

def hmac (key message : List UInt8) : List UInt8 :=
  let k := blockKey key
  sha256 (k.map (· ^^^ 0x5c) ++ sha256 (k.map (· ^^^ 0x36) ++ message))

end Entitlement.Digest
