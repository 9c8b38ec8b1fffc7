import JoinTrust.Digest.Sha512

set_option autoImplicit false

/-!
Keyed digests. A key longer than one block is replaced by its digest, a shorter one is filled up with
zeros; the key masked in two ways then frames an inner and an outer digest.
-/

namespace JoinTrust.Digest.Hmac

def blockKey (hash : Bytes → Bytes) (blockSize : Nat) (key : Bytes) : Bytes :=
  let short := if blockSize < key.length then hash key else key
  short ++ List.replicate (blockSize - short.length) 0

def mac (hash : Bytes → Bytes) (blockSize : Nat) (key message : Bytes) : Bytes :=
  let masked (mask : UInt8) := (blockKey hash blockSize key).map (· ^^^ mask)
  hash (masked 0x5C ++ hash (masked 0x36 ++ message))

def sha512 (key message : Bytes) : Bytes :=
  mac Sha512.hash Sha512.family.blockSize key message

end JoinTrust.Digest.Hmac
