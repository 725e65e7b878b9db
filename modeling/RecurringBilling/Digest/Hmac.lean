import RecurringBilling.Digest.Sha256

/-!
# Keyed digests

HMAC over SHA-256: the key, filled up with zeros to a block or digested first if
it is longer, is mixed into the message twice.
-/

namespace RecurringBilling.Digest.Hmac

/-- A key of exactly one block. -/
def blockKey (key : List UInt8) : List UInt8 :=
  let short := if Sha256.blockSize < key.length then Sha256.digest key else key
  short ++ List.replicate (Sha256.blockSize - short.length) 0

/-- The 32 bytes that authenticate a message under a key. -/
def sha256 (key message : List UInt8) : List UInt8 :=
  let k := blockKey key
  Sha256.digest (k.map (· ^^^ 0x5C) ++ Sha256.digest (k.map (· ^^^ 0x36) ++ message))

end RecurringBilling.Digest.Hmac
