/-!
# Digests

A digest is any function that answers thirty-two octets. What the library
proves about checksums holds of every digest; addresses use one of them.
-/

namespace PaymentUri

/-- A function from octets to thirty-two octets. The length is all that is asked of it, so no
proof can depend on what a particular digest answers. -/
structure Digest where
  hash : List UInt8 → List UInt8
  length_hash : ∀ bytes, (hash bytes).length = 32

namespace Digest

def twice (d : Digest) : Digest where
  hash bytes := d.hash (d.hash bytes)
  length_hash bytes := d.length_hash (d.hash bytes)

/-- The first octets of a digest, enough to notice a mistyped character. -/
def checksum (d : Digest) (bytes : List UInt8) : List UInt8 := (d.hash bytes).take 4

@[simp] theorem length_checksum (d : Digest) (bytes : List UInt8) :
    (d.checksum bytes).length = 4 := by
  simp [checksum, d.length_hash]

end Digest

end PaymentUri
