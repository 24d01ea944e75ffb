import PaymentUri.Base58.Basic
import PaymentUri.Digest.Basic
import PaymentUri.Text.Quoted
/-!
# Base 58 with a checksum

A version octet and a payload, followed by the first four octets of their
digest, in base 58. The digest is a parameter: reading back what was written,
and writing back what was read, depend on nothing but its length.
-/

namespace PaymentUri.Base58Check

/-- Why a text is not the form of any version and payload. -/
inductive Refusal where
  /-- The character is no digit in base 58. -/
  | badCharacter (c : Char)
  /-- There is nothing before the checksum. -/
  | tooShort
  /-- The checksum is not that of the octets before it. -/
  | badChecksum
  deriving DecidableEq, Repr

def Refusal.message : Refusal → String
  | .badCharacter c =>
    s!"Invalid base58 data: Character {String.ofList (Text.quoted [c])} is not a valid " ++
      "base58 character"
  | .tooShort => "Base58 data too short"
  | .badChecksum => "Checksum wrong. Typo in address?"

/-- A version and a payload, written with their checksum. -/
def encode (d : Digest) (version : UInt8) (payload : List UInt8) : Text :=
  Base58.encode (version :: payload ++ d.checksum (version :: payload))

/-- The version and payload that octets with a checksum hold. -/
def split? (d : Digest) (data : List UInt8) : Except Refusal (UInt8 × List UInt8) :=
  match data.take (data.length - 4) with
  | [] => .error .tooShort
  | version :: payload =>
    if d.checksum (version :: payload) = data.drop (data.length - 4) then .ok (version, payload)
    else .error .badChecksum

/-- The version and payload that a text was written from. -/
def decode? (d : Digest) (t : Text) : Except Refusal (UInt8 × List UInt8) :=
  match Base58.decode? t with
  | .error c => .error (.badCharacter c)
  | .ok data => split? d data

/-- Octets with their own checksum are split as they were joined. -/
theorem split?_checksum (d : Digest) (version : UInt8) (payload : List UInt8) :
    split? d (version :: payload ++ d.checksum (version :: payload)) = .ok (version, payload) := by
  have hlen : (version :: payload ++ d.checksum (version :: payload)).length - 4 =
      (version :: payload).length := by simp
  rw [split?, hlen, List.take_left, List.drop_left]
  simp

end PaymentUri.Base58Check
