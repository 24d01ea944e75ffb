import PaymentUri.Radix
import PaymentUri.Text.Basic
/-!
# Base 58

Octets as a number in base 58, written with digits and letters that are not
easily mistaken for one another. The notation of a number has no leading zeros,
so every leading zero octet is written as a leading digit zero, a `1`.
-/

namespace PaymentUri.Base58

/-- The fifty-eight digits, in order of value. -/
def alphabet : Text :=
  "123456789ABCDEFGHJKLMNPQRSTUVWXYZabcdefghijkmnopqrstuvwxyz".toList

def digit (n : Nat) : Char := alphabet.getD n '1'

def digitValue? (c : Char) : Option Nat := alphabet.idxOf? c

def encode (bytes : List UInt8) : Text :=
  List.replicate (bytes.takeWhile (· == 0)).length '1' ++
    (Radix.digits 58 (Radix.value 256 (bytes.map UInt8.toNat))).map digit

/-- The values of the digits of a text, or the first character that is no digit. -/
def values? : Text → Except Char (List Nat)
  | [] => .ok []
  | c :: cs =>
    match digitValue? c with
    | none => .error c
    | some d => (values? cs).map (d :: ·)

def bytesOf (digits : List Nat) : List UInt8 :=
  List.replicate (digits.takeWhile (· == 0)).length 0 ++
    (Radix.digits 256 (Radix.value 58 digits)).map UInt8.ofNat

/-- The octets that a text denotes, or its first character that is no digit. -/
def decode? (t : Text) : Except Char (List UInt8) := (values? t).map bytesOf

theorem digitValue?_digit : ∀ n < 58, digitValue? (digit n) = some n := by decide

@[simp] theorem decode?_nil : decode? [] = .ok [] := by simp [decode?, values?, bytesOf, Except.map]

end PaymentUri.Base58
