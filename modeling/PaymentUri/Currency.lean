import PaymentUri.Text.Basic
/-!
# Currencies

One currency on one network: its names, the scheme of its URIs, how many decimal
places lie between a whole coin and its smallest unit, and the two version octets
its addresses may begin with. Two currencies are the same when their ids are,
whatever else they say.
-/

namespace PaymentUri

/-- One currency on one network. Nothing is required of the texts, so an id may be empty and
a scheme may hold characters that no URI has. -/
structure Currency where
  id : Text
  name : Text
  symbol : Text
  scheme : Text
  /-- Decimal places from one coin to its smallest unit. -/
  exponent : Nat
  /-- The version of addresses that pay to a key. -/
  keyVersion : UInt8
  /-- The version of addresses that pay to a script. -/
  scriptVersion : UInt8
  deriving DecidableEq, Repr

namespace Currency

inductive Refusal where
  | negativeExponent (n : Int)
  | versionOutOfRange (n : Int)
  deriving DecidableEq, Repr

def Refusal.message : Refusal → String
  | .negativeExponent n => s!"Invalid unit exponent {n}"
  | .versionOutOfRange n => s!"Invalid address header {n}"

/-- The octet of a number in its range. -/
def versionOf? (n : Int) : Except Refusal UInt8 :=
  if 0 ≤ n ∧ n ≤ 255 then .ok (UInt8.ofNat n.toNat) else .error (.versionOutOfRange n)

/-- A currency from its parts. The exponent is checked first, then the versions. -/
def ofParts? (id name symbol scheme : Text) (exponent keyVersion scriptVersion : Int) :
    Except Refusal Currency :=
  if exponent < 0 then .error (.negativeExponent exponent)
  else do
    let key ← versionOf? keyVersion
    let script ← versionOf? scriptVersion
    return ⟨id, name, symbol, scheme, exponent.toNat, key, script⟩

def versions (c : Currency) : List UInt8 := [c.keyVersion, c.scriptVersion]

def unitsPerCoin (c : Currency) : Nat := Nat.pow 10 c.exponent

/-- The two values describe the same currency: they have the same id. Values that were made
before a currency was registered anew therefore still go with those made after it, whatever
else has changed. -/
def same (a b : Currency) : Bool := a.id == b.id

def listing (c : Currency) : Text := "CoinType(".toList ++ c.id ++ [')']

theorem unitsPerCoin_pos (c : Currency) : 0 < c.unitsPerCoin := Nat.pow_pos (by decide)

@[simp] theorem same_iff {a b : Currency} : a.same b = true ↔ a.id = b.id := by
  simp [same]

theorem same_refl (c : Currency) : c.same c = true := by simp

end Currency

end PaymentUri
