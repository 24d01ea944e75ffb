import PaymentUri.Amount.Basic
/-!
# Exact decimals

An amount in whole coins, as a sign, digits and a power of ten. Nothing is rounded
or left out: the digits are those of the number of units, and the power is the one
that a unit stands for. Units of too many digits have no decimal.
-/

namespace PaymentUri

structure Decimal where
  negative : Bool
  digits : Text
  /-- The power of ten by which the digits are multiplied. -/
  exponent : Int
  deriving DecidableEq, Repr

/-- The exact number of whole coins, unless the units have too many digits. -/
def Amount.decimal? (a : Amount) : Option Decimal :=
  (Text.digits? a.units.natAbs).map fun digits =>
    { negative := a.units < 0, digits, exponent := -(a.currency.exponent : Int) }

end PaymentUri
