import PaymentUri.Amount.Numeral
import PaymentUri.Currency
import PaymentUri.Datum
/-!
# Amounts

An exact amount of one currency, as a whole number of its smallest units. The
number has at most as many digits as a numeral with thirty-two digits before the
point can need. All decimal places of the currency are written, even where they are
more than a numeral may have.

A currency may have so many decimal places that the units of a coin have too many
digits to be written. `numeral` is the printed form of an amount whatever it takes,
and `format?` is what becomes of it where numbers of too many digits are not written.
-/

namespace PaymentUri

/-- An exact amount of a currency. The range is part of the value and is wide enough for
every numeral that is read, so a numeral is refused for its decimal places alone. -/
structure Amount where
  currency : Currency
  /-- How many of the smallest units. -/
  units : Int
  inRange : units.natAbs < Nat.pow 10 (Numeral.maxDigits + currency.exponent)
  deriving DecidableEq

namespace Amount

inductive Refusal where
  /-- The number of units is not a whole number. -/
  | notWhole
  /-- The number of units has too many digits. -/
  | outOfRange
  /-- The datum is not the text of a numeral. -/
  | notNumeral (token : Datum)
  /-- The numeral has more decimal places than the currency. -/
  | tooPrecise (token : Text)
  /-- The datum is not the text of a numeral, and it has no text to be named by. -/
  | unshown

def Refusal.message : Refusal → String
  | .notWhole => "Amount units must be an integer"
  | .outOfRange => "Amount out of range"
  | .notNumeral token => s!"'{String.ofList token.display}' is not a valid amount"
  | .tooPrecise token => s!"'{String.ofList token}' has too many decimal places"
  | .unshown => Text.unwritable

/-- The amount of a number of units. -/
def ofUnits? (c : Currency) (units : Int) : Except Refusal Amount :=
  if h : units.natAbs < Nat.pow 10 (Numeral.maxDigits + c.exponent) then .ok ⟨c, units, h⟩
  else .error .outOfRange

/-- The amount of a number of units that may be a datum of any kind. -/
def ofUnitsDatum? (c : Currency) : Datum → Except Refusal Amount
  | .whole n => ofUnits? c n
  | _ => .error .notWhole

def isNumeral : Datum → Bool
  | .text t => (Numeral.ofText? t).isSome
  | _ => false

/-- How a datum is refused that is no numeral. The refusal names the datum, and to make
its text may fail before there is a refusal. -/
def refusalOf (d : Datum) : Refusal := if d.isShown then .notNumeral d else .unshown

/-- The amount that a datum states in whole coins: it must be the text of a
numeral with no more decimal places than the currency has. -/
def ofDatum? (c : Currency) : Datum → Except Refusal Amount
  | .text t =>
    match Numeral.ofText? t with
    | none => .error (.notNumeral (.text t))
    | some n =>
      match n.scaled? c.exponent with
      | none => .error (.tooPrecise t)
      | some units => ofUnits? c units
  | d => .error (refusalOf d)

def ofText? (c : Currency) (t : Text) : Except Refusal Amount := ofDatum? c (.text t)

/-- The number of whole coins, without a sign. -/
def wholeCoins (a : Amount) : Nat := a.units.natAbs / a.currency.unitsPerCoin

/-- The number of units that make no whole coin. -/
def rest (a : Amount) : Nat := a.units.natAbs % a.currency.unitsPerCoin

/-- The amount in whole coins, once the digits of both its numbers are known. There is no sign
for zero, and there are no zeros at the end of the fraction. -/
def written (a : Amount) (whole rest : Text) : Text :=
  (if a.units < 0 then ['-'] else []) ++ whole ++
    if a.rest = 0 then []
    else '.' :: Text.dropRightWhile (· == '0') (Text.padLeft a.currency.exponent '0' rest)

/-- The amount in whole coins. -/
def numeral (a : Amount) : Text :=
  a.written (Nat.toDigits 10 a.wholeCoins) (Nat.toDigits 10 a.rest)

/-- The amount in whole coins, where numbers of too many digits are not written. -/
def format? (a : Amount) : Option Text := do
  let whole ← Text.digits? a.wholeCoins
  let rest ← Text.digits? a.rest
  some (a.written whole rest)

def display (a : Amount) : Text := a.numeral ++ ' ' :: a.currency.symbol

def listing (a : Amount) : Text :=
  "Value(".toList ++ a.currency.listing ++ ", ".toList ++ Text.ofInt a.units ++ [')']

/-- The same number of units of the same currency. -/
def same (a b : Amount) : Bool := a.currency.same b.currency && a.units == b.units

@[simp] theorem same_iff {a b : Amount} :
    a.same b = true ↔ a.currency.id = b.currency.id ∧ a.units = b.units := by
  simp [same]

end Amount

end PaymentUri
