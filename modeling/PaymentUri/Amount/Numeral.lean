import PaymentUri.Text.Basic
/-!
# Decimal numerals

The form in which a URI states an amount: an optional sign, digits, and an
optional point with digits after it. One side of the point may be empty, though
not both, and without a point there are digits. Each side has at most thirty-two
digits, and only the ten digits of ASCII count.
-/

namespace PaymentUri

/-- Digits before and after the decimal point, with a sign. -/
structure Numeral where
  negative : Bool
  whole : Text
  fraction : Text
  deriving DecidableEq, Repr

namespace Numeral

/-- The most digits that may stand on one side of the point. -/
def maxDigits : Nat := 32

/-- The sign of a text, true for minus, and the text without it. -/
def sign : Text → Bool × Text
  | '-' :: t => (true, t)
  | '+' :: t => (false, t)
  | t => (false, t)

/-- Digits of a numeral without its sign. -/
def unsigned? (negative : Bool) (t : Text) : Option Numeral :=
  let whole := t.takeWhile Char.isDigit
  match t.dropWhile Char.isDigit with
  | [] =>
    if 1 ≤ whole.length ∧ whole.length ≤ maxDigits then some ⟨negative, whole, []⟩ else none
  | c :: fraction =>
    if c = '.' ∧ fraction.all Char.isDigit ∧ whole.length ≤ maxDigits ∧
        fraction.length ≤ maxDigits ∧ (whole ≠ [] ∨ fraction ≠ []) then
      some ⟨negative, whole, fraction⟩
    else none

def ofText? (t : Text) : Option Numeral := unsigned? (sign t).1 (sign t).2

def digitsValue (t : Text) : Nat := Nat.ofDigitChars 10 t 0

/-- The fraction digits that matter: those up to the last that is not zero. -/
def significantFraction (n : Numeral) : Text := Text.dropRightWhile (· == '0') n.fraction

/-- The numeral, counted in units of which one is `10 ^ exponent` of, when it is a whole
number of them. -/
def scaled? (n : Numeral) (exponent : Nat) : Option Int :=
  let fraction := n.significantFraction
  if fraction.length ≤ exponent then
    let magnitude := digitsValue (n.whole ++ fraction ++
      List.replicate (exponent - fraction.length) '0')
    some (if n.negative then -(magnitude : Int) else magnitude)
  else none

end Numeral

end PaymentUri
