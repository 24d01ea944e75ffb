import PaymentUri.Binary64.Basic
import PaymentUri.Text.Basic
/-!
# The shortest notation of a binary fraction

A number is written with the fewest decimal digits that read back as it, and of
those with the digits nearest to it. On the grid of so many digits only the two
neighbours of the number have to be tried, since the numbers that read back as it
lie together. The point stands among the digits unless the number is very small
or very large; then one digit stands before it and an exponent follows.
-/

namespace PaymentUri.Binary64

/-- The number of digits before the point of a quotient, below zero by the zeros
after the point that precede its first digit. -/
def pointOf (quotient : Nat × Nat) : Int :=
  if quotient.2 ≤ quotient.1 then (Nat.toDigits 10 (quotient.1 / quotient.2)).length
  else 1 - ((Nat.toDigits 10 ((quotient.2 - 1) / quotient.1)).length : Int)

/-- The decimal number reads back as the binary one. -/
def readsBack (x : Binary64) (exponent : Int) (digits : Nat) : Bool :=
  ofDecimal? x.negative digits exponent == some x

/-- The digits on the grid of a power of ten that read back as the number: those of
the nearer neighbour, or else of the other. -/
def onGrid? (x : Binary64) (exponent : Int) : Option Nat :=
  let q := scaled 10 (-exponent) x.quotient
  let near := nearestQuotient q.1 q.2
  let low := q.1 / q.2
  [near, if near = low then low + 1 else low].find? (x.readsBack exponent)

/-- The exact decimal digits of the number, with their power of ten. -/
def exactDecimal (x : Binary64) : Nat × Int :=
  (x.mantissa * Nat.pow 2 x.exponent.toNat * Nat.pow 5 (-x.exponent).toNat,
    if x.exponent < 0 then x.exponent else 0)

/-- The fewest digits that read back as the number, with their power of ten.
Seventeen are always enough. -/
def shortest (x : Binary64) : Nat × Int :=
  let point := pointOf x.quotient
  let found := (List.range 17).findSome? fun (n : Nat) =>
    let e := point - (n + 1)
    (x.onGrid? e).map fun digits => (digits, e)
  found.getD x.exactDecimal

/-- The exponent mark with its sign and at least two digits. -/
def exponentText (e : Int) : Text :=
  'e' :: (if e < 0 then '-' else '+') :: Text.padLeft 2 '0' (Nat.toDigits 10 e.natAbs)

/-- Digits with the decimal point after a number of them. Below a ten-thousandth
and from seventeen digits before the point on, an exponent is written. -/
def pointedText (digits : Text) (point : Int) : Text :=
  if point ≤ -4 ∨ 16 < point then
    match digits with
    | [] => []
    | [d] => d :: exponentText (point - 1)
    | d :: ds => d :: '.' :: ds ++ exponentText (point - 1)
  else if point ≤ 0 then
    '0' :: '.' :: List.replicate point.natAbs '0' ++ digits
  else
    let whole := digits.take point.toNat
    let rest := digits.drop point.toNat
    whole ++ List.replicate (point.toNat - whole.length) '0' ++
      '.' :: (if rest.isEmpty then ['0'] else rest)

def magnitudeText (x : Binary64) : Text :=
  if x.mantissa = 0 then ['0', '.', '0']
  else
    let (n, e) := x.shortest
    let digits := Nat.toDigits 10 n
    pointedText (Text.dropRightWhile (· == '0') digits) (digits.length + e)

def text (x : Binary64) : Text := (if x.negative then ['-'] else []) ++ x.magnitudeText

end PaymentUri.Binary64
