/-!
# Binary fractions

A number that is written with a point or an exponent stands for the nearest
number of at most fifty-three binary digits, of two the one whose last digit is
even. It is held exactly, as a mantissa and a power of two, so numbers are
compared without rounding. Zero keeps its sign. A number beyond the greatest power
of two is none, and one below half the least is zero.
-/

namespace PaymentUri

/-- The number `mantissa * 2 ^ exponent`, or its opposite. -/
structure Binary64 where
  negative : Bool
  mantissa : Nat
  exponent : Int
  deriving DecidableEq, Repr

namespace Binary64

/-- The least number that has too many digits for a mantissa. -/
def mantissaBound : Nat := 9007199254740992

def leastExponent : Int := -1074

def greatestExponent : Int := 971

def zero (negative : Bool) : Binary64 := ⟨negative, 0, leastExponent⟩

/-- The whole number nearest to a quotient, of two the even one. -/
def nearestQuotient (num den : Nat) : Nat :=
  let low := num / den
  let twice := 2 * (num % den)
  if den < twice ∨ (twice = den ∧ low % 2 = 1) then low + 1 else low

/-- A quotient, multiplied by a power that may be negative. -/
def scaled (base : Nat) (exponent : Int) (quotient : Nat × Nat) : Nat × Nat :=
  (quotient.1 * Nat.pow base exponent.toNat, quotient.2 * Nat.pow base (-exponent).toNat)

/-- How many times a power of two goes into a quotient, to the nearest whole number. -/
def mantissaAt (exponent : Int) (quotient : Nat × Nat) : Nat :=
  let q := scaled 2 (-exponent) quotient
  nearestQuotient q.1 q.2

/-- An exponent at which the mantissa of a quotient has fifty-three digits or one
more, unless even the least exponent leaves it fewer. -/
def exponentFor (quotient : Nat × Nat) : Int :=
  let e := (Nat.log2 quotient.1 : Int) - Nat.log2 quotient.2 - 53
  if e < leastExponent then leastExponent else e

/-- The number nearest to a quotient, if it is not too large. Rounding may give the
mantissa one digit more, which moves into the exponent. -/
def ofQuotient? (negative : Bool) (quotient : Nat × Nat) : Option Binary64 :=
  let e := exponentFor quotient
  let fine := mantissaAt e quotient
  let (m, e) := if fine < mantissaBound then (fine, e) else (mantissaAt (e + 1) quotient, e + 1)
  let (m, e) := if m = mantissaBound then (m / 2, e + 1) else (m, e)
  if greatestExponent < e then none else some ⟨negative, m, e⟩

/-- The number nearest to `digits * 10 ^ exponent`, if it is not too large. -/
def ofDecimal? (negative : Bool) (digits : Nat) (exponent : Int) : Option Binary64 :=
  let leading := (Nat.toDigits 10 digits).length + exponent
  if digits = 0 ∨ leading < -400 then some (zero negative)
  else if 400 < leading then none
  else ofQuotient? negative (scaled 10 exponent (digits, 1))

def quotient (x : Binary64) : Nat × Nat := scaled 2 x.exponent (x.mantissa, 1)

def signedMantissa (x : Binary64) : Int := if x.negative then -(x.mantissa : Int) else x.mantissa

end Binary64

end PaymentUri
