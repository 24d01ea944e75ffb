import PaymentUri.Amount.Basic
/-!
# Comparing amounts

Amounts of one currency are ordered by their units. Amounts of different
currencies are not compared, and neither is an amount with anything else. To be
more is to be less the other way round, so a refusal names the currencies of a
reversed comparison in reversed order.
-/

namespace PaymentUri.Amount

inductive Comparison where
  | less
  | atMost
  | more
  | atLeast
  deriving DecidableEq, Repr

def Comparison.sign : Comparison → String
  | .less => "<"
  | .atMost => "<="
  | .more => ">"
  | .atLeast => ">="

/-- Why two values are not compared. -/
inductive Incomparable where
  /-- The amounts are of different currencies. -/
  | currencies (first second : Currency)
  /-- Not both values are amounts. -/
  | kinds (comparison : Comparison) (first second : String)
  deriving DecidableEq, Repr

def Incomparable.message : Incomparable → String
  | .currencies a b =>
    s!"Cannot compare amounts of {String.ofList a.name} and {String.ofList b.name}"
  | .kinds comparison a b =>
    s!"'{comparison.sign}' not supported between instances of '{a}' and '{b}'"

def less? (a b : Amount) : Except Incomparable Bool :=
  if b.currency.same a.currency then .ok (decide (a.units < b.units))
  else .error (.currencies a.currency b.currency)

def atMost? (a b : Amount) : Except Incomparable Bool :=
  if b.currency.same a.currency then .ok (decide (a.units ≤ b.units))
  else .error (.currencies a.currency b.currency)

def compare? (comparison : Comparison) (a b : Amount) : Except Incomparable Bool :=
  match comparison with
  | .less => less? a b
  | .atMost => atMost? a b
  | .more => less? b a
  | .atLeast => atMost? b a

end PaymentUri.Amount
