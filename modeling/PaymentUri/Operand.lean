import PaymentUri.Amount.Comparison
/-!
# Comparing values with data

A value of the library may be compared with a datum that was handed in. The two
are never the same, and they are not ordered. Data among themselves are ordered
as numbers, where a truth value counts as zero or one, or as texts.
-/

namespace PaymentUri

namespace Datum

/-- A number as a mantissa and a power of two. -/
def number? : Datum → Option (Int × Int)
  | .flag b => some (if b then 1 else 0, 0)
  | .whole n => some (n, 0)
  | .fraction x => some (x.signedMantissa, x.exponent)
  | _ => none

/-- The mantissas of two numbers at the lower of their powers of two. -/
def aligned (m n : Int × Int) : Int × Int :=
  (m.1 * Nat.pow 2 (m.2 - n.2).toNat, n.1 * Nat.pow 2 (n.2 - m.2).toNat)

/-- Data that are equal: equal numbers of any kind, equal texts, or both nothing. -/
def same (d e : Datum) : Bool :=
  match d.number?, e.number? with
  | some m, some n => (aligned m n).1 == (aligned m n).2
  | _, _ =>
    match d, e with
    | .absent, .absent => true
    | .text s, .text t => s == t
    | _, _ => false

def less? (d e : Datum) : Option Bool :=
  match d.number?, e.number? with
  | some m, some n => some (decide ((aligned m n).1 < (aligned m n).2))
  | _, _ =>
    match d, e with
    | .text s, .text t => some (decide (s < t))
    | _, _ => none

/-- A collection has no place in a set. -/
def isCollection : Datum → Bool
  | .items _ => true
  | .entries _ => true
  | _ => false

end Datum

/-- A value of the library, or a datum in its stead. -/
inductive Operand (α : Type) where
  | value (a : α)
  | datum (d : Datum)

namespace Operand

/-- Operands that are the same, given which values are. -/
def same {α : Type} (sameValue : α → α → Bool) : Operand α → Operand α → Bool
  | .value a, .value b => sameValue a b
  | .datum d, .datum e => d.same e
  | _, _ => false

/-- The name of the kind of an operand that may be an amount. -/
def kind : Operand Amount → String
  | .value _ => "Value"
  | .datum d => d.kind

/-- The kind of the first operand that has no place in a set. -/
def collection? {α : Type} : Operand α → Operand α → Option String
  | .datum d, second =>
    if d.isCollection then some d.kind
    else match second with
      | .datum e => if e.isCollection then some e.kind else none
      | .value _ => none
  | .value _, .datum e => if e.isCollection then some e.kind else none
  | .value _, .value _ => none

def compare? (comparison : Amount.Comparison) (x y : Operand Amount) :
    Except Amount.Incomparable Bool :=
  match x, y with
  | .value a, .value b => Amount.compare? comparison a b
  | .datum d, .datum e =>
    let answer := match comparison with
      | .less => d.less? e
      | .atMost => (e.less? d).map (!·)
      | .more => e.less? d
      | .atLeast => (d.less? e).map (!·)
    match answer with
    | some b => .ok b
    | none => .error (.kinds comparison d.kind e.kind)
  | x, y => .error (.kinds comparison x.kind y.kind)

end Operand

end PaymentUri
