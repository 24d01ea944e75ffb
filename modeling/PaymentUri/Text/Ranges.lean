import PaymentUri.Text.Basic
/-!
# Classes of characters as ranges

A class of the Unicode character database is kept as a list of inclusive ranges
of code points in ascending order. The tables of this library follow version 14
of the database.
-/

namespace PaymentUri.Text

/-- Inclusive ranges of code points. -/
abbrev Ranges := List (Nat × Nat)

/-- Some range holds the code point of the character. -/
def Ranges.contains (ranges : Ranges) (c : Char) : Bool :=
  ranges.any fun r => r.1 ≤ c.toNat && c.toNat ≤ r.2

theorem Ranges.contains_iff {ranges : Ranges} {c : Char} :
    ranges.contains c = true ↔ ∃ r ∈ ranges, r.1 ≤ c.toNat ∧ c.toNat ≤ r.2 := by
  simp [Ranges.contains]

end PaymentUri.Text
