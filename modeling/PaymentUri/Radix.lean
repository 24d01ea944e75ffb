/-!
# Positional notation

Natural numbers as digits in any base from two, the most significant first. Zero
has no digits, and a notation never begins with the digit zero, so leading zeros
are for the caller to keep.
-/

namespace PaymentUri.Radix

def value (base : Nat) (digits : List Nat) : Nat :=
  digits.foldl (fun n d => n * base + d) 0

/-- The digits of a number, the least significant first. -/
def littleEndian (base n : Nat) : List Nat :=
  if 2 ≤ base ∧ 0 < n then n % base :: littleEndian base (n / base) else []
termination_by n
decreasing_by exact Nat.div_lt_self (by omega) (by omega)

def digits (base n : Nat) : List Nat := (littleEndian base n).reverse

@[simp] theorem value_nil (base : Nat) : value base [] = 0 := rfl

theorem value_append_singleton (base : Nat) (ds : List Nat) (d : Nat) :
    value base (ds ++ [d]) = value base ds * base + d := by
  simp [value]

@[simp] theorem digits_zero (base : Nat) : digits base 0 = [] := by
  simp [digits, littleEndian]

theorem digits_of_pos {base n : Nat} (hb : 2 ≤ base) (hn : 0 < n) :
    digits base n = digits base (n / base) ++ [n % base] := by
  rw [digits, littleEndian, if_pos ⟨hb, hn⟩]
  simp [digits]

/-- The digits of a number denote it. -/
theorem value_digits {base : Nat} (hb : 2 ≤ base) (n : Nat) :
    value base (digits base n) = n := by
  induction n using Nat.strongRecOn with
  | ind n ih =>
    rcases Nat.eq_zero_or_pos n with rfl | hn
    · simp
    · rw [digits_of_pos hb hn, value_append_singleton,
        ih _ (Nat.div_lt_self hn (by omega))]
      exact Nat.div_add_mod' n base

/-- Every digit is below the base. -/
theorem lt_of_mem_digits {base : Nat} (hb : 2 ≤ base) (n : Nat) :
    ∀ d ∈ digits base n, d < base := by
  induction n using Nat.strongRecOn with
  | ind n ih =>
    rcases Nat.eq_zero_or_pos n with rfl | hn
    · simp
    · rw [digits_of_pos hb hn]
      intro d hd
      rcases List.mem_append.1 hd with h | h
      · exact ih _ (Nat.div_lt_self hn (by omega)) d h
      · have : d = n % base := by simpa using h
        exact this ▸ Nat.mod_lt _ (by omega)

end PaymentUri.Radix
