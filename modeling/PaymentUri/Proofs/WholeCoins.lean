import PaymentUri.Proofs.ExactAmounts
/-!
# Whole coins

An amount counts the smallest units of its currency, and what it is worth is the exact
number of whole coins they make. The printed form is a numeral that denotes that number,
and no other form denotes it: two amounts, even of currencies with different numbers of
decimal places, are printed alike exactly when they make the same number of coins.
-/

namespace PaymentUri

namespace Numeral

variable {m n : Numeral} {whole : Text}

/-- The digits after the point behind it. Without such digits there is no point. -/
def pointed (fraction : Text) : Text := if fraction = [] then [] else '.' :: fraction

def text (n : Numeral) : Text :=
  (if n.negative then ['-'] else []) ++ (n.whole ++ pointed n.fraction)

theorem drop_pointed (fraction : Text) : (pointed fraction).drop 1 = fraction := by
  cases fraction <;> rfl

theorem takeWhile_append_pointed (h : IsDigits whole) (fraction : Text) :
    (whole ++ pointed fraction).takeWhile Char.isDigit = whole := by
  rw [List.takeWhile_append_of_pos h, pointed]
  split
  · rw [List.takeWhile_nil, List.append_nil]
  · rw [List.takeWhile_cons_of_neg (by decide), List.append_nil]

theorem dropWhile_append_pointed (h : IsDigits whole) (fraction : Text) :
    (whole ++ pointed fraction).dropWhile Char.isDigit = pointed fraction := by
  rw [List.dropWhile_append_of_pos h, pointed]
  split
  · rw [List.dropWhile_nil]
  · rw [List.dropWhile_cons_of_neg (by decide)]

/-- Digits in front of a text are no sign. -/
theorem sign_append (h : IsDigits whole) (hne : whole ≠ []) (t : Text) :
    sign (whole ++ t) = (false, whole ++ t) := by
  obtain ⟨c, cs, rfl⟩ := List.exists_cons_of_ne_nil hne
  have hdigit : c.isDigit = true := h c List.mem_cons_self
  rw [List.cons_append]
  unfold sign
  split
  · next heq =>
      rw [(List.cons.inj heq).1] at hdigit
      contradiction
  · next heq =>
      rw [(List.cons.inj heq).1] at hdigit
      contradiction
  · rfl

theorem sign_text (h : IsDigits n.whole) (hne : n.whole ≠ []) :
    sign n.text = (n.negative, n.whole ++ pointed n.fraction) := by
  rw [text]
  cases n.negative with
  | false => exact sign_append h hne _
  | true => rfl

/-- A text shows the sign and the digits on both sides of the point. -/
theorem text_inj (hm : IsDigits m.whole) (hn : IsDigits n.whole) (hm' : m.whole ≠ [])
    (hn' : n.whole ≠ []) (h : m.text = n.text) : m = n := by
  have hsign := congrArg sign h
  rw [sign_text hm hm', sign_text hn hn', Prod.mk.injEq] at hsign
  obtain ⟨hnegative, hunsigned⟩ := hsign
  have hwhole : m.whole = n.whole := by
    rw [← takeWhile_append_pointed hm m.fraction, hunsigned, takeWhile_append_pointed hn]
  have hfraction : m.fraction = n.fraction := by
    rw [← drop_pointed m.fraction, ← dropWhile_append_pointed hm m.fraction, hunsigned,
      dropWhile_append_pointed hn, drop_pointed]
  cases m
  cases n
  simp_all

end Numeral

namespace Amount

variable {a b : Amount}

/-- The exact number of whole coins. -/
def coins (a : Amount) : ℚ := a.units / a.currency.unitsPerCoin

theorem cast_unitsPerCoin_ne_zero (c : Currency) : (c.unitsPerCoin : ℚ) ≠ 0 :=
  Numeral.pow_ten_ne_zero c.exponent

theorem coins_eq_iff :
    a.coins = b.coins ↔
      a.units * b.currency.unitsPerCoin = b.units * a.currency.unitsPerCoin := by
  rw [coins, coins, div_eq_div_iff (cast_unitsPerCoin_ne_zero _) (cast_unitsPerCoin_ne_zero _)]
  exact_mod_cast Iff.rfl

/-- The printed decimal places, of which there are none when whole coins remain. -/
def places (a : Amount) : Text :=
  if a.units.natAbs % a.currency.unitsPerCoin = 0 then [] else a.printedFraction

theorem length_places_le (a : Amount) : a.places.length ≤ a.currency.exponent := by
  rw [places]
  split
  · exact Nat.zero_le _
  · next h => exact length_printedFraction_le_exponent h

/-- The printed digits, followed by zeros for the places that are not printed, count the
units. -/
theorem natAbs_eq_digitsValue (a : Amount) :
    a.units.natAbs = Nat.pow 10 (a.currency.exponent - a.places.length) *
      Numeral.digitsValue (a.printedWhole ++ a.places) := by
  have hdigits : Numeral.digitsValue (a.printedWhole ++ a.places ++
      List.replicate (a.currency.exponent - a.places.length) '0') = a.units.natAbs := by
    rw [places]
    split
    · next h =>
        rw [List.append_nil]
        exact digitsValue_printedWhole h
    · next h => exact digitsValue_printed a h
  rw [← hdigits, Numeral.digitsValue_append, Numeral.digitsValue_replicate_zero,
    List.length_replicate, Nat.add_zero]

theorem printedFraction_ne_nil (h : a.units.natAbs % a.currency.unitsPerCoin ≠ 0) :
    a.printedFraction ≠ [] := by
  intro hnil
  have hcount := a.natAbs_eq_digitsValue
  rw [places, if_neg h, hnil] at hcount
  rw [hcount] at h
  exact h (Nat.mul_mod_right _ _)

/-- The numeral that is printed. -/
def printed (a : Amount) : Numeral where
  negative := a.units < 0
  whole := a.printedWhole
  fraction := a.places

theorem printed_whole_ne_nil (a : Amount) : a.printed.whole ≠ [] := Nat.toDigits_ne_nil

theorem printedUnsigned_eq (a : Amount) :
    a.printedUnsigned = a.printedWhole ++ Numeral.pointed a.places := by
  rw [printedUnsigned, places, Numeral.pointed]
  by_cases h : a.units.natAbs % a.currency.unitsPerCoin = 0
  · simp [h]
  · simp [h, printedFraction_ne_nil h]

theorem numeral_eq_text (a : Amount) : a.numeral = a.printed.text := by
  rw [numeral_eq, Numeral.text, printedUnsigned_eq, printed]
  by_cases h : a.units < 0 <;> simp [h]

theorem printed_eq_of_numeral (h : a.numeral = b.numeral) : a.printed = b.printed := by
  rw [numeral_eq_text, numeral_eq_text] at h
  exact Numeral.text_inj a.isDigits_printedWhole b.isDigits_printedWhole a.printed_whole_ne_nil
    b.printed_whole_ne_nil h

theorem magnitude_printed (a : Amount) :
    a.printed.magnitude = a.units.natAbs / a.currency.unitsPerCoin := by
  have hpow : Nat.pow 10 (a.currency.exponent - a.places.length) * Nat.pow 10 a.places.length =
      a.currency.unitsPerCoin := (Numeral.pow_ten_of_le a.length_places_le).symm
  have hunits : Numeral.digitsValue (a.printedWhole ++ a.places) * a.currency.unitsPerCoin =
      a.units.natAbs * Nat.pow 10 a.places.length := by
    rw [natAbs_eq_digitsValue, ← hpow]
    ac_rfl
  rw [Numeral.magnitude_eq_digitsValue,
    div_eq_div_iff (Numeral.pow_ten_ne_zero _) (cast_unitsPerCoin_ne_zero _)]
  exact_mod_cast hunits

theorem cast_units (a : Amount) :
    (a.units : ℚ) = if a.units < 0 then -(a.units.natAbs : ℚ) else a.units.natAbs := by
  split
  · next h =>
      have hint : a.units = -(a.units.natAbs : ℤ) := by omega
      rw [← Int.cast_natCast, ← Int.cast_neg, ← hint]
  · next h =>
      have hint : a.units = (a.units.natAbs : ℤ) := by omega
      rw [← Int.cast_natCast, ← hint]

/-- The printed numeral denotes the number of whole coins. -/
theorem value_printed (a : Amount) : a.printed.value = a.coins := by
  rw [Numeral.value, magnitude_printed, coins, cast_units, printed]
  by_cases h : a.units < 0 <;> simp [h, neg_div]

theorem coins_eq_of_numeral (h : a.numeral = b.numeral) : a.coins = b.coins := by
  rw [← value_printed, printed_eq_of_numeral h, value_printed]

/-- An amount that counts the same coins in smaller units is printed in the same way. -/
theorem numeral_eq_of_smaller {k : Nat} (hexponent : b.currency.exponent = a.currency.exponent + k)
    (hunits : b.units = a.units * Nat.pow 10 k) : b.numeral = a.numeral := by
  have hpos : 0 < Nat.pow 10 k := Nat.pow_pos (by decide)
  have hscale : b.currency.unitsPerCoin = a.currency.unitsPerCoin * Nat.pow 10 k := by
    rw [Currency.unitsPerCoin, hexponent]
    exact Nat.pow_add 10 _ k
  have habs : b.units.natAbs = a.units.natAbs * Nat.pow 10 k := by
    rw [hunits, Int.natAbs_mul, Int.natAbs_natCast]
  have hrest : b.units.natAbs % b.currency.unitsPerCoin =
      a.units.natAbs % a.currency.unitsPerCoin * Nat.pow 10 k := by
    rw [habs, hscale, Nat.mul_mod_mul_right]
  have hwhole : b.printedWhole = a.printedWhole := by
    rw [printedWhole, habs, hscale, Nat.mul_div_mul_right _ _ hpos, printedWhole]
  have hunsigned : b.printedUnsigned = a.printedUnsigned := by
    rw [printedUnsigned, printedUnsigned, hwhole, hrest]
    by_cases hzero : a.units.natAbs % a.currency.unitsPerCoin = 0
    · rw [hzero, Nat.zero_mul]
      rfl
    · have hfraction : b.printedFraction = a.printedFraction := by
        rw [printedFraction, hrest, hexponent, toDigits_mul_pow (Nat.pos_of_ne_zero hzero),
          Text.padLeft, List.length_append, List.length_replicate, Nat.add_sub_add_right,
          ← List.append_assoc, Text.dropRightWhile_append_replicate]
        rfl
      rw [if_neg hzero, if_neg (Nat.mul_ne_zero hzero (Nat.ne_of_gt hpos)), hfraction]
  have hsign : b.units < 0 ↔ a.units < 0 := by
    have hscaled := Int.mul_lt_mul_right (b := a.units) (c := 0) (Int.natCast_pos.mpr hpos)
    rwa [Int.zero_mul, ← hunits] at hscaled
  rw [numeral_eq, numeral_eq, hunsigned]
  simp only [hsign]

/-- Amounts are printed alike exactly when they make the same number of coins. -/
theorem numeral_eq_iff : a.numeral = b.numeral ↔ a.coins = b.coins := by
  refine ⟨coins_eq_of_numeral, fun h => ?_⟩
  have hsmaller : ∀ {c d : Amount}, c.currency.exponent ≤ d.currency.exponent →
      c.coins = d.coins → d.numeral = c.numeral := by
    intro c d hle heq
    obtain ⟨k, hk⟩ := Nat.exists_eq_add_of_le hle
    have hpow : (d.currency.unitsPerCoin : ℤ) = Nat.pow 10 k * c.currency.unitsPerCoin := by
      rw [Currency.unitsPerCoin, hk, Nat.add_comm]
      exact congrArg Nat.cast (Nat.pow_add 10 k _)
    have hpos : (c.currency.unitsPerCoin : ℤ) ≠ 0 :=
      Int.natCast_ne_zero.mpr (Nat.ne_of_gt c.currency.unitsPerCoin_pos)
    rw [coins_eq_iff, hpow, ← Int.mul_assoc] at heq
    exact numeral_eq_of_smaller hk (Int.eq_of_mul_eq_mul_right hpos heq).symm
  rcases Nat.le_total a.currency.exponent b.currency.exponent with hle | hle
  · exact (hsmaller hle h).symm
  · exact hsmaller hle h.symm

end Amount

end PaymentUri
