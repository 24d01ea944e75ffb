import Mathlib.Algebra.Order.Field.Basic
import PaymentUri.Amount.Decimal
import PaymentUri.Proofs.WholeCoins
/-!
# The notation of amounts

An amount is printed as the canonical numeral of its whole coins: no zero is written that
says nothing, a minus stands before numbers below zero only, and there are no more decimal
places than the currency has. The exact decimal of the amount denotes the same number. Only
an amount of a currency with more than 4300 decimal places can have a fraction that is too
long to be printed. The digits of an exact decimal include the whole coins, so they are too
many a little earlier.

A numeral that is read may have thirty-two decimal places, and a currency may have more. An
amount is therefore read back from its printed form exactly when thirty-two places are
enough to print it.
-/

namespace PaymentUri

theorem Text.getLast?_dropRightWhile (t : Text) (c : Char) :
    (dropRightWhile (· == c) t).getLast? ≠ some c := by
  intro hlast
  obtain ⟨front, hsplit⟩ := List.getLast?_eq_some_iff.mp hlast
  have hne : t.rdropWhile (· == c) ≠ [] := by
    intro hnil
    have hboth : front ++ [c] = [] := hsplit.symm.trans hnil
    simp at hboth
  have hkept := List.rdropWhile_last_not (· == c) t hne
  have heq : (t.rdropWhile (· == c)).getLast hne = c := by
    have := List.getLast?_eq_some_getLast hne
    exact Option.some.inj (this.symm.trans hlast)
  rw [heq] at hkept
  simp at hkept

namespace Numeral

variable {n : Numeral}

/-- The form that a number has only one of, with at most so many decimal places. -/
structure IsCanonical (places : Nat) (n : Numeral) : Prop where
  whole : IsDigits n.whole
  fraction : IsDigits n.fraction
  present : n.whole ≠ []
  length_whole : n.whole.length ≤ 32
  length_fraction : n.fraction.length ≤ places
  /-- A zero stands in front only where it is the one digit before the point. -/
  leading : n.whole.head? = some '0' → n.whole = ['0']
  /-- The last decimal place counts. -/
  trailing : n.fraction.getLast? ≠ some '0'
  sign : n.negative = true → n.value < 0

/-- A number above nine is not written with a zero in front: without it, there would be
fewer digits than the number needs. -/
theorem toDigits_eq_of_head? {k : Nat} (h : (Nat.toDigits 10 k).head? = some '0') :
    Nat.toDigits 10 k = ['0'] := by
  obtain ⟨rest, hrest⟩ := List.head?_eq_some_iff.mp h
  have hvalue : k = digitsValue rest := by
    have hzero : digitsValue ['0'] = 0 := rfl
    rw [← digitsValue_toDigits k, hrest, ← List.singleton_append, digitsValue_append, hzero,
      Nat.mul_zero, Nat.zero_add]
  by_contra hother
  have hpos : 0 < rest.length := by
    rw [List.length_pos_iff]
    rintro rfl
    exact hother hrest
  have hdigits : IsDigits rest := fun c hc =>
    isDigits_toDigits k c (by rw [hrest]; exact List.mem_cons_of_mem _ hc)
  have hlt : k < 10 ^ rest.length := hvalue ▸ digitsValue_lt hdigits
  have hlen := (Nat.length_toDigits_le_iff (by decide) hpos).mpr hlt
  rw [hrest, List.length_cons] at hlen
  omega

/-- Digits around a point, or without it, are read unless too many stand behind the point. -/
theorem ofText?_text (hwhole : IsDigits n.whole) (hfraction : IsDigits n.fraction)
    (hne : n.whole ≠ []) (hlen : n.whole.length ≤ maxDigits) :
    ofText? n.text = if n.fraction.length ≤ maxDigits then some n else none := by
  have hpos : 1 ≤ n.whole.length := List.length_pos_iff.mpr hne
  rw [ofText?, sign_text hwhole hne, unsigned?, takeWhile_append_pointed hwhole,
    dropWhile_append_pointed hwhole]
  obtain ⟨negative, whole, fraction⟩ := n
  cases fraction with
  | nil => simp [pointed, hpos, hlen]
  | cons c cs =>
      have hall : (c :: cs).all Char.isDigit = true := List.all_eq_true.mpr hfraction
      simp [pointed, hall, hlen, hne]

end Numeral

/-- Only a currency with more than 4300 decimal places has fractions of too many digits. -/
theorem Currency.lt_exponent_of_isLong {c : Currency} {n : Nat}
    (h : Text.IsLong (n % c.unitsPerCoin)) : 4300 < c.exponent := by
  by_contra hle
  have hrest : n % c.unitsPerCoin ≠ 0 := by
    intro hzero
    rw [hzero] at h
    exact Text.not_isLong_zero h
  exact Text.not_isLong_of_length_le (length_toDigits_mod_le hrest) (Nat.not_lt.mp hle) h

def Decimal.value (d : Decimal) : ℚ :=
  (if d.negative then -1 else 1) * Numeral.digitsValue d.digits * 10 ^ d.exponent

namespace Amount

theorem isDigits_places (a : Amount) : Numeral.IsDigits a.places := by
  rw [places]
  split
  · exact fun c hc => absurd hc List.not_mem_nil
  · exact a.isDigits_printedFraction

theorem getLast?_places (a : Amount) : a.places.getLast? ≠ some '0' := by
  rw [places]
  split
  · simp
  · exact Text.getLast?_dropRightWhile _ '0'

theorem coins_neg {a : Amount} (h : a.units < 0) : a.coins < 0 :=
  div_neg_of_neg_of_pos (Int.cast_lt_zero.mpr h) (Nat.cast_pos.mpr a.currency.unitsPerCoin_pos)

theorem isCanonical_printed (a : Amount) : a.printed.IsCanonical a.currency.exponent where
  whole := a.isDigits_printedWhole
  fraction := a.isDigits_places
  present := a.printed_whole_ne_nil
  length_whole := a.length_printedWhole_le
  length_fraction := a.length_places_le
  leading := Numeral.toDigits_eq_of_head?
  trailing := a.getLast?_places
  sign h := by
    rw [value_printed]
    exact coins_neg (of_decide_eq_true h)

theorem value_of_decimal? {a : Amount} {d : Decimal} (h : a.decimal? = some d) :
    d.value = a.coins := by
  have hscale : (10 : ℚ) ^ (-(a.currency.exponent : ℤ)) = (a.currency.unitsPerCoin : ℚ)⁻¹ := by
    rw [zpow_neg, zpow_natCast]
    exact congrArg _ (Nat.cast_pow 10 a.currency.exponent).symm
  obtain ⟨digits, hdigits, rfl⟩ := Option.map_eq_some_iff.mp h
  obtain ⟨-, rfl⟩ := Text.digits?_eq_some.mp hdigits
  rw [Decimal.value, Numeral.digitsValue_toDigits, hscale, coins, cast_units, div_eq_mul_inv]
  by_cases hneg : a.units < 0 <;> simp [hneg]

theorem decimal?_eq_some {a : Amount} (h : ¬ Text.IsLong a.units.natAbs) :
    a.decimal? = some
      ⟨decide (a.units < 0), Nat.toDigits 10 a.units.natAbs, -(a.currency.exponent : ℤ)⟩ := by
  rw [decimal?, Text.digits?_eq_some.mpr ⟨h, rfl⟩]
  rfl

theorem decimal?_eq_none {a : Amount} : a.decimal? = none ↔ Text.IsLong a.units.natAbs := by
  rw [decimal?, Option.map_eq_none_iff, Text.digits?_eq_none]

/-- The whole coins never have too many digits, so what is printed depends on the fraction. -/
theorem format?_eq (a : Amount) :
    a.format? = if Text.IsLong (a.units.natAbs % a.currency.unitsPerCoin) then none
      else some a.numeral := by
  have hwhole : Text.digits? a.wholeCoins = some (Nat.toDigits 10 a.wholeCoins) :=
    Text.digits?_eq_some.mpr
      ⟨Text.not_isLong_of_length_le a.length_printedWhole_le (by decide), rfl⟩
  change _ = if Text.IsLong a.rest then none else _
  rw [format?, hwhole]
  split
  · next hlong =>
      rw [Text.digits?_eq_none.mpr hlong]
      rfl
  · next hshort =>
      rw [Text.digits?_eq_some.mpr ⟨hshort, rfl⟩]
      rfl

theorem format?_eq_none {a : Amount} :
    a.format? = none ↔ Text.IsLong (a.units.natAbs % a.currency.unitsPerCoin) := by
  rw [format?_eq]
  split <;> simp_all

/-- What is printed is the numeral of the amount. -/
theorem eq_numeral_of_format? {a : Amount} {t : Text} (h : a.format? = some t) : t = a.numeral := by
  rw [format?_eq] at h
  split at h
  · contradiction
  · exact (Option.some.inj h).symm

/-- Up to 4300 decimal places are never too many to be printed. -/
theorem format?_ne_none {a : Amount} (h : a.currency.exponent ≤ 4300) : a.format? ≠ none :=
  fun hnone => absurd h (Nat.not_le.mpr (Currency.lt_exponent_of_isLong (format?_eq_none.mp hnone)))

/-- What is printed is the text of a canonical numeral, and of no other. That numeral denotes
the number of whole coins, and so does the exact decimal; amounts in whatever currencies are
printed alike exactly when they make the same number of coins. Nothing is printed exactly
when the fraction has too many digits, and there is no decimal when the units have. -/
theorem format?_exact (a : Amount) :
    (a.format? = none ↔ Text.IsLong (a.units.natAbs % a.currency.unitsPerCoin)) ∧
    (a.currency.exponent ≤ 4300 → a.format? ≠ none) ∧
    (a.decimal? = none ↔ Text.IsLong a.units.natAbs) ∧
    (∀ d, a.decimal? = some d → d.value = a.coins) ∧
    ∀ t, a.format? = some t →
      ∃ n : Numeral, t = n.text ∧ n.IsCanonical a.currency.exponent ∧
        (∀ places m, Numeral.IsCanonical places m → m.text = t → m = n) ∧
        (n.negative = true ↔ a.units < 0) ∧ n.value = a.coins ∧
        ∀ (b : Amount) (u : Text), b.format? = some u → (t = u ↔ a.coins = b.coins) := by
  refine ⟨format?_eq_none, format?_ne_none, decimal?_eq_none, fun d => value_of_decimal?, ?_⟩
  intro t ht
  obtain rfl := eq_numeral_of_format? ht
  have hform := a.isCanonical_printed
  refine ⟨a.printed, a.numeral_eq_text, hform, ?_, decide_eq_true_iff, a.value_printed, ?_⟩
  · intro places m hm htext
    rw [numeral_eq_text] at htext
    exact Numeral.text_inj hm.whole hform.whole hm.present hform.present htext
  · intro b u hu
    rw [eq_numeral_of_format? hu]
    exact numeral_eq_iff

/-- Half a coin is neither printed nor turned into a decimal if it is enough units of a
currency with enough decimal places. -/
theorem format?_half :
    (half 4999).format? = none ∧ (half 4999).decimal? = none ∧
      ∀ n : Numeral, (half 4999).format? ≠ some n.text := by
  have hunprinted : ∀ k, Text.maxIntegerDigits ≤ k → (half k).format? = none := by
    intro k hk
    rw [format?_eq_none, mod_half]
    exact isLong_half hk
  have hnone : (half 4999).format? = none := hunprinted 4999 (by decide)
  refine ⟨hnone, decimal?_eq_none.mpr (isLong_half (by decide)), fun n h => ?_⟩
  cases hnone.symm.trans h

instance {a : Amount} : Decidable a.IsShort :=
  inferInstanceAs (Decidable (Nat.pow 10 (a.currency.exponent - Numeral.maxDigits) ∣ _))

/-- The significant decimal places are those that are printed. -/
theorem isShort_iff {a : Amount} : a.IsShort ↔ a.places.length ≤ Numeral.maxDigits := by
  constructor
  · intro h
    rw [places]
    split
    · exact Nat.zero_le _
    · next hrest => exact length_printedFraction_le h hrest
  · intro h
    have hpow : Nat.pow 10 (a.currency.exponent - Numeral.maxDigits) ∣
        Nat.pow 10 (a.currency.exponent - a.places.length) :=
      Nat.pow_dvd_pow 10 (Nat.sub_le_sub_left h _)
    rw [IsShort, natAbs_eq_digitsValue]
    exact Nat.dvd_mul_right_of_dvd hpow _

/-- The printed form of an amount states the amount again, unless there are more decimal
places to print than a numeral may have: then it is no numeral. A currency with at most
thirty-two decimal places has no such amounts. -/
theorem ofText?_numeral_exact (a : Amount) :
    ofText? a.currency a.numeral =
        (if a.IsShort then .ok a else .error (.notNumeral (.text a.numeral))) ∧
      (a.currency.exponent ≤ Numeral.maxDigits → ofText? a.currency a.numeral = .ok a) ∧
      a.numeral = a.printed.text ∧ (¬ a.IsShort ↔ 32 < a.printed.fraction.length) := by
  refine ⟨?_, fun hle => ofText?_numeral (isShort_of_exponent_le hle), a.numeral_eq_text,
    (not_congr isShort_iff).trans Nat.not_le⟩
  split
  · next hshort => exact ofText?_numeral hshort
  · next hlong =>
      have hnone : Numeral.ofText? a.numeral = none := by
        rw [numeral_eq_text, Numeral.ofText?_text a.isDigits_printedWhole a.isDigits_places
          a.printed_whole_ne_nil a.length_printedWhole_le]
        exact if_neg (mt isShort_iff.mpr hlong)
      rw [ofText?, ofDatum?, hnone]

def debt : Amount where
  currency := ⟨"bitcoin.main".toList, "Bitcoin".toList, "BTC".toList, "bitcoin".toList, 8, 0, 5⟩
  units := -150000000
  inRange := by decide

theorem ofText?_numeral_exact_debt :
    debt.currency.exponent ≤ Numeral.maxDigits ∧ debt.numeral = "-1.5".toList ∧
      ofText? debt.currency debt.numeral = .ok debt :=
  ⟨by decide, rfl, (ofText?_numeral_exact debt).2.1 (by decide)⟩

def fineUnit : Amount where
  currency := ⟨"fine".toList, "Fine".toList, "FIN".toList, "fine".toList, 33, 60, 61⟩
  units := 1
  inRange := by decide

/-- The smallest unit of a currency with thirty-three decimal places is printed, but what is
printed is refused. -/
theorem ofText?_numeral_fineUnit :
    fineUnit.numeral = "0.000000000000000000000000000000001".toList ∧
      ofText? fineUnit.currency fineUnit.numeral =
        .error (.notNumeral (.text "0.000000000000000000000000000000001".toList)) ∧
      ofText? fineUnit.currency fineUnit.numeral ≠ .ok fineUnit := by
  have hprinted : fineUnit.numeral = "0.000000000000000000000000000000001".toList := rfl
  have hrefused : ofText? fineUnit.currency fineUnit.numeral =
      .error (.notNumeral (.text "0.000000000000000000000000000000001".toList)) := rfl
  refine ⟨hprinted, hrefused, fun h => ?_⟩
  rw [hrefused] at h
  contradiction

end Amount

end PaymentUri
