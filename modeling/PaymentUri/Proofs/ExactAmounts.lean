import Mathlib.Algebra.Field.Basic
import Mathlib.Algebra.Field.Rat
import Mathlib.Algebra.Order.Ring.Rat
import PaymentUri.Proofs.Amount
import PaymentUri.Proofs.LongNumbers
import PaymentUri.Radix
/-!
# Amounts are read exactly

A numeral denotes a rational number of whole coins. An amount is read from it exactly when
so many coins are a whole number of the smallest units, and then it counts these units: the
zeros that are written at either end, the sign of zero and the number of decimal places of
the currency make no difference to that.

The digits can also be counted one by one: zeros are taken from the end as long as places
remain, and the digits that are left are shifted by the places that the currency has in
addition. That procedure answers the same, since the same number decides its answer.
-/

namespace PaymentUri

namespace Numeral

variable {n : Numeral} {exponent : Nat} {units : ℤ}

/-- The number that the digits denote, without the sign. -/
def magnitude (n : Numeral) : ℚ :=
  digitsValue n.whole + digitsValue n.fraction / Nat.pow 10 n.fraction.length

/-- The number that a numeral denotes. -/
def value (n : Numeral) : ℚ := if n.negative then -n.magnitude else n.magnitude

theorem pow_ten_ne_zero (k : Nat) : ((Nat.pow 10 k : Nat) : ℚ) ≠ 0 :=
  Nat.cast_ne_zero.mpr (Nat.ne_of_gt (Nat.pow_pos (by decide)))

theorem pow_ten_of_le {d e : Nat} (h : d ≤ e) :
    Nat.pow 10 e = Nat.pow 10 (e - d) * Nat.pow 10 d := by
  have hpow := Nat.pow_add 10 (e - d) d
  rwa [Nat.sub_add_cancel h] at hpow

/-- A number of tenths, hundredths and so on makes a whole number of units when a unit is no
larger than that. A larger unit is not filled by a number that ends in another digit than
zero. -/
theorem div_mul_eq_iff {m d e : Nat} {k : ℤ} (hreduced : e < d → ¬ 10 ∣ m) :
    (m : ℚ) / Nat.pow 10 d * Nat.pow 10 e = k ↔ d ≤ e ∧ k = m * Nat.pow 10 (e - d) := by
  rw [div_mul_eq_mul_div, div_eq_iff (pow_ten_ne_zero d)]
  rcases Nat.lt_or_ge e d with hlt | hle
  · refine iff_of_false (fun h => ?_) (fun h => Nat.not_le.mpr hlt h.1)
    have hint : (m : ℤ) * Nat.pow 10 e = k * Nat.pow 10 d := by exact_mod_cast h
    rw [pow_ten_of_le (Nat.le_of_lt hlt), Nat.cast_mul, ← mul_assoc] at hint
    have hne : ((Nat.pow 10 e : Nat) : ℤ) ≠ 0 :=
      Int.natCast_ne_zero.mpr (Nat.ne_of_gt (Nat.pow_pos (by decide)))
    have hm : (m : ℤ) = k * Nat.pow 10 (d - e) := Int.eq_of_mul_eq_mul_right hne hint
    have hten : 10 ∣ Nat.pow 10 (d - e) := Nat.pow_dvd_pow 10 (Nat.sub_pos_of_lt hlt)
    have hdvd : ((10 : Nat) : ℤ) ∣ m :=
      hm ▸ Int.dvd_mul_of_dvd_right (Int.natCast_dvd_natCast.mpr hten)
    exact hreduced hlt (Int.natCast_dvd_natCast.mp hdvd)
  · rw [and_iff_right hle, pow_ten_of_le hle, Nat.cast_mul, ← mul_assoc,
      mul_left_inj' (pow_ten_ne_zero d), eq_comm]
    exact_mod_cast Iff.rfl

theorem value_mul_eq_iff {u : ℚ} :
    n.value * u = units ↔ n.magnitude * u = ((if n.negative then -units else units : ℤ) : ℚ) := by
  rw [value]
  cases n.negative with
  | false => exact Iff.rfl
  | true => rw [if_pos rfl, if_pos rfl, neg_mul, neg_eq_iff_eq_neg, Int.cast_neg]

/-- Zeros at the end of a numeral can be left out when its digits are counted as a whole. -/
theorem magnitude_eq {t : Text} {k : Nat} (h : n.fraction = t ++ List.replicate k '0') :
    n.magnitude = digitsValue (n.whole ++ t) / Nat.pow 10 t.length := by
  have hpow : Nat.pow 10 (t.length + k) = Nat.pow 10 k * Nat.pow 10 t.length := by
    rw [Nat.add_comm]
    exact Nat.pow_add 10 k t.length
  have hplaces : ((digitsValue n.fraction : Nat) : ℚ) / Nat.pow 10 n.fraction.length =
      digitsValue t / Nat.pow 10 t.length := by
    rw [h, digitsValue_append, digitsValue_replicate_zero, Nat.add_zero, List.length_append,
      List.length_replicate, hpow, Nat.cast_mul, Nat.cast_mul,
      mul_div_mul_left _ _ (pow_ten_ne_zero k)]
  rw [magnitude, hplaces, digitsValue_append, Nat.cast_add, Nat.cast_mul, add_div,
    mul_div_cancel_left₀ _ (pow_ten_ne_zero t.length)]

theorem magnitude_eq_digitsValue (n : Numeral) :
    n.magnitude = digitsValue (n.whole ++ n.fraction) / Nat.pow 10 n.fraction.length :=
  magnitude_eq (k := 0) (List.append_nil _).symm

theorem isDigits_significantFraction (hn : n.WellFormed) : IsDigits n.significantFraction :=
  fun c hc => hn.fraction c (Text.mem_of_mem_dropRightWhile hc)

/-- Digits of which the last is not zero do not count tens. -/
theorem not_ten_dvd_digitsValue {t : Text} (ht : IsDigits t) (hne : t ≠ [])
    (hlast : t.getLast hne ≠ '0') : ¬ 10 ∣ digitsValue t := by
  have hdigit := toNat_of_isDigit (ht _ (List.getLast_mem hne))
  have hzero : (t.getLast hne).toNat ≠ 48 := by
    intro h
    exact hlast (by rw [← Char.ofNat_toNat (t.getLast hne), h])
  rw [← List.dropLast_append_getLast hne, digitsValue_append, digitsValue_singleton]
  change ¬ 10 ∣ 10 * _ + _
  omega

theorem not_ten_dvd_significant (hn : n.WellFormed) (hplaces : 0 < n.significantFraction.length) :
    ¬ 10 ∣ digitsValue (n.whole ++ n.significantFraction) := by
  have hne : n.significantFraction ≠ [] := List.length_pos_iff.mp hplaces
  have hlast : n.significantFraction.getLast hne ≠ '0' := by
    intro hzero
    exact List.rdropWhile_last_not (· == '0') n.fraction hne (beq_iff_eq.mpr hzero)
  refine not_ten_dvd_digitsValue (hn.whole.append (isDigits_significantFraction hn))
    (List.append_ne_nil_of_right_ne_nil _ hne) ?_
  rwa [List.getLast_append_of_ne_nil _ hne]

/-- A numeral counts units exactly when the number that it denotes makes so many of them. -/
theorem scaled?_eq_some_iff (hn : n.WellFormed) :
    n.scaled? exponent = some units ↔ n.value * Nat.pow 10 exponent = units := by
  have hzeros := Text.dropRightWhile_append n.fraction '0'
  have hreduced : exponent < n.significantFraction.length →
      ¬ 10 ∣ digitsValue (n.whole ++ n.significantFraction) :=
    fun hlt => not_ten_dvd_significant hn (Nat.zero_lt_of_lt hlt)
  rw [value_mul_eq_iff, magnitude_eq hzeros.symm, scaled?_eq_some]
  change _ ↔ (digitsValue (n.whole ++ n.significantFraction) : ℚ) /
    Nat.pow 10 n.significantFraction.length * Nat.pow 10 exponent = _
  rw [div_mul_eq_iff hreduced, unitDigits, digitsValue_append, digitsValue_replicate_zero,
    Nat.add_zero, List.length_replicate, Nat.mul_comm, ← Int.natCast_mul]
  apply and_congr_right
  intro _
  split
  · rw [neg_eq_iff_eq_neg]
  · exact Iff.rfl

end Numeral

/-- The digits of a number as one whole, the last one first, of which some stand after the
point. -/
structure Expansion where
  negative : Bool
  digits : List Nat
  /-- How many digits stand after the point. -/
  places : Nat
  deriving DecidableEq, Repr

namespace Expansion

variable {digits : List Nat} {places exponent : Nat} {units : ℤ}

def ofNumeral (n : Numeral) : Expansion where
  negative := n.negative
  digits := match Radix.littleEndian 10 (Numeral.digitsValue (n.whole ++ n.fraction)) with
    | [] => [0]
    | digits => digits
  places := n.fraction.length

/-- Zeros are taken from the end as long as there are places and another digit is left. -/
def trim : List Nat → Nat → List Nat × Nat
  | 0 :: d :: digits, places + 1 => trim (d :: digits) places
  | digits, places => (digits, places)

def trimmed (x : Expansion) : Expansion where
  negative := x.negative
  digits := (trim x.digits x.places).1
  places := (trim x.digits x.places).2

/-- The number that the digits make without the point. -/
def count (x : Expansion) : Nat := Radix.value 10 x.digits.reverse

/-- The number of units, of which one coin has `10 ^ exponent`. Digits beyond the units are
only passed over when there is nothing but zeros. -/
def scaled? (x : Expansion) (exponent : Nat) : Option ℤ :=
  if exponent < x.places ∧ x.digits.any (· != 0) then none
  else
    let magnitude : ℤ :=
      if exponent < x.places then 0 else x.count * Nat.pow 10 (exponent - x.places)
    some (if x.negative then -magnitude else magnitude)

theorem value_reverse_cons (d : Nat) (digits : List Nat) :
    Radix.value 10 (d :: digits).reverse = Radix.value 10 digits.reverse * 10 + d := by
  rw [List.reverse_cons, Radix.value_append_singleton]

/-- Trimming does not change the number. -/
theorem value_trim (digits : List Nat) (places : Nat) :
    (Radix.value 10 (trim digits places).1.reverse : ℚ) / Nat.pow 10 (trim digits places).2 =
      Radix.value 10 digits.reverse / Nat.pow 10 places := by
  fun_induction trim digits places with
  | case1 d digits places ih =>
      have hpow : Nat.pow 10 (places + 1) = Nat.pow 10 places * 10 := rfl
      rw [ih, value_reverse_cons 0, Nat.add_zero, hpow, Nat.cast_mul, Nat.cast_mul,
        mul_div_mul_right _ _ (Nat.cast_ne_zero.mpr (by decide))]
  | case2 digits places hdone => rfl

theorem mem_of_mem_trim {d : Nat} (h : d ∈ (trim digits places).1) : d ∈ digits := by
  fun_induction trim digits places with
  | case1 e digits places ih => exact List.mem_cons_of_mem 0 (ih h)
  | case2 digits places hdone => exact h

/-- What is left after trimming ends in a digit that counts, unless no place is left or no
digit counts. -/
theorem head?_trim (hplaces : 0 < (trim digits places).2)
    (hcounts : (trim digits places).1.any (· != 0) = true) :
    ∃ d rest, (trim digits places).1 = d :: rest ∧ d ≠ 0 := by
  fun_induction trim digits places with
  | case1 e digits places ih => exact ih hplaces hcounts
  | case2 digits places hdone =>
      obtain ⟨places, rfl⟩ := Nat.exists_eq_succ_of_ne_zero (Nat.ne_of_gt hplaces)
      cases digits with
      | nil => contradiction
      | cons d rest =>
          refine ⟨d, rest, rfl, ?_⟩
          rintro rfl
          cases rest with
          | nil => contradiction
          | cons e rest => exact hdone e rest places rfl rfl

theorem value_reverse_eq_zero (h : digits.any (· != 0) = false) :
    Radix.value 10 digits.reverse = 0 := by
  induction digits with
  | nil => rfl
  | cons d digits ih =>
      rw [List.any_cons, Bool.or_eq_false_iff, bne_eq_false_iff_eq] at h
      rw [value_reverse_cons, ih h.2, h.1]

theorem count_ofNumeral (n : Numeral) :
    (ofNumeral n).count = Numeral.digitsValue (n.whole ++ n.fraction) := by
  have hvalue := Radix.value_digits (by decide : 2 ≤ 10)
    (Numeral.digitsValue (n.whole ++ n.fraction))
  rw [Radix.digits] at hvalue
  rw [count, ofNumeral]
  dsimp only
  split
  · next hnone => rwa [hnone] at hvalue
  · exact hvalue

theorem lt_of_mem_ofNumeral {n : Numeral} {d : Nat} (h : d ∈ (ofNumeral n).digits) : d < 10 := by
  rw [ofNumeral] at h
  dsimp only at h
  split at h
  · obtain rfl := List.mem_singleton.mp h
    decide
  · exact Radix.lt_of_mem_digits (by decide) _ d (List.mem_reverse.mpr h)

/-- After trimming, digits beyond the units end in one that counts, so they do not fill a
unit. -/
theorem not_ten_dvd_count_trimmed {x : Expansion} (hdigits : ∀ d ∈ x.digits, d < 10)
    (hplaces : 0 < x.trimmed.places) (hcounts : x.trimmed.digits.any (· != 0) = true) :
    ¬ 10 ∣ x.trimmed.count := by
  obtain ⟨d, rest, hsplit, hd⟩ := head?_trim hplaces hcounts
  have hlt : d < 10 := hdigits d (mem_of_mem_trim (by rw [hsplit]; exact List.mem_cons_self))
  have hcount : x.trimmed.count = Radix.value 10 rest.reverse * 10 + d := by
    rw [← value_reverse_cons, ← hsplit]
    rfl
  omega

/-- Counting digit by digit, too, gives the units that the number denoted makes. -/
theorem scaled?_trimmed_eq_some_iff (n : Numeral) :
    (ofNumeral n).trimmed.scaled? exponent = some units ↔
      n.value * Nat.pow 10 exponent = units := by
  have hmagnitude : n.magnitude =
      ((ofNumeral n).trimmed.count : ℚ) / Nat.pow 10 (ofNumeral n).trimmed.places := by
    rw [n.magnitude_eq_digitsValue, ← count_ofNumeral]
    exact (value_trim _ _).symm
  have hsign : (ofNumeral n).trimmed.negative = n.negative := rfl
  rw [Numeral.value_mul_eq_iff, hmagnitude, scaled?, hsign]
  cases hcounts : (ofNumeral n).trimmed.digits.any (· != 0) with
  | true =>
      have hreduced : exponent < (ofNumeral n).trimmed.places →
          ¬ 10 ∣ (ofNumeral n).trimmed.count := fun hlt =>
        not_ten_dvd_count_trimmed (fun d => lt_of_mem_ofNumeral) (Nat.zero_lt_of_lt hlt) hcounts
      rw [Numeral.div_mul_eq_iff hreduced]
      by_cases hlt : exponent < (ofNumeral n).trimmed.places
      · simp [hlt]
      · rw [if_neg (fun h => hlt h.1), if_neg hlt, Option.some.injEq,
          and_iff_right (Nat.not_lt.mp hlt)]
        split
        · rw [neg_eq_iff_eq_neg, eq_comm]
        · exact eq_comm
  | false =>
      have hcount : (ofNumeral n).trimmed.count = 0 := value_reverse_eq_zero hcounts
      rw [hcount]
      cases n.negative <;> simp [eq_comm]

/-- Counting digit by digit answers what counting the significant digits answers. -/
theorem scaled?_trimmed {n : Numeral} (hn : n.WellFormed) (exponent : Nat) :
    (ofNumeral n).trimmed.scaled? exponent = n.scaled? exponent :=
  Option.ext fun _ => (scaled?_trimmed_eq_some_iff n).trans
    (Numeral.scaled?_eq_some_iff hn).symm

end Expansion

namespace Amount

/-- What reading an amount answers: a datum that is no numeral, a numeral that denotes no whole
number of units, or the amount of the units that it denotes. A datum that is no numeral is named
by its refusal, and that fails where a whole number in it has too many digits to be written. -/
inductive States (c : Currency) : Datum → Except Refusal Amount → Prop
  | notNumeral {d : Datum} (unspelled : ∀ t n, d = .text t → ¬ Numeral.Spells t n)
      (short : ∀ k, d.Holds k → ¬ Text.IsLong k.natAbs) : States c d (.error (.notNumeral d))
  | unshown {d : Datum} {k : ℤ} (unspelled : ∀ t n, d = .text t → ¬ Numeral.Spells t n)
      (within : d.Holds k) (long : Text.IsLong k.natAbs) :
      States c d (.error .unshown)
  | tooPrecise {t : Text} {n : Numeral} (spelled : Numeral.Spells t n)
      (broken : ∀ units : ℤ, n.value * c.unitsPerCoin ≠ units) :
      States c (.text t) (.error (.tooPrecise t))
  | counted {t : Text} {n : Numeral} {a : Amount} (spelled : Numeral.Spells t n)
      (currency : a.currency = c) (units : n.value * c.unitsPerCoin = a.units) :
      States c (.text t) (.ok a)

/-- The amount that a datum states, counted digit by digit. -/
def ofDigits? (c : Currency) : Datum → Except Refusal Amount
  | .text t =>
    match Numeral.ofText? t with
    | none => .error (.notNumeral (.text t))
    | some n =>
      match (Expansion.ofNumeral n).trimmed.scaled? c.exponent with
      | none => .error (.tooPrecise t)
      | some units => ofUnits? c units
  | d => .error (refusalOf d)

theorem ofDigits?_eq (c : Currency) (d : Datum) : ofDigits? c d = ofDatum? c d := by
  cases d with
  | text t =>
      rw [ofDigits?, ofDatum?]
      cases hn : Numeral.ofText? t with
      | none => rfl
      | some n =>
          have hscaled := Expansion.scaled?_trimmed (Numeral.wellFormed_of_ofText? hn) c.exponent
          dsimp only
          generalize (Expansion.ofNumeral n).trimmed.scaled? c.exponent = units at hscaled
          subst hscaled
          rfl
  | _ => rfl

/-- A datum that is no numeral is refused as it has to be. -/
theorem states_refusalOf {c : Currency} {d : Datum}
    (hunspelled : ∀ t n, d = .text t → ¬ Numeral.Spells t n) :
    States c d (.error (refusalOf d)) := by
  rw [refusalOf]
  split
  · next hshown => exact .notNumeral hunspelled (Datum.isShown_iff_not_isLong.mp hshown)
  · next hunshown =>
      obtain ⟨k, hk, hlong⟩ : ∃ k, d.Holds k ∧ Text.IsLong k.natAbs := by
        simpa using mt Datum.isShown_iff_not_isLong.mpr hunshown
      exact .unshown hunspelled hk hlong

/-- Whatever is handed in, what is answered is right. -/
theorem states_ofDatum? (c : Currency) (d : Datum) : States c d (ofDatum? c d) := by
  cases d with
  | text t =>
      change States c (.text t) (ofText? c t)
      rcases ofText?_cases c t with ⟨hn, h⟩ | ⟨n, hn, hscaled, h⟩ | ⟨n, a, hn, hscaled, rfl, -, h⟩
      · rw [h]
        refine .notNumeral ?_ nofun
        rintro _ n ⟨⟩ hspelled
        rw [Numeral.ofText?_eq_some.mpr hspelled] at hn
        contradiction
      · have hformed := Numeral.wellFormed_of_ofText? hn
        rw [h]
        refine .tooPrecise (Numeral.ofText?_eq_some.mp hn) fun units hunits => ?_
        rw [(Numeral.scaled?_eq_some_iff hformed).mpr hunits] at hscaled
        contradiction
      · have hformed := Numeral.wellFormed_of_ofText? hn
        rw [h]
        exact .counted (Numeral.ofText?_eq_some.mp hn) rfl
          ((Numeral.scaled?_eq_some_iff hformed).mp hscaled)
  | _ => exact states_refusalOf fun _ _ h => by contradiction

/-- A text states an amount exactly when it spells a numeral that denotes its units. -/
theorem ofText?_eq_ok_iff_counts {c : Currency} {t : Text} {a : Amount} :
    ofText? c t = .ok a ↔
      a.currency = c ∧ ∃ n, Numeral.Spells t n ∧ n.value * c.unitsPerCoin = a.units := by
  rw [ofText?_eq_ok]
  apply and_congr_right
  intro _
  constructor
  · rintro ⟨n, hn, hscaled⟩
    have hformed := Numeral.wellFormed_of_ofText? hn
    exact ⟨n, Numeral.ofText?_eq_some.mp hn, (Numeral.scaled?_eq_some_iff hformed).mp hscaled⟩
  · rintro ⟨n, hspelled, hunits⟩
    have hn := Numeral.ofText?_eq_some.mpr hspelled
    have hformed := Numeral.wellFormed_of_ofText? hn
    exact ⟨n, hn, (Numeral.scaled?_eq_some_iff hformed).mpr hunits⟩

/-- Units that a numeral denotes make an amount, which is in range. -/
theorem exists_ofText?_of_counts {c : Currency} {t : Text} {n : Numeral} {units : ℤ}
    (hspelled : Numeral.Spells t n) (hunits : n.value * c.unitsPerCoin = units) :
    ∃ a, ofText? c t = .ok a ∧ a.units = units := by
  have hformed := Numeral.wellFormed_of_ofText? (Numeral.ofText?_eq_some.mpr hspelled)
  have hrange := Numeral.natAbs_lt_of_scaled? hformed
    ((Numeral.scaled?_eq_some_iff hformed).mpr hunits)
  exact ⟨⟨c, units, hrange⟩, ofText?_eq_ok_iff_counts.mpr ⟨rfl, n, hspelled, hunits⟩, rfl⟩

theorem ofDatum?_of_unspelled {c : Currency} {d : Datum}
    (hunspelled : ∀ t n, d = .text t → ¬ Numeral.Spells t n) :
    ofDatum? c d = .error (refusalOf d) := by
  cases d with
  | text t =>
      have hn : Numeral.ofText? t = none := Option.eq_none_iff_forall_ne_some.mpr fun n hn =>
        hunspelled t n rfl (Numeral.ofText?_eq_some.mp hn)
      rw [ofDatum?, hn, refusalOf, if_pos (Datum.isShown_text t)]
  | _ => rfl

theorem ofDatum?_of_broken {c : Currency} {t : Text} {n : Numeral} (hspelled : Numeral.Spells t n)
    (hbroken : ∀ units : ℤ, n.value * c.unitsPerCoin ≠ units) :
    ofDatum? c (.text t) = .error (.tooPrecise t) := by
  have hn := Numeral.ofText?_eq_some.mpr hspelled
  have hscaled : n.scaled? c.exponent = none :=
    Option.eq_none_iff_forall_ne_some.mpr fun units hunits => hbroken units
      ((Numeral.scaled?_eq_some_iff (Numeral.wellFormed_of_ofText? hn)).mp hunits)
  simp only [ofDatum?, hn, hscaled]

/-- No other answer to a datum is right. -/
theorem States.ofDatum?_eq {c : Currency} {d : Datum} {outcome : Except Refusal Amount}
    (h : States c d outcome) : ofDatum? c d = outcome := by
  cases h with
  | notNumeral hunspelled hshort =>
      rw [ofDatum?_of_unspelled hunspelled, refusalOf,
        if_pos (Datum.isShown_iff_not_isLong.mpr hshort)]
  | unshown hunspelled hk hlong =>
      have hunshown := fun hshown => Datum.isShown_iff_not_isLong.mp hshown _ hk hlong
      rw [ofDatum?_of_unspelled hunspelled, refusalOf, if_neg hunshown]
  | tooPrecise hspelled hbroken => exact ofDatum?_of_broken hspelled hbroken
  | counted hspelled hcurrency hunits =>
      exact ofText?_eq_ok_iff_counts.mpr ⟨hcurrency, _, hspelled, hunits⟩

/-- Amounts are read exactly: of all answers the right one is given, and counting digit by digit
gives it too. A numeral is never refused for its range. -/
theorem ofDatum?_eq_iff_states (c : Currency) (d : Datum) :
    (∀ outcome, ofDatum? c d = outcome ↔ States c d outcome) ∧ ofDigits? c d = ofDatum? c d := by
  refine ⟨fun outcome => ⟨?_, ?_⟩, ofDigits?_eq c d⟩
  · rintro rfl
    exact states_ofDatum? c d
  · exact States.ofDatum?_eq

def minute (exponent : Nat) : Currency :=
  ⟨"minute".toList, "Minute".toList, "MIN".toList, "minute".toList, exponent, 60, 61⟩

theorem five_mul_pow_lt (k : Nat) : 5 * Nat.pow 10 k < Nat.pow 10 (k + 1) := by
  have hpos : 0 < Nat.pow 10 k := Nat.pow_pos (by decide)
  change _ < Nat.pow 10 k * 10
  omega

/-- Half a coin of the currency with one decimal place more than `k`. -/
def half (k : Nat) : Amount where
  currency := minute (k + 1)
  units := (5 * Nat.pow 10 k : Nat)
  inRange := Nat.lt_of_lt_of_le (five_mul_pow_lt k)
    (Nat.pow_le_pow_right (by decide) (Nat.le_add_left _ _))

theorem isLong_half {k : Nat} (hk : Text.maxIntegerDigits ≤ k) :
    Text.IsLong (half k).units.natAbs :=
  Text.isLong_iff.mpr <| Nat.le_trans (Text.integerBound_le_pow hk)
    (Nat.le_mul_of_pos_left _ (by decide))

/-- Half a coin is less than a coin. -/
theorem mod_half (k : Nat) :
    (half k).units.natAbs % (half k).currency.unitsPerCoin = (half k).units.natAbs :=
  Nat.mod_eq_of_lt (five_mul_pow_lt k)

theorem spells_half : Numeral.Spells "0.5".toList ⟨false, "0".toList, "5".toList⟩ := by
  have hdigits : Numeral.SpellsUnsigned ("0".toList ++ '.' :: "5".toList) "0".toList "5".toList :=
    .point (List.all_eq_true.mp rfl) (List.all_eq_true.mp rfl) (.inl (by decide)) (by decide)
      (by decide)
  exact .bare hdigits

theorem value_mul_half (k : Nat) :
    (Numeral.mk false "0".toList "5".toList).value * (minute (k + 1)).unitsPerCoin =
      (half k).units := by
  have hplaces : 1 ≤ (minute (k + 1)).exponent := Nat.le_add_left 1 k
  rw [Numeral.value, if_neg Bool.false_ne_true, Numeral.magnitude_eq_digitsValue]
  exact (Numeral.div_mul_eq_iff fun h => absurd hplaces (Nat.not_le.mpr h)).mpr ⟨hplaces, rfl⟩

theorem ofDatum?_half (k : Nat) : ofDatum? (minute (k + 1)) (.text "0.5".toList) = .ok (half k) :=
  States.ofDatum?_eq (.counted spells_half rfl (value_mul_half k))

theorem ofDatum?_of_isLong {c : Currency} {k : ℤ} (h : Text.IsLong k.natAbs) :
    ofDatum? c (.whole k) = .error .unshown :=
  States.ofDatum?_eq (.unshown nofun .whole h)

/-- A one with so many zeros behind it. -/
def powerOfTen (zeros : Nat) : ℤ := Nat.pow 10 zeros

theorem isLong_powerOfTen {k : Nat} (hk : Text.maxIntegerDigits ≤ k) :
    Text.IsLong (powerOfTen k).natAbs :=
  Text.isLong_iff.mpr (Text.integerBound_le_pow hk)

/-- A whole number of five thousand and one digits is no numeral, but no refusal can name it.
An amount of nearly as many units is read, though these cannot be written. -/
theorem ofDatum?_enormous :
    ofDatum? (minute 5000) (.whole (powerOfTen 5000)) = .error .unshown ∧
      (∀ token, ofDatum? (minute 5000) (.whole (powerOfTen 5000)) ≠ .error (.notNumeral token)) ∧
      ofDatum? (minute 5000) (.text "0.5".toList) = .ok (half 4999) ∧
      Text.IsLong (half 4999).units.natAbs := by
  have hrefused : ofDatum? (minute 5000) (.whole (powerOfTen 5000)) = .error .unshown :=
    ofDatum?_of_isLong (isLong_powerOfTen (by decide))
  refine ⟨hrefused, fun token h => ?_, ofDatum?_half 4999, isLong_half (by decide)⟩
  cases hrefused.symm.trans h

end Amount

end PaymentUri
