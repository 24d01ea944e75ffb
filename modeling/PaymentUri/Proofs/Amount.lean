import PaymentUri.Amount.Basic
import PaymentUri.Proofs.Numeral
/-!
# Amounts read back

No text states an amount that is out of range, so reading an amount fails only
for what the text says. What is read has at most thirty-two significant decimal
places. Of these amounts, which are all amounts of a currency with at most
thirty-two decimal places, the printed form is read back.
-/

namespace PaymentUri

/-- Units that make no whole coin have at most as many digits as there are decimal places. -/
theorem Currency.length_toDigits_mod_le {c : Currency} {n : Nat} (h : n % c.unitsPerCoin ≠ 0) :
    (Nat.toDigits 10 (n % c.unitsPerCoin)).length ≤ c.exponent := by
  have hlt := Nat.mod_lt n c.unitsPerCoin_pos
  have hpos : 0 < c.exponent := by
    apply Nat.pos_of_ne_zero
    intro hzero
    rw [Currency.unitsPerCoin, hzero] at h
    exact h (Nat.mod_one _)
  exact (Nat.length_toDigits_le_iff (by decide) hpos).mpr hlt

namespace Amount

/-- The amount has at most thirty-two significant decimal places. -/
def IsShort (a : Amount) : Prop :=
  Nat.pow 10 (a.currency.exponent - Numeral.maxDigits) ∣ a.units.natAbs

theorem isShort_of_exponent_le {a : Amount} (h : a.currency.exponent ≤ Numeral.maxDigits) :
    a.IsShort := by
  rw [IsShort, Nat.sub_eq_zero_of_le h]
  exact Nat.one_dvd _

/-- What reading an amount amounts to: no numeral, a numeral with too many places, or
an amount, which is then in range. -/
theorem ofText?_cases (c : Currency) (t : Text) :
    (Numeral.ofText? t = none ∧ ofText? c t = .error (.notNumeral (.text t))) ∨
    (∃ n, Numeral.ofText? t = some n ∧ n.scaled? c.exponent = none ∧
      ofText? c t = .error (.tooPrecise t)) ∨
    ∃ n a, Numeral.ofText? t = some n ∧ n.scaled? c.exponent = some a.units ∧
      a.currency = c ∧ a.IsShort ∧ ofText? c t = .ok a := by
  rw [ofText?, ofDatum?]
  cases hn : Numeral.ofText? t with
  | none => exact .inl ⟨rfl, rfl⟩
  | some n =>
      have hformed := Numeral.wellFormed_of_ofText? hn
      cases hu : n.scaled? c.exponent with
      | none => exact .inr (.inl ⟨n, rfl, hu, by simp [hu]⟩)
      | some units =>
          have hrange := Numeral.natAbs_lt_of_scaled? hformed hu
          refine .inr (.inr ⟨n, ⟨c, units, hrange⟩, rfl, hu, rfl,
            Numeral.pow_dvd_of_scaled? hformed hu, ?_⟩)
          simp only [hu]
          exact dif_pos hrange

theorem ofText?_eq_ok {c : Currency} {t : Text} {a : Amount} :
    ofText? c t = .ok a ↔
      a.currency = c ∧ ∃ n, Numeral.ofText? t = some n ∧ n.scaled? c.exponent = some a.units := by
  rcases ofText?_cases c t with ⟨hn, h⟩ | ⟨n, hn, hu, h⟩ | ⟨n, b, hn, hu, hc, -, h⟩
  · simp [h, hn]
  · simp [h, hn, hu]
  · rw [h, hn, Except.ok.injEq]
    constructor
    · rintro rfl
      exact ⟨hc, n, rfl, hu⟩
    · rintro ⟨hc', n', hn', hu'⟩
      obtain rfl := Option.some.inj hn'
      have hunits : b.units = a.units := Option.some.inj (hu.symm.trans hu')
      cases a
      cases b
      simp_all

/-- An amount that was read has at most thirty-two significant decimal places. -/
theorem isShort_of_ofText? {c : Currency} {t : Text} {a : Amount} (h : ofText? c t = .ok a) :
    a.IsShort := by
  rcases ofText?_cases c t with ⟨-, h'⟩ | ⟨-, -, -, h'⟩ | ⟨-, b, -, -, -, hb, h'⟩
  · rw [h'] at h; contradiction
  · rw [h'] at h; contradiction
  · rw [h', Except.ok.injEq] at h
    exact h ▸ hb

/-- The printed fraction, up to its last digit that is not zero. -/
def printedFraction (a : Amount) : Text :=
  Text.dropRightWhile (· == '0') (Text.padLeft a.currency.exponent '0'
    (Nat.toDigits 10 (a.units.natAbs % a.currency.unitsPerCoin)))

def printedWhole (a : Amount) : Text :=
  Nat.toDigits 10 (a.units.natAbs / a.currency.unitsPerCoin)

theorem isDigits_printedWhole (a : Amount) : Numeral.IsDigits a.printedWhole :=
  Numeral.isDigits_toDigits _

theorem isDigits_printedFraction (a : Amount) : Numeral.IsDigits a.printedFraction := by
  intro c hc
  exact (Numeral.isDigits_replicate _).append (Numeral.isDigits_toDigits _) c
    (Text.mem_of_mem_dropRightWhile hc)

theorem length_printedWhole_le (a : Amount) : a.printedWhole.length ≤ Numeral.maxDigits := by
  rw [printedWhole, Nat.length_toDigits_le_iff (by decide) (by decide)]
  apply Nat.div_lt_of_lt_mul
  have hrange := a.inRange
  rw [Nat.add_comm] at hrange
  exact Nat.lt_of_lt_of_eq hrange (Nat.pow_add 10 _ _)

/-- Zeros at the end of a number are zeros at the end of its digits. -/
theorem toDigits_mul_pow {q : Nat} (hq : 0 < q) (k : Nat) :
    Nat.toDigits 10 (q * Nat.pow 10 k) = Nat.toDigits 10 q ++ List.replicate k '0' := by
  induction k with
  | zero => simp
  | succ k ih =>
      have hpos : 0 < q * Nat.pow 10 k := Nat.mul_pos hq (Nat.pow_pos (by decide))
      have hstep : q * Nat.pow 10 (k + 1) = 10 * (q * Nat.pow 10 k) + 0 := by
        change q * (Nat.pow 10 k * 10) = _
        rw [← Nat.mul_assoc, Nat.mul_comm, Nat.add_zero]
      rw [hstep, ← Nat.toDigits_append_toDigits (by decide) hpos (by decide), ih,
        List.append_assoc, List.replicate_succ']
      rfl

theorem length_printedFraction_le {a : Amount} (ha : a.IsShort)
    (h : a.units.natAbs % a.currency.unitsPerCoin ≠ 0) :
    a.printedFraction.length ≤ Numeral.maxDigits := by
  obtain ⟨q, hq⟩ : Nat.pow 10 (a.currency.exponent - Numeral.maxDigits) ∣
      a.units.natAbs % a.currency.unitsPerCoin :=
    (Nat.dvd_mod_iff (Nat.pow_dvd_pow 10 (Nat.sub_le _ _))).mpr ha
  have hpos : 0 < q := Nat.pos_of_ne_zero (by rintro rfl; exact h hq)
  have hlen := Currency.length_toDigits_mod_le h
  rw [hq, Nat.mul_comm, toDigits_mul_pow hpos] at hlen
  rw [printedFraction, hq, Nat.mul_comm, toDigits_mul_pow hpos, Text.padLeft,
    ← List.append_assoc, Text.dropRightWhile_append_replicate]
  apply Nat.le_trans (Text.length_dropRightWhile_le _ _)
  simp only [List.length_append, List.length_replicate] at hlen ⊢
  omega

/-- The digits of the printed form count the units. -/
theorem digitsValue_printed (a : Amount)
    (h : a.units.natAbs % a.currency.unitsPerCoin ≠ 0) :
    Numeral.digitsValue (a.printedWhole ++ a.printedFraction ++
      List.replicate (a.currency.exponent - a.printedFraction.length) '0') =
        a.units.natAbs := by
  have hwidth := Text.length_padLeft '0' (Currency.length_toDigits_mod_le h)
  have hpadded := Text.dropRightWhile_append (Text.padLeft a.currency.exponent '0'
    (Nat.toDigits 10 (a.units.natAbs % a.currency.unitsPerCoin))) '0'
  rw [hwidth] at hpadded
  rw [List.append_assoc, printedFraction, hpadded, Numeral.digitsValue_append, hwidth,
    Text.padLeft, Numeral.digitsValue_append, Numeral.digitsValue_replicate_zero,
    Numeral.digitsValue_toDigits, printedWhole, Numeral.digitsValue_toDigits, Nat.mul_zero,
    Nat.zero_add]
  exact Nat.div_add_mod a.units.natAbs a.currency.unitsPerCoin

theorem digitsValue_printedWhole {a : Amount}
    (h : a.units.natAbs % a.currency.unitsPerCoin = 0) :
    Numeral.digitsValue (a.printedWhole ++ List.replicate a.currency.exponent '0') =
      a.units.natAbs := by
  rw [Numeral.digitsValue_append, Numeral.digitsValue_replicate_zero, printedWhole,
    Numeral.digitsValue_toDigits, List.length_replicate]
  have := Nat.div_add_mod a.units.natAbs a.currency.unitsPerCoin
  rw [h] at this
  exact this

theorem length_printedFraction_le_exponent {a : Amount}
    (h : a.units.natAbs % a.currency.unitsPerCoin ≠ 0) :
    a.printedFraction.length ≤ a.currency.exponent := by
  apply Nat.le_trans (Text.length_dropRightWhile_le _ _)
  exact Nat.le_of_eq (Text.length_padLeft '0' (Currency.length_toDigits_mod_le h))

def printedUnsigned (a : Amount) : Text :=
  a.printedWhole ++
    if a.units.natAbs % a.currency.unitsPerCoin = 0 then [] else '.' :: a.printedFraction

theorem numeral_eq (a : Amount) :
    a.numeral = if a.units < 0 then '-' :: a.printedUnsigned else a.printedUnsigned := by
  have hform : a.numeral = (if a.units < 0 then ['-'] else []) ++ a.printedUnsigned :=
    List.append_assoc _ _ _
  rw [hform]
  split <;> rfl

/-- The printed form without its sign has the form of a numeral and counts the units. -/
theorem spells_printedUnsigned {a : Amount} (ha : a.IsShort) :
    ∃ fraction, Numeral.SpellsUnsigned a.printedUnsigned a.printedWhole fraction ∧
      ∀ negative, (Numeral.mk negative a.printedWhole fraction).scaled? a.currency.exponent =
        some (if negative then -(a.units.natAbs : Int) else a.units.natAbs) := by
  have hwhole := isDigits_printedWhole a
  have hne : a.printedWhole ≠ [] := Nat.toDigits_ne_nil
  have hlen := length_printedWhole_le a
  rw [printedUnsigned]
  by_cases h : a.units.natAbs % a.currency.unitsPerCoin = 0
  · refine ⟨[], ?_, ?_⟩
    · rw [if_pos h, List.append_nil]
      exact .plain hwhole hne hlen
    · intro negative
      rw [Numeral.scaled?_eq_some, ← digitsValue_printedWhole h]
      simp [Numeral.unitDigits, Numeral.significantFraction, Text.dropRightWhile]
  · refine ⟨a.printedFraction, ?_, ?_⟩
    · rw [if_neg h]
      exact .point hwhole (isDigits_printedFraction a) (.inl hne) hlen
        (length_printedFraction_le ha h)
    · intro negative
      have hsig : (Numeral.mk negative a.printedWhole a.printedFraction).significantFraction =
          a.printedFraction := Text.dropRightWhile_idem _ _
      rw [Numeral.scaled?_eq_some, Numeral.unitDigits, hsig, digitsValue_printed a h]
      exact ⟨length_printedFraction_le_exponent h, rfl⟩

/-- An amount with at most thirty-two significant decimal places is read back from its
printed form. -/
theorem ofText?_numeral {a : Amount} (ha : a.IsShort) :
    ofText? a.currency a.numeral = .ok a := by
  obtain ⟨fraction, hspells, hscaled⟩ := spells_printedUnsigned ha
  by_cases hneg : a.units < 0
  · have hread : Numeral.Spells a.numeral ⟨true, a.printedWhole, fraction⟩ := by
      rw [numeral_eq, if_pos hneg]
      exact .minus hspells
    refine ofText?_eq_ok.mpr ⟨rfl, _, Numeral.ofText?_eq_some.mpr hread, ?_⟩
    rw [hscaled, if_pos rfl, Option.some.injEq]
    omega
  · have hread : Numeral.Spells a.numeral ⟨false, a.printedWhole, fraction⟩ := by
      rw [numeral_eq, if_neg hneg]
      exact .bare hspells
    refine ofText?_eq_ok.mpr ⟨rfl, _, Numeral.ofText?_eq_some.mpr hread, ?_⟩
    rw [hscaled, if_neg Bool.false_ne_true, Option.some.injEq]
    omega

end Amount

end PaymentUri
