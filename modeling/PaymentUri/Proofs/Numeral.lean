import PaymentUri.Amount.Numeral
import PaymentUri.Proofs.Text
/-!
# What numerals count

What a numeral counts is bounded by its digits: thirty-two before the point, and
after it no more than the currency has decimal places. Of the latter at most
thirty-two are significant, however many the currency has.
-/

namespace PaymentUri

namespace Numeral

/-- The text is made of the ten digits of ASCII. -/
def IsDigits (t : Text) : Prop := ∀ c ∈ t, c.isDigit = true

theorem isDigits_toDigits (n : Nat) : IsDigits (Nat.toDigits 10 n) :=
  fun _ hc => Nat.isDigit_of_mem_toDigits (by decide) (by decide) hc

theorem IsDigits.append {s t : Text} (hs : IsDigits s) (ht : IsDigits t) : IsDigits (s ++ t) :=
  fun c hc => (List.mem_append.mp hc).elim (hs c) (ht c)

theorem isDigits_replicate (k : Nat) : IsDigits (List.replicate k '0') := by
  intro c hc
  rw [List.eq_of_mem_replicate hc]
  decide

theorem digitsValue_append (s t : Text) :
    digitsValue (s ++ t) = Nat.pow 10 t.length * digitsValue s + digitsValue t := by
  rw [digitsValue, Nat.ofDigitChars_append, Nat.ofDigitChars_eq_ofDigitChars_zero]
  rfl

theorem digitsValue_toDigits (n : Nat) : digitsValue (Nat.toDigits 10 n) = n :=
  Nat.ofDigitChars_ten_toDigits

theorem digitsValue_replicate_zero (k : Nat) : digitsValue (List.replicate k '0') = 0 := by
  rw [digitsValue, Nat.ofDigitChars_replicate_zero, Nat.mul_zero]

theorem digitsValue_singleton (c : Char) : digitsValue [c] = c.toNat - 48 := by
  rw [digitsValue, Nat.ofDigitChars_cons, Nat.ofDigitChars_nil]
  change 10 * 0 + (c.toNat - 48) = _
  omega

theorem toNat_of_isDigit {c : Char} (h : c.isDigit = true) : 48 ≤ c.toNat ∧ c.toNat ≤ 57 := by
  simp only [Char.isDigit, Bool.and_eq_true, decide_eq_true_eq, ge_iff_le,
    UInt32.le_iff_toNat_le] at h
  exact h

theorem digitsValue_lt {t : Text} (h : IsDigits t) : digitsValue t < Nat.pow 10 t.length := by
  induction t with
  | nil => exact Nat.one_pos
  | cons c t ih =>
      have hrest := ih fun d hd => h d (List.mem_cons_of_mem c hd)
      have hdigit : c.toNat - 48 ≤ 9 := by
        have := toNat_of_isDigit (h c List.mem_cons_self)
        omega
      have hle := Nat.mul_le_mul_left (Nat.pow 10 t.length) hdigit
      rw [← List.singleton_append, digitsValue_append, digitsValue_singleton]
      change _ < Nat.pow 10 t.length * 10
      omega

variable {negative : Bool} {t whole fraction : Text}

/-- Digits, or digits around a point of which one side may be empty. -/
inductive SpellsUnsigned : Text → Text → Text → Prop
  | plain {whole : Text} (digits : IsDigits whole) (present : whole ≠ [])
      (short : whole.length ≤ 32) : SpellsUnsigned whole whole []
  | point {whole fraction : Text} (digits : IsDigits whole) (digits' : IsDigits fraction)
      (present : whole ≠ [] ∨ fraction ≠ []) (short : whole.length ≤ 32)
      (short' : fraction.length ≤ 32) :
      SpellsUnsigned (whole ++ '.' :: fraction) whole fraction

/-- The forms of a numeral: with a sign or without. -/
inductive Spells : Text → Numeral → Prop
  | bare {t whole fraction : Text} (digits : SpellsUnsigned t whole fraction) :
      Spells t ⟨false, whole, fraction⟩
  | plus {t whole fraction : Text} (digits : SpellsUnsigned t whole fraction) :
      Spells ('+' :: t) ⟨false, whole, fraction⟩
  | minus {t whole fraction : Text} (digits : SpellsUnsigned t whole fraction) :
      Spells ('-' :: t) ⟨true, whole, fraction⟩

theorem unsigned?_of_spells (h : SpellsUnsigned t whole fraction) :
    unsigned? negative t = some ⟨negative, whole, fraction⟩ := by
  cases h with
  | plain hwhole hne hlen =>
      have htake : t.takeWhile Char.isDigit = t := by
        rw [← List.append_nil t, List.takeWhile_append_of_pos hwhole, List.takeWhile_nil]
      have hdrop : t.dropWhile Char.isDigit = [] := by
        rw [← List.append_nil t, List.dropWhile_append_of_pos hwhole, List.dropWhile_nil]
      rw [unsigned?, htake, hdrop]
      exact if_pos ⟨List.length_pos_iff.mpr hne, hlen⟩
  | point hwhole hfraction hne hlen hlen' =>
      have htake : (whole ++ '.' :: fraction).takeWhile Char.isDigit = whole := by
        rw [List.takeWhile_append_of_pos hwhole, List.takeWhile_cons_of_neg (by decide),
          List.append_nil]
      have hdrop : (whole ++ '.' :: fraction).dropWhile Char.isDigit = '.' :: fraction := by
        rw [List.dropWhile_append_of_pos hwhole, List.dropWhile_cons_of_neg (by decide)]
      rw [unsigned?, htake, hdrop]
      exact if_pos ⟨rfl, List.all_eq_true.mpr hfraction, hlen, hlen', hne⟩

theorem spells_of_unsigned? {n : Numeral} (h : unsigned? negative t = some n) :
    SpellsUnsigned t n.whole n.fraction ∧ n.negative = negative := by
  have hwhole : IsDigits (t.takeWhile Char.isDigit) :=
    fun c hc => List.all_eq_true.mp List.all_takeWhile c hc
  have hsplit : t.takeWhile Char.isDigit ++ t.dropWhile Char.isDigit = t :=
    List.takeWhile_append_dropWhile
  rw [unsigned?] at h
  split at h
  · next hdrop =>
      split at h
      · next hlen =>
          obtain rfl := Option.some.inj h
          rw [hdrop, List.append_nil] at hsplit
          rw [hsplit] at hwhole hlen ⊢
          exact ⟨.plain hwhole (List.length_pos_iff.mp hlen.1) hlen.2, rfl⟩
      · contradiction
  · next c rest hdrop =>
      split at h
      · next hpoint =>
          obtain ⟨rfl, hfraction, hlen, hlen', hne⟩ := hpoint
          obtain rfl := Option.some.inj h
          rw [hdrop] at hsplit
          refine ⟨?_, rfl⟩
          have := SpellsUnsigned.point hwhole (List.all_eq_true.mp hfraction) hne hlen hlen'
          rwa [hsplit] at this
      · contradiction

/-- The sign of digits is none: they begin with a digit or a point. -/
theorem sign_of_spells (h : SpellsUnsigned t whole fraction) : sign t = (false, t) := by
  have hfirst : ∀ c ∈ t.head?, c.isDigit = true ∨ c = '.' := by
    intro c hc
    cases h with
    | plain hwhole => exact .inl (hwhole c (List.mem_of_mem_head? hc))
    | point hwhole =>
        cases whole with
        | nil => exact .inr (Option.some.inj hc).symm
        | cons d ds =>
            obtain rfl : d = c := Option.some.inj hc
            exact .inl (hwhole d List.mem_cons_self)
  unfold sign
  split
  · exact absurd (hfirst '-' rfl) (by decide)
  · exact absurd (hfirst '+' rfl) (by decide)
  · rfl

/-- A text is read as a numeral exactly when it has the form of one. -/
theorem ofText?_eq_some {n : Numeral} : ofText? t = some n ↔ Spells t n := by
  constructor
  · intro h
    unfold ofText? sign at h
    split at h
    all_goals
      obtain ⟨hdigits, hsign⟩ := spells_of_unsigned? h
      obtain ⟨_, whole, fraction⟩ := n
      subst hsign
    · exact .minus hdigits
    · exact .plus hdigits
    · exact .bare hdigits
  · intro h
    cases h with
    | bare hdigits => rw [ofText?, sign_of_spells hdigits, unsigned?_of_spells hdigits]
    | plus hdigits => exact unsigned?_of_spells hdigits
    | minus hdigits => exact unsigned?_of_spells hdigits

/-- What every numeral of a text is like. -/
structure WellFormed (n : Numeral) : Prop where
  whole : IsDigits n.whole
  fraction : IsDigits n.fraction
  length_whole : n.whole.length ≤ maxDigits
  length_fraction : n.fraction.length ≤ maxDigits

theorem SpellsUnsigned.wellFormed (h : SpellsUnsigned t whole fraction) :
    WellFormed ⟨negative, whole, fraction⟩ := by
  cases h with
  | plain hwhole _ hlen => exact ⟨hwhole, by simp [IsDigits], hlen, by simp⟩
  | point hwhole hfraction _ hlen hlen' => exact ⟨hwhole, hfraction, hlen, hlen'⟩

theorem wellFormed_of_ofText? {n : Numeral} (h : ofText? t = some n) : n.WellFormed := by
  cases ofText?_eq_some.mp h with
  | bare hdigits => exact hdigits.wellFormed
  | plus hdigits => exact hdigits.wellFormed
  | minus hdigits => exact hdigits.wellFormed

/-- The digits of a numeral counted in units, as one text. -/
def unitDigits (n : Numeral) (exponent : Nat) : Text :=
  n.whole ++ n.significantFraction ++
    List.replicate (exponent - n.significantFraction.length) '0'

theorem scaled?_eq_some {n : Numeral} {exponent : Nat} {units : Int} :
    n.scaled? exponent = some units ↔
      n.significantFraction.length ≤ exponent ∧
        units = if n.negative then -(digitsValue (n.unitDigits exponent) : Int)
          else digitsValue (n.unitDigits exponent) := by
  have hscaled : n.scaled? exponent = if n.significantFraction.length ≤ exponent then
      some (if n.negative then -(digitsValue (n.unitDigits exponent) : Int)
        else digitsValue (n.unitDigits exponent)) else none := rfl
  rw [hscaled]
  split
  · next hle => rw [Option.some.injEq, and_iff_right hle, eq_comm]
  · next hle => simp [hle]

theorem natAbs_of_scaled? {n : Numeral} {exponent : Nat} {units : Int}
    (h : n.scaled? exponent = some units) :
    units.natAbs = digitsValue (n.unitDigits exponent) := by
  rw [(scaled?_eq_some.mp h).2]
  split <;> simp

/-- What a numeral counts is in the range of amounts. -/
theorem natAbs_lt_of_scaled? {n : Numeral} {exponent : Nat} {units : Int} (hn : n.WellFormed)
    (h : n.scaled? exponent = some units) :
    units.natAbs < Nat.pow 10 (maxDigits + exponent) := by
  have hsig : IsDigits n.significantFraction :=
    fun c hc => hn.fraction c (Text.mem_of_mem_dropRightWhile hc)
  have hdigits : IsDigits (n.unitDigits exponent) :=
    (hn.whole.append hsig).append (isDigits_replicate _)
  have hlen : (n.unitDigits exponent).length ≤ maxDigits + exponent := by
    have hle := (scaled?_eq_some.mp h).1
    have hwhole := hn.length_whole
    simp only [unitDigits, List.length_append, List.length_replicate]
    omega
  rw [natAbs_of_scaled? h]
  exact Nat.lt_of_lt_of_le (digitsValue_lt hdigits) (Nat.pow_le_pow_right (by decide) hlen)

/-- A numeral has at most thirty-two significant decimal places. -/
theorem pow_dvd_of_scaled? {n : Numeral} {exponent : Nat} {units : Int} (hn : n.WellFormed)
    (h : n.scaled? exponent = some units) :
    Nat.pow 10 (exponent - maxDigits) ∣ units.natAbs := by
  have hle : n.significantFraction.length ≤ maxDigits :=
    Nat.le_trans (Text.length_dropRightWhile_le _ _) hn.length_fraction
  rw [natAbs_of_scaled? h, unitDigits, digitsValue_append, digitsValue_replicate_zero,
    List.length_replicate, Nat.add_zero]
  exact Nat.dvd_mul_right_of_dvd (Nat.pow_dvd_pow 10 (by omega)) _

end Numeral

end PaymentUri
