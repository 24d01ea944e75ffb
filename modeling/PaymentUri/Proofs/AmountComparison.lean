import Mathlib.Tactic.NormNum
import PaymentUri.Amount.Comparison
import PaymentUri.Proofs.AmountNotation
import PaymentUri.Proofs.RegistryGrowth
/-!
# What a comparison says about whole coins

Amounts are compared by their units, and only where the ids of their currencies are the same.
What a unit is worth stands in the currency and not in its id, so a comparison speaks of the
amounts only as long as both units are worth the same. They are when an id still leads to
the currency that it led to, and it does unless that currency was taken away: an id that is
registered again may stand for a currency of other decimal places.
-/

namespace PaymentUri

namespace Registry

variable {r r' : Registry} {c : Currency} {id other : Text}

theorem get_eq_ok_iff : r.get id = .ok c ↔ r.find? id = some c := by
  rw [get]
  cases r.find? id <;> simp

theorem find?_of_isPrefix (h : r.currencies <+: r'.currencies) (hfind : r.find? id = some c) :
    r'.find? id = some c := by
  obtain ⟨more, hmore⟩ := h
  rw [find?] at hfind
  rw [find?, ← hmore, List.find?_append, hfind, Option.some_or]

/-- To take a currency away makes no difference to other ids. -/
theorem find?_erase_of_ne (h : other ≠ id) : (r.erase other).find? id = r.find? id := by
  obtain ⟨cs⟩ := r
  rw [erase, find?, find?]
  dsimp only
  induction cs with
  | nil => rfl
  | cons d cs ih =>
      by_cases hother : d.id = other
      · have hid : d.id ≠ id := fun hid => h (hother.symm.trans hid)
        rw [List.eraseP_cons_of_pos (by simpa using hother),
          List.find?_cons_of_neg (by simpa using hid)]
      · rw [List.eraseP_cons_of_neg (by simpa using hother), List.find?_cons, List.find?_cons, ih]

end Registry

namespace Session.State

variable {s : State} {c : Currency} {id : Text} {event : Event} {events : List Event}

theorem find?_after (hfind : s.registry.find? id = some c)
    (h : event ≠ .command (.unregister id)) : (s.after event).registry.find? id = some c := by
  by_cases hother : ∃ other, event = .command (.unregister other)
  · obtain ⟨other, rfl⟩ := hother
    have hne : other ≠ id := by
      rintro rfl
      exact h rfl
    have herase : (s.after (.command (.unregister other))).registry = s.registry.erase other :=
      s.registry_unregister other
    rw [herase, Registry.find?_erase_of_ne hne, hfind]
  · exact Registry.find?_of_isPrefix (s.extends_after (not_exists.mp hother)).isPrefix hfind

/-- An id leads to the same currency until it is taken away, whatever else happens. -/
theorem find?_afterAll (hfind : s.registry.find? id = some c)
    (h : .command (.unregister id) ∉ events) : (s.afterAll events).registry.find? id = some c := by
  induction events generalizing s with
  | nil => exact hfind
  | cons event events ih =>
      obtain ⟨hfirst, hothers⟩ := not_or.mp (mt List.mem_cons.mpr h)
      exact ih (find?_after hfind (Ne.symm hfirst)) hothers

end Session.State

namespace Amount

open Session (Event State)

variable {a b : Amount} {comparison : Comparison} {x : Bool}

/-- What a comparison says of two numbers. -/
def Comparison.Holds {α : Type} [LT α] [LE α] : Comparison → α → α → Prop
  | .less, m, n => m < n
  | .atMost, m, n => m ≤ n
  | .more, m, n => n < m
  | .atLeast, m, n => n ≤ m

instance {comparison : Comparison} {m n : ℤ} : Decidable (comparison.Holds m n) :=
  match comparison with
  | .less => inferInstanceAs (Decidable (m < n))
  | .atMost => inferInstanceAs (Decidable (m ≤ n))
  | .more => inferInstanceAs (Decidable (n < m))
  | .atLeast => inferInstanceAs (Decidable (n ≤ m))

/-- Amounts are compared by their units, if their currencies have the same id. -/
theorem compare?_of_eq (h : a.currency.id = b.currency.id) (comparison : Comparison) :
    compare? comparison a b = .ok (decide (comparison.Holds a.units b.units)) := by
  have hsame : b.currency.same a.currency = true := Currency.same_iff.mpr h.symm
  have hsame' : a.currency.same b.currency = true := Currency.same_iff.mpr h
  cases comparison with
  | less => exact if_pos hsame
  | atMost => exact if_pos hsame
  | more => exact if_pos hsame'
  | atLeast => exact if_pos hsame'

theorem compare?_of_ne (h : a.currency.id ≠ b.currency.id) (comparison : Comparison) :
    ∃ first second, compare? comparison a b = .error (.currencies first second) := by
  have hsame : ¬ b.currency.same a.currency = true := mt Currency.same_iff.mp h.symm
  have hsame' : ¬ a.currency.same b.currency = true := mt Currency.same_iff.mp h
  cases comparison with
  | less => exact ⟨_, _, if_neg hsame⟩
  | atMost => exact ⟨_, _, if_neg hsame⟩
  | more => exact ⟨_, _, if_neg hsame'⟩
  | atLeast => exact ⟨_, _, if_neg hsame'⟩

theorem compare?_eq_ok : compare? comparison a b = .ok x ↔
    a.currency.id = b.currency.id ∧ x = decide (comparison.Holds a.units b.units) := by
  by_cases h : a.currency.id = b.currency.id
  · simp [compare?_of_eq h, h, eq_comm]
  · obtain ⟨first, second, hrefused⟩ := compare?_of_ne h comparison
    simp [hrefused, h]

theorem exists_compare?_eq_ok :
    (∃ x, compare? comparison a b = .ok x) ↔ a.currency.id = b.currency.id := by
  simp [compare?_eq_ok]

theorem exists_compare?_eq_error :
    (∃ first second, compare? comparison a b = .error (.currencies first second)) ↔
      a.currency.id ≠ b.currency.id := by
  constructor
  · rintro ⟨first, second, hrefused⟩ hid
    rw [compare?_of_eq hid] at hrefused
    contradiction
  · exact fun h => compare?_of_ne h comparison

/-- Amounts of units that are worth the same are in the order of the units. -/
theorem holds_coins_iff (h : a.currency.exponent = b.currency.exponent) (comparison : Comparison) :
    comparison.Holds a.coins b.coins ↔ comparison.Holds a.units b.units := by
  have hscale : b.currency.unitsPerCoin = a.currency.unitsPerCoin := by
    rw [Currency.unitsPerCoin, Currency.unitsPerCoin, h]
  have hpos : (0 : ℚ) < a.currency.unitsPerCoin := Nat.cast_pos.mpr a.currency.unitsPerCoin_pos
  have hlt : ∀ m n : ℤ, (m : ℚ) / a.currency.unitsPerCoin < n / a.currency.unitsPerCoin ↔ m < n :=
    fun m n => (div_lt_div_iff_of_pos_right hpos).trans Int.cast_lt
  have hle : ∀ m n : ℤ, (m : ℚ) / a.currency.unitsPerCoin ≤ n / a.currency.unitsPerCoin ↔ m ≤ n :=
    fun m n => (div_le_div_iff_of_pos_right hpos).trans Int.cast_le
  rw [coins, coins, hscale]
  cases comparison with
  | less => exact hlt _ _
  | atMost => exact hle _ _
  | more => exact hlt _ _
  | atLeast => exact hle _ _

/-- As many units make the same number of coins when there are none, or when they are worth
the same. -/
theorem coins_eq_iff_of_units (h : a.units = b.units) :
    a.coins = b.coins ↔ a.units = 0 ∨ a.currency.exponent = b.currency.exponent := by
  have hinj : b.currency.unitsPerCoin = a.currency.unitsPerCoin ↔
      a.currency.exponent = b.currency.exponent := by
    rw [eq_comm]
    exact Nat.pow_right_inj (by decide)
  rw [coins_eq_iff, ← h, mul_eq_mul_left_iff, Nat.cast_inj, hinj, or_comm]

theorem exponent_eq_iff : a.currency.exponent = b.currency.exponent ↔
    a.currency.unitsPerCoin = b.currency.unitsPerCoin :=
  (Nat.pow_right_inj (by decide)).symm

/-- As many units of the same worth are printed in the same way, or both are not printed. -/
theorem format?_eq_of_units (h : a.units = b.units)
    (hexponent : a.currency.exponent = b.currency.exponent) : a.format? = b.format? := by
  have hnumeral : a.numeral = b.numeral :=
    numeral_eq_iff.mpr ((coins_eq_iff_of_units h).mpr (.inr hexponent))
  rw [format?_eq, format?_eq, hnumeral, h, exponent_eq_iff.mp hexponent]

/-- The comparisons of two amounts say what is true of the whole coins that they make. -/
structure Faithful (a b : Amount) : Prop where
  printed : a.same b = true → a.format? = b.format?
  coins : ∀ comparison x, compare? comparison a b = .ok x →
    (x = true ↔ comparison.Holds a.coins b.coins)
  decimals : ∀ comparison x d e, compare? comparison a b = .ok x → a.decimal? = some d →
    b.decimal? = some e → (x = true ↔ comparison.Holds d.value e.value)

/-- Amounts that are compared are compared faithfully if their units are worth the same. -/
theorem faithful_of_exponent
    (h : a.currency.id = b.currency.id → a.currency.exponent = b.currency.exponent) :
    a.Faithful b := by
  have hcoins : ∀ comparison x, compare? comparison a b = .ok x →
      (x = true ↔ comparison.Holds a.coins b.coins) := by
    intro comparison x hx
    obtain ⟨hid, rfl⟩ := compare?_eq_ok.mp hx
    rw [holds_coins_iff (h hid), decide_eq_true_iff]
  refine ⟨fun hsame => ?_, hcoins, fun comparison x d e hx hd he => ?_⟩
  · obtain ⟨hid, hunits⟩ := same_iff.mp hsame
    exact format?_eq_of_units hunits (h hid)
  · rw [value_of_decimal? hd, value_of_decimal? he]
    exact hcoins comparison x hx

/-- Two amounts, of the currencies that two ids lead to at two moments of a session, are
compared exactly when the ids are the same, and then by their units alone. What is said of
them is true of the whole coins if both currencies have the same decimal places, and they do
unless the id was taken away in between. Otherwise amounts that are the same are printed
alike only at zero. -/
theorem compare?_agrees {s : State} {events : List Event} {id id' : Text}
    (ha : s.registry.get id = .ok a.currency)
    (hb : (s.afterAll events).registry.get id' = .ok b.currency) :
    (∀ comparison,
      ((∃ x, compare? comparison a b = .ok x) ↔ id = id') ∧
      ((∃ first second, compare? comparison a b = .error (.currencies first second)) ↔
        id ≠ id')) ∧
    (id = id' → (a.same b = true ↔ a.units = b.units) ∧
      ∀ comparison, compare? comparison a b = .ok (decide (comparison.Holds a.units b.units))) ∧
    (.command (.unregister id) ∉ events → id = id' → a.currency = b.currency) ∧
    (a.currency.exponent = b.currency.exponent ∨ .command (.unregister id) ∉ events →
      a.Faithful b) ∧
    (a.same b = true → ∀ t u, a.format? = some t → b.format? = some u →
      (t = u ↔ a.units = 0 ∨ a.currency.exponent = b.currency.exponent)) := by
  have hfound := Registry.get_eq_ok_iff.mp ha
  have hfound' := Registry.get_eq_ok_iff.mp hb
  obtain ⟨rfl, -⟩ := Registry.find?_eq_some hfound
  obtain ⟨rfl, -⟩ := Registry.find?_eq_some hfound'
  have hcurrency (hkept : .command (.unregister a.currency.id) ∉ events)
      (hid : a.currency.id = b.currency.id) : a.currency = b.currency := by
    have hstill := State.find?_afterAll hfound hkept
    rw [hid, hfound'] at hstill
    exact (Option.some.inj hstill).symm
  refine ⟨fun _ => ⟨exists_compare?_eq_ok, exists_compare?_eq_error⟩, ?units, hcurrency, ?_, ?_⟩
  case units =>
    intro hid
    refine ⟨?_, compare?_of_eq hid⟩
    rw [same_iff, and_iff_right hid]
  · rintro (hexponent | hkept)
    · exact faithful_of_exponent fun _ => hexponent
    · exact faithful_of_exponent fun hid => congrArg Currency.exponent (hcurrency hkept hid)
  · intro hsame t u ht hu
    rw [eq_numeral_of_format? ht, eq_numeral_of_format? hu, numeral_eq_iff]
    exact coins_eq_iff_of_units (same_iff.mp hsame).2

/-- A currency of which the decimal places are left open. -/
def token (exponent : Nat) : Currency :=
  ⟨"token".toList, "Token".toList, "TOK".toList, "token".toList, exponent, 60, 61⟩

/-- It is registered. -/
def registering (exponent : Nat) : Event :=
  .command (.register (.described (token exponent).id (token exponent).name
    (token exponent).symbol (token exponent).scheme exponent 60 61) nofun)

/-- A session in which it has eight decimal places. -/
def issued : State := (State.initial false).after (registering 8)

/-- It is taken away and registered again with two decimal places. -/
def reissue : List Event := [.command (.unregister (token 8).id), registering 2]

def smallest : Amount := ⟨token 8, 1, by decide⟩

def cent : Amount := ⟨token 2, 1, by decide⟩

/-- The smallest unit of eight decimal places and the cent are the same, and neither is less,
though they are not printed alike and the first is worth less. -/
theorem same_cent :
    issued.registry.get (token 8).id = .ok smallest.currency ∧
      (issued.afterAll reissue).registry.get (token 8).id = .ok cent.currency ∧
      smallest.same cent = true ∧ smallest.format? = some "0.00000001".toList ∧
      cent.format? = some "0.01".toList ∧ compare? .less smallest cent = .ok false ∧
      ∃ d e, smallest.decimal? = some d ∧ cent.decimal? = some e ∧ d.value < e.value := by
  have hsmallest : smallest.decimal? = some ⟨false, "1".toList, -8⟩ := decimal?_eq_some (by decide)
  have hcent : cent.decimal? = some ⟨false, "1".toList, -2⟩ := decimal?_eq_some (by decide)
  have hless : smallest.coins < cent.coins := by
    have hleft : smallest.coins = 1 / 100000000 := rfl
    have hright : cent.coins = 1 / 100 := rfl
    rw [hleft, hright]
    norm_num
  rw [← value_of_decimal? hsmallest, ← value_of_decimal? hcent] at hless
  have hprinted : smallest.format? = some smallest.numeral :=
    (format?_eq smallest).trans (if_neg (by decide))
  have hprinted' : cent.format? = some cent.numeral := (format?_eq cent).trans (if_neg (by decide))
  exact ⟨rfl, rfl, rfl, hprinted, hprinted', rfl, _, _, hsmallest, hcent, hless⟩

/-- Another currency is taken away. -/
def unrelated : List Event := [.command (.unregister "bitcoin.main".toList)]

theorem compare?_agrees_unrelated :
    issued.registry.get (token 8).id = .ok smallest.currency ∧
      (issued.afterAll unrelated).registry.get (token 8).id = .ok (token 8) ∧
      .command (.unregister (token 8).id) ∉ unrelated ∧
      ∃ double : Amount, double.currency = token 8 ∧
        compare? .less smallest double = .ok true ∧ smallest.coins < double.coins := by
  have hfirst : issued.registry.get (token 8).id = .ok smallest.currency := rfl
  have hlater : (issued.afterAll unrelated).registry.get (token 8).id = .ok (token 8) := rfl
  have hkept : .command (.unregister (token 8).id) ∉ unrelated := by
    simp [unrelated, token]
  obtain ⟨-, -, -, hfaithful, -⟩ :=
    compare?_agrees (b := ⟨token 8, 2, by decide⟩) hfirst hlater
  have hless := (hfaithful (.inr hkept)).coins .less true rfl
  exact ⟨hfirst, hlater, hkept, ⟨token 8, 2, by decide⟩, rfl, rfl, hless.mp rfl⟩

end Amount

end PaymentUri
