import PaymentUri.Datum
/-!
# Numbers of too many digits

A whole number of more than 4300 digits is not written. Whatever is shown or recorded fails if
it holds such a number, however deep inside: a datum has a text exactly when it holds none.
-/

namespace PaymentUri

namespace Text

variable {n : Nat} {t : Text}

/-- The number has more digits than are ever written. -/
def IsLong (n : Nat) : Prop := 4300 < (Nat.toDigits 10 n).length

instance : Decidable (IsLong n) := inferInstanceAs (Decidable (_ < _))

theorem length_toDigits_le_iff {k : Nat} (hk : 0 < k) :
    (Nat.toDigits 10 n).length ≤ k ↔ n < Nat.pow 10 k :=
  Nat.length_toDigits_le_iff (by decide) hk

theorem isLong_iff : IsLong n ↔ integerBound ≤ n := by
  have hlimit : 4300 = maxIntegerDigits := rfl
  have hpos : 0 < maxIntegerDigits := by decide
  rw [IsLong, hlimit]
  unfold integerBound
  -- The limit is made a variable, so that no power of it is computed.
  generalize maxIntegerDigits = limit at hpos ⊢
  rw [← Nat.not_le, length_toDigits_le_iff hpos, Nat.not_lt]

theorem not_isLong_of_length_le {k : Nat} (h : (Nat.toDigits 10 n).length ≤ k) (hk : k ≤ 4300) :
    ¬ IsLong n :=
  Nat.not_lt.mpr (Nat.le_trans h hk)

theorem not_isLong_zero : ¬ IsLong 0 := by decide

theorem digits?_eq_none : digits? n = none ↔ IsLong n := by
  rw [isLong_iff, digits?]
  split
  · next h => simp [Nat.not_le.mpr h]
  · next h => simp [Nat.not_lt.mp h]

theorem digits?_eq_some : digits? n = some t ↔ ¬ IsLong n ∧ t = Nat.toDigits 10 n := by
  rw [isLong_iff, digits?]
  split
  · next h => simp [Nat.not_le.mpr h, eq_comm]
  · next h => simp [Nat.not_lt.mp h]

end Text

namespace Datum

variable {d : Datum} {n : Int}

/-- The whole number is the datum or stands somewhere in it. -/
inductive Holds (n : Int) : Datum → Prop
  | whole : Holds n (.whole n)
  | item {d : Datum} {ds : List Datum} (mem : d ∈ ds) (holds : Holds n d) : Holds n (.items ds)
  | entry {name : Text} {d : Datum} {es : List (Text × Datum)} (mem : (name, d) ∈ es)
      (holds : Holds n d) : Holds n (.entries es)

theorem mem_wholesOfItems {ds : List Datum} (hd : d ∈ ds) (h : n ∈ d.wholes) :
    n ∈ wholesOfItems ds := by
  induction ds with
  | nil => contradiction
  | cons e ds ih =>
      rw [wholesOfItems, List.mem_append]
      rcases List.mem_cons.mp hd with rfl | hd
      · exact .inl h
      · exact .inr (ih hd)

theorem mem_wholesOfEntries {name : Text} {es : List (Text × Datum)} (hd : (name, d) ∈ es)
    (h : n ∈ d.wholes) : n ∈ wholesOfEntries es := by
  induction es with
  | nil => contradiction
  | cons e es ih =>
      rw [wholesOfEntries, List.mem_append]
      rcases List.mem_cons.mp hd with rfl | hd
      · exact .inl h
      · exact .inr (ih hd)

theorem Holds.mem_wholes (h : Holds n d) : n ∈ d.wholes := by
  induction h with
  | whole => exact List.mem_singleton_self n
  | item hd _ ih => exact mem_wholesOfItems hd ih
  | entry hd _ ih => exact mem_wholesOfEntries hd ih

mutual

theorem holds_of_mem_wholes (d : Datum) (h : n ∈ d.wholes) : Holds n d := by
  match d with
  | .whole m =>
      obtain rfl := List.mem_singleton.mp h
      exact .whole
  | .items ds =>
      obtain ⟨e, he, hholds⟩ := exists_holds_of_mem_wholesOfItems ds h
      exact .item he hholds
  | .entries es =>
      obtain ⟨e, he, hholds⟩ := exists_holds_of_mem_wholesOfEntries es h
      exact .entry he hholds

theorem exists_holds_of_mem_wholesOfItems (ds : List Datum) (h : n ∈ wholesOfItems ds) :
    ∃ d ∈ ds, Holds n d := by
  match ds with
  | e :: ds =>
      rw [wholesOfItems, List.mem_append] at h
      rcases h with h | h
      · exact ⟨e, List.mem_cons_self, holds_of_mem_wholes e h⟩
      · obtain ⟨d, hd, hholds⟩ := exists_holds_of_mem_wholesOfItems ds h
        exact ⟨d, List.mem_cons_of_mem e hd, hholds⟩

theorem exists_holds_of_mem_wholesOfEntries (es : List (Text × Datum))
    (h : n ∈ wholesOfEntries es) : ∃ e ∈ es, Holds n e.2 := by
  match es with
  | (name, e) :: es =>
      rw [wholesOfEntries, List.mem_append] at h
      rcases h with h | h
      · exact ⟨(name, e), List.mem_cons_self, holds_of_mem_wholes e h⟩
      · obtain ⟨d, hd, hholds⟩ := exists_holds_of_mem_wholesOfEntries es h
        exact ⟨d, List.mem_cons_of_mem _ hd, hholds⟩

end

theorem mem_wholes_iff : n ∈ d.wholes ↔ Holds n d :=
  ⟨holds_of_mem_wholes d, Holds.mem_wholes⟩

/-- A datum has a text unless a whole number in it is too long for one. -/
theorem isShown_iff_not_isLong :
    d.isShown = true ↔ ∀ n, Holds n d → ¬ Text.IsLong n.natAbs := by
  simp only [isShown_iff, Text.isLong_iff, Nat.not_le, mem_wholes_iff]

end Datum

end PaymentUri
