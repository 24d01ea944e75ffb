import PaymentUri.Proofs.Percent
import PaymentUri.Registry
/-!
# What lower case does to ASCII

In ASCII, lower case is taken character by character. Beyond ASCII it may depend on the
letters before and behind, but not on their case: no ASCII letter becomes one without
case, or one that ends a word. So texts that differ in the case of ASCII letters only
have the same lower case, and a registry does not tell them apart as schemes.
-/

namespace PaymentUri

namespace Text

variable {c : Char} {s t : Text} {b : Bool}

theorem lowerIn_ascii (h : c.toNat < 128) (b : Bool) (t : Text) : lowerIn b c t = [c.toLower] := by
  have hdot : c ≠ '\u0130' := by
    rintro rfl
    exact absurd h (by decide)
  have hsigma : c ≠ '\u03a3' := by
    rintro rfl
    exact absurd h (by decide)
  rw [lowerIn, if_neg hdot, if_neg hsigma, lowerChar, if_pos h]

/-- In ASCII, lower case is taken character by character. -/
theorem lowerFrom_ascii (h : ∀ c ∈ t, c.toNat < 128) (b : Bool) :
    lowerFrom b t = t.map Char.toLower := by
  induction t generalizing b with
  | nil => rfl
  | cons c t ih =>
      obtain ⟨hc, hrest⟩ := List.forall_mem_cons.mp h
      rw [lowerFrom, lowerIn_ascii hc, ih hrest, List.map_cons, List.singleton_append]

theorem mem_lowerFrom (hlower : ∀ b t, lowerIn b c t = [c]) (h : c ∈ t) (b : Bool) :
    c ∈ lowerFrom b t := by
  induction t generalizing b with
  | nil => contradiction
  | cons d t ih =>
      rw [lowerFrom, List.mem_append]
      rcases List.mem_cons.mp h with rfl | h
      · exact .inl (by simp [hlower])
      · exact .inr (ih h _)

/-- Beyond ASCII, the lower case of ASCII changes nothing. -/
theorem toLower_of_le (h : 128 ≤ c.toNat) : c.toLower = c := by
  have hupper : ¬ (c.val ≥ 'A'.val ∧ c.val ≤ 'Z'.val) := by
    rintro ⟨-, hle⟩
    have hlast : c.toNat ≤ 90 := hle
    omega
  exact dif_neg hupper

theorem toNat_toLower_lt (h : c.toNat < 128) : c.toLower.toNat < 128 :=
  forall_ascii (P := fun d => d.toLower.toNat < 128) (by decide) h

/-- What is decided for each character of ASCII is true of all characters that it may be
lowered to. -/
theorem eq_toLower_of_ascii {α : Type} {f : Char → α}
    (h : ∀ n < 128, f (Char.ofNat n).toLower = f (Char.ofNat n)) (c : Char) :
    f c.toLower = f c := by
  by_cases hc : c.toNat < 128
  · exact forall_ascii (P := fun d => f d.toLower = f d) h hc
  · rw [toLower_of_le (Nat.not_lt.mp hc)]

theorem toLower_toLower (c : Char) : c.toLower.toLower = c.toLower :=
  eq_toLower_of_ascii (f := Char.toLower) (by decide) c

/-- Only the ranges in front that reach into ASCII matter to a character of ASCII. -/
theorem contains_take {ranges : Ranges} {k : Nat} (hbeyond : ∀ r ∈ ranges.drop k, 128 ≤ r.1)
    (hc : c.toNat < 128) : ranges.contains c = Ranges.contains (ranges.take k) c := by
  rw [Bool.eq_iff_iff, Ranges.contains_iff, Ranges.contains_iff]
  constructor
  · rintro ⟨r, hr, hfirst, hlast⟩
    rw [← List.take_append_drop k ranges, List.mem_append] at hr
    rcases hr with hr | hr
    · exact ⟨r, hr, hfirst, hlast⟩
    · have := hbeyond r hr
      omega
  · rintro ⟨r, hr, hbounds⟩
    exact ⟨r, List.mem_of_mem_take hr, hbounds⟩

theorem contains_toLower {ranges : Ranges} {k : Nat} (hbeyond : ∀ r ∈ ranges.drop k, 128 ≤ r.1)
    (hfront : ∀ n < 128, Ranges.contains (ranges.take k) (Char.ofNat n).toLower =
      Ranges.contains (ranges.take k) (Char.ofNat n)) (c : Char) :
    ranges.contains c.toLower = ranges.contains c := by
  by_cases h : c.toNat < 128
  · rw [contains_take hbeyond h, contains_take hbeyond (toNat_toLower_lt h)]
    exact eq_toLower_of_ascii hfront c
  · rw [toLower_of_le (Nat.not_lt.mp h)]

theorem isCased_toLower (c : Char) : isCased c.toLower = isCased c :=
  contains_toLower (k := 2) (by decide +kernel) (by decide) c

theorem isCaseIgnorable_toLower (c : Char) : isCaseIgnorable c.toLower = isCaseIgnorable c :=
  contains_toLower (k := 5) (by decide +kernel) (by decide) c

theorem casedAhead_map_toLower (t : Text) : casedAhead (t.map Char.toLower) = casedAhead t := by
  have hignorable : isCaseIgnorable ∘ Char.toLower = isCaseIgnorable :=
    funext isCaseIgnorable_toLower
  rw [casedAhead, casedAhead, List.dropWhile_map, hignorable]
  cases t.dropWhile isCaseIgnorable with
  | nil => rfl
  | cons c rest => exact isCased_toLower c

theorem lowerIn_toLower (b : Bool) (c : Char) (t : Text) :
    lowerIn b c.toLower (t.map Char.toLower) = lowerIn b c t := by
  by_cases h : c.toNat < 128
  · rw [lowerIn_ascii h, lowerIn_ascii (toNat_toLower_lt h), toLower_toLower]
  · rw [toLower_of_le (Nat.not_lt.mp h), lowerIn, lowerIn, casedAhead_map_toLower]

theorem lowerFrom_map_toLower (b : Bool) (t : Text) :
    lowerFrom b (t.map Char.toLower) = lowerFrom b t := by
  induction t generalizing b with
  | nil => rfl
  | cons c t ih =>
      rw [List.map_cons, lowerFrom, lowerFrom, lowerIn_toLower, isCased_toLower,
        isCaseIgnorable_toLower, ih]

/-- Texts that differ in the case of ASCII letters only have the same lower case. -/
theorem lowercase_eq_of_toLower (h : s.map Char.toLower = t.map Char.toLower) :
    lowercase s = lowercase t := by
  rw [lowercase, lowercase, ← lowerFrom_map_toLower false s, h, lowerFrom_map_toLower]

end Text

/-- A scheme is claimed by the same currencies in whichever case its ASCII letters are. -/
theorem Registry.claiming_eq_of_toLower (r : Registry) {s t : Text}
    (h : s.map Char.toLower = t.map Char.toLower) : r.claiming s = r.claiming t := by
  rw [claiming, claiming, Text.lowercase_eq_of_toLower h]

end PaymentUri
