import PaymentUri.Proofs.Text
import PaymentUri.Text.Integer
/-!
# Which texts are whole numbers

A whole number is written with a sign or without and with at least one digit. The digits may
be those of any script, and between two of them may stand an underscore, but no two. White
space before and behind the numeral does not count. A text is read as a whole number exactly
when it has this form and no more digits than are allowed.
-/

namespace PaymentUri.Text

/-- Digits with their values, each pair of them with an underscore between them or without. -/
inductive SpellsDigits : Text → List Nat → Prop
  | last {c : Char} {d : Nat} (digit : digitValue? c = some d) : SpellsDigits [c] [d]
  | next {c : Char} {d : Nat} {t : Text} {ds : List Nat} (digit : digitValue? c = some d)
      (others : SpellsDigits t ds) : SpellsDigits (c :: t) (d :: ds)
  | apart {c : Char} {d : Nat} {t : Text} {ds : List Nat} (digit : digitValue? c = some d)
      (others : SpellsDigits t ds) : SpellsDigits (c :: '_' :: t) (d :: ds)

/-- The text is a number of digits that may be read, and they denote the number. -/
def SpellsNatural (t : Text) (n : Nat) : Prop :=
  ∃ ds, SpellsDigits t ds ∧ ds.length ≤ maxIntegerDigits ∧ Radix.value 10 ds = n

/-- The text is the numeral of a whole number, with a sign or without. -/
inductive SpellsInteger : Text → Int → Prop
  | plain {t : Text} {n : Nat} (digits : SpellsNatural t n) : SpellsInteger t n
  | plus {t : Text} {n : Nat} (digits : SpellsNatural t n) : SpellsInteger ('+' :: t) n
  | minus {t : Text} {n : Nat} (digits : SpellsNatural t n) : SpellsInteger ('-' :: t) (-n)

/-- The text is the numeral of a whole number, possibly with white space around it. -/
def IsInteger (t : Text) (n : Int) : Prop :=
  ∃ front core back, t = front ++ core ++ back ∧ (∀ c ∈ front, isNumeralSpace c = true) ∧
    (∀ c ∈ back, isNumeralSpace c = true) ∧ SpellsInteger core n

section Digits

variable {c : Char} {d n : Nat} {t : Text} {ds : List Nat}

def marks : List Char := ['+', '-', '_']

theorem digitValue?_of_mem_marks : ∀ c ∈ marks, digitValue? c = none := by
  simp only [marks, List.forall_mem_cons]
  exact ⟨rfl, rfl, rfl, List.forall_mem_nil _⟩

theorem SpellsDigits.ne_nil (h : SpellsDigits t ds) : t ≠ [] := by
  cases h <;> exact List.cons_ne_nil _ _

/-- The first character is a digit. -/
theorem SpellsDigits.head (h : SpellsDigits (c :: t) ds) : ∃ d, digitValue? c = some d := by
  cases h with
  | last hdigit => exact ⟨_, hdigit⟩
  | next hdigit => exact ⟨_, hdigit⟩
  | apart hdigit => exact ⟨_, hdigit⟩

theorem SpellsDigits.head_not_mem_marks (h : SpellsDigits (c :: t) ds) : c ∉ marks := by
  intro hmark
  obtain ⟨d, hd⟩ := h.head
  rw [digitValue?_of_mem_marks c hmark] at hd
  contradiction

/-- The last character is a digit. -/
theorem SpellsDigits.getLast (h : SpellsDigits t ds) :
    ∃ d, digitValue? (t.getLast h.ne_nil) = some d := by
  induction h with
  | last hdigit => exact ⟨_, hdigit⟩
  | next hdigit hothers ih => rwa [List.getLast_cons hothers.ne_nil]
  | apart hdigit hothers ih =>
      rwa [List.getLast_cons (List.cons_ne_nil _ _), List.getLast_cons hothers.ne_nil]

theorem SpellsDigits.isNumeralChar (h : SpellsDigits t ds) :
    ∀ c ∈ t, isNumeralChar c = true := by
  have hdigit : ∀ {c : Char} {d : Nat}, digitValue? c = some d →
      Text.isNumeralChar c = true := by
    intro c d hd
    simp [Text.isNumeralChar, hd]
  induction h with
  | last hd => exact List.forall_mem_singleton.mpr (hdigit hd)
  | next hd _ ih => exact List.forall_mem_cons.mpr ⟨hdigit hd, ih⟩
  | apart hd _ ih =>
      exact List.forall_mem_cons.mpr ⟨hdigit hd, List.forall_mem_cons.mpr ⟨rfl, ih⟩⟩

/-- Only digits with single underscores between them have values. -/
theorem digitValues?_eq_some : digitValues? t = some ds ↔ SpellsDigits t ds := by
  constructor
  · intro h
    fun_induction digitValues? t generalizing ds with
    | case1 => contradiction
    | case2 => contradiction
    | case3 c d hd =>
        obtain rfl := Option.some.inj h
        exact .last hd
    | case4 c d hd t ih =>
        obtain ⟨ds', hds, rfl⟩ := Option.map_eq_some_iff.mp h
        exact .apart hd (ih hds)
    | case5 c d hd t hne hnot ih =>
        obtain ⟨ds', hds, rfl⟩ := Option.map_eq_some_iff.mp h
        exact .next hd (ih hds)
  · intro h
    induction h with
    | last hd => simp [digitValues?, hd]
    | apart hd _ ih => simp [digitValues?, hd, ih]
    | next hd hothers ih =>
        obtain ⟨c', t', rfl⟩ := List.exists_cons_of_ne_nil hothers.ne_nil
        have hne : c' ≠ '_' := by
          rintro rfl
          exact hothers.head_not_mem_marks (by decide)
        rw [digitValues?]
        simp [hd, hne, ih]

/-- The digits of a natural number are its whole text. -/
theorem natural?_eq_ok {whole : Text} : natural? whole t = .ok n ↔ SpellsNatural t n := by
  rw [natural?]
  constructor
  · intro h
    split at h
    · contradiction
    · next ds hds =>
        split at h
        · contradiction
        · next hshort =>
            split at h
            · next hrest =>
                have hsplit : t.takeWhile isNumeralChar = t := by
                  simpa [hrest] using List.takeWhile_append_dropWhile (p := isNumeralChar) (l := t)
                rw [hsplit] at hds
                exact ⟨ds, digitValues?_eq_some.mp hds, Nat.not_lt.mp hshort, Except.ok.inj h⟩
            · contradiction
  · rintro ⟨ds, hds, hshort, rfl⟩
    have htake : t.takeWhile isNumeralChar = t := List.takeWhile_eq_self_iff.mpr hds.isNumeralChar
    have hdrop : t.dropWhile isNumeralChar = [] := List.dropWhile_eq_nil_iff.mpr hds.isNumeralChar
    rw [htake, digitValues?_eq_some.mpr hds]
    simp only
    rw [if_neg (Nat.not_lt.mpr hshort), if_pos hdrop]

/-- No row of digits meets a range of blank characters. -/
theorem digits_apart_blanks :
    ∀ z ∈ zeros, ∀ r ∈ blanks, z + 9 < r.1 ∨ r.2 < z := by
  decide

theorem isNumeralSpace_digit (h : digitValue? c = some d) : isNumeralSpace c = false := by
  obtain ⟨z, hz, -⟩ := Option.map_eq_some_iff.mp h
  have hmem := List.mem_of_find?_eq_some hz
  have hrow : z ≤ c.toNat ∧ c.toNat ≤ z + 9 := by simpa using List.find?_some hz
  have hblank : isBlank c = false := by
    rw [Bool.eq_false_iff]
    intro hblank
    obtain ⟨r, hr, hlow, hhigh⟩ := Ranges.contains_iff.mp hblank
    have := digits_apart_blanks z hmem r hr
    omega
  rw [isNumeralSpace, hblank, Bool.false_and]

end Digits

section Trim

variable {p : Char → Bool} {front core back : Text}

/-- Only characters of the class are taken off the ends of a text. -/
theorem exists_append_trim (p : Char → Bool) (t : Text) :
    ∃ front back, t = front ++ trim p t ++ back ∧ (∀ c ∈ front, p c = true) ∧
      ∀ c ∈ back, p c = true := by
  refine ⟨t.takeWhile p, (t.dropWhile p).rtakeWhile p, ?_, ?_, ?_⟩
  · have hright : trim p t ++ (t.dropWhile p).rtakeWhile p = t.dropWhile p :=
      List.rdropWhile_append_rtakeWhile
    rw [List.append_assoc, hright, List.takeWhile_append_dropWhile]
  · exact fun c hc => List.mem_takeWhile_imp hc
  · exact fun c hc => List.mem_rtakeWhile_imp hc

/-- A text whose ends are not of the class is what is left when such characters around it
are taken off. -/
theorem trim_append (hfront : ∀ c ∈ front, p c = true) (hback : ∀ c ∈ back, p c = true)
    (hhead : ∀ c ∈ core.head?, p c = false) (hlast : ∀ c ∈ core.getLast?, p c = false) :
    trim p (front ++ core ++ back) = core := by
  have hkept : ∀ {l : Text}, (∀ c ∈ l.head?, p c = false) → l.dropWhile p = l := by
    intro l hl
    cases l with
    | nil => rfl
    | cons c l => exact List.dropWhile_cons_of_neg (by simp [hl c rfl])
  have hends : ∀ c ∈ core.reverse.head?, p c = false := by rwa [List.head?_reverse]
  rw [trim, List.append_assoc, List.dropWhile_append_of_pos hfront]
  cases core with
  | nil =>
      rw [List.nil_append, List.dropWhile_eq_nil_iff.mpr hback]
      rfl
  | cons c core =>
      rw [hkept (l := c :: core ++ back) hhead, dropRightWhile, List.reverse_append,
        List.dropWhile_append_of_pos (by simpa using hback), hkept hends, List.reverse_reverse]

end Trim

section Integer

variable {t : Text} {k : Nat} {n : Int}

theorem SpellsNatural.ne_nil (h : SpellsNatural t k) : t ≠ [] := by
  obtain ⟨ds, hds, -⟩ := h
  exact hds.ne_nil

theorem SpellsNatural.head {c : Char} (h : SpellsNatural (c :: t) k) :
    ∃ d, digitValue? c = some d := by
  obtain ⟨ds, hds, -⟩ := h
  exact hds.head

theorem SpellsNatural.head_not_mem_marks {c : Char} (h : SpellsNatural (c :: t) k) :
    c ∉ marks := by
  obtain ⟨ds, hds, -⟩ := h
  exact hds.head_not_mem_marks

/-- A numeral does not begin with white space. -/
theorem SpellsInteger.head?_not_space (h : SpellsInteger t n) :
    ∀ c ∈ t.head?, isNumeralSpace c = false := by
  rintro c hc
  obtain ⟨t, rfl⟩ := List.head?_eq_some_iff.mp hc
  cases h with
  | plain hdigits =>
      obtain ⟨d, hd⟩ := hdigits.head
      exact isNumeralSpace_digit hd
  | plus => decide
  | minus => decide

/-- A numeral does not end in white space. -/
theorem SpellsInteger.getLast?_not_space (h : SpellsInteger t n) :
    ∀ c ∈ t.getLast?, isNumeralSpace c = false := by
  have hlast : ∀ {t : Text} {k : Nat}, SpellsNatural t k →
      ∀ c ∈ t.getLast?, isNumeralSpace c = false := by
    rintro t k ⟨ds, hds, -⟩ c hc
    obtain ⟨d, hd⟩ := hds.getLast
    rw [List.getLast?_eq_getLast_of_ne_nil hds.ne_nil] at hc
    obtain rfl := Option.some.inj hc
    exact isNumeralSpace_digit hd
  cases h with
  | plain hdigits => exact hlast hdigits
  | plus hdigits =>
      rw [List.getLast?_cons_of_ne_nil hdigits.ne_nil]
      exact hlast hdigits
  | minus hdigits =>
      rw [List.getLast?_cons_of_ne_nil hdigits.ne_nil]
      exact hlast hdigits

/-- With whatever sign digits are read, it is their number that gets the sign. -/
theorem map_natural?_eq_ok {whole : Text} {sign : Int → Int} :
    Except.map sign (natural? whole t : Except IntegerRefusal Int) = .ok n ↔
      ∃ k : Nat, SpellsNatural t k ∧ n = sign k := by
  cases h : natural? whole t with
  | error cause =>
      refine iff_of_false (fun hok => ?_) ?_
      · contradiction
      · rintro ⟨k, hk, -⟩
        rw [natural?_eq_ok.mpr hk] at h
        contradiction
  | ok k =>
      have hk := natural?_eq_ok.mp h
      constructor
      · intro hok
        exact ⟨k, hk, (Except.ok.inj hok).symm⟩
      · rintro ⟨k', hk', rfl⟩
        obtain rfl := Except.ok.inj (h.symm.trans (natural?_eq_ok.mpr hk'))
        rfl

/-- A text is read as a whole number exactly when it is a numeral of that number. -/
theorem integer?_eq_ok : integer? t = .ok n ↔ IsInteger t n := by
  constructor
  · intro h
    obtain ⟨front, back, hsplit, hfront, hback⟩ := exists_append_trim isNumeralSpace t
    refine ⟨front, _, back, hsplit, hfront, hback, ?_⟩
    rw [integer?] at h
    split at h
    · next cs hcore =>
        obtain ⟨k, hk, rfl⟩ := map_natural?_eq_ok.mp h
        rw [hcore]
        exact .minus hk
    · next cs hcore =>
        obtain ⟨k, hk, rfl⟩ := map_natural?_eq_ok.mp h
        rw [hcore]
        exact .plus hk
    · obtain ⟨k, hk, rfl⟩ := map_natural?_eq_ok.mp h
      exact .plain hk
  · rintro ⟨front, core, back, rfl, hfront, hback, hcore⟩
    rw [integer?, trim_append hfront hback hcore.head?_not_space hcore.getLast?_not_space]
    cases hcore with
    | minus hdigits => exact map_natural?_eq_ok.mpr ⟨_, hdigits, rfl⟩
    | plus hdigits => exact map_natural?_eq_ok.mpr ⟨_, hdigits, rfl⟩
    | plain hdigits =>
        -- A digit is no sign, so the digits are not mistaken for a numeral with one.
        split
        · exact absurd (by decide) hdigits.head_not_mem_marks
        · exact absurd (by decide) hdigits.head_not_mem_marks
        · exact map_natural?_eq_ok.mpr ⟨_, hdigits, rfl⟩

end Integer

end PaymentUri.Text
