import PaymentUri.Proofs.Address
import PaymentUri.Proofs.Query
/-!
# What is read as a payment request

A text is read in three steps that depend on one another only through their
results: the URI is taken apart, the address settles the currency, and the fields
are read in that currency.
-/

namespace PaymentUri.Request

variable {registry : Registry} {currency? : Option Currency} {uri t : Text} {r : Request}

/-- The address that the first candidate to accept a text reads in it. The empty text
is no address. -/
inductive Settles (cs : List Currency) : Text → Option Address → Prop
  | none : Settles cs [] none
  | first {before after : List Currency} {c : Currency} {t : Text} {a : Address}
      (split : cs = before ++ c :: after) (earlier : ∀ b ∈ before, ¬ Address.Accepts b t)
      (read : Address.ofText? c t = .ok a) : Settles cs t (some a)

/-- The currency of a request: that of its address, or else the one that the reader was
told. -/
def settled (currency? : Option Currency) : Option Address → Option Currency
  | none => currency?
  | some a => some a.currency

theorem settles_none {cs : List Currency} : Settles cs t none ↔ t = [] := by
  constructor
  · intro h
    cases h
    rfl
  · rintro rfl
    exact .none

theorem settles_nil {cs : List Currency} {address? : Option Address} :
    Settles cs [] address? ↔ address? = none := by
  constructor
  · intro h
    cases h with
    | none => rfl
    | first _ _ hread => exact absurd ⟨_, hread⟩ (Address.not_accepts_nil _)
  · rintro rfl
    exact .none

/-- A reader who is told a currency settles on the address that is read in it. -/
theorem Settles.only {c : Currency} {a : Address} (h : Address.ofText? c t = .ok a) :
    Settles [c] t (some a) := by
  have hsplit : [c] = [] ++ c :: [] := rfl
  exact .first hsplit (by simp) h

theorem resolve?_eq_findSome? (t : Text) (cs : List Currency) :
    (resolve? t cs).1 = cs.findSome? fun c => (Address.ofText? c t).toOption := by
  induction cs with
  | nil => rfl
  | cons c cs ih =>
      rw [resolve?, List.findSome?_cons]
      cases Address.ofText? c t with
      | ok a => rfl
      | error cause => exact ih

/-- A search succeeds with the first candidate that accepts the text. -/
theorem resolve?_eq_some {cs : List Currency} {a : Address} :
    (resolve? t cs).1 = some a ↔ Settles cs t (some a) := by
  have hread : ∀ (c : Currency) (b : Address),
      (Address.ofText? c t).toOption = some b ↔ Address.ofText? c t = .ok b := by
    intro c b
    cases Address.ofText? c t <;> simp [Except.toOption]
  have hnone : ∀ c : Currency, (Address.ofText? c t).toOption = none ↔ ¬ Address.Accepts c t := by
    intro c
    rw [Address.Accepts]
    cases Address.ofText? c t <;> simp [Except.toOption]
  rw [resolve?_eq_findSome?, List.findSome?_eq_some_iff]
  constructor
  · rintro ⟨before, c, after, hsplit, hc, hearlier⟩
    exact .first hsplit (fun b hb => (hnone b).mp (hearlier b hb)) ((hread c a).mp hc)
  · intro h
    cases h with
    | first hsplit hearlier hc =>
        exact ⟨_, _, _, hsplit, (hread _ a).mpr hc, fun b hb => (hnone b).mpr (hearlier b hb)⟩

/-- Some candidate settles an address as soon as one accepts it. -/
theorem exists_settles_iff {cs : List Currency} :
    (∃ address?, Settles cs t address?) ↔ t = [] ∨ ∃ c ∈ cs, Address.Accepts c t := by
  constructor
  · rintro ⟨address?, h⟩
    cases h with
    | none => exact .inl rfl
    | first hsplit _ hread => exact .inr ⟨_, by simp [hsplit], _, hread⟩
  · rintro (rfl | ⟨c, hc, a, ha⟩)
    · exact ⟨none, .none⟩
    · cases h : (resolve? t cs).1 with
      | some b => exact ⟨some b, resolve?_eq_some.mp h⟩
      | none =>
          rw [resolve?_eq_findSome?, List.findSome?_eq_none_iff] at h
          have := h c hc
          rw [ha] at this
          contradiction

/-- An address that is settled, or the lack of one, leaves only the fields to be read. -/
theorem Settles.outcome_ofParts {parts : Parts} {address? : Option Address}
    (h : Settles parts.candidates parts.address address?) :
    (ofParts currency? parts).outcome =
      complete? (settled currency? address?) address? parts.tokens := by
  cases address? with
  | none => rw [ofParts, if_pos (settles_none.mp h), settled]
  | some a =>
      have hnonempty : parts.address ≠ [] := by
        intro hempty
        rw [hempty, settles_nil] at h
        contradiction
      rw [ofParts, if_neg hnonempty]
      simp only [resolve?_eq_some.mpr h, settled]

/-- An address that no candidate accepts is refused before any field is read. -/
theorem outcome_ofParts_of_not_accepts {parts : Parts} (hnonempty : parts.address ≠ [])
    (h : ∀ c ∈ parts.candidates, ¬ Address.Accepts c parts.address) :
    (ofParts currency? parts).outcome = .error (.invalidAddress parts.address) := by
  have hnone : (resolve? parts.address parts.candidates).1 = none := by
    cases hsearch : (resolve? parts.address parts.candidates).1 with
    | none => rfl
    | some a =>
        rcases exists_settles_iff.mp ⟨some a, resolve?_eq_some.mp hsearch⟩ with hempty | ⟨c, hc, ha⟩
        · exact absurd hempty hnonempty
        · exact absurd ha (h c hc)
  rw [ofParts, if_neg hnonempty]
  simp only [hnone]

theorem outcome_ofParts_eq_ok {parts : Parts} :
    (ofParts currency? parts).outcome = .ok r ↔
      ∃ address?, Settles parts.candidates parts.address address? ∧
        complete? (settled currency? address?) address? parts.tokens = .ok r := by
  constructor
  · intro h
    by_cases hexists : ∃ address?, Settles parts.candidates parts.address address?
    · obtain ⟨address?, hsettles⟩ := hexists
      exact ⟨address?, hsettles, hsettles.outcome_ofParts.symm.trans h⟩
    · rw [exists_settles_iff, not_or, not_exists] at hexists
      rw [outcome_ofParts_of_not_accepts hexists.1 fun c hc ha => hexists.2 c ⟨hc, ha⟩] at h
      contradiction
  · rintro ⟨address?, hsettles, h⟩
    rw [hsettles.outcome_ofParts, h]

/-- A URI that can be taken apart is read in its parts. -/
theorem ofText?_of_ofUri? {parts : Parts} (h : Parts.ofUri? registry currency? uri = .ok parts) :
    ofText? registry currency? uri = (ofParts currency? parts).outcome := by
  rw [ofText?, read, Reading.outcome_finish, unfinished]
  simp only [h]

/-- The steps of a reading that succeeds. -/
theorem ofText?_eq_ok :
    ofText? registry currency? uri = .ok r ↔
      ∃ parts address?, TakenApart registry currency? uri parts ∧
        Settles parts.candidates parts.address address? ∧
        complete? (settled currency? address?) address? parts.tokens = .ok r := by
  constructor
  · intro h
    cases hparts : Parts.ofUri? registry currency? uri with
    | error cause =>
        rw [ofText?, read, Reading.outcome_finish, unfinished] at h
        simp only [hparts] at h
        contradiction
    | ok parts =>
        rw [ofText?_of_ofUri? hparts] at h
        obtain ⟨address?, hsettles, hcomplete⟩ := outcome_ofParts_eq_ok.mp h
        exact ⟨parts, address?, ofUri?_eq_ok.mp hparts, hsettles, hcomplete⟩
  · rintro ⟨parts, address?, happart, hsettles, hcomplete⟩
    rw [ofText?_of_ofUri? (ofUri?_eq_ok.mpr happart)]
    exact outcome_ofParts_eq_ok.mpr ⟨address?, hsettles, hcomplete⟩

end PaymentUri.Request
