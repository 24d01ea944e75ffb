import PaymentUri.Address
import PaymentUri.Proofs.Checksum
/-!
# Addresses read back

What a text states is a version and a hash. A currency accepts it for an address
when the version is one of its own, so which currencies accept an address does
not depend on the currency it was made for.
-/

namespace PaymentUri.Address

variable {c : Currency} {t : Text}

/-- A version and a payload are only stated by the one text that is written from them. -/
theorem contents?_eq_ok {version : UInt8} {payload : List UInt8} :
    contents? t = .ok (version, payload) ↔
      t = Base58Check.encode .doubleSha256 version payload := by
  rw [← Base58Check.decode?_eq_ok, contents?]
  split
  · next hempty =>
      subst hempty
      constructor
      · intro h
        contradiction
      · intro h
        have hne : Base58Check.encode .doubleSha256 version payload ≠ [] :=
          Base58.encode_ne_nil (by simp)
        exact absurd (Base58Check.decode?_eq_ok.mp h).symm hne
  · cases Base58Check.decode? .doubleSha256 t <;> simp [Except.mapError]

/-- The text states an address of the currency. -/
def Accepts (c : Currency) (t : Text) : Prop := ∃ a, ofText? c t = .ok a

theorem ofText?_eq_ok {a : Address} :
    ofText? c t = .ok a ↔ a.currency = c ∧ contents? t = .ok (a.version, a.hash) := by
  rw [ofText?]
  constructor
  · intro h
    split at h
    · contradiction
    · next version hash hcontents =>
        rw [ofContents?] at h
        split at h
        · split at h
          · obtain rfl := Except.ok.inj h
            exact ⟨rfl, hcontents⟩
          · contradiction
        · contradiction
  · rintro ⟨rfl, hcontents⟩
    rw [hcontents]
    exact (dif_pos a.version_mem).trans (dif_pos a.length_hash)

/-- The text of an address is the text that it was read from. -/
theorem text_of_ofText? {a : Address} (h : ofText? c t = .ok a) : a.text = t :=
  (contents?_eq_ok.mp (ofText?_eq_ok.mp h).2).symm

theorem accepts_iff :
    Accepts c t ↔ ∃ version hash, contents? t = .ok (version, hash) ∧ version ∈ c.versions ∧
      hash.length = 20 := by
  constructor
  · rintro ⟨a, ha⟩
    obtain ⟨rfl, hcontents⟩ := ofText?_eq_ok.mp ha
    exact ⟨a.version, a.hash, hcontents, a.version_mem, a.length_hash⟩
  · rintro ⟨version, hash, hcontents, hversion, hhash⟩
    exact ⟨⟨c, version, hash, hversion, hhash⟩, ofText?_eq_ok.mpr ⟨rfl, hcontents⟩⟩

theorem not_accepts_nil (c : Currency) : ¬ Accepts c [] := by
  rintro ⟨a, ha⟩
  obtain ⟨-, hcontents⟩ := ofText?_eq_ok.mp ha
  contradiction

theorem text_ne_nil (a : Address) : a.text ≠ [] :=
  Base58.encode_ne_nil (by simp)

theorem contents?_text (a : Address) : contents? a.text = .ok (a.version, a.hash) := by
  rw [contents?, if_neg a.text_ne_nil, text, Base58Check.decode?_encode]
  rfl

/-- An address is read back from its text. -/
theorem ofText?_text (a : Address) : ofText? a.currency a.text = .ok a :=
  ofText?_eq_ok.mpr ⟨rfl, a.contents?_text⟩

/-- The text of an address is accepted by every currency that uses its version. -/
theorem accepts_text_iff {a : Address} : Accepts c a.text ↔ a.version ∈ c.versions := by
  rw [accepts_iff, contents?_text]
  constructor
  · rintro ⟨version, hash, heq, hversion, -⟩
    obtain ⟨rfl, -⟩ := Prod.mk.inj (Except.ok.inj heq)
    exact hversion
  · intro hversion
    exact ⟨a.version, a.hash, rfl, hversion, a.length_hash⟩

theorem isAlphanum_of_mem_text {a : Address} {d : Char} (h : d ∈ a.text) :
    d.isAlphanum = true :=
  Base58.isAlphanum_of_mem_encode h

end PaymentUri.Address
