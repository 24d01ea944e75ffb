import PaymentUri.Proofs.ParseErrors
/-!
# Which texts are addresses

A currency has an address for each of its versions and each hash, and every address has
one text. These texts are accepted and no others, and the address that is read is the one
that was written. All other texts are refused, each for one reason: it is empty, it holds
no version and payload, the version is foreign, or the payload is no hash.
-/

namespace PaymentUri.Address

variable {c d : Currency} {t : Text} {a b : Address} {cause : Refusal}

/-- The text is written from a version of the currency and a hash. -/
def IsWritten (c : Currency) (t : Text) : Prop :=
  ∃ version ∈ c.versions, ∃ hash : List UInt8, hash.length = 20 ∧
    t = Base58Check.encode .doubleSha256 version hash

/-- Why a text is no address of a currency. -/
inductive IsRefused (c : Currency) : Text → Refusal → Prop
  | empty : IsRefused c [] .empty
  | encoding {t : Text} {cause : Base58Check.Refusal} (present : t ≠ [])
      (refused : Base58Check.IsRefused .doubleSha256 t cause) :
      IsRefused c t (.encoding cause)
  | foreignVersion {version : UInt8} {payload : List UInt8} (foreign : version ∉ c.versions) :
      IsRefused c (Base58Check.encode .doubleSha256 version payload) (.foreignVersion c.id)
  | payloadLength {version : UInt8} {payload : List UInt8} (own : version ∈ c.versions)
      (length : payload.length ≠ 20) :
      IsRefused c (Base58Check.encode .doubleSha256 version payload) .payloadLength

theorem IsRefused.ofText?_eq (h : IsRefused c t cause) : ofText? c t = .error cause := by
  cases h with
  | empty => rfl
  | encoding hpresent hrefused =>
      rw [ofText?, contents?, if_neg hpresent, hrefused.decode?_eq]
      rfl
  | foreignVersion hforeign =>
      rw [ofText?, contents?_eq_ok.mpr rfl]
      exact dif_neg hforeign
  | payloadLength hown hlength =>
      rw [ofText?, contents?_eq_ok.mpr rfl]
      exact (dif_pos hown).trans (dif_neg hlength)

/-- A text is written from what an address has, or there is a reason why not. -/
theorem isWritten_or_isRefused (c : Currency) (t : Text) :
    IsWritten c t ∨ ∃ cause, IsRefused c t cause := by
  by_cases hempty : t = []
  · subst hempty
    exact .inr ⟨_, .empty⟩
  · rcases Base58Check.exists_eq_encode_or_isRefused .doubleSha256 t with
      ⟨version, payload, rfl⟩ | ⟨cause, hcause⟩
    · by_cases hversion : version ∈ c.versions
      · by_cases hlength : payload.length = 20
        · exact .inl ⟨version, hversion, payload, hlength, rfl⟩
        · exact .inr ⟨_, .payloadLength hversion hlength⟩
      · exact .inr ⟨_, .foreignVersion hversion⟩
    · exact .inr ⟨_, .encoding hempty hcause⟩

theorem accepts_iff_isWritten : Accepts c t ↔ IsWritten c t := by
  rw [accepts_iff]
  constructor
  · rintro ⟨version, hash, hcontents, hversion, hhash⟩
    exact ⟨version, hversion, hash, hhash, contents?_eq_ok.mp hcontents⟩
  · rintro ⟨version, hversion, hash, hhash, ht⟩
    exact ⟨version, hash, contents?_eq_ok.mpr ht, hversion, hhash⟩

/-- An address is read from its own text only. -/
theorem ofText?_eq_ok_iff_text : ofText? c t = .ok a ↔ a.currency = c ∧ a.text = t := by
  rw [ofText?_eq_ok, contents?_eq_ok, eq_comm (a := t)]
  rfl

theorem ofText?_eq_error : ofText? c t = .error cause ↔ IsRefused c t cause := by
  constructor
  · intro h
    rcases isWritten_or_isRefused c t with hwritten | ⟨cause', hcause⟩
    · obtain ⟨a, ha⟩ := accepts_iff_isWritten.mpr hwritten
      rw [h] at ha
      contradiction
    · rw [hcause.ofText?_eq, Except.error.injEq] at h
      exact h ▸ hcause
  · exact IsRefused.ofText?_eq

/-- Addresses of one text differ in their currencies only. -/
theorem same_iff_of_ofText? (ha : ofText? c t = .ok a) (hb : ofText? d t = .ok b) :
    a.same b = true ↔ c.id = d.id := by
  obtain ⟨rfl, hcontents⟩ := ofText?_eq_ok.mp ha
  obtain ⟨rfl, hcontents'⟩ := ofText?_eq_ok.mp hb
  rw [hcontents, Except.ok.injEq, Prod.mk.injEq] at hcontents'
  rw [same_iff, and_iff_left hcontents']

theorem accepts_iff_of_ofText? (h : ofText? c t = .ok a) :
    Accepts d t ↔ a.version ∈ d.versions := by
  rw [← text_of_ofText? h, accepts_text_iff]

theorem exists_ofHash? (c : Currency) (script : Bool) {hash : List UInt8}
    (h : hash.length = 20) :
    ∃ a, ofHash? c hash script = .ok a ∧ a.currency = c ∧ a.hash = hash ∧
      a.version = if script then c.scriptVersion else c.keyVersion :=
  ⟨_, dif_pos h, rfl, rfl, rfl⟩

/-- An address tells whether it pays to a script where the currency has a version for that. -/
theorem paysToScript_of_version (script : Bool) (hcurrency : a.currency = c)
    (hversion : a.version = if script then c.scriptVersion else c.keyVersion)
    (hdiffer : c.keyVersion ≠ c.scriptVersion) : a.paysToScript = script := by
  rw [paysToScript, hversion, hcurrency]
  cases script with
  | true => exact beq_self_eq_true _
  | false => exact beq_eq_false_iff_ne.mpr hdiffer

/-- What is read as an address of a currency, and as what. -/
structure IsExact (c : Currency) : Prop where
  accepted : ∀ t, (∃ a, ofDatum? c (.text t) = .ok a) ↔ IsWritten c t
  /-- The address is one of the currency, and it is written as it was read. -/
  address : ∀ t a, ofDatum? c (.text t) = .ok a ↔ a.currency = c ∧ a.text = t
  /-- There is no other version or hash that it could have. -/
  unique : ∀ t a version hash, ofDatum? c (.text t) = .ok a →
    t = Base58Check.encode .doubleSha256 version hash → version = a.version ∧ hash = a.hash
  refused : ∀ t cause, ofDatum? c (.text t) = .error cause ↔ IsRefused c t cause
  /-- Making the address checks its parts again and refuses nothing more. -/
  raised : ∀ t, Request.Raising.decode c t = (ofDatum? c (.text t)).mapError .address
  isAddress_iff : ∀ t, isAddress c (.text t) = true ↔ IsWritten c t
  /-- An address that is made from a hash is read back. -/
  hashed : ∀ hash script, hash.length = 20 → ∃ a, ofHash? c hash script = .ok a ∧
    a.currency = c ∧ a.hash = hash ∧ ofDatum? c (.text a.text) = .ok a ∧
      (c.keyVersion ≠ c.scriptVersion → a.paysToScript = script)
  /-- Another currency accepts the text when it has the version too. -/
  shared : ∀ t a d, ofDatum? c (.text t) = .ok a →
    ((∃ b, ofDatum? d (.text t) = .ok b) ↔ a.version ∈ d.versions) ∧
      ∀ b, ofDatum? d (.text t) = .ok b → (a.same b = true ↔ c.id = d.id)

/-- Addresses are read exactly, in every currency. -/
theorem isExact (c : Currency) : IsExact c where
  accepted _ := accepts_iff_isWritten
  address _ _ := ofText?_eq_ok_iff_text
  unique t a version hash h ht := by
    have hcontents := (ofText?_eq_ok.mp h).2
    rw [contents?_eq_ok.mpr ht, Except.ok.injEq, Prod.mk.injEq] at hcontents
    exact hcontents
  refused _ _ := ofText?_eq_error
  raised t := Request.Raising.decode_eq c t
  isAddress_iff t := isAddress_iff.trans accepts_iff_isWritten
  hashed hash script h := by
    obtain ⟨a, hmade, hcurrency, hhash, hversion⟩ := exists_ofHash? c script h
    refine ⟨a, hmade, hcurrency, hhash, ofText?_eq_ok_iff_text.mpr ⟨hcurrency, rfl⟩, ?_⟩
    exact paysToScript_of_version script hcurrency hversion
  shared _ _ _ h := ⟨accepts_iff_of_ofText? h, fun _ hb => same_iff_of_ofText? h hb⟩

end PaymentUri.Address
