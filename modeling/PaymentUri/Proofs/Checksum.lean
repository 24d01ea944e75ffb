import PaymentUri.Proofs.Base58
/-!
# Texts with a checksum

Base 58 is exact in both directions: all texts of its digits are written from some
octets, and from no others. With a checksum it is exact as well, for every digest. The
texts that are refused are those that were written from no version and payload, and the
cause of a refusal says why not: there is a character that is no digit, nothing stands
before the checksum, or the checksum is that of other octets.
-/

namespace PaymentUri

namespace Base58

variable {t before after : Text} {c : Char}

theorem idxOf_lt (h : c ∈ alphabet) : alphabet.idxOf c < 58 :=
  List.idxOf_lt_length_of_mem h

theorem digit_idxOf (h : c ∈ alphabet) : digit (alphabet.idxOf c) = c := by
  have hlt := List.idxOf_lt_length_of_mem h
  rw [digit, List.getD_eq_getElem?_getD, List.getElem?_eq_getElem hlt, List.getElem_idxOf,
    Option.getD_some]

/-- Digits of base 58 are the notation of the octets they denote. -/
theorem encode_bytesOf {ds : List Nat} (h : ∀ d ∈ ds, d < 58) :
    encode (bytesOf ds) = ds.map digit := by
  have hread : (Radix.convert 58 256 ds).map (UInt8.toNat ∘ UInt8.ofNat) =
      Radix.convert 58 256 ds := by
    refine (List.map_congr_left ?_).trans (List.map_id _)
    intro n hn
    exact UInt8.toNat_ofNat_of_lt' (Radix.lt_of_mem_convert (by decide) ds n hn)
  rw [encode_eq_map, bytesOf_eq_map, List.map_map, hread,
    Radix.convert_convert (by decide) (by decide) h]

/-- Every text of digits is written from some octets. -/
theorem exists_eq_encode (h : ∀ c ∈ t, c ∈ alphabet) : ∃ bytes, t = encode bytes := by
  have hdigits : ∀ d ∈ t.map fun c => alphabet.idxOf c, d < 58 := by
    intro d hd
    obtain ⟨c, hc, rfl⟩ := List.mem_map.mp hd
    exact idxOf_lt (h c hc)
  have htext : (t.map fun c => alphabet.idxOf c).map digit = t := by
    rw [List.map_map]
    refine (List.map_congr_left ?_).trans (List.map_id _)
    intro c hc
    exact digit_idxOf (h c hc)
  exact ⟨_, htext.symm.trans (encode_bytesOf hdigits).symm⟩

/-- Reading stops at the first character that is no digit. -/
theorem values?_of_not_mem (hbefore : ∀ b ∈ before, b ∈ alphabet) (hc : c ∉ alphabet) :
    values? (before ++ c :: after) = .error c := by
  induction before with
  | nil =>
      have hnone : digitValue? c = none := List.idxOf?_eq_none_iff.mpr hc
      rw [List.nil_append, values?, hnone]
  | cons b before ih =>
      obtain ⟨hb, hrest⟩ := List.forall_mem_cons.mp hbefore
      cases hvalue : digitValue? b with
      | none => exact absurd hb (List.idxOf?_eq_none_iff.mp hvalue)
      | some n =>
          rw [List.cons_append, values?, hvalue, ih hrest]
          rfl

theorem decode?_of_not_mem (hbefore : ∀ b ∈ before, b ∈ alphabet) (hc : c ∉ alphabet) :
    decode? (before ++ c :: after) = .error c := by
  rw [decode?, values?_of_not_mem hbefore hc]
  rfl

/-- A text is made of digits, or it has a first character that is none. -/
theorem forall_mem_or_exists_not_mem (t : Text) :
    (∀ c ∈ t, c ∈ alphabet) ∨
      ∃ before c after, t = before ++ c :: after ∧ (∀ b ∈ before, b ∈ alphabet) ∧
        c ∉ alphabet := by
  cases h : t.find? (· ∉ alphabet) with
  | none =>
      left
      simpa using List.find?_eq_none.mp h
  | some c =>
      obtain ⟨hc, before, after, hsplit, hbefore⟩ := List.find?_eq_some_iff_append.mp h
      right
      exact ⟨before, c, after, hsplit, by simpa using hbefore, by simpa using hc⟩

end Base58

namespace Base58Check

variable {d : Digest} {t : Text} {data : List UInt8} {version : UInt8} {payload : List UInt8}

theorem split?_of_length_le (h : data.length ≤ 4) : split? d data = .error .tooShort := by
  have hnone : data.take (data.length - 4) = [] := by
    rw [Nat.sub_eq_zero_of_le h, List.take_zero]
  rw [split?, hnone]

/-- The last four octets are compared with the checksum of those before them. -/
theorem split?_append {sum : List UInt8} (h : sum.length = 4) :
    split? d (version :: payload ++ sum) =
      if d.checksum (version :: payload) = sum then .ok (version, payload)
      else .error .badChecksum := by
  have hlen : (version :: payload ++ sum).length - 4 = (version :: payload).length := by
    rw [List.length_append, h, Nat.add_sub_cancel]
  rw [split?, hlen, List.take_left, List.drop_left]

theorem exists_eq_append (h : 4 < data.length) :
    ∃ version payload sum, data = version :: payload ++ sum ∧ sum.length = 4 := by
  have hne : data.take (data.length - 4) ≠ [] := by
    rw [Ne, List.take_eq_nil_iff]
    rintro (hzero | rfl)
    · omega
    · contradiction
  obtain ⟨version, payload, hfront⟩ := List.exists_cons_of_ne_nil hne
  refine ⟨version, payload, data.drop (data.length - 4), ?_, ?_⟩
  · rw [← hfront, List.take_append_drop]
  · rw [List.length_drop]
    omega

theorem decode?_encode_octets (d : Digest) (data : List UInt8) :
    decode? d (Base58.encode data) = split? d data := by
  rw [decode?, Base58.decode?_encode]

/-- Why a text was written from no version and payload. -/
inductive IsRefused (d : Digest) : Text → Refusal → Prop
  | badCharacter {before after : Text} {c : Char} (known : ∀ b ∈ before, b ∈ Base58.alphabet)
      (unknown : c ∉ Base58.alphabet) : IsRefused d (before ++ c :: after) (.badCharacter c)
  | tooShort {data : List UInt8} (short : data.length ≤ 4) :
      IsRefused d (Base58.encode data) .tooShort
  | badChecksum {version : UInt8} {payload sum : List UInt8} (four : sum.length = 4)
      (other : d.checksum (version :: payload) ≠ sum) :
      IsRefused d (Base58.encode (version :: payload ++ sum)) .badChecksum

theorem IsRefused.decode?_eq {cause : Refusal} (h : IsRefused d t cause) :
    decode? d t = .error cause := by
  cases h with
  | badCharacter hknown hunknown => rw [decode?, Base58.decode?_of_not_mem hknown hunknown]
  | tooShort hshort => rw [decode?_encode_octets, split?_of_length_le hshort]
  | badChecksum hfour hother => rw [decode?_encode_octets, split?_append hfour, if_neg hother]

/-- A text was written from a version and a payload, or there is a reason why not. -/
theorem exists_eq_encode_or_isRefused (d : Digest) (t : Text) :
    (∃ version payload, t = encode d version payload) ∨ ∃ cause, IsRefused d t cause := by
  rcases Base58.forall_mem_or_exists_not_mem t with hdigits | ⟨before, c, after, rfl, hknown, hc⟩
  · obtain ⟨data, rfl⟩ := Base58.exists_eq_encode hdigits
    rcases Nat.lt_or_ge 4 data.length with hlong | hshort
    · obtain ⟨version, payload, sum, rfl, hfour⟩ := exists_eq_append hlong
      by_cases hsum : d.checksum (version :: payload) = sum
      · subst hsum
        exact .inl ⟨version, payload, rfl⟩
      · exact .inr ⟨_, .badChecksum hfour hsum⟩
    · exact .inr ⟨_, .tooShort hshort⟩
  · exact .inr ⟨_, .badCharacter hknown hc⟩

theorem decode?_eq_ok :
    decode? d t = .ok (version, payload) ↔ t = encode d version payload := by
  constructor
  · intro h
    rcases exists_eq_encode_or_isRefused d t with ⟨v, p, rfl⟩ | ⟨cause, hcause⟩
    · rw [decode?_encode, Except.ok.injEq, Prod.mk.injEq] at h
      rw [h.1, h.2]
    · rw [hcause.decode?_eq] at h
      contradiction
  · rintro rfl
    exact decode?_encode d version payload

theorem decode?_eq_error {cause : Refusal} :
    decode? d t = .error cause ↔ IsRefused d t cause := by
  constructor
  · intro h
    rcases exists_eq_encode_or_isRefused d t with ⟨v, p, rfl⟩ | ⟨cause', hcause⟩
    · rw [decode?_encode] at h
      contradiction
    · rw [hcause.decode?_eq, Except.error.injEq] at h
      exact h ▸ hcause
  · exact IsRefused.decode?_eq

/-- With any digest, versions and payloads and the texts written from them determine one
another, and all other texts are refused, each for the one reason that applies to it. -/
theorem encode_decode?_exact (d : Digest) :
    (∀ version payload, decode? d (encode d version payload) = .ok (version, payload)) ∧
    (∀ t version payload, decode? d t = .ok (version, payload) →
      encode d version payload = t) ∧
    (∀ s t contents, decode? d s = .ok contents → decode? d t = .ok contents → s = t) ∧
    (∀ t, (∀ version payload, t ≠ encode d version payload) ↔
      ∃ cause, decode? d t = .error cause) ∧
    (∀ t cause, decode? d t = .error cause ↔ IsRefused d t cause) := by
  refine ⟨decode?_encode d, ?_, ?_, ?_, fun t cause => decode?_eq_error⟩
  · intro t version payload h
    exact (decode?_eq_ok.mp h).symm
  · rintro s t ⟨version, payload⟩ hs ht
    rw [decode?_eq_ok.mp hs, decode?_eq_ok.mp ht]
  · intro t
    constructor
    · intro hnone
      rcases exists_eq_encode_or_isRefused d t with ⟨v, p, ht⟩ | ⟨cause, hcause⟩
      · exact absurd ht (hnone v p)
      · exact ⟨cause, hcause.decode?_eq⟩
    · rintro ⟨cause, hcause⟩ version payload rfl
      rw [decode?_encode] at hcause
      contradiction

end Base58Check

end PaymentUri
