import PaymentUri.Text.Percent
/-!
# Encoded text read back

Encoded text holds nothing but escapes and characters of ASCII, so all of it is
one run of octets, and these are the octets of the text it was made from. Of any
encoded text, whoever wrote it, the octets are those of the text it is read as;
in particular no value that is there at all is read as the empty text.
-/

namespace PaymentUri.Text

/-- What holds of all characters of ASCII can be decided. -/
theorem forall_ascii {P : Char → Prop} (h : ∀ n < 128, P (Char.ofNat n)) {c : Char}
    (hc : c.toNat < 128) : P c := by
  rw [← Char.ofNat_toNat c]
  exact h c.toNat hc

theorem toNat_lt_of_isAlphanum {c : Char} (h : c.isAlphanum = true) : c.toNat < 128 := by
  change (decide (65 ≤ c.val ∧ c.val ≤ 90) || (decide (97 ≤ c.val) && decide (c.val ≤ 122)) ||
    (decide (48 ≤ c.val) && decide (c.val ≤ 57))) = true at h
  simp only [Bool.or_eq_true, Bool.and_eq_true, decide_eq_true_eq, UInt32.le_iff_toNat_le] at h
  change ((65 ≤ c.toNat ∧ c.toNat ≤ 90) ∨ (97 ≤ c.toNat ∧ c.toNat ≤ 122)) ∨
    (48 ≤ c.toNat ∧ c.toNat ≤ 57) at h
  omega

theorem isUnreserved_iff {c : Char} :
    isUnreserved c = true ↔ c.isAlphanum = true ∨ c = '.' ∨ c = '_' ∨ c = '-' ∨ c = '*' := by
  simp [isUnreserved, or_assoc]

theorem toNat_lt_of_isUnreserved {c : Char} (h : isUnreserved c = true) : c.toNat < 128 := by
  rcases isUnreserved_iff.mp h with h | rfl | rfl | rfl | rfl
  · exact toNat_lt_of_isAlphanum h
  all_goals decide

theorem toNat_lt_of_isHex {c : Char} (h : isHex c = true) : c.toNat < 128 := by
  rw [isHex, hexValue?] at h
  split at h
  · next hdigit => exact toNat_lt_of_isAlphanum (by simp [Char.isAlphanum, hdigit])
  · split at h
    · next hlower =>
        exact Nat.lt_of_le_of_lt (UInt32.le_iff_toNat_le.mp hlower.2) (by decide)
    · split at h
      · next hupper =>
          exact Nat.lt_of_le_of_lt (UInt32.le_iff_toNat_le.mp hupper.2) (by decide)
      · contradiction

theorem isUnreserved_upperHex : ∀ n < 16, isUnreserved (upperHex n) = true := by decide

/-- A character that is no percent sign is a piece of its own. -/
theorem pieces_cons {c : Char} (h : c ≠ '%') (t : Text) :
    pieces (c :: t) = .char (if c = '+' then ' ' else c) :: pieces t := by
  rw [pieces.eq_def]
  split
  · contradiction
  · next heq => exact absurd (List.cons.inj heq).1 h
  · next heq => obtain ⟨rfl, rfl⟩ := List.cons.inj heq; rfl

theorem pieces_ne_nil {t : Text} (h : t ≠ []) : pieces t ≠ [] := by
  rw [pieces.eq_def]
  split
  · contradiction
  · split <;> simp
  · simp

theorem pieces_flatMap_escape (bytes : List UInt8) (t : Text) :
    pieces (bytes.flatMap escape ++ t) = bytes.map .octet ++ pieces t := by
  induction bytes with
  | nil => rfl
  | cons b bytes ih =>
      rw [List.flatMap_cons, List.append_assoc, pieces_escape, ih]
      rfl

/-- The pieces of an encoded character. -/
def encodedPieces (c : Char) : List Piece :=
  if isUnreserved c then [.char c] else (String.utf8EncodeChar c).map .octet

theorem pieces_percentEncodeChar (c : Char) (t : Text) :
    pieces (percentEncodeChar c ++ t) = encodedPieces c ++ pieces t := by
  rw [percentEncodeChar, encodedPieces]
  by_cases h : isUnreserved c = true
  · have hpercent : c ≠ '%' := by rintro rfl; simp [isUnreserved] at h
    have hplus : c ≠ '+' := by rintro rfl; simp [isUnreserved] at h
    simp only [h, if_true, List.singleton_append]
    rw [pieces_cons hpercent, if_neg hplus]
  · simp only [h, Bool.false_eq_true, if_false]
    exact pieces_flatMap_escape _ t

theorem pieces_percentEncode (t : Text) : pieces (percentEncode t) = t.flatMap encodedPieces := by
  induction t with
  | nil => simp
  | cons c t ih => rw [percentEncode_cons, pieces_percentEncodeChar, ih, List.flatMap_cons]

/-- Encoded text stands for the octets of the text it was made from. -/
theorem formBytes_percentEncode (t : Text) : formBytes (percentEncode t) = utf8 t := by
  have hchar : ∀ c : Char, (encodedPieces c).flatMap Piece.bytes = String.utf8EncodeChar c := by
    intro c
    rw [encodedPieces]
    split <;> simp [List.flatMap_map, Piece.bytes]
  rw [formBytes, pieces_percentEncode, List.flatMap_assoc]
  simp only [hchar, utf8]

/-- The piece is an octet or a character of ASCII, so it does not end a run. -/
def Piece.IsInner : Piece → Prop
  | .octet _ => True
  | .char c => c.toNat < 128

theorem utf8EncodeChar_ascii {c : Char} (h : c.toNat < 128) :
    String.utf8EncodeChar c = [UInt8.ofNat c.toNat] := by
  have hle : c.val.toNat ≤ 127 := Nat.le_of_lt_succ h
  simp only [String.utf8EncodeChar]
  rw [if_pos hle]
  rfl

theorem runs_of_isInner {ps : List Piece} (h : ∀ p ∈ ps, p.IsInner) :
    runs ps = (ps.flatMap Piece.bytes, []) := by
  induction ps with
  | nil => rfl
  | cons p ps ih =>
      have ihps := ih fun q hq => h q (List.mem_cons_of_mem p hq)
      cases p with
      | octet b => simp [runs, ihps, Piece.bytes]
      | char c =>
          have hc : c.toNat < 128 := h (.char c) List.mem_cons_self
          simp [runs, ihps, Piece.bytes, hc, utf8EncodeChar_ascii]

theorem isInner_of_mem_encodedPieces {c : Char} {p : Piece} (h : p ∈ encodedPieces c) :
    p.IsInner := by
  rw [encodedPieces] at h
  split at h
  · next hc =>
      obtain rfl : p = .char c := by simpa using h
      exact toNat_lt_of_isUnreserved hc
  · obtain ⟨b, -, rfl⟩ := List.mem_map.mp h
    trivial

/-- Text that was encoded is read back. -/
theorem percentDecode?_percentEncode (t : Text) : percentDecode? (percentEncode t) = some t := by
  have hinner : ∀ p ∈ pieces (percentEncode t), p.IsInner := by
    intro p hp
    rw [pieces_percentEncode] at hp
    obtain ⟨c, -, hc⟩ := List.mem_flatMap.mp hp
    exact isInner_of_mem_encodedPieces hc
  have hbytes : (pieces (percentEncode t)).flatMap Piece.bytes = utf8 t :=
    formBytes_percentEncode t
  simp [percentDecode?, runs_of_isInner hinner, hbytes, decodeRuns?]

/-- The octets of the runs after the first. -/
def runBytes (rest : List (Char × List UInt8)) : List UInt8 :=
  rest.flatMap fun r => String.utf8EncodeChar r.1 ++ r.2

/-- No octet is lost by cutting pieces into runs. -/
theorem runs_bytes (ps : List Piece) :
    (runs ps).1 ++ runBytes (runs ps).2 = ps.flatMap Piece.bytes := by
  induction ps with
  | nil => rfl
  | cons p ps ih =>
      rw [List.flatMap_cons, ← ih]
      cases p with
      | octet b => rfl
      | char c =>
          simp only [runs]
          split
          · next hc => simp [Piece.bytes, utf8EncodeChar_ascii hc]
          · simp [Piece.bytes, runBytes]

theorem utf8_of_decodeRuns? {rest : List (Char × List UInt8)} {t : Text}
    (h : decodeRuns? rest = some t) : utf8 t = runBytes rest := by
  induction rest generalizing t with
  | nil =>
      obtain rfl : [] = t := Option.some.inj h
      rfl
  | cons r rest ih =>
      obtain ⟨c, run⟩ := r
      simp only [decodeRuns?, Option.bind_eq_bind, Option.bind_eq_some_iff] at h
      obtain ⟨u, hu, v, hv, huv⟩ := h
      obtain rfl : c :: u ++ v = t := Option.some.inj huv
      rw [utf8_append, utf8_cons, ih hv, ← decodeUtf8?_eq_some_iff.mp hu]
      simp [runBytes]

/-- The octets of what an encoded text is read as are those it stands for. -/
theorem utf8_of_percentDecode? {v t : Text} (h : percentDecode? v = some t) :
    utf8 t = formBytes v := by
  simp only [percentDecode?, Option.bind_eq_bind, Option.bind_eq_some_iff] at h
  obtain ⟨u, hu, w, hw, huw⟩ := h
  obtain rfl : u ++ w = t := Option.some.inj huw
  rw [utf8_append, ← decodeUtf8?_eq_some_iff.mp hu, utf8_of_decodeRuns? hw, runs_bytes]
  rfl

/-- A value that is there is not read as the empty text. -/
theorem ne_nil_of_percentDecode? {v t : Text} (hv : v ≠ []) (h : percentDecode? v = some t) :
    t ≠ [] := by
  rintro rfl
  have hnone : formBytes v = [] := (utf8_of_percentDecode? h).symm
  obtain ⟨p, ps, hp⟩ := List.exists_cons_of_ne_nil (pieces_ne_nil hv)
  rw [formBytes, hp, List.flatMap_cons] at hnone
  cases p with
  | octet b => simp [Piece.bytes] at hnone
  | char c => exact String.utf8EncodeChar_ne_nil (List.append_eq_nil_iff.mp hnone).1

theorem isUnreserved_of_mem_escape {b : UInt8} {c : Char} (h : c ∈ escape b) :
    isUnreserved c = true ∨ c = '%' := by
  have hlt := b.toNat_lt
  simp only [escape, List.mem_cons, List.not_mem_nil, or_false] at h
  rcases h with rfl | rfl | rfl
  · exact .inr rfl
  · exact .inl (isUnreserved_upperHex _ (by omega))
  · exact .inl (isUnreserved_upperHex _ (by omega))

/-- A character of encoded text is unreserved or begins an escape. -/
theorem isUnreserved_of_mem_percentEncode {t : Text} {c : Char} (h : c ∈ percentEncode t) :
    isUnreserved c = true ∨ c = '%' := by
  obtain ⟨d, -, hd⟩ := List.mem_flatMap.mp h
  rw [percentEncodeChar] at hd
  split at hd
  · next hc =>
      obtain rfl : c = d := by simpa using hd
      exact .inl hc
  · obtain ⟨b, -, hb⟩ := List.mem_flatMap.mp hd
    exact isUnreserved_of_mem_escape hb

/-- Different texts are encoded differently. -/
theorem percentEncode_injective : Function.Injective percentEncode := by
  intro s t h
  have hread := percentDecode?_percentEncode s
  rw [h, percentDecode?_percentEncode] at hread
  exact (Option.some.inj hread).symm

theorem percentEncode_ne_nil {t : Text} (h : t ≠ []) : percentEncode t ≠ [] :=
  fun he => h (percentEncode_injective (he.trans percentEncode_nil.symm))

end PaymentUri.Text
