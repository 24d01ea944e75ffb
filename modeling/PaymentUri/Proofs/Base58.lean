import Mathlib.Data.Nat.Digits.Lemmas
import PaymentUri.Base58.Check
import PaymentUri.Proofs.Text
/-!
# Reading base 58 back

Both directions of base 58 are one operation on digits: the number is written in
another base, and the leading zeros, which a number does not have, are carried
over one for one. Done to and fro between any two bases, this operation gives
back the digits it began with. Octets written in base 58, with a checksum or
without, are therefore read back whole.
-/

namespace PaymentUri

namespace Radix

variable {base source target : Nat} {ds : List Nat}

theorem littleEndian_eq_digits (hb : 2 ≤ base) (n : Nat) :
    littleEndian base n = Nat.digits base n := by
  induction n using Nat.strongRecOn with
  | ind n ih =>
      rcases Nat.eq_zero_or_pos n with rfl | hn
      · simp [littleEndian]
      · rw [littleEndian, if_pos ⟨hb, hn⟩, Nat.digits_def' hb hn,
          ih _ (Nat.div_lt_self hn hb)]

theorem digits_eq_reverse (hb : 2 ≤ base) (n : Nat) :
    digits base n = (Nat.digits base n).reverse := by
  rw [digits, littleEndian_eq_digits hb]

theorem value_eq_ofDigits (base : Nat) (ds : List Nat) :
    value base ds = Nat.ofDigits base ds.reverse := by
  simp [value, Nat.ofDigits_eq_foldr, List.foldr_reverse, Nat.add_comm, Nat.mul_comm]

/-- A notation does not begin with the digit zero. -/
theorem head?_digits (hb : 2 ≤ base) (n : Nat) : (digits base n).head? ≠ some 0 := by
  rw [digits_eq_reverse hb, List.head?_reverse]
  intro h
  obtain ⟨ds, hds⟩ := List.getLast?_eq_some_iff.mp h
  have hn : n ≠ 0 := by
    rintro rfl
    simp at hds
  exact Nat.getLast_digit_ne_zero base hn (by simp [hds])

/-- Digits that do not begin with zero are the notation of the number they denote. -/
theorem digits_value (hb : 2 ≤ base) (hlt : ∀ d ∈ ds, d < base) (hhead : ds.head? ≠ some 0) :
    digits base (value base ds) = ds := by
  have hread : Nat.digits base (Nat.ofDigits base ds.reverse) = ds.reverse := by
    apply Nat.digits_ofDigits base hb
    · intro d hd
      exact hlt d (List.mem_reverse.mp hd)
    · intro hne hlast
      apply hhead
      rw [← List.getLast?_reverse, List.getLast?_eq_some_getLast hne, hlast]
  rw [digits_eq_reverse hb, value_eq_ofDigits, hread, List.reverse_reverse]

theorem value_replicate_zero_append (k : Nat) (ds : List Nat) :
    value base (List.replicate k 0 ++ ds) = value base ds := by
  rw [value_eq_ofDigits, List.reverse_append, List.reverse_replicate, value_eq_ofDigits,
    Nat.ofDigits_append_replicate_zero]

/-- Digits of one base in another, where leading zeros count. -/
def convert (source target : Nat) (ds : List Nat) : List Nat :=
  List.replicate (ds.takeWhile (· == 0)).length 0 ++ digits target (value source ds)

/-- The leading zeros of digits, split off. -/
theorem replicate_append_dropWhile (ds : List Nat) :
    List.replicate (ds.takeWhile (· == 0)).length 0 ++ ds.dropWhile (· == 0) = ds := by
  rw [← Text.takeWhile_beq, List.takeWhile_append_dropWhile]

theorem head?_dropWhile (ds : List Nat) : (ds.dropWhile (· == 0)).head? ≠ some 0 := by
  intro h
  have := List.head?_dropWhile_not (· == 0) ds
  rw [h] at this
  simp at this

theorem lt_of_mem_convert (ht : 2 ≤ target) (ds : List Nat) :
    ∀ d ∈ convert source target ds, d < target := by
  intro d hd
  rcases List.mem_append.mp hd with h | h
  · have : d = 0 := List.eq_of_mem_replicate h
    omega
  · exact lt_of_mem_digits ht _ d h

theorem takeWhile_convert (ht : 2 ≤ target) (ds : List Nat) :
    (convert source target ds).takeWhile (· == 0) =
      List.replicate (ds.takeWhile (· == 0)).length 0 := by
  have hstop : (digits target (value source ds)).takeWhile (· == 0) = [] := by
    cases h : digits target (value source ds) with
    | nil => rfl
    | cons d rest =>
        have hd : d ≠ 0 := by
          rintro rfl
          exact head?_digits ht (value source ds) (by simp [h])
        simp [hd]
  rw [convert, List.takeWhile_append_of_pos (by simp), hstop, List.append_nil]

/-- Digits taken to another base and back are the same digits. -/
theorem convert_convert (hs : 2 ≤ source) (ht : 2 ≤ target) (hlt : ∀ d ∈ ds, d < source) :
    convert target source (convert source target ds) = ds := by
  have hvalue : value target (convert source target ds) =
      value source (ds.dropWhile (· == 0)) := by
    rw [convert, value_replicate_zero_append, value_digits ht]
    conv_lhs => rw [← replicate_append_dropWhile ds]
    exact value_replicate_zero_append _ _
  have hrest : digits source (value source (ds.dropWhile (· == 0))) = ds.dropWhile (· == 0) :=
    digits_value hs (fun d hd => hlt d ((List.dropWhile_sublist _).mem hd)) (head?_dropWhile ds)
  rw [convert, takeWhile_convert ht, List.length_replicate, hvalue, hrest,
    replicate_append_dropWhile]

end Radix

namespace Base58

/-- The zeros before the first other octet are those of the octets as numbers. -/
theorem length_takeWhile_toNat (bytes : List UInt8) :
    ((bytes.map UInt8.toNat).takeWhile (· == 0)).length = (bytes.takeWhile (· == 0)).length := by
  rw [List.takeWhile_map, List.length_map]
  congr 2
  funext b
  simp [← UInt8.toNat_inj]

theorem encode_eq_map (bytes : List UInt8) :
    encode bytes = (Radix.convert 256 58 (bytes.map UInt8.toNat)).map digit := by
  rw [encode, Radix.convert, length_takeWhile_toNat, List.map_append, List.map_replicate]
  rfl

theorem bytesOf_eq_map (ds : List Nat) :
    bytesOf ds = (Radix.convert 58 256 ds).map UInt8.ofNat := by
  rw [bytesOf, Radix.convert, List.map_append, List.map_replicate]
  rfl

theorem values?_map_digit {ds : List Nat} (h : ∀ d ∈ ds, d < 58) :
    values? (ds.map digit) = .ok ds := by
  induction ds with
  | nil => rfl
  | cons d ds ih =>
      simp only [List.map_cons, values?, digitValue?_digit d (h d List.mem_cons_self),
        ih fun e he => h e (List.mem_cons_of_mem d he)]
      rfl

/-- Octets written in base 58 are read back. -/
theorem decode?_encode (bytes : List UInt8) : decode? (encode bytes) = .ok bytes := by
  have hlt : ∀ d ∈ bytes.map UInt8.toNat, d < 256 := by
    intro d hd
    obtain ⟨b, -, rfl⟩ := List.mem_map.mp hd
    exact b.toNat_lt
  rw [decode?, encode_eq_map, values?_map_digit (Radix.lt_of_mem_convert (by decide) _)]
  change Except.ok (bytesOf _) = _
  rw [bytesOf_eq_map, Radix.convert_convert (by decide) (by decide) hlt]
  simp [Function.comp_def]

theorem encode_ne_nil {bytes : List UInt8} (h : bytes ≠ []) : encode bytes ≠ [] := by
  intro he
  have hread := decode?_encode bytes
  rw [he, decode?_nil, Except.ok.injEq] at hread
  exact h hread.symm

theorem isAlphanum_digit (n : Nat) : (digit n).isAlphanum = true := by
  have hall : ∀ c ∈ alphabet, c.isAlphanum = true := List.all_eq_true.mp (by decide)
  rw [digit, List.getD_eq_getElem?_getD]
  cases h : alphabet[n]? with
  | none => decide
  | some c => exact hall c (List.mem_of_getElem? h)

/-- Base 58 is letters and digits of ASCII. -/
theorem isAlphanum_of_mem_encode {bytes : List UInt8} {c : Char} (h : c ∈ encode bytes) :
    c.isAlphanum = true := by
  rw [encode_eq_map] at h
  obtain ⟨n, -, rfl⟩ := List.mem_map.mp h
  exact isAlphanum_digit n

end Base58

namespace Base58Check

/-- A version and a payload written with their checksum are read back. -/
theorem decode?_encode (d : Digest) (version : UInt8) (payload : List UInt8) :
    decode? d (encode d version payload) = .ok (version, payload) := by
  rw [decode?, encode, Base58.decode?_encode]
  exact split?_checksum d version payload

end Base58Check

end PaymentUri
