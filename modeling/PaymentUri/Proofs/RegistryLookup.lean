import Mathlib.Data.List.Nodup
import PaymentUri.Proofs.Parts
import PaymentUri.Proofs.RegistryHistory
/-!
# What a registry answers

Where no id occurs twice, an id leads to the one currency that has it, and taking that
currency away leaves the others in their order. A registry that is what its history says
has no id twice, so all that it answers is known from the history.
-/

namespace PaymentUri

namespace Currency

theorem versionOf?_eq_ok {n : Int} {v : UInt8} :
    versionOf? n = .ok v ↔ (0 ≤ n ∧ n ≤ 255) ∧ v = UInt8.ofNat n.toNat := by
  rw [versionOf?]
  split
  · next hrange => simp [hrange, eq_comm]
  · next hrange => simp [hrange]

/-- Numbers in their ranges, and no others, make a currency. -/
theorem ofParts?_eq_ok {id name symbol scheme : Text} {exponent key script : Int} {c : Currency} :
    ofParts? id name symbol scheme exponent key script = .ok c ↔
      0 ≤ exponent ∧ (0 ≤ key ∧ key ≤ 255) ∧ (0 ≤ script ∧ script ≤ 255) ∧
        c = ⟨id, name, symbol, scheme, exponent.toNat, UInt8.ofNat key.toNat,
          UInt8.ofNat script.toNat⟩ := by
  rw [ofParts?]
  by_cases hneg : exponent < 0
  · rw [if_pos hneg]
    constructor
    · intro h
      contradiction
    · rintro ⟨hexponent, -⟩
      exact absurd hneg (Int.not_lt.mpr hexponent)
  · rw [if_neg hneg, bind_eq_ok]
    constructor
    · rintro ⟨v, hv, h⟩
      obtain ⟨w, hw, h⟩ := bind_eq_ok.mp h
      obtain ⟨hkey, rfl⟩ := versionOf?_eq_ok.mp hv
      obtain ⟨hscript, rfl⟩ := versionOf?_eq_ok.mp hw
      exact ⟨Int.not_lt.mp hneg, hkey, hscript, (Except.ok.inj h).symm⟩
    · rintro ⟨-, hkey, hscript, rfl⟩
      refine ⟨_, versionOf?_eq_ok.mpr ⟨hkey, rfl⟩, ?_⟩
      exact bind_eq_ok.mpr ⟨_, versionOf?_eq_ok.mpr ⟨hscript, rfl⟩, rfl⟩

/-- Every currency is made of its own numbers. -/
theorem ofParts?_self (c : Currency) :
    ofParts? c.id c.name c.symbol c.scheme c.exponent c.keyVersion.toNat c.scriptVersion.toNat =
      .ok c := by
  have hrange : ∀ v : UInt8, (0 : Int) ≤ v.toNat ∧ (v.toNat : Int) ≤ 255 := by
    intro v
    have := v.toNat_lt
    omega
  have hexponent : (0 : Int) ≤ c.exponent := by omega
  exact ofParts?_eq_ok.mpr ⟨hexponent, hrange _, hrange _, by simp⟩

end Currency

namespace Registry

variable {r : Registry} {c : Currency} {id : Text} {history : List Change}

theorem register_of_mem (h : c.id ∈ r.ids) : r.register c = .error (.alreadyRegistered c.id) := by
  rw [register, if_pos]
  simpa [ids] using h

theorem register_of_not_mem (h : c.id ∉ r.ids) : r.register c = .ok (r.append c) := by
  rw [register, if_neg]
  simpa [ids] using h

theorem unregister_of_not_mem {id : Text} (h : id ∉ r.ids) :
    r.unregister id = .error (.unknownCurrency id) := by
  rw [unregister, Option.not_isSome_iff_eq_none.mp (mt isSome_find?_iff.mp h)]

/-- Where no id occurs twice, every currency is found under its id. -/
theorem find?_eq_some_iff (h : r.ids.Nodup) :
    r.find? id = some c ↔ c.id = id ∧ c ∈ r.currencies := by
  constructor
  · exact find?_eq_some
  · rintro ⟨rfl, hc⟩
    obtain ⟨d, hd⟩ := Option.isSome_iff_exists.mp
      (isSome_find?_iff.mpr (List.mem_map.mpr ⟨c, hc, rfl⟩))
    obtain ⟨hid, hmem⟩ := find?_eq_some hd
    rw [hd, List.inj_on_of_nodup_map h hmem hc hid]

/-- Only the currency itself is taken away. -/
theorem unregister_append {before after : List Currency} (h : r.ids.Nodup)
    (hsplit : r.currencies = before ++ c :: after) :
    r.unregister c.id = .ok (c, ⟨before ++ after⟩) := by
  have hfind : r.find? c.id = some c := (find?_eq_some_iff h).mpr ⟨rfl, by simp [hsplit]⟩
  have hbefore : ∀ b ∈ before, ¬ (b.id == c.id) = true := by
    intro b hb hid
    rw [ids, hsplit, List.map_append] at h
    have hmem : c.id ∈ before.map (·.id) := List.mem_map.mpr ⟨b, hb, by simpa using hid⟩
    exact (List.nodup_append.mp h).2.2 _ hmem c.id (by simp) rfl
  rw [unregister, hfind, erase, hsplit, List.eraseP_append_right _ hbefore,
    List.eraseP_cons_of_pos (by simp)]

theorem get_eq_ok (h : r.ids.Nodup) : r.get id = .ok c ↔ c.id = id ∧ c ∈ r.currencies := by
  rw [get, ← find?_eq_some_iff h]
  cases r.find? id <;> simp

theorem get_eq_error {cause : Refusal} :
    r.get id = .error cause ↔ cause = .unknownCurrency id ∧ id ∉ r.ids := by
  rw [get, ← isSome_find?_iff]
  cases r.find? id <;> simp [eq_comm]

/-- The currencies of a scheme are all that claim it, in their order. -/
theorem ofScheme_eq_ok {scheme : Text} {cs : List Currency} :
    r.ofScheme scheme = .ok cs ↔ cs ≠ [] ∧ cs = r.claiming scheme := by
  rw [ofScheme]
  cases h : r.claiming scheme with
  | nil => simp [eq_comm]
  | cons c cs =>
      constructor
      · intro h
        obtain rfl := Except.ok.inj h
        exact ⟨List.cons_ne_nil c cs, rfl⟩
      · rintro ⟨-, rfl⟩
        rfl

theorem ofScheme_eq_error {scheme : Text} {cause : Refusal} :
    r.ofScheme scheme = .error cause ↔
      cause = .unclaimedScheme scheme ∧ r.claiming scheme = [] := by
  rw [ofScheme]
  cases r.claiming scheme <;> simp [eq_comm]

/-- What is true of a registry with a history. -/
structure Follows (r : Registry) (history : List Change) : Prop where
  nodup_ids : r.ids.Nodup
  /-- Every currency is made of numbers in their ranges. -/
  in_range : ∀ c ∈ r.currencies, ∃ exponent key script : Int,
    0 ≤ exponent ∧ (0 ≤ key ∧ key ≤ 255) ∧ (0 ≤ script ∧ script ≤ 255) ∧
      Currency.ofParts? c.id c.name c.symbol c.scheme exponent key script = .ok c
  /-- The currencies are in the order of their latest addition. -/
  order : r.currencies = standing history
  get_ok : ∀ id c, r.get id = .ok c ↔ c.id = id ∧ Stands history c
  get_error : ∀ id cause, r.get id = .error cause ↔
    cause = .unknownCurrency id ∧ ¬ ∃ c, c.id = id ∧ Stands history c
  ofScheme_ok : ∀ scheme cs, r.ofScheme scheme = .ok cs →
    cs.Sublist r.currencies ∧
      ∀ c, c ∈ cs ↔ c ∈ r.currencies ∧ Text.lowercase c.scheme = Text.lowercase scheme
  ofScheme_error : ∀ scheme cause, r.ofScheme scheme = .error cause ↔
    cause = .unclaimedScheme scheme ∧
      ∀ c ∈ r.currencies, Text.lowercase c.scheme ≠ Text.lowercase scheme

theorem exists_ofParts?_eq_ok (c : Currency) :
    ∃ exponent key script : Int, 0 ≤ exponent ∧ (0 ≤ key ∧ key ≤ 255) ∧
      (0 ≤ script ∧ script ≤ 255) ∧
        Currency.ofParts? c.id c.name c.symbol c.scheme exponent key script = .ok c := by
  obtain ⟨hexponent, hkey, hscript, -⟩ := Currency.ofParts?_eq_ok.mp c.ofParts?_self
  exact ⟨_, _, _, hexponent, hkey, hscript, c.ofParts?_self⟩

theorem follows_of_currencies (h : r.currencies = standing history) : r.Follows history := by
  have hnodup : r.ids.Nodup := by
    rw [ids, h]
    exact nodup_ids_standing history
  have hstands : ∀ c, c ∈ r.currencies ↔ Stands history c := by
    intro c
    rw [h, mem_standing]
  refine ⟨hnodup, fun c _ => exists_ofParts?_eq_ok c, h, ?get_ok, ?get_error, ?ofScheme_ok,
    ?ofScheme_error⟩
  case get_ok =>
    intro id c
    rw [get_eq_ok hnodup, hstands]
  case get_error =>
    intro id cause
    rw [get_eq_error]
    simp only [ids, List.mem_map, hstands, and_comm]
  case ofScheme_ok =>
    intro scheme cs hcs
    obtain ⟨-, rfl⟩ := ofScheme_eq_ok.mp hcs
    exact ⟨List.filter_sublist, fun c => mem_claiming⟩
  case ofScheme_error =>
    intro scheme cause
    rw [ofScheme_eq_error, List.eq_nil_iff_forall_not_mem]
    simp only [mem_claiming, not_and, ne_eq]

end Registry

end PaymentUri
