import PaymentUri.Proofs.Percent
import PaymentUri.Request.Canonical
/-!
# Texts that may stand in a URI

The check of a whole URI looks at every character and at what follows every
percent sign. It can be made piece by piece: a text put together from legal texts
is legal, and so is everything that a canonical form is put together from.
-/

namespace PaymentUri.Request

/-- The printable characters that never stand in a URI. -/
def excluded : List Char := ['"', '<', '>', '\\', '^', '\x60', '\x7b', '|', '\x7d']

def hexadecimal : List Char := "0123456789ABCDEFabcdef".toList

/-- No control, no space and no excluded character stands in the text, and two hexadecimal digits
follow every percent sign. -/
structure IsLegal (t : Text) : Prop where
  characters : ∀ c ∈ t, 0x20 < c.toNat ∧ c.toNat ≠ 0x7f ∧ c ∉ excluded
  escapes : ∀ before after, t = before ++ '%' :: after →
    ∃ x y rest, after = x :: y :: rest ∧ x ∈ hexadecimal ∧ y ∈ hexadecimal

theorem isIllegal_eq_false {c : Char} :
    isIllegal c = false ↔ 0x20 < c.toNat ∧ c.toNat ≠ 0x7f ∧ c ∉ excluded := by
  have hgrave : c.toNat = 0x60 ↔ c = '\x60' := by
    constructor
    · intro h
      rw [← Char.ofNat_toNat c, h]
    · rintro rfl
      rfl
  simp [isIllegal, excluded, hgrave, and_assoc]

theorem mem_hexadecimal {c : Char} : c ∈ hexadecimal ↔ Text.isHex c = true := by
  constructor
  · have hall : hexadecimal.all Text.isHex = true := rfl
    exact List.all_eq_true.mp hall c
  · intro h
    have hascii : c.toNat < 128 := Text.toNat_lt_of_isHex h
    exact Text.forall_ascii (P := fun d => Text.isHex d = true → d ∈ hexadecimal)
      (by decide) hascii h

theorem illegalFrom?_eq_none {t : Text} (index : Nat) :
    illegalFrom? index t = none ↔ ∀ c ∈ t, isIllegal c = false := by
  induction t generalizing index with
  | nil => simp [illegalFrom?]
  | cons c t ih =>
      cases h : isIllegal c with
      | true => simp [illegalFrom?, h]
      | false => simp [illegalFrom?, h, ih]

theorem startsWithEscape_iff {t : Text} :
    startsWithEscape t = true ↔
      ∃ x y rest, t = x :: y :: rest ∧ x ∈ hexadecimal ∧ y ∈ hexadecimal := by
  simp only [mem_hexadecimal]
  unfold startsWithEscape
  split
  · next x y rest =>
      constructor
      · intro h
        rw [Bool.and_eq_true] at h
        exact ⟨x, y, rest, rfl, h⟩
      · rintro ⟨_, _, _, heq, hx, hy⟩
        cases heq
        rw [hx, hy]
        rfl
  · next hshort =>
      constructor
      · intro h
        contradiction
      · rintro ⟨x, y, rest, rfl, -, -⟩
        exact (hshort x y rest rfl).elim

theorem badEscapeFrom?_eq_none {t : Text} (index : Nat) :
    badEscapeFrom? index t = none ↔
      ∀ before after, t = before ++ '%' :: after → startsWithEscape after = true := by
  induction t generalizing index with
  | nil => simp [badEscapeFrom?]
  | cons c t ih =>
      by_cases hbad : c = '%' ∧ (!startsWithEscape t) = true
      · simp only [badEscapeFrom?, if_pos hbad, reduceCtorEq, false_iff]
        intro h
        have := h [] t (by simp [hbad.1])
        simp [this] at hbad
      · rw [badEscapeFrom?, if_neg hbad, ih]
        constructor
        · intro h before after heq
          rcases List.cons_eq_append_iff.mp heq with ⟨rfl, hcons⟩ | ⟨before, rfl, hrest⟩
          · obtain ⟨rfl, rfl⟩ := List.cons.inj hcons
            simpa using hbad
          · exact h before after hrest
        · intro h before after heq
          exact h (c :: before) after (by rw [heq, List.cons_append])

/-- The two searches of the check find nothing exactly in legal texts. -/
theorem isLegal_iff {t : Text} :
    IsLegal t ↔ illegalFrom? 0 t = none ∧ badEscapeFrom? 0 t = none := by
  simp only [illegalFrom?_eq_none, isIllegal_eq_false, badEscapeFrom?_eq_none,
    startsWithEscape_iff]
  exact ⟨fun h => ⟨h.characters, h.escapes⟩, fun h => ⟨h.1, h.2⟩⟩

namespace IsLegal

variable {s t : Text}

theorem nil : IsLegal [] := ⟨by simp, by simp⟩

theorem append (hs : IsLegal s) (ht : IsLegal t) : IsLegal (s ++ t) := by
  refine ⟨fun c hc => (List.mem_append.mp hc).elim (hs.characters c) (ht.characters c), ?_⟩
  intro before after heq
  rcases List.append_eq_append_iff.mp heq with ⟨more, rfl, hmore⟩ | ⟨more, rfl, hmore⟩
  · exact ht.escapes more after hmore
  · cases more with
    | nil => exact ht.escapes [] after hmore.symm
    | cons c more =>
        obtain ⟨rfl, rfl⟩ := List.cons.inj hmore
        obtain ⟨x, y, rest, rfl, hx, hy⟩ := hs.escapes before more rfl
        exact ⟨x, y, rest ++ t, rfl, hx, hy⟩

theorem of_append_right (h : IsLegal (s ++ t)) : IsLegal t := by
  refine ⟨fun c hc => h.characters c (List.mem_append_right s hc), ?_⟩
  rintro before after rfl
  exact h.escapes (s ++ before) after (List.append_assoc _ _ _).symm

/-- Without percent signs only the characters matter. -/
theorem of_forall (h : ∀ c ∈ t, isIllegal c = false ∧ c ≠ '%') : IsLegal t := by
  refine ⟨fun c hc => isIllegal_eq_false.mp (h c hc).1, ?_⟩
  rintro before after rfl
  exact absurd rfl (h '%' (by simp)).2

/-- No escape reaches over a character that is no hexadecimal digit. -/
theorem of_append_cons {c : Char} (hc : Text.isHex c = false) (h : IsLegal (s ++ c :: t)) :
    IsLegal s := by
  refine ⟨fun d hd => h.characters d (List.mem_append_left _ hd), ?_⟩
  rintro before after rfl
  obtain ⟨x, y, rest, hafter, hx, hy⟩ := h.escapes before (after ++ c :: t) (by simp)
  match after with
  | [] =>
      obtain ⟨rfl, -⟩ := List.cons.inj hafter
      rw [mem_hexadecimal, hc] at hx
      contradiction
  | [d] =>
      obtain ⟨-, hrest⟩ := List.cons.inj hafter
      obtain ⟨rfl, -⟩ := List.cons.inj hrest
      rw [mem_hexadecimal, hc] at hy
      contradiction
  | d :: e :: after =>
      obtain ⟨rfl, hrest⟩ := List.cons.inj hafter
      obtain ⟨rfl, -⟩ := List.cons.inj hrest
      exact ⟨d, e, after, rfl, hx, hy⟩

/-- The separators of a URI may stand between legal texts. -/
theorem join {c : Char} (hs : IsLegal s) (hc : c ∈ [':', '?', '&', '=']) (ht : IsLegal t) :
    IsLegal (s ++ c :: t) := by
  have hseparator : isIllegal c = false ∧ c ≠ '%' := by
    simp only [List.mem_cons, List.not_mem_nil, or_false] at hc
    rcases hc with rfl | rfl | rfl | rfl
    all_goals decide
  rw [← List.singleton_append]
  refine hs.append (IsLegal.append (of_forall ?_) ht)
  intro d hd
  rw [List.mem_singleton.mp hd]
  exact hseparator

end IsLegal

/-- Characters that are neither illegal nor separate anything in a URI. -/
def isPlain (c : Char) : Bool := c == '+' || Text.isUnreserved c

theorem toNat_lt_of_isPlain {c : Char} (h : isPlain c = true) : c.toNat < 128 := by
  rcases Bool.or_eq_true_iff.mp h with h | h
  · rw [beq_iff_eq.mp h]
    decide
  · exact Text.toNat_lt_of_isUnreserved h

theorem isIllegal_of_isPlain {c : Char} (h : isPlain c = true) :
    isIllegal c = false ∧ c ≠ '%' := by
  have hall : isPlain c = true → isIllegal c = false ∧ c ≠ '%' :=
    Text.forall_ascii (P := fun d => isPlain d = true → isIllegal d = false ∧ d ≠ '%')
      (by decide) (toNat_lt_of_isPlain h)
  exact hall h

theorem isLegal_of_isPlain {t : Text} (h : ∀ c ∈ t, isPlain c = true) : IsLegal t :=
  .of_forall fun c hc => isIllegal_of_isPlain (h c hc)

theorem isPlain_of_isAlphanum {c : Char} (h : c.isAlphanum = true) : isPlain c = true := by
  simp [isPlain, Text.isUnreserved, h]

theorem isPlain_of_mem_scheme {scheme : Text} (h : Reference.isScheme scheme = true) {c : Char}
    (hc : c ∈ scheme) : isPlain c = true := by
  have hchar : Reference.isSchemeChar c = true := by
    cases scheme with
    | nil => contradiction
    | cons d ds =>
        rw [Reference.isScheme, Bool.and_eq_true, List.all_eq_true] at h
        rcases List.mem_cons.mp hc with rfl | hmem
        · simp [Reference.isSchemeChar, Char.isAlphanum, h.1]
        · exact h.2 c hmem
  simp only [Reference.isSchemeChar, Bool.or_eq_true, beq_iff_eq] at hchar
  rcases hchar with ((h | rfl) | rfl) | rfl
  · exact isPlain_of_isAlphanum h
  all_goals decide

theorem isLegal_escape (b : UInt8) : IsLegal (Text.escape b) := by
  have hhex : ∀ n < 16, Text.isHex (Text.upperHex n) = true ∧
      isPlain (Text.upperHex n) = true := by decide
  have hlt := b.toNat_lt
  have hhigh := hhex (b.toNat / 16) (by omega)
  have hlow := hhex (b.toNat % 16) (by omega)
  refine ⟨?_, ?_⟩
  · intro c hc
    simp only [Text.escape, List.mem_cons, List.not_mem_nil, or_false] at hc
    rw [← isIllegal_eq_false]
    rcases hc with rfl | rfl | rfl
    · decide
    · exact (isIllegal_of_isPlain hhigh.2).1
    · exact (isIllegal_of_isPlain hlow.2).1
  · intro before after heq
    rcases List.cons_eq_append_iff.mp heq with ⟨rfl, hcons⟩ | ⟨more, rfl, hrest⟩
    · obtain ⟨-, rfl⟩ := List.cons.inj hcons
      exact ⟨_, _, [], rfl, mem_hexadecimal.mpr hhigh.1, mem_hexadecimal.mpr hlow.1⟩
    · have hmem : '%' ∈ [Text.upperHex (b.toNat / 16), Text.upperHex (b.toNat % 16)] := by
        simp [hrest]
      simp only [List.mem_cons, List.not_mem_nil, or_false] at hmem
      rcases hmem with h | h
      · exact absurd h.symm (isIllegal_of_isPlain hhigh.2).2
      · exact absurd h.symm (isIllegal_of_isPlain hlow.2).2

theorem isLegal_flatMap {α : Type} {f : α → Text} {l : List α} (h : ∀ a ∈ l, IsLegal (f a)) :
    IsLegal (l.flatMap f) := by
  induction l with
  | nil => exact .nil
  | cons a l ih =>
      rw [List.flatMap_cons]
      exact (h a List.mem_cons_self).append (ih fun b hb => h b (List.mem_cons_of_mem a hb))

/-- Encoded text may stand in a URI. -/
theorem isLegal_percentEncode (t : Text) : IsLegal (Text.percentEncode t) := by
  apply isLegal_flatMap
  intro c _
  rw [Text.percentEncodeChar]
  split
  · next h =>
      apply isLegal_of_isPlain
      intro d hd
      rw [List.mem_singleton.mp hd, isPlain, h, Bool.or_true]
  · exact isLegal_flatMap fun b _ => isLegal_escape b

theorem isLegal_intercalate {tokens : List Text} (h : ∀ t ∈ tokens, IsLegal t) :
    IsLegal (['&'].intercalate tokens) := by
  induction tokens with
  | nil => exact .nil
  | cons t tokens ih =>
      have hrest := ih fun s hs => h s (List.mem_cons_of_mem t hs)
      cases tokens with
      | nil => simpa using h t List.mem_cons_self
      | cons s tokens =>
          rw [List.intercalate_cons_cons, List.append_assoc, List.singleton_append]
          exact (h t List.mem_cons_self).join (by simp) hrest

end PaymentUri.Request
