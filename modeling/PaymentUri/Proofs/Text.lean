import Mathlib.Data.List.DropRight
import PaymentUri.Text.Basic
/-!
# The ends and the pieces of a text

What `takeWhile` finds of one character at the front of a list, and
`dropRightWhile` takes off the end of a text, is that character so many times.
A text is put together from its pieces in one way only, where these do not hold
what separates them.
-/

namespace PaymentUri.Text

theorem takeWhile_beq {α : Type} [BEq α] [LawfulBEq α] (a : α) (l : List α) :
    l.takeWhile (· == a) = List.replicate (l.takeWhile (· == a)).length a := by
  rw [List.eq_replicate_iff]
  exact ⟨rfl, fun b hb => by simpa using List.all_eq_true.mp List.all_takeWhile b hb⟩

variable {p : Char → Bool} {t : Text}

theorem dropRightWhile_append_replicate (t : Text) (c : Char) (k : Nat) :
    dropRightWhile (· == c) (t ++ List.replicate k c) = dropRightWhile (· == c) t := by
  rw [dropRightWhile, List.reverse_append, List.reverse_replicate,
    List.dropWhile_append_of_pos (by simp)]
  rfl

theorem length_dropRightWhile_le (p : Char → Bool) (t : Text) :
    (dropRightWhile p t).length ≤ t.length :=
  (List.rdropWhile_prefix p t).length_le

theorem dropRightWhile_idem (p : Char → Bool) (t : Text) :
    dropRightWhile p (dropRightWhile p t) = dropRightWhile p t :=
  List.rdropWhile_idempotent p t

theorem mem_of_mem_dropRightWhile {c : Char} (h : c ∈ dropRightWhile p t) : c ∈ t :=
  (List.rdropWhile_prefix p t).mem h

/-- A text is what is left of it, followed by what was taken off. -/
theorem dropRightWhile_append (t : Text) (c : Char) :
    dropRightWhile (· == c) t ++
      List.replicate (t.length - (dropRightWhile (· == c) t).length) c = t := by
  have hsplit : dropRightWhile (· == c) t ++ t.rtakeWhile (· == c) = t :=
    List.rdropWhile_append_rtakeWhile
  have hlen := congrArg List.length hsplit
  rw [List.length_append] at hlen
  have hrest : t.rtakeWhile (· == c) = List.replicate (t.rtakeWhile (· == c)).length c := by
    rw [List.rtakeWhile, takeWhile_beq]
    simp
  have hcount : t.length - (dropRightWhile (· == c) t).length =
      (t.rtakeWhile (· == c)).length := by
    omega
  rw [hcount, ← hrest, hsplit]

theorem length_padLeft {width : Nat} (c : Char) (h : t.length ≤ width) :
    (padLeft width c t).length = width := by
  simp only [padLeft, List.length_append, List.length_replicate]
  omega

/-- No piece of a text that was split holds the separator. -/
theorem not_mem_of_mem_splitOn {sep : Char} {piece : Text} (h : piece ∈ t.splitOn sep) :
    sep ∉ piece := by
  induction t generalizing piece with
  | nil =>
      obtain rfl : piece = [] := by simpa using h
      exact List.not_mem_nil
  | cons c t ih =>
      obtain ⟨first, others, hsplit⟩ := List.exists_cons_of_ne_nil (List.splitOn_ne_nil sep t)
      rw [List.splitOn_cons_eq_if_modifyHead] at h
      rw [hsplit] at h ih
      split at h
      · rcases List.mem_cons.mp h with rfl | hmem
        · exact List.not_mem_nil
        · exact ih hmem
      · next hc =>
          rw [List.modifyHead_cons] at h
          rcases List.mem_cons.mp h with rfl | hmem
          · have hfirst : sep ∉ first := ih List.mem_cons_self
            have hne : sep ≠ c := by
              rintro rfl
              simp at hc
            exact List.not_mem_cons_of_ne_of_not_mem hne hfirst
          · exact ih (List.mem_cons_of_mem first hmem)

/-- Texts without the separator in front of its first occurrence are told apart. -/
theorem append_cons_inj {sep : Char} {a a' b b' : Text} (ha : sep ∉ a) (ha' : sep ∉ a')
    (h : a ++ sep :: b = a' ++ sep :: b') : a = a' ∧ b = b' := by
  have hcut := cut?_append (b := b) ha
  rw [h, cut?_append ha', Option.some.injEq, Prod.mk.injEq] at hcut
  exact ⟨hcut.1.symm, hcut.2.symm⟩

/-- Texts without the separator behind its last occurrence are told apart. -/
theorem append_cons_inj_last {sep : Char} {a a' b b' : Text} (hb : sep ∉ b) (hb' : sep ∉ b')
    (h : a ++ sep :: b = a' ++ sep :: b') : a = a' ∧ b = b' := by
  have hreversed : b.reverse ++ sep :: a.reverse = b'.reverse ++ sep :: a'.reverse := by
    simpa using congrArg List.reverse h
  obtain ⟨hback, hfront⟩ := append_cons_inj (mt List.mem_reverse.mp hb)
    (mt List.mem_reverse.mp hb') hreversed
  exact ⟨List.reverse_injective hfront, List.reverse_injective hback⟩

end PaymentUri.Text
