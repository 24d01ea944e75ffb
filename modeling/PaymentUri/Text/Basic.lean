/-!
# Texts

A text is a list of characters, so that every reader and printer of the library
is a recursion on a list and every law about it an induction. Strings appear
only where a message is shown to a person.

Splitting at a separator is `List.splitOn`: a text with `n` separators has
`n + 1` pieces, and the empty text has one empty piece.
-/

namespace PaymentUri

/-- A text, character by character. -/
abbrev Text := List Char

namespace Text

/-- The part before the first separator and the part after it. -/
def cut? (sep : Char) : Text → Option (Text × Text)
  | [] => none
  | c :: cs => if c = sep then some ([], cs) else (cut? sep cs).map fun p => (c :: p.1, p.2)

/-- The text without its trailing characters of a class. -/
def dropRightWhile (p : Char → Bool) (t : Text) : Text :=
  (t.reverse.dropWhile p).reverse

def trim (p : Char → Bool) (t : Text) : Text :=
  dropRightWhile p (t.dropWhile p)

def padLeft (width : Nat) (c : Char) (t : Text) : Text :=
  List.replicate (width - t.length) c ++ t

/-- The lines of a text, each with its line feed; only the last may lack one. -/
def lines : Text → List Text
  | [] => []
  | c :: cs =>
    if c = '\n' then [c] :: lines cs
    else match lines cs with
      | [] => [[c]]
      | l :: ls => (c :: l) :: ls

/-- Every carriage return, alone or before a line feed, becomes a line feed. -/
def unifyNewlines : Text → Text
  | [] => []
  | '\r' :: '\n' :: cs => '\n' :: unifyNewlines cs
  | c :: cs => (if c = '\r' then '\n' else c) :: unifyNewlines cs

def ofInt (n : Int) : Text :=
  (if n < 0 then ['-'] else []) ++ Nat.toDigits 10 n.natAbs

theorem cut?_eq_some {sep : Char} {t a b : Text} (h : cut? sep t = some (a, b)) :
    t = a ++ sep :: b ∧ sep ∉ a := by
  induction t generalizing a b with
  | nil => simp [cut?] at h
  | cons c cs ih =>
    by_cases hc : c = sep
    · simp only [cut?, hc, if_true, Option.some.injEq, Prod.mk.injEq] at h
      obtain ⟨rfl, rfl⟩ := h
      simp [hc]
    · simp only [cut?, hc, if_false, Option.map_eq_some_iff, Prod.mk.injEq] at h
      obtain ⟨p, hp, rfl, rfl⟩ := h
      obtain ⟨h₁, h₂⟩ := ih hp
      exact ⟨by rw [h₁]; rfl, by simp [h₂, Ne.symm hc]⟩

theorem cut?_append {sep : Char} {a b : Text} (h : sep ∉ a) :
    cut? sep (a ++ sep :: b) = some (a, b) := by
  induction a with
  | nil => simp [cut?]
  | cons c cs ih =>
    simp only [List.mem_cons, not_or] at h
    simp [cut?, Ne.symm h.1, ih h.2]

end Text

end PaymentUri
