import PaymentUri.Proofs.PercentRuns
/-!
# Encoded text as a code

Free text is encoded in unreserved characters and escapes alone, which may stand anywhere in
a URI, and it is read back from them. The encoding is that of forms with two marks taken out:
a form writes a plus sign for a space and a tilde for itself, and here both are escaped. The
plus signs of a form all stand for spaces, since one that the text holds is escaped before
spaces are rewritten; in another order the two could not be told apart.
-/

namespace PaymentUri

namespace Text

variable {s t : Text} {c : Char} {b : UInt8}

/-- A digit of an escape as it is written: no small letter. -/
def isCapitalHex (c : Char) : Bool := c.isDigit || ('A' ≤ c && c ≤ 'F')

/-- The text is made of unreserved characters and of escapes with capital digits. -/
inductive IsCoded : Text → Prop
  | nil : IsCoded []
  | unreserved {c : Char} {t : Text} (unreserved : isUnreserved c = true) (rest : IsCoded t) :
      IsCoded (c :: t)
  | escape {high low : Char} {t : Text} (high_capital : isCapitalHex high = true)
      (low_capital : isCapitalHex low = true) (rest : IsCoded t) :
      IsCoded ('%' :: high :: low :: t)

theorem isCapitalHex_upperHex : ∀ n < 16, isCapitalHex (upperHex n) = true := by decide

theorem IsCoded.escape_append (b : UInt8) (h : IsCoded t) : IsCoded (Text.escape b ++ t) := by
  have hlt := b.toNat_lt
  have hhigh := isCapitalHex_upperHex (b.toNat / 16) (by omega)
  have hlow := isCapitalHex_upperHex (b.toNat % 16) (by omega)
  exact .escape hhigh hlow h

theorem IsCoded.percentEncodeChar_append (c : Char) (h : IsCoded t) :
    IsCoded (percentEncodeChar c ++ t) := by
  rw [percentEncodeChar]
  split
  · next hc => exact .unreserved hc h
  · induction String.utf8EncodeChar c with
    | nil => exact h
    | cons b bytes ih =>
        rw [List.flatMap_cons, List.append_assoc]
        exact ih.escape_append b

theorem isCoded_percentEncode (t : Text) : IsCoded (percentEncode t) := by
  induction t with
  | nil => exact .nil
  | cons c t ih => exact ih.percentEncodeChar_append c

def replaceChar (c : Char) (s t : Text) : Text := t.flatMap fun d => if d = c then s else [d]

theorem replaceChar_of_not_mem (h : c ∉ t) : replaceChar c s t = t := by
  induction t with
  | nil => rfl
  | cons d t ih =>
      obtain ⟨hd, ht⟩ := not_or.mp (mt List.mem_cons.mpr h)
      rw [replaceChar, List.flatMap_cons, if_neg (Ne.symm hd)]
      exact congrArg (d :: ·) (ih ht)

theorem replaceChar_flatMap {α : Type} (c : Char) (s : Text) (f : α → Text) (l : List α) :
    replaceChar c s (l.flatMap f) = l.flatMap fun a => replaceChar c s (f a) :=
  List.flatMap_assoc

/-- The characters that a form leaves as they are, and the space, which it rewrites later. -/
def isFormSafe (c : Char) : Bool :=
  c.isAlphanum || c == '_' || c == '.' || c == '-' || c == '~' || c == '*' || c == ' '

/-- One octet as a form writes it at first. -/
def formEscape (b : UInt8) : Text :=
  if b.toNat < 128 ∧ isFormSafe (Char.ofNat b.toNat) then [Char.ofNat b.toNat] else escape b

def plusForSpace (t : Text) : Text := replaceChar ' ' ['+'] t

/-- A text as a form writes it: octet by octet, and then the spaces. -/
def formEncode (t : Text) : Text := plusForSpace ((utf8 t).flatMap formEscape)

/-- A form with the plus signs for spaces, and then the tildes, escaped. -/
def escapeMarks (t : Text) : Text :=
  replaceChar '~' "%7E".toList (replaceChar '+' "%20".toList t)

theorem escapeMarks_plusForSpace_flatMap {α : Type} (f : α → Text) (l : List α) :
    escapeMarks (plusForSpace (l.flatMap f)) =
      l.flatMap fun a => escapeMarks (plusForSpace (f a)) := by
  simp only [escapeMarks, plusForSpace, replaceChar_flatMap]

theorem not_mem_escape (h : isUnreserved c = false) (hc : c ≠ '%') : c ∉ escape b := by
  intro hmem
  rcases isUnreserved_of_mem_escape hmem with hmem | hmem
  · rw [h] at hmem
    contradiction
  · exact hc hmem

/-- No character that is rewritten stands in an escape. -/
theorem escapeMarks_plusForSpace_escape (b : UInt8) :
    escapeMarks (plusForSpace (escape b)) = escape b := by
  have hspace : ' ' ∉ escape b := not_mem_escape (by decide) (by decide)
  have hplus : '+' ∉ escape b := not_mem_escape (by decide) (by decide)
  have htilde : '~' ∉ escape b := not_mem_escape (by decide) (by decide)
  rw [plusForSpace, replaceChar_of_not_mem hspace, escapeMarks, replaceChar_of_not_mem hplus,
    replaceChar_of_not_mem htilde]

theorem toNat_ofNat_ascii : ∀ n < 128, (Char.ofNat n).toNat = n := by decide

/-- The octets of a character that is not ASCII are none of a character that is. -/
theorem not_lt_of_mem_utf8EncodeChar (hc : ¬ c.toNat < 128) (hb : b ∈ String.utf8EncodeChar c) :
    ¬ b.toNat < 128 := by
  intro hlt
  have hd := toNat_ofNat_ascii b.toNat hlt
  have hascii : String.utf8EncodeChar (Char.ofNat b.toNat) = [b] := by
    rw [utf8EncodeChar_ascii (by omega), hd, UInt8.ofNat_toNat]
  obtain ⟨before, after, hsplit⟩ := List.append_of_mem hb
  have hwhole : utf8 [c] = before ++ String.utf8EncodeChar (Char.ofNat b.toNat) ++ after := by
    simp [utf8, hascii, hsplit]
  obtain ⟨s, u, hcut, -, -⟩ := exists_of_utf8_eq_append hwhole
  have hmem : Char.ofNat b.toNat ∈ [c] := by simp [hcut]
  rw [← List.mem_singleton.mp hmem, hd] at hc
  exact hc hlt

theorem percentEncodeChar_eq (c : Char) :
    percentEncodeChar c =
      (String.utf8EncodeChar c).flatMap fun b => escapeMarks (plusForSpace (formEscape b)) := by
  by_cases hc : c.toNat < 128
  · -- A character of ASCII is one octet, and there are few enough to try them all.
    exact forall_ascii (P := fun d => percentEncodeChar d = (String.utf8EncodeChar d).flatMap
      fun b => escapeMarks (plusForSpace (formEscape b))) (by decide) hc
  · rw [percentEncodeChar, if_neg (mt toNat_lt_of_isUnreserved hc)]
    apply List.flatMap_congr
    intro b hb
    have hlarge := not_lt_of_mem_utf8EncodeChar hc hb
    rw [formEscape, if_neg (fun h => hlarge h.1), escapeMarks_plusForSpace_escape]

/-- Text is encoded as forms encode it, with the marks of a form escaped. -/
theorem percentEncode_eq_escapeMarks (t : Text) :
    percentEncode t = escapeMarks (formEncode t) := by
  rw [formEncode, escapeMarks_plusForSpace_flatMap, utf8, List.flatMap_assoc, percentEncode]
  exact List.flatMap_congr fun c _ => percentEncodeChar_eq c

end Text

namespace Request

/-- The encoding of free text, made out of that of forms, is a code that may stand in a URI:
it uses unreserved characters and escapes with capital digits only, passes both searches of
the check, encodes piece by piece, writes nothing for the empty text alone, and is read back. -/
theorem percentEncode_isCode (s : Text) :
    Text.percentEncode s = Text.escapeMarks (Text.formEncode s) ∧
      Text.IsCoded (Text.percentEncode s) ∧
      illegalFrom? 0 (Text.percentEncode s) = none ∧
      badEscapeFrom? 0 (Text.percentEncode s) = none ∧
      (Text.percentEncode s = [] ↔ s = []) ∧
      (∀ t, Text.percentEncode (s ++ t) = Text.percentEncode s ++ Text.percentEncode t) ∧
      Text.percentDecode? (Text.percentEncode s) = some s := by
  obtain ⟨hlegal, hescapes⟩ := isLegal_iff.mp (isLegal_percentEncode s)
  refine ⟨Text.percentEncode_eq_escapeMarks s, Text.isCoded_percentEncode s, hlegal, hescapes,
    ⟨?_, ?_⟩, Text.percentEncode_append s, Text.percentDecode?_percentEncode s⟩
  · exact fun hempty => by_contra fun hs => Text.percentEncode_ne_nil hs hempty
  · rintro rfl
    exact Text.percentEncode_nil

end Request

end PaymentUri
