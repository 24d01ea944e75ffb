import PaymentUri.Proofs.LegalText
import PaymentUri.Proofs.Query
/-!
# Values read run by run

The decoder cuts a value at every character that is not ASCII and reads the octets between
two of them on their own. This makes no difference: an octet that begins a character never
stands inside one, so octets that encode a text encode one on either side of any character
in it. A value is read as the text that all its octets together encode, and refused when
they encode none.
-/

namespace PaymentUri

namespace Text

variable {a b bytes : List UInt8} {c d : Char} {t v : Text}

theorem utf8EncodeChar_append_inj
    (h : String.utf8EncodeChar c ++ a = String.utf8EncodeChar d ++ b) : c = d ∧ a = b := by
  have hfirst := congrArg (fun l : List UInt8 => l.toByteArray.utf8DecodeChar? 0) h
  simp only [List.toByteArray_append, ByteArray.utf8DecodeChar?_utf8EncodeChar_append,
    Option.some.injEq] at hfirst
  subst hfirst
  exact ⟨rfl, List.append_cancel_left h⟩

/-- No character begins inside the octets of another. -/
theorem eq_nil_of_utf8EncodeChar_eq_append {inner rest : List UInt8} (hne : inner ≠ [])
    (hd : String.utf8EncodeChar d = a ++ inner)
    (hc : inner ++ rest = String.utf8EncodeChar c ++ b) : a = [] := by
  obtain ⟨x, inner, rfl⟩ := List.exists_cons_of_ne_nil hne
  obtain ⟨y, ys, hy⟩ := List.exists_cons_of_ne_nil (String.utf8EncodeChar_ne_nil (c := c))
  have hxy : x = y := by
    rw [hy] at hc
    exact (List.cons.inj hc).1
  have hfirst : y.IsUTF8FirstByte := by
    have hpos : 0 < (String.utf8EncodeChar c).length := by simp [hy]
    have hzero : (String.utf8EncodeChar c)[0] = y := by simp [hy]
    rw [← hzero, UInt8.isUTF8FirstByte_getElem_utf8EncodeChar]
  have hlt : a.length < (String.utf8EncodeChar d).length := by simp [hd]
  have hat : (String.utf8EncodeChar d)[a.length] = y := by simp [hd, hxy]
  rw [← hat, UInt8.isUTF8FirstByte_getElem_utf8EncodeChar] at hfirst
  exact List.eq_nil_of_length_eq_zero hfirst

/-- Where the octets of a text hold those of a character, the text holds the character, and
is cut there as its octets are. -/
theorem exists_of_utf8_eq_append (h : utf8 t = a ++ String.utf8EncodeChar c ++ b) :
    ∃ s u, t = s ++ c :: u ∧ a = utf8 s ∧ b = utf8 u := by
  induction t generalizing a with
  | nil =>
      rw [utf8_nil, eq_comm, List.append_assoc, List.append_eq_nil_iff,
        List.append_eq_nil_iff] at h
      exact absurd h.2.1 String.utf8EncodeChar_ne_nil
  | cons d t ih =>
      rw [utf8_cons, List.append_assoc] at h
      rcases List.append_eq_append_iff.mp h with ⟨more, rfl, hmore⟩ | ⟨inner, hd, hinner⟩
      · rw [← List.append_assoc] at hmore
        obtain ⟨s, u, rfl, rfl, rfl⟩ := ih hmore
        exact ⟨d :: s, u, rfl, rfl, rfl⟩
      · by_cases hne : inner = []
        · subst hne
          rw [List.append_nil] at hd
          obtain ⟨s, u, rfl, hs, rfl⟩ := ih (a := []) hinner.symm
          exact ⟨d :: s, u, rfl, by rw [utf8_cons, ← hs, hd, List.append_nil], rfl⟩
        · obtain rfl := eq_nil_of_utf8EncodeChar_eq_append hne hd hinner.symm
          rw [List.nil_append] at hd
          rw [← hd] at hinner
          obtain ⟨rfl, rfl⟩ := utf8EncodeChar_append_inj hinner
          exact ⟨[], t, rfl, rfl, rfl⟩

/-- On either side of a character, octets are read as they are on their own. -/
theorem decodeUtf8?_append_char (a : List UInt8) (c : Char) (b : List UInt8) :
    decodeUtf8? (a ++ String.utf8EncodeChar c ++ b) =
      (decodeUtf8? a).bind fun s => (decodeUtf8? b).map fun u => s ++ c :: u := by
  apply Option.ext
  intro t
  simp only [decodeUtf8?_eq_some_iff, Option.bind_eq_some_iff, Option.map_eq_some_iff]
  constructor
  · intro h
    obtain ⟨s, u, rfl, rfl, rfl⟩ := exists_of_utf8_eq_append h.symm
    exact ⟨s, rfl, u, rfl, rfl⟩
  · rintro ⟨s, rfl, u, rfl, rfl⟩
    rw [utf8_append, utf8_cons, List.append_assoc]

theorem decodeRuns?_cons (c : Char) (run : List UInt8) (rest : List (Char × List UInt8)) :
    decodeRuns? ((c, run) :: rest) =
      ((decodeUtf8? run).bind fun t => (decodeRuns? rest).map (t ++ ·)).map (c :: ·) := by
  rw [decodeRuns?]
  cases decodeUtf8? run with
  | none => rfl
  | some t => cases decodeRuns? rest <;> rfl

/-- Runs that are read one by one are read as all their octets together. -/
theorem decodeUtf8?_append_runBytes (run : List UInt8) (rest : List (Char × List UInt8)) :
    decodeUtf8? (run ++ runBytes rest) =
      (decodeUtf8? run).bind fun t => (decodeRuns? rest).map (t ++ ·) := by
  induction rest generalizing run with
  | nil => simp [runBytes, decodeRuns?]
  | cons r rest ih =>
      obtain ⟨c, next⟩ := r
      have hbytes : run ++ runBytes ((c, next) :: rest) =
          run ++ String.utf8EncodeChar c ++ (next ++ runBytes rest) := by
        simp [runBytes]
      rw [hbytes, decodeUtf8?_append_char, ih, decodeRuns?_cons]
      simp only [Option.map_map]
      rfl

/-- A value is read as its octets are. -/
theorem percentDecode?_eq_formBytes (v : Text) : percentDecode? v = decodeUtf8? (formBytes v) := by
  have hbytes : formBytes v = (runs (pieces v)).1 ++ runBytes (runs (pieces v)).2 :=
    (runs_bytes (pieces v)).symm
  rw [hbytes, decodeUtf8?_append_runBytes, percentDecode?]
  cases decodeUtf8? (runs (pieces v)).1 with
  | none => rfl
  | some t => cases decodeRuns? (runs (pieces v)).2 <;> rfl

/-- The octets that a value stands for: a space for a plus sign, an octet for an escape, and
its own octets for every other character. -/
inductive StandsFor : Text → List UInt8 → Prop
  | nil : StandsFor [] []
  | plus {v : Text} {bytes : List UInt8} (rest : StandsFor v bytes) :
      StandsFor ('+' :: v) (0x20 :: bytes)
  | escape {high low : Char} {x y : Nat} {v : Text} {bytes : List UInt8}
      (hx : hexValue? high = some x) (hy : hexValue? low = some y) (rest : StandsFor v bytes) :
      StandsFor ('%' :: high :: low :: v) (UInt8.ofNat (16 * x + y) :: bytes)
  | char {c : Char} {v : Text} {bytes : List UInt8} (plus : c ≠ '+') (percent : c ≠ '%')
      (rest : StandsFor v bytes) : StandsFor (c :: v) (String.utf8EncodeChar c ++ bytes)

theorem StandsFor.eq_formBytes (h : StandsFor v bytes) : bytes = formBytes v := by
  induction h with
  | nil => rw [formBytes, pieces_nil, List.flatMap_nil]
  | plus _ ih =>
      rw [formBytes, pieces_cons (by decide), if_pos rfl, List.flatMap_cons, ih]
      rfl
  | escape hx hy _ ih =>
      rw [formBytes, pieces, escaped?, hx, hy, ih]
      rfl
  | char hplus hpercent _ ih =>
      rw [formBytes, pieces_cons hpercent, if_neg hplus, List.flatMap_cons, ih]
      rfl

end Text

namespace Request

variable {s t v : Text}

/-- Every percent sign of the text begins an escape. -/
def IsEscaped (t : Text) : Prop :=
  ∀ before after, t = before ++ '%' :: after → startsWithEscape after = true

theorem IsEscaped.of_append (h : IsEscaped (s ++ t)) : IsEscaped t := by
  intro before after heq
  exact h (s ++ before) after (by rw [heq, List.append_assoc])

/-- The two characters after a percent sign are the digits of an octet. -/
theorem IsEscaped.exists_digits (h : IsEscaped ('%' :: t)) :
    ∃ high low x y rest, t = high :: low :: rest ∧ Text.hexValue? high = some x ∧
      Text.hexValue? low = some y := by
  obtain ⟨high, low, rest, rfl, hhigh, hlow⟩ := startsWithEscape_iff.mp (h [] t rfl)
  obtain ⟨x, hx⟩ := Option.isSome_iff_exists.mp (mem_hexadecimal.mp hhigh)
  obtain ⟨y, hy⟩ := Option.isSome_iff_exists.mp (mem_hexadecimal.mp hlow)
  exact ⟨high, low, x, y, rest, rfl, hx, hy⟩

/-- A value in which every percent sign begins an escape stands for octets. -/
theorem IsEscaped.exists_standsFor (h : IsEscaped v) : ∃ bytes, Text.StandsFor v bytes := by
  induction v using Text.pieces.induct with
  | case1 => exact ⟨[], .nil⟩
  | case2 high low v b hescaped ih =>
      obtain ⟨bytes, hbytes⟩ := ih (h.of_append (s := ['%', high, low]))
      rw [Text.escaped?] at hescaped
      split at hescaped
      · next x y hx hy => exact ⟨_, .escape hx hy hbytes⟩
      · contradiction
  | case3 high low v hescaped ih =>
      obtain ⟨_, _, x, y, _, heq, hx, hy⟩ := h.exists_digits
      cases heq
      rw [Text.escaped?, hx, hy] at hescaped
      contradiction
  | case4 c v hshape ih =>
      obtain ⟨bytes, hbytes⟩ := ih (h.of_append (s := [c]))
      by_cases hpercent : c = '%'
      · subst hpercent
        obtain ⟨high, low, _, _, rest, heq, -, -⟩ := h.exists_digits
        exact (hshape high low rest rfl heq).elim
      · by_cases hplus : c = '+'
        · subst hplus
          exact ⟨_, .plus hbytes⟩
        · exact ⟨_, .char hplus hpercent hbytes⟩

/-- Of a field whose name asks for a free text, the value is refused exactly when it is not
read as one. -/
theorem addField?_eq_notUtf8 {known? : Option Currency} {fields : Fields} {name : Text}
    (hother : name ≠ Fields.amountName) (hfree : ¬ requirementMark <+: name) (hv : v ≠ []) :
    addField? known? fields name v = .error (.malformed (.notUtf8 name)) ↔
      Text.percentDecode? v = none := by
  rw [addField?, if_neg hother, if_neg (mt List.isPrefixOf_iff_prefix.mp hfree), if_neg hv]
  cases Text.percentDecode? v with
  | none => simp
  | some t =>
      simp only [reduceCtorEq, iff_false, putField?]
      cases fields.put? name (.text t) <;> simp

/-- A value in which every percent sign begins an escape stands for certain octets, and is read
as the text that these encode, whole or run by run. As a field of free text it is refused for
its octets exactly when they encode no text. Only the empty value is read as the empty text. -/
theorem percentDecode?_eq_decodeUtf8? (hescapes : badEscapeFrom? 0 v = none) :
    ∃ bytes, (∀ other, Text.StandsFor v other ↔ other = bytes) ∧
      Text.percentDecode? v = Text.decodeUtf8? bytes ∧
      (v ≠ [] → Text.percentDecode? v ≠ some []) ∧
      ∀ known? fields name, name ≠ Fields.amountName → ¬ requirementMark <+: name → v ≠ [] →
        (addField? known? fields name v = .error (.malformed (.notUtf8 name)) ↔
          ∀ t, bytes ≠ Text.utf8 t) := by
  have hescaped : IsEscaped v := (badEscapeFrom?_eq_none 0).mp hescapes
  obtain ⟨bytes, hbytes⟩ := hescaped.exists_standsFor
  have hread : Text.percentDecode? v = Text.decodeUtf8? bytes := by
    rw [Text.percentDecode?_eq_formBytes, hbytes.eq_formBytes]
  refine ⟨bytes, ?unique, hread, ?nonempty, ?refused⟩
  case unique =>
    intro other
    constructor
    · intro h
      rw [h.eq_formBytes, hbytes.eq_formBytes]
    · rintro rfl
      exact hbytes
  case nonempty =>
    intro hv hempty
    exact Text.ne_nil_of_percentDecode? hv hempty rfl
  case refused =>
    intro known? fields name hother hfree hv
    rw [addField?_eq_notUtf8 hother hfree hv, hread, Option.eq_none_iff_forall_ne_some]
    simp only [ne_eq, Text.decodeUtf8?_eq_some_iff]

/-- A raw character between escapes does not complete what they begin: four octets that are
none of any text. -/
theorem percentDecode?_eq_decodeUtf8?_split :
    ∃ bytes, Text.StandsFor "%C3\u00e9%A9".toList bytes ∧ bytes = [0xc3, 0xc3, 0xa9, 0xa9] ∧
      Text.percentDecode? "%C3\u00e9%A9".toList = none ∧ Text.decodeUtf8? bytes = none := by
  obtain ⟨bytes, hstands, hread, -, -⟩ :=
    percentDecode?_eq_decodeUtf8? (v := "%C3\u00e9%A9".toList) (by decide)
  have hbytes := (hstands bytes).mpr rfl
  exact ⟨bytes, hbytes, hbytes.eq_formBytes, rfl, hread.symm⟩

end Request

end PaymentUri
