import PaymentUri.Proofs.Amount
import PaymentUri.Proofs.Query
import PaymentUri.Request.Canonical
/-!
# What a canonical form states

The fields of a canonical form hold no separator of a URI, and each of them stores
the value it was written from. An empty label or message is not written, so it is
not stated.
-/

namespace PaymentUri

namespace Amount

/-- A numeral is made of digits, a point and a minus. -/
theorem isPlain_of_mem_numeral {a : Amount} {c : Char} (h : c ∈ a.numeral) :
    Request.isPlain c = true := by
  have hdigits : ∀ {t : Text}, Numeral.IsDigits t → ∀ d ∈ t, Request.isPlain d = true := by
    intro t ht d hd
    have hdigit := ht d hd
    apply Request.isPlain_of_isAlphanum
    rw [Char.isAlphanum, hdigit, Bool.or_true]
  have hunsigned : ∀ d ∈ a.printedUnsigned, Request.isPlain d = true := by
    intro d hd
    rcases List.mem_append.mp hd with hd | hd
    · exact hdigits a.isDigits_printedWhole d hd
    · split at hd
      · contradiction
      · rcases List.mem_cons.mp hd with rfl | hd
        · decide
        · exact hdigits a.isDigits_printedFraction d hd
  rw [numeral_eq] at h
  split at h
  · rcases List.mem_cons.mp h with rfl | h
    · decide
    · exact hunsigned c h
  · exact hunsigned c h

end Amount

namespace Request

variable {amount : Option Amount} {label message t? : Option Text} {name value token : Text}

/-- The text as it is stated: the empty text is not. -/
def nonempty? (t? : Option Text) : Option Text := t?.filter (· ≠ [])

def textFields (name : Text) (t? : Option Text) : Fields :=
  ((nonempty? t?).map fun t => (name, .text t)).toList

/-- The fields that state an amount, a label and a message. -/
def statedFields (amount : Option Amount) (label message : Option Text) : Fields :=
  (amount.map fun a => (Fields.amountName, .amount a)).toList ++
    textFields Fields.labelName label ++ textFields Fields.messageName message

theorem writtenText_eq (name : Text) (t? : Option Text) :
    writtenText name t? =
      ((nonempty? t?).map fun t => written name (Text.percentEncode t)).toList := by
  rcases t? with _ | _ | ⟨c, cs⟩
  all_goals rfl

@[simp] theorem nonempty?_nonempty? (t? : Option Text) :
    nonempty? (nonempty? t?) = nonempty? t? := by
  simp [nonempty?]

theorem ne_nil_of_nonempty? {t : Text} (h : nonempty? t? = some t) : t ≠ [] := by
  simpa using (Option.filter_eq_some_iff.mp h).2

/-- An empty text is written no more than a missing one. -/
theorem writtenFields_nonempty? (amount : Option Amount) (label message : Option Text) :
    writtenFields amount (nonempty? label) (nonempty? message) =
      writtenFields amount label message := by
  simp [writtenFields, writtenText_eq]

/-- The token separates nothing in a URI: it is an equals sign between a name and a value
that hold no other separator. -/
structure IsInert (token : Text) : Prop where
  legal : IsLegal token
  ne_nil : token ≠ []
  ampersand : '&' ∉ token
  question : '?' ∉ token

theorem of_mem_written (hname : ∀ c ∈ name, isPlain c = true)
    (hvalue : ∀ c ∈ value, isPlain c = true ∨ c = '%') {c : Char} (hc : c ∈ written name value) :
    isPlain c = true ∨ c = '%' ∨ c = '=' := by
  rcases List.mem_append.mp hc with hc | hc
  · exact .inl (hname c hc)
  · rcases List.mem_cons.mp hc with rfl | hc
    · exact .inr (.inr rfl)
    · exact (hvalue c hc).imp_right .inl

theorem isInert_written (hname : ∀ c ∈ name, isPlain c = true) (hlegal : IsLegal value)
    (hvalue : ∀ c ∈ value, isPlain c = true ∨ c = '%') : IsInert (written name value) := by
  refine ⟨?_, ?_, ?_, ?_⟩
  · exact (isLegal_of_isPlain hname).join (by simp) hlegal
  · exact List.append_ne_nil_of_right_ne_nil name (List.cons_ne_nil '=' value)
  · intro h
    exact absurd (of_mem_written hname hvalue h) (by decide)
  · intro h
    exact absurd (of_mem_written hname hvalue h) (by decide)

/-- The value of a field of free text is made of plain characters and percent signs. -/
theorem exists_eq_written_of_mem_writtenText (h : token ∈ writtenText name t?) :
    ∃ value, token = written name value ∧ IsLegal value ∧
      ∀ c ∈ value, isPlain c = true ∨ c = '%' := by
  rw [writtenText_eq, Option.mem_toList, Option.map_eq_some_iff] at h
  obtain ⟨t, -, rfl⟩ := h
  refine ⟨_, rfl, isLegal_percentEncode t, ?_⟩
  intro c hc
  apply (Text.isUnreserved_of_mem_percentEncode hc).imp_left
  intro hplain
  rw [isPlain, hplain, Bool.or_true]

/-- So is that of every field of a canonical form. -/
theorem exists_eq_written (h : token ∈ writtenFields amount label message) :
    ∃ name value, token = written name value ∧ (∀ c ∈ name, isPlain c = true) ∧ IsLegal value ∧
      ∀ c ∈ value, isPlain c = true ∨ c = '%' := by
  rcases List.mem_append.mp h with h | h
  · rcases List.mem_append.mp h with h | h
    · rw [Option.mem_toList, Option.map_eq_some_iff] at h
      obtain ⟨a, -, rfl⟩ := h
      refine ⟨_, _, rfl, List.all_eq_true.mp (by decide), ?_, ?_⟩
      · exact isLegal_of_isPlain fun c hc => Amount.isPlain_of_mem_numeral hc
      · exact fun c hc => .inl (Amount.isPlain_of_mem_numeral hc)
    · obtain ⟨value, rfl, hvalue⟩ := exists_eq_written_of_mem_writtenText h
      exact ⟨_, value, rfl, List.all_eq_true.mp (by decide), hvalue⟩
  · obtain ⟨value, rfl, hvalue⟩ := exists_eq_written_of_mem_writtenText h
    exact ⟨_, value, rfl, List.all_eq_true.mp (by decide), hvalue⟩

theorem isInert_of_mem_writtenFields (h : token ∈ writtenFields amount label message) :
    IsInert token := by
  obtain ⟨name, value, rfl, hname, hlegal, hvalue⟩ := exists_eq_written h
  exact isInert_written hname hlegal hvalue

def queryOf (tokens : List Text) : Option Text :=
  if tokens = [] then none else some (['&'].intercalate tokens)

theorem assemble_eq (scheme address : Text) (tokens : List Text) :
    assemble scheme address tokens = scheme ++ ':' :: withQuery address (queryOf tokens) := by
  rw [assemble, queryOf]
  split
  · rw [List.append_nil, withQuery]
  · rw [List.append_assoc, List.cons_append, withQuery]

/-- Inert tokens between ampersands are split as they were joined. -/
theorem queryTokens_intercalate {tokens : List Text} (h : ∀ t ∈ tokens, IsInert t) :
    queryTokens (some (['&'].intercalate tokens)) = tokens := by
  by_cases hnone : tokens = []
  · rw [hnone]
    rfl
  · have hsplit : (['&'].intercalate tokens).splitOn '&' = tokens :=
      List.splitOn_intercalate '&' (fun t ht => (h t ht).ampersand) hnone
    have hjoined : ['&'].intercalate tokens ≠ [] := by
      intro hnil
      rw [hnil] at hsplit
      have hmem : [] ∈ tokens := by simp [← hsplit]
      exact (h [] hmem).ne_nil rfl
    rw [queryTokens, if_neg hjoined, hsplit]

theorem queryTokens_queryOf {tokens : List Text} (h : ∀ t ∈ tokens, IsInert t) :
    queryTokens (queryOf tokens) = tokens := by
  rw [queryOf]
  split
  · next hnone => rw [hnone, queryTokens]
  · exact queryTokens_intercalate h

theorem not_mem_intercalate {c : Char} {tokens : List Text} (hc : c ≠ '&')
    (h : ∀ t ∈ tokens, c ∉ t) : c ∉ ['&'].intercalate tokens := by
  induction tokens with
  | nil => simp
  | cons t tokens ih =>
      obtain ⟨ht, hrest⟩ := List.forall_mem_cons.mp h
      cases tokens with
      | nil => simpa using ht
      | cons s tokens =>
          rw [List.intercalate_cons_cons, List.mem_append, List.mem_append]
          rintro ((hmem | hmem) | hmem)
          · exact ht hmem
          · exact hc (List.mem_singleton.mp hmem)
          · exact ih hrest hmem

theorem not_mem_of_mem_queryOf {c : Char} {tokens : List Text} (hc : c ≠ '&')
    (h : ∀ t ∈ tokens, c ∉ t) : ∀ query ∈ queryOf tokens, c ∉ query := by
  intro query hquery
  rw [queryOf] at hquery
  split at hquery
  · contradiction
  · obtain rfl := Option.some.inj hquery
    exact not_mem_intercalate hc h

theorem isLegal_withQuery {address : Text} {tokens : List Text} (haddress : IsLegal address)
    (h : ∀ t ∈ tokens, IsLegal t) : IsLegal (withQuery address (queryOf tokens)) := by
  rw [queryOf]
  split
  · exact haddress
  · exact haddress.join (by simp) (isLegal_intercalate h)

variable {c : Currency}

theorem isToken_written {name : Text} (hne : name ≠ []) (hfree : '=' ∉ name)
    (hlower : Text.lowercase name = name) (value : Text) :
    IsToken (written name value) name value := by
  have h : IsToken (written name value) (Text.lowercase name) value := .intro hne hfree
  rwa [hlower] at h

/-- A field of free text stores the text it was written from. -/
theorem yields_writtenText (htoken : ∀ value, IsToken (written name value) name value)
    (hother : name ≠ Fields.amountName) (hfree : ¬ requirementMark <+: name) :
    List.Forall₂ (Yields (some c)) (writtenText name t?) ((textFields name t?).map ([·])) := by
  rw [writtenText_eq, textFields]
  cases h : nonempty? t? with
  | none => exact .nil
  | some t =>
      refine .cons ⟨name, _, htoken _, ?_⟩ .nil
      exact .text hother hfree (Text.percentEncode_ne_nil (ne_nil_of_nonempty? h))
        (Text.percentDecode?_percentEncode t)

/-- The fields of a canonical form store what they were written from. -/
theorem yields_writtenFields
    (hamount : ∀ a ∈ amount, a.currency = c ∧ 0 ≤ a.units ∧ a.IsShort) :
    List.Forall₂ (Yields (some c)) (writtenFields amount label message)
      ((statedFields amount label message).map ([·])) := by
  have hfirst : List.Forall₂ (Yields (some c))
      (amount.map fun a => written Fields.amountName a.numeral).toList
      ((amount.map fun a => (Fields.amountName, FieldValue.amount a)).toList.map ([·])) := by
    cases amount with
    | none => exact .nil
    | some a =>
        obtain ⟨rfl, hsign, hshort⟩ := hamount a rfl
        refine .cons ⟨Fields.amountName, a.numeral, ?_, ?_⟩ .nil
        · exact isToken_written (by decide) (by decide) (by decide) _
        · exact .amount rfl (Amount.ofText?_numeral hshort) hsign
  rw [statedFields, List.map_append, List.map_append]
  refine List.rel_append (List.rel_append hfirst ?_) ?_
  · exact yields_writtenText (isToken_written (by decide) (by decide) (by decide))
      (by decide) (by decide)
  · exact yields_writtenText (isToken_written (by decide) (by decide) (by decide))
      (by decide) (by decide)

end Request

end PaymentUri
