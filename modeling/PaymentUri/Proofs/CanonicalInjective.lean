import PaymentUri.Proofs.RoundTrip
import PaymentUri.Proofs.WholeCoins
/-!
# Canonical forms tell requests apart

A canonical form says which scheme, address, number of coins, label and message it was
written from, and nothing else: two requests have the same form exactly when they agree
in these. The scheme may be any text at all, even one with separators of a URI in it, for
what follows its colon holds no other colon.
-/

namespace PaymentUri

/-- The text of an address states its version and its hash. -/
theorem Address.text_eq_iff {a a' : Address} :
    a.text = a'.text ↔ a.version = a'.version ∧ a.hash = a'.hash := by
  constructor
  · intro h
    have hcontents := a.contents?_text
    rw [h, contents?_text, Except.ok.injEq, Prod.mk.injEq] at hcontents
    exact ⟨hcontents.1.symm, hcontents.2.symm⟩
  · rintro ⟨hversion, hhash⟩
    rw [text, text, hversion, hhash]

namespace Request

variable {a a' : Address} {address? address?' : Option Address} {amount amount' : Option Amount}
variable {label label' message message' t? t?' : Option Text}
variable {name token scheme scheme' address address' : Text} {tokens : List Text}

theorem withQuery_inj {query? query?' : Option Text} (h : '?' ∉ address) (h' : '?' ∉ address')
    (heq : withQuery address query? = withQuery address' query?') :
    address = address' ∧ query? = query?' := by
  have hfree : ∀ {s s' query : Text}, '?' ∉ s → s ≠ s' ++ '?' :: query := by
    rintro s s' query hs rfl
    exact hs (by simp)
  cases query? with
  | none =>
      cases query?' with
      | none => exact ⟨heq, rfl⟩
      | some query' => exact absurd heq (hfree h)
  | some query =>
      cases query?' with
      | none => exact absurd heq.symm (hfree h')
      | some query' =>
          obtain ⟨rfl, rfl⟩ := Text.append_cons_inj h h' heq
          exact ⟨rfl, rfl⟩

/-- What stands behind the scheme of a canonical form holds no colon. -/
theorem colon_not_mem_withQuery (a : Address) (h : ∀ t ∈ tokens, ':' ∉ t) :
    ':' ∉ withQuery a.text (queryOf tokens) := by
  have haddress : ':' ∉ a.text := fun hmem => absurd (isPlain_of_mem_text hmem) (by decide)
  have hquery := not_mem_of_mem_queryOf (by decide) h
  cases hq : queryOf tokens with
  | none => exact haddress
  | some query =>
      rw [withQuery, List.mem_append, List.mem_cons]
      rintro (hmem | hmem | hmem)
      · exact haddress hmem
      · exact absurd hmem (by decide)
      · exact hquery query hq hmem

theorem head?_written (name value : Text) :
    (written name value).head? = (written name []).head? := by
  cases name <;> rfl

theorem written_injective (name : Text) : Function.Injective (written name) := by
  intro value value' h
  exact (List.cons.inj (List.append_cancel_left h)).2

/-- A field that may be missing is told apart from those behind it by the letter its name
begins with. -/
theorem optional_written_inj {o o' : Option Text} {rest rest' : List Text}
    (hrest : ∀ t ∈ rest, t.head? ≠ (written name []).head?)
    (hrest' : ∀ t ∈ rest', t.head? ≠ (written name []).head?)
    (h : (o.map (written name)).toList ++ rest = (o'.map (written name)).toList ++ rest') :
    o = o' ∧ rest = rest' := by
  cases o with
  | none =>
      cases o' with
      | none => exact ⟨rfl, h⟩
      | some value' =>
          obtain rfl : rest = written name value' :: rest' := h
          exact absurd (head?_written name value') (hrest _ List.mem_cons_self)
  | some value =>
      cases o' with
      | none =>
          obtain rfl : written name value :: rest = rest' := h
          exact absurd (head?_written name value) (hrest' _ List.mem_cons_self)
      | some value' =>
          obtain ⟨hvalue, rfl⟩ := List.cons.inj h
          rw [written_injective name hvalue]
          exact ⟨rfl, rfl⟩

/-- The fields of a canonical form, each with its name and its value apart. -/
theorem writtenFields_eq (amount : Option Amount) (label message : Option Text) :
    writtenFields amount label message =
      ((amount.map Amount.numeral).map (written Fields.amountName)).toList ++
        ((((nonempty? label).map Text.percentEncode).map (written Fields.labelName)).toList ++
          (((nonempty? message).map Text.percentEncode).map
            (written Fields.messageName)).toList) := by
  rw [writtenFields, writtenText_eq, writtenText_eq, List.append_assoc, Option.map_map,
    Option.map_map, Option.map_map]
  rfl

theorem head?_of_mem_optional {o : Option Text}
    (h : token ∈ (o.map (written name)).toList) : token.head? = (written name []).head? := by
  rw [Option.mem_toList, Option.map_eq_some_iff] at h
  obtain ⟨value, -, rfl⟩ := h
  exact head?_written name value

theorem writtenFields_inj
    (h : writtenFields amount label message = writtenFields amount' label' message') :
    amount.map Amount.numeral = amount'.map Amount.numeral ∧
      nonempty? label = nonempty? label' ∧ nonempty? message = nonempty? message' := by
  have hmessage : ∀ o : Option Text, ∀ t ∈ (o.map (written Fields.messageName)).toList,
      t.head? ≠ (written Fields.labelName []).head? := by
    intro o t ht
    rw [head?_of_mem_optional ht]
    decide
  have hothers : ∀ o o' : Option Text, ∀ t ∈ (o.map (written Fields.labelName)).toList ++
      (o'.map (written Fields.messageName)).toList,
        t.head? ≠ (written Fields.amountName []).head? := by
    intro o o' t ht
    rcases List.mem_append.mp ht with ht | ht
    · rw [head?_of_mem_optional ht]
      decide
    · rw [head?_of_mem_optional ht]
      decide
  rw [writtenFields_eq, writtenFields_eq] at h
  obtain ⟨hamounts, h⟩ := optional_written_inj (hothers _ _) (hothers _ _) h
  obtain ⟨hlabels, h⟩ := optional_written_inj (hmessage _) (hmessage _) h
  have hmessages := congrArg List.head? h
  rw [Option.head?_toList, Option.head?_toList] at hmessages
  exact ⟨hamounts, Option.map_injective Text.percentEncode_injective hlabels,
    Option.map_injective Text.percentEncode_injective
      (Option.map_injective (written_injective _) hmessages)⟩

theorem getD_nonempty? (t? : Option Text) : (nonempty? t?).getD [] = t?.getD [] := by
  rcases t? with _ | _ | ⟨c, cs⟩
  all_goals rfl

theorem nonempty?_some_getD (t? : Option Text) : nonempty? (some (t?.getD [])) = nonempty? t? := by
  rcases t? with _ | _ | ⟨c, cs⟩
  all_goals rfl

/-- Texts are stated alike when they are the same and a missing one counts as empty. -/
theorem nonempty?_eq_iff : nonempty? t? = nonempty? t?' ↔ t?.getD [] = t?'.getD [] := by
  constructor
  · intro h
    rw [← getD_nonempty?, h, getD_nonempty?]
  · intro h
    rw [← nonempty?_some_getD, h, nonempty?_some_getD]

theorem exists_of_form?_eq_ok {s : Text} (h : form? address? amount label message = .ok s) :
    ∃ a, address? = some a ∧
      s = assemble a.currency.scheme a.text (writtenFields amount label message) := by
  cases address? with
  | none => contradiction
  | some a =>
      rw [form?] at h
      split at h
      · contradiction
      · exact ⟨a, rfl, (Except.ok.inj h).symm⟩

theorem map_numeral_eq_iff :
    amount.map Amount.numeral = amount'.map Amount.numeral ↔
      amount.map Amount.coins = amount'.map Amount.coins := by
  cases amount with
  | none => cases amount' <;> simp
  | some v =>
      cases amount' with
      | none => simp
      | some v' => simp [Amount.numeral_eq_iff]

theorem colon_not_mem_of_mem_writtenFields (h : token ∈ writtenFields amount label message) :
    ':' ∉ token := by
  obtain ⟨name, value, rfl, hname, -, hvalue⟩ := exists_eq_written h
  exact fun hmem => absurd (of_mem_written hname hvalue hmem) (by decide)

/-- The scheme, the address and the fields of a canonical form are told apart: its last
colon ends the scheme, and the first question mark behind it ends the address. -/
theorem assemble_writtenFields_inj
    (h : assemble scheme a.text (writtenFields amount label message) =
      assemble scheme' a'.text (writtenFields amount' label' message')) :
    scheme = scheme' ∧ a.text = a'.text ∧
      writtenFields amount label message = writtenFields amount' label' message' := by
  rw [assemble_eq, assemble_eq] at h
  obtain ⟨rfl, hrest⟩ := Text.append_cons_inj_last
    (colon_not_mem_withQuery a fun _ => colon_not_mem_of_mem_writtenFields)
    (colon_not_mem_withQuery a' fun _ => colon_not_mem_of_mem_writtenFields) h
  obtain ⟨htext, hquery⟩ := withQuery_inj (question_not_mem_text a) (question_not_mem_text a') hrest
  refine ⟨rfl, htext, ?_⟩
  rw [← queryTokens_queryOf fun _ => isInert_of_mem_writtenFields, hquery,
    queryTokens_queryOf fun _ => isInert_of_mem_writtenFields]

/-- Two requests, whatever their currencies, have the same canonical form exactly when they
have the same scheme, version and hash, ask for the same number of coins or for none, and
have the same label and the same message, where an empty one is as good as none. -/
theorem form?_eq_form?_iff {s s' : Text} (h : form? address? amount label message = .ok s)
    (h' : form? address?' amount' label' message' = .ok s') :
    s = s' ↔
      address?.map (fun a => (a.currency.scheme, a.version, a.hash)) =
          address?'.map (fun a => (a.currency.scheme, a.version, a.hash)) ∧
        amount.map Amount.coins = amount'.map Amount.coins ∧
        label.getD [] = label'.getD [] ∧ message.getD [] = message'.getD [] := by
  obtain ⟨a, rfl, rfl⟩ := exists_of_form?_eq_ok h
  obtain ⟨a', rfl, rfl⟩ := exists_of_form?_eq_ok h'
  rw [Option.map_some, Option.map_some, Option.some.injEq, Prod.mk.injEq, Prod.mk.injEq,
    ← Address.text_eq_iff, ← map_numeral_eq_iff, ← nonempty?_eq_iff, ← nonempty?_eq_iff]
  constructor
  · intro heq
    obtain ⟨hscheme, htext, htokens⟩ := assemble_writtenFields_inj heq
    exact ⟨⟨hscheme, htext⟩, writtenFields_inj htokens⟩
  · rintro ⟨⟨hscheme, htext⟩, hamounts, hlabels, hmessages⟩
    rw [hscheme, htext, writtenFields_eq, hamounts, hlabels, hmessages, ← writtenFields_eq]

/-- An address that is written like `zeroAddress` although its currency has two decimal
places. -/
def coarseAddress : Address where
  currency := ⟨"bitcoin.coarse".toList, "Bitcoin".toList, "BTC".toList, "bitcoin".toList, 2, 0, 5⟩
  version := 0
  hash := zeroHash
  version_mem := List.mem_cons_self
  length_hash := length_zeroHash

theorem form?_eq_form?_coarseAddress :
    ∃ s s', form? (some zeroAddress) (some ⟨zeroAddress.currency, 2030000000, by decide⟩)
        (some []) none = .ok s ∧
      form? (some coarseAddress) (some ⟨coarseAddress.currency, 2030, by decide⟩)
        none none = .ok s' ∧ s = s' := by
  have hzero : form? (some zeroAddress) (some ⟨zeroAddress.currency, 2030000000, by decide⟩)
      (some []) none = .ok _ := form?_eq_ok (some []) none (by simp)
  have hcoarse : form? (some coarseAddress) (some ⟨coarseAddress.currency, 2030, by decide⟩)
      none none = .ok _ := form?_eq_ok none none (by simp)
  refine ⟨_, _, hzero, hcoarse, (form?_eq_form?_iff hzero hcoarse).mpr ⟨rfl, ?_, rfl, rfl⟩⟩
  rw [Option.map_some, Option.map_some, Option.some.injEq, Amount.coins_eq_iff]
  decide

end Request

end PaymentUri
