import PaymentUri.Proofs.CanonicalFields
import PaymentUri.Proofs.Reader
/-!
# Canonical forms read back

A canonical form is read as what it was written from: by a reader that is told the
currency, and by a reader that has to find it, as long as the registry spells the
scheme in the same way and prefers no other currency for the address.
-/

namespace PaymentUri.Request

variable {registry : Registry} {currency? : Option Currency} {a : Address}
variable {amount : Option Amount} {label message : Option Text}

/-- The request that states an address with an amount, a label and a message. -/
def stating (a : Address) (amount : Option Amount) (label message : Option Text) : Request where
  currency := some a.currency
  fields := (Fields.addressName, .address a) :: statedFields amount label message

section Optional

variable {α : Type} (o : Option α) (f : α → FieldValue) (name : Text)

theorem find?_optional (m : Text) :
    Fields.find? (o.map fun x => (name, f x)).toList m =
      if m = name then o.map f else none := by
  cases o with
  | none => simp
  | some x => simp [Fields.find?_cons]

theorem names_optional_sublist :
    (Fields.names (o.map fun x => (name, f x)).toList).Sublist [name] := by
  cases o with
  | none => exact List.nil_sublist _
  | some x => exact List.Sublist.refl _

end Optional

theorem find?_statedFields (m : Text) :
    Fields.find? (statedFields amount label message) m =
      ((if m = Fields.amountName then amount.map .amount else none).or
        (if m = Fields.labelName then (nonempty? label).map .text else none)).or
          (if m = Fields.messageName then (nonempty? message).map .text else none) := by
  rw [statedFields, textFields, textFields, Fields.find?_append, Fields.find?_append,
    find?_optional, find?_optional, find?_optional]

theorem find?_stating {m : Text} (h : m ≠ Fields.addressName) :
    (stating a amount label message).find? m =
      Fields.find? (statedFields amount label message) m := by
  rw [find?, stating, Fields.find?_cons, if_neg h]

@[simp] theorem address?_stating : (stating a amount label message).address? = some a := rfl

@[simp] theorem amount?_stating : (stating a amount label message).amount? = amount := by
  rw [amount?, find?_stating (by decide), find?_statedFields, if_pos rfl,
    if_neg (by decide), if_neg (by decide)]
  cases amount <;> rfl

@[simp] theorem label?_stating : (stating a amount label message).label? = nonempty? label := by
  rw [label?, text?, find?_stating (by decide), find?_statedFields, if_neg (by decide),
    if_pos rfl, if_neg (by decide)]
  cases nonempty? label <;> rfl

@[simp] theorem message?_stating :
    (stating a amount label message).message? = nonempty? message := by
  rw [message?, text?, find?_stating (by decide), find?_statedFields, if_neg (by decide),
    if_neg (by decide), if_pos rfl]
  cases nonempty? message <;> rfl

theorem nodup_names_stating (a : Address) (amount : Option Amount) (label message : Option Text) :
    (Fields.names (stating a amount label message).fields).Nodup := by
  have hstated : (Fields.names (statedFields amount label message)).Sublist
      ([Fields.amountName] ++ [Fields.labelName] ++ [Fields.messageName]) := by
    rw [statedFields, Fields.names_append, Fields.names_append]
    refine List.Sublist.append (List.Sublist.append ?_ ?_) ?_
    · exact names_optional_sublist _ _ _
    · exact names_optional_sublist _ _ _
    · exact names_optional_sublist _ _ _
  exact (List.Sublist.cons_cons Fields.addressName hstated).nodup (by decide)

/-- What is read from the address and the fields of a canonical form. -/
theorem complete?_writtenFields (label message : Option Text)
    (hamount : ∀ v ∈ amount, v.currency = a.currency ∧ 0 ≤ v.units ∧ v.IsShort) :
    complete? (some a.currency) (some a) (writtenFields amount label message) =
      .ok (stating a amount label message) := by
  refine complete?_eq_ok.mpr ⟨_, yields_writtenFields hamount, ?_, ?_, by simp⟩
  · have hflat : ∀ fields : Fields, (fields.map ([·])).flatten = fields := by
      intro fields
      induction fields with
      | nil => rfl
      | cons f fields ih => rw [List.map_cons, List.flatten_cons, ih, List.singleton_append]
    rw [hflat]
    rfl
  · exact nodup_names_stating a amount label message

theorem isPlain_of_mem_text {c : Char} (h : c ∈ a.text) : isPlain c = true :=
  isPlain_of_isAlphanum (Address.isAlphanum_of_mem_text h)

theorem question_not_mem_text (a : Address) : '?' ∉ a.text :=
  fun h => absurd (isPlain_of_mem_text h) (by decide)

/-- An address begins with a letter or a digit, so no slashes follow the scheme. -/
theorem not_slashes_prefix_withQuery (a : Address) (query? : Option Text) :
    ¬ "//".toList <+: withQuery a.text query? := by
  obtain ⟨c, cs, hc⟩ := List.exists_cons_of_ne_nil a.text_ne_nil
  have hplain : isPlain c = true := isPlain_of_mem_text (by rw [hc]; exact List.mem_cons_self)
  obtain ⟨more, hmore⟩ : ∃ more, withQuery a.text query? = c :: more := by
    cases query? <;> simp [withQuery, hc]
  rintro ⟨rest, hrest⟩
  rw [hmore] at hrest
  have hslash : '/' = c := (List.cons.inj hrest).1
  rw [← hslash] at hplain
  contradiction

/-- A legal text that begins with what is spelled and a colon has the scheme. What is
spelled is the scheme itself unless it holds a colon: then the scheme ends before. -/
structure IsSchemeOf (scheme spelled : Text) : Prop where
  formed : Reference.isScheme scheme = true
  legal : IsLegal spelled
  ahead : scheme ++ [':'] <+: spelled ++ [':']

theorem IsSchemeOf.refl {scheme : Text} (h : Reference.isScheme scheme = true) :
    IsSchemeOf scheme scheme where
  formed := h
  legal := isLegal_of_isPlain fun _ => isPlain_of_mem_scheme h
  ahead := List.prefix_rfl

theorem IsSchemeOf.exists_after {scheme spelled : Text} (h : IsSchemeOf scheme spelled)
    (t : Text) : ∃ after, spelled ++ ':' :: t = scheme ++ ':' :: after := by
  obtain ⟨more, hmore⟩ := h.ahead
  refine ⟨more ++ t, ?_⟩
  calc spelled ++ ':' :: t = (spelled ++ [':']) ++ t := by simp
    _ = ((scheme ++ [':']) ++ more) ++ t := by rw [hmore]
    _ = scheme ++ ':' :: (more ++ t) := by simp

/-- The parts of an assembled text are those it was put together from, for every reader
whose first candidate spells what stands before the address. -/
theorem takenApart_assemble_first {scheme : Text} {first : Currency} {others : List Currency}
    {tokens : List Text} (hscheme : IsSchemeOf scheme first.scheme)
    (hclaimed : candidates registry currency? scheme = first :: others)
    (htokens : ∀ t ∈ tokens, IsInert t) :
    TakenApart registry currency? (assemble first.scheme a.text tokens)
      ⟨first :: others, a.text, tokens⟩ := by
  have hread := queryTokens_queryOf htokens
  have hlegal : IsLegal (withQuery a.text (queryOf tokens)) :=
    isLegal_withQuery (isLegal_of_isPlain fun c => isPlain_of_mem_text)
      fun t ht => (htokens t ht).legal
  have hwhole : IsLegal (assemble first.scheme a.text tokens) := by
    rw [assemble_eq]
    exact hscheme.legal.join (by simp) hlegal
  obtain ⟨after, hcolon⟩ := hscheme.exists_after (withQuery a.text (queryOf tokens))
  have hfree : ∀ query ∈ queryOf tokens, '?' ∉ query :=
    not_mem_of_mem_queryOf (by decide) fun t ht => (htokens t ht).question
  have hfollows : Follows first.scheme (assemble first.scheme a.text tokens)
      (withQuery a.text (queryOf tokens)) := by
    rw [assemble_eq]
    exact .inr ⟨rfl, not_slashes_prefix_withQuery a _⟩
  have happart : TakenApart registry currency? (assemble first.scheme a.text tokens)
      ⟨first :: others, a.text, queryTokens (queryOf tokens)⟩ :=
    .intro hwhole (isScheme_iff.mpr hscheme.formed) ((assemble_eq _ _ _).trans hcolon) hclaimed
      hfollows (question_not_mem_text a) hfree
  rwa [hread] at happart

/-- An assembled text is read as what it was written from, for every reader whose first
candidate spells what stands before the address and which settles on the address. -/
theorem ofText?_assemble_first {scheme : Text} {first : Currency} {others : List Currency}
    (label message : Option Text) (hscheme : IsSchemeOf scheme first.scheme)
    (hclaimed : candidates registry currency? scheme = first :: others)
    (hsettles : Settles (first :: others) a.text (some a))
    (hamount : ∀ v ∈ amount, v.currency = a.currency ∧ 0 ≤ v.units ∧ v.IsShort) :
    ofText? registry currency?
        (assemble first.scheme a.text (writtenFields amount label message)) =
      .ok (stating a amount label message) := by
  have htokens : ∀ t ∈ writtenFields amount label message, IsInert t :=
    fun _ => isInert_of_mem_writtenFields
  have happart := takenApart_assemble_first (a := a) hscheme hclaimed htokens
  have hcomplete := complete?_writtenFields label message hamount
  exact ofText?_eq_ok.mpr ⟨_, some a, happart, hsettles, hcomplete⟩

theorem takenApart_assemble {scheme : Text} {first : Currency} {others : List Currency}
    {tokens : List Text} (hscheme : Reference.isScheme scheme = true)
    (hclaimed : candidates registry currency? scheme = first :: others)
    (hspelled : first.scheme = scheme) (htokens : ∀ t ∈ tokens, IsInert t) :
    TakenApart registry currency? (assemble scheme a.text tokens)
      ⟨first :: others, a.text, tokens⟩ := by
  subst hspelled
  exact takenApart_assemble_first (.refl hscheme) hclaimed htokens

/-- A reader whose first candidate spells the scheme of an assembled text in the same way
reads it as what it was written from. -/
theorem ofText?_assemble {scheme : Text} {first : Currency} {others : List Currency}
    (label message : Option Text) (hscheme : Reference.isScheme scheme = true)
    (hclaimed : candidates registry currency? scheme = first :: others)
    (hspelled : first.scheme = scheme) (hsettles : Settles (first :: others) a.text (some a))
    (hamount : ∀ v ∈ amount, v.currency = a.currency ∧ 0 ≤ v.units ∧ v.IsShort) :
    ofText? registry currency? (assemble scheme a.text (writtenFields amount label message)) =
      .ok (stating a amount label message) := by
  subst hspelled
  exact ofText?_assemble_first label message (.refl hscheme) hclaimed hsettles hamount

theorem form?_eq_ok (label message : Option Text)
    (hamount : ∀ v ∈ amount, v.currency = a.currency ∧ 0 ≤ v.units) :
    form? (some a) amount label message =
      .ok (assemble a.currency.scheme a.text (writtenFields amount label message)) := by
  have hcheck : checkAmount a amount = .ok () := by
    cases amount with
    | none => rfl
    | some v =>
        obtain ⟨hcurrency, hsign⟩ := hamount v rfl
        rw [checkAmount, if_neg (Int.not_lt.mpr hsign), hcurrency, if_pos a.currency.same_refl]
  rw [form?, hcheck]

/-- What is stated has the canonical form that it was read from. -/
theorem canonical?_stating (a : Address) (amount : Option Amount) (label message : Option Text) :
    canonical? (stating a amount label message) = form? (some a) amount label message := by
  simp only [canonical?, address?_stating, amount?_stating, label?_stating, message?_stating,
    form?, writtenFields_nonempty?]

/-- A registry that leads from the scheme of an address to its currency: the first
currency to claim the scheme spells it in the same way, and the first that uses the
version of the address is its own. -/
structure LeadsTo (registry : Registry) (a : Address) : Prop where
  registered : a.currency ∈ registry.currencies
  spelled : ∀ first ∈ (registry.claiming a.currency.scheme).head?,
    first.scheme = a.currency.scheme
  preferred : (registry.claiming a.currency.scheme).find? (fun c => a.version ∈ c.versions) =
    some a.currency

theorem LeadsTo.settles (h : LeadsTo registry a) :
    ∃ first others, registry.claiming a.currency.scheme = first :: others ∧
      first.scheme = a.currency.scheme ∧ Settles (first :: others) a.text (some a) := by
  obtain ⟨hversion, before, after, hsplit, hearlier⟩ :=
    List.find?_eq_some_iff_append.mp h.preferred
  have hsettles : Settles (registry.claiming a.currency.scheme) a.text (some a) := by
    refine .first hsplit (fun b hb => ?_) a.ofText?_text
    rw [Address.accepts_text_iff]
    simpa using hearlier b hb
  cases hclaiming : registry.claiming a.currency.scheme with
  | nil => simp [hclaiming] at hsplit
  | cons first others =>
      rw [hclaiming] at hsettles
      exact ⟨first, others, rfl, h.spelled first (by simp [hclaiming]), hsettles⟩

/-- A registry that leads to the currency of an address reads what is stated back. -/
theorem LeadsTo.ofText?_assemble (h : LeadsTo registry a) (label message : Option Text)
    (hscheme : Reference.isScheme a.currency.scheme = true)
    (hamount : ∀ v ∈ amount, v.currency = a.currency ∧ 0 ≤ v.units ∧ v.IsShort) :
    ofText? registry none
        (assemble a.currency.scheme a.text (writtenFields amount label message)) =
      .ok (stating a amount label message) := by
  obtain ⟨first, others, hclaimed, hspelled, hsettles⟩ := h.settles
  exact Request.ofText?_assemble label message hscheme hclaimed hspelled hsettles hamount

/-- Every request that can be built is read back from its canonical form: with the
currency given in any registry, and without it in every registry that leads to it. -/
theorem exists_form?_readBack {a : Address} {amount : Option Amount} (label message : Option Text)
    (hscheme : Reference.isScheme a.currency.scheme = true)
    (hexponent : a.currency.exponent ≤ Numeral.maxDigits)
    (hamount : ∀ v ∈ amount, v.currency = a.currency ∧ 0 ≤ v.units) :
    ∃ s r, form? (some a) amount label message = .ok s ∧
      (∀ registry, ofText? registry (some a.currency) s = .ok r) ∧
      (∀ registry, LeadsTo registry a → ofText? registry none s = .ok r) ∧
      r.currency = some a.currency ∧ r.address? = some a ∧ r.amount? = amount ∧
      r.label? = nonempty? label ∧ r.message? = nonempty? message ∧
      r.fields = (Fields.addressName, .address a) :: statedFields amount label message ∧
      canonical? r = .ok s := by
  have hshort : ∀ v ∈ amount, v.currency = a.currency ∧ 0 ≤ v.units ∧ v.IsShort := by
    intro v hv
    obtain ⟨hcurrency, hsign⟩ := hamount v hv
    refine ⟨hcurrency, hsign, Amount.isShort_of_exponent_le ?_⟩
    rwa [hcurrency]
  have hform := form?_eq_ok label message hamount
  refine ⟨_, stating a amount label message, hform, ?_, ?_, rfl, address?_stating, amount?_stating,
    label?_stating, message?_stating, rfl, ?_⟩
  · intro registry
    exact ofText?_assemble label message hscheme rfl rfl (.only a.ofText?_text) hshort
  · intro registry hleads
    exact hleads.ofText?_assemble label message hscheme hshort
  · rw [canonical?_stating, hform]

def zeroHash : List UInt8 := List.replicate 20 0

theorem length_zeroHash : zeroHash.length = 20 := List.length_replicate

def zeroAddress : Address where
  currency := ⟨"bitcoin.main".toList, "Bitcoin".toList, "BTC".toList, "bitcoin".toList, 8, 0, 5⟩
  version := 0
  hash := zeroHash
  version_mem := List.mem_cons_self
  length_hash := length_zeroHash

theorem leadsTo_zeroAddress : LeadsTo Registry.builtin zeroAddress where
  registered := by decide
  spelled := by decide
  preferred := by decide

theorem exists_form?_readBack_zeroAddress :
    ∃ s r, form? (some zeroAddress) (some ⟨zeroAddress.currency, 2030000000, by decide⟩)
        (some "Tom & Jerry".toList) (some []) = .ok s ∧
      ofText? Registry.builtin none s = .ok r ∧ r.label? = some "Tom & Jerry".toList ∧
      r.message? = none := by
  have hamount : ∀ v ∈ some (⟨zeroAddress.currency, 2030000000, by decide⟩ : Amount),
      v.currency = zeroAddress.currency ∧ 0 ≤ v.units := by
    rintro v ⟨⟩
    exact ⟨rfl, by decide⟩
  obtain ⟨s, r, hform, -, hread, -, -, -, hlabel, hmessage, -⟩ :=
    exists_form?_readBack (a := zeroAddress) (some "Tom & Jerry".toList) (some []) (by decide)
      (by decide) hamount
  exact ⟨s, r, hform, hread _ leadsTo_zeroAddress, hlabel, hmessage⟩

end PaymentUri.Request
