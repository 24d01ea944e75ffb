import PaymentUri.Proofs.Canonical
/-!
# Canonical forms as fixed points

A reader that is told a currency looks for the spelling of that currency in front of the
address, whatever this spelling is. A URI that it accepts begins with it, and so does the
canonical form of what it read there. Amounts that were read are short, however fine the
unit of the currency is, so nothing in the canonical form is refused: it is read as what
it states. Two canonical forms are then equal exactly when they state the same.
-/

namespace PaymentUri.Request

variable {registry : Registry} {uri : Text} {c : Currency} {a : Address} {r r' : Request}

/-- The scheme of a text that is taken apart is that of all texts that begin with what
the first candidate spells. -/
theorem TakenApart.isSchemeOf {currency? : Option Currency} {parts : Parts}
    (h : TakenApart registry currency? uri parts) :
    ∃ scheme first others, candidates registry currency? scheme = first :: others ∧
      parts.candidates = first :: others ∧ IsSchemeOf scheme first.scheme := by
  cases h with
  | intro hlegal hformed hcolon hclaimed hfollows haddress hquery =>
      next scheme after _ first others _ =>
        rw [isScheme_iff] at hformed
        obtain ⟨rest, hrest⟩ := hfollows.exists_colon
        refine ⟨scheme, first, others, hclaimed, rfl, hformed, ?legal, ?ahead⟩
        case legal =>
          rw [hrest] at hlegal
          exact hlegal.of_append_cons (by decide)
        case ahead =>
          have hscheme : scheme ++ [':'] <+: uri := ⟨after, by simp [hcolon]⟩
          have hspelled : first.scheme ++ [':'] <+: uri := ⟨rest, by simp [hrest]⟩
          rcases List.prefix_or_prefix_of_prefix hscheme hspelled with h | h
          · exact h
          · -- A shorter spelling would put its colon inside the scheme.
            rcases List.prefix_concat_iff.mp h with h | h
            · rw [h]
            · have hmem : ':' ∈ scheme := h.subset (by simp)
              exact absurd hmem (colon_not_mem_of_isScheme hformed)

section Held

variable (hheld : ∀ f ∈ r.fields, IsHeld (some a.currency) (some a) f)
include hheld

/-- The amount of a request that was read can be asked for at its address, and read back. -/
theorem amount_of_isHeld :
    ∀ v ∈ r.amount?, v.currency = a.currency ∧ 0 ≤ v.units ∧ v.IsShort := by
  intro v hv
  obtain ⟨hknown, hsign, hshort⟩ := amount_of_amount?_eq_some hheld hv
  exact ⟨(Option.some.inj hknown).symm, hsign, hshort⟩

theorem canonical?_of_isHeld (haddress : r.address? = some a) :
    canonical? r = .ok (assemble a.currency.scheme a.text
      (writtenFields r.amount? r.label? r.message?)) := by
  rw [canonical?, haddress]
  apply form?_eq_ok
  intro v hv
  obtain ⟨hsame, hsign, -⟩ := amount_of_isHeld hheld v hv
  exact ⟨hsame, hsign⟩

theorem agrees_stating (hcurrency : r.currency = some a.currency)
    (haddress : r.address? = some a) : Agrees r (stating a r.amount? r.label? r.message?) where
  currency := hcurrency.symm
  address := by rw [address?_stating, haddress]
  amount := amount?_stating
  label := by rw [label?_stating]; exact nonempty?_text? hheld _
  message := by rw [message?_stating]; exact nonempty?_text? hheld _

end Held

/-- What a reader that is told a currency finds in a text with an address. -/
theorem told_of_ofText? (hread : ofText? registry (some c) uri = .ok r)
    (haddress : r.address? = some a) :
    a.currency = c ∧ (∃ scheme, IsSchemeOf scheme c.scheme) ∧ r.currency = some a.currency ∧
      ∀ f ∈ r.fields, IsHeld (some a.currency) (some a) f := by
  obtain ⟨parts, address?, happart, hsettles, hcomplete⟩ := ofText?_eq_ok.mp hread
  obtain ⟨hcurrency, hheld⟩ := isHeld_of_complete? hcomplete
  obtain rfl := eq_of_address?_eq_some hheld haddress
  obtain ⟨scheme, first, others, hclaimed, hcandidates, hscheme⟩ := happart.isSchemeOf
  obtain ⟨rfl, rfl⟩ := List.cons.inj hclaimed
  rw [hcandidates] at hsettles
  have hmem := hsettles.text.1
  exact ⟨List.mem_singleton.mp hmem, ⟨scheme, hscheme⟩, hcurrency, hheld⟩

/-- A request that was read by a reader that is told a currency is read again from its
canonical form by every such reader: all that it states, and nothing else. -/
theorem ofText?_canonical (hread : ofText? registry (some c) uri = .ok r)
    (haddress : r.address? = some a) :
    ∃ s, canonical? r = .ok s ∧ Agrees r (stating a r.amount? r.label? r.message?) ∧
      ∀ registry', ofText? registry' (some c) s =
        .ok (stating a r.amount? r.label? r.message?) := by
  obtain ⟨rfl, ⟨scheme, hscheme⟩, hcurrency, hheld⟩ := told_of_ofText? hread haddress
  refine ⟨_, canonical?_of_isHeld hheld haddress, agrees_stating hheld hcurrency haddress, ?_⟩
  intro registry'
  exact ofText?_assemble_first r.label? r.message? hscheme rfl (.only a.ofText?_text)
    (amount_of_isHeld hheld)

theorem canonical?_congr (haddress : r'.address? = r.address?) (hamount : r'.amount? = r.amount?)
    (hlabel : r'.label? = r.label?) (hmessage : r'.message? = r.message?) :
    canonical? r' = canonical? r := by
  rw [canonical?, canonical?, haddress, hamount, hlabel, hmessage]

/-- Of every text with an address that is read in a currency, the canonical form is read
in that currency as the same request without its other fields, and is its own canonical
form. It is the canonical form of exactly those texts read in that currency that state
the same address, amount, label and message. -/
theorem canonical?_fixpoint (hread : ofText? registry (some c) uri = .ok r)
    (haddress : r.address? = some a) :
    ∃ s r', canonical? r = .ok s ∧ (∀ registry', ofText? registry' (some c) s = .ok r') ∧
      Agrees r r' ∧
      r'.fields = (Fields.addressName, .address a) :: statedFields r.amount? r.label? r.message? ∧
      canonical? r' = .ok s ∧
      ∀ registry₂ uri₂ r₂, ofText? registry₂ (some c) uri₂ = .ok r₂ → r₂.address?.isSome = true →
        (canonical? r₂ = .ok s ↔ r₂.address? = r.address? ∧ r₂.amount? = r.amount? ∧
          r₂.label? = r.label? ∧ r₂.message? = r.message?) := by
  obtain ⟨s, hs, hagrees, hback⟩ := ofText?_canonical hread haddress
  have hagain : canonical? (stating a r.amount? r.label? r.message?) = .ok s := by
    rw [← hs]
    exact canonical?_congr hagrees.address hagrees.amount hagrees.label hagrees.message
  refine ⟨s, _, hs, hback, hagrees, rfl, hagain, ?_⟩
  intro registry₂ uri₂ r₂ hread₂ hsome
  constructor
  · -- What is read in one text cannot differ, and both requests agree with it.
    intro hs₂
    obtain ⟨a₂, haddress₂⟩ := Option.isSome_iff_exists.mp hsome
    obtain ⟨t, ht, hagrees₂, hback₂⟩ := ofText?_canonical hread₂ haddress₂
    obtain rfl : t = s := Except.ok.inj (ht.symm.trans hs₂)
    have hsame := Except.ok.inj ((hback₂ registry).symm.trans (hback registry))
    rw [hsame] at hagrees₂
    exact ⟨hagrees₂.address.symm.trans hagrees.address, hagrees₂.amount.symm.trans hagrees.amount,
      hagrees₂.label.symm.trans hagrees.label, hagrees₂.message.symm.trans hagrees.message⟩
  · rintro ⟨hsame, hamount, hlabel, hmessage⟩
    rw [canonical?_congr hsame hamount hlabel hmessage, hs]

/-- A currency with a colon in its scheme and a unit finer than any amount that is read. -/
def fineCurrency : Currency :=
  ⟨"fine.coin".toList, "Fine".toList, "FIN".toList, "fine:coin".toList, 40, 60, 61⟩

def fineAddress : Address where
  currency := fineCurrency
  version := 61
  hash := zeroHash
  version_mem := by decide
  length_hash := length_zeroHash

def fineQuery : Text := "AMOUNT=00.50&colour=red&label=Tom+J".toList

/-- A text that states half a coin, spelled otherwise than its canonical form. -/
def fineText : Text := "fine:coin://".toList ++ withQuery fineAddress.text (some fineQuery)

theorem ofText?_fineText :
    ∃ r, ofText? Registry.builtin (some fineCurrency) fineText = .ok r ∧
      r.address? = some fineAddress ∧ r.label? = some "Tom J".toList := by
  have hlegal : IsLegal fineText := by
    have haddress : IsLegal fineAddress.text := isLegal_of_isPlain fun c => isPlain_of_mem_text
    have hquery : IsLegal fineQuery := isLegal_iff.mpr (by decide)
    exact (isLegal_iff.mpr (by decide)).append (haddress.join (by simp) hquery)
  have hcolon : fineText =
      "fine".toList ++ ':' :: ("coin://".toList ++ withQuery fineAddress.text (some fineQuery)) :=
    rfl
  have happart : TakenApart Registry.builtin (some fineCurrency) fineText
      ⟨[fineCurrency], fineAddress.text, queryTokens (some fineQuery)⟩ :=
    .intro hlegal (isScheme_iff.mpr (by decide)) hcolon rfl (.inl rfl)
      (question_not_mem_text _) (by decide)
  have hsettles : Settles [fineCurrency] fineAddress.text (some fineAddress) :=
    .only fineAddress.ofText?_text
  obtain ⟨r, hr, hread⟩ : ∃ r,
      complete? (some fineCurrency) (some fineAddress) (queryTokens (some fineQuery)) = .ok r ∧
        r.address? = some fineAddress ∧ r.label? = some "Tom J".toList := ⟨_, rfl, rfl, rfl⟩
  exact ⟨r, ofText?_eq_ok.mpr ⟨_, some fineAddress, happart, hsettles, hr⟩, hread⟩

theorem canonical?_fixpoint_fineText :
    ∃ r s r', ofText? Registry.builtin (some fineCurrency) fineText = .ok r ∧
      canonical? r = .ok s ∧ ofText? Registry.builtin (some fineCurrency) s = .ok r' ∧
      r'.label? = some "Tom J".toList ∧ canonical? r' = .ok s := by
  obtain ⟨r, hread, haddress, hlabel⟩ := ofText?_fineText
  obtain ⟨s, r', hs, hback, hagrees, -, hagain, -⟩ := canonical?_fixpoint hread haddress
  exact ⟨r, s, r', hread, hs, hback _, hagrees.label.trans hlabel, hagain⟩

end PaymentUri.Request
