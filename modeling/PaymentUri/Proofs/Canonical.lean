import PaymentUri.Proofs.LetterCase
import PaymentUri.Proofs.RoundTrip
/-!
# When canonical forms stay readable

What was read without a currency being told has a canonical form, which names the
scheme as the currency of the address spells it. A reader compares schemes without
case but takes off the front what the first currency to claim the scheme spells.
The canonical form is therefore read again exactly when these two spellings agree,
and then it states the same request.
-/

namespace PaymentUri

namespace Request

variable {registry : Registry} {uri scheme t : Text} {a : Address} {r : Request}

/-- Whoever claims a scheme spells it without a colon. -/
theorem colon_not_mem_of_lowercase_eq (hscheme : Reference.isScheme scheme = true)
    (heq : Text.lowercase t = Text.lowercase scheme) : ':' ∉ t := by
  intro hmem
  have hlower : ':' ∈ Text.lowercase t :=
    Text.mem_lowerFrom (fun b u => Text.lowerIn_ascii (by decide) b u) hmem false
  have hascii : ∀ c ∈ scheme, c.toNat < 128 := fun c hc =>
    toNat_lt_of_isPlain (isPlain_of_mem_scheme hscheme hc)
  rw [heq, Text.lowercase, Text.lowerFrom_ascii hascii] at hlower
  obtain ⟨c, hc, hcolon⟩ := List.mem_map.mp hlower
  have hplain := isPlain_of_mem_scheme hscheme hc
  have hall : isPlain c = true → c.toLower ≠ ':' :=
    Text.forall_ascii (P := fun d => isPlain d = true → d.toLower ≠ ':') (by decide) (hascii c hc)
  exact hall hplain hcolon

theorem Follows.exists_colon {rest : Text} (h : Follows scheme uri rest) :
    ∃ after, uri = scheme ++ ':' :: after := by
  rcases h with rfl | ⟨rfl, -⟩
  · exact ⟨"//".toList ++ rest, by simp⟩
  · exact ⟨rest, rfl⟩

/-- The first currency to claim the scheme of a text that is taken apart spells it as the
text does. -/
theorem spelled_of_takenApart {parts : Parts} (h : TakenApart registry none uri parts) :
    ∃ scheme after first others, Reference.isScheme scheme = true ∧
      uri = scheme ++ ':' :: after ∧ registry.claiming scheme = first :: others ∧
      first.scheme = scheme ∧ parts.candidates = first :: others := by
  cases h with
  | intro hlegal hformed hcolon hclaimed hfollows haddress hquery =>
      next scheme after _ first others _ =>
        rw [isScheme_iff] at hformed
        obtain ⟨rest, hrest⟩ := hfollows.exists_colon
        have hmem : first ∈ registry.claiming scheme := by
          have : registry.claiming scheme = first :: others := hclaimed
          rw [this]
          exact List.mem_cons_self
        have hfirst : ':' ∉ first.scheme :=
          colon_not_mem_of_lowercase_eq hformed (Registry.mem_claiming.mp hmem).2
        refine ⟨scheme, after, first, others, hformed, hcolon, hclaimed, ?_, rfl⟩
        have hsame := hrest.symm.trans hcolon
        exact (Text.append_cons_inj hfirst (colon_not_mem_of_isScheme hformed) hsame).1

section Held

variable {currency? : Option Currency} {address? : Option Address}
variable (hheld : ∀ f ∈ r.fields, IsHeld currency? address? f)
include hheld

theorem eq_of_address?_eq_some (h : r.address? = some a) : address? = some a := by
  rw [Request.address?] at h
  split at h
  · next b hb =>
      obtain rfl := Option.some.inj h
      cases hheld _ (Fields.mem_of_find? hb) with
      | address hgiven => exact hgiven
  · contradiction

theorem amount_of_amount?_eq_some {v : Amount} (h : r.amount? = some v) :
    currency? = some v.currency ∧ 0 ≤ v.units ∧ v.IsShort := by
  rw [amount?] at h
  split at h
  · next w hw =>
      obtain rfl := Option.some.inj h
      cases hheld _ (Fields.mem_of_find? hw) with
      | amount hknown hsign hshort => exact ⟨hknown, hsign, hshort⟩
  · contradiction

theorem nonempty?_text? (name : Text) : nonempty? (r.text? name) = r.text? name := by
  rw [text?]
  split
  · next t ht =>
      cases hheld _ (Fields.mem_of_find? ht) with
      | text hpresent => simp [nonempty?, hpresent]
  · rfl

end Held

/-- A search that settles on an address settles on it again in its printed form: which
candidates accept a text depends only on the version and the hash that it states. -/
theorem Settles.text {cs : List Currency} (h : Settles cs t (some a)) :
    a.currency ∈ cs ∧ Settles cs a.text (some a) := by
  cases h with
  | first hsplit hearlier hread =>
      obtain ⟨rfl, hcontents⟩ := Address.ofText?_eq_ok.mp hread
      have hsame : ∀ b : Currency, Address.Accepts b t ↔ Address.Accepts b a.text := by
        intro b
        rw [Address.accepts_iff, Address.accepts_iff, hcontents, a.contents?_text]
      refine ⟨by simp [hsplit], .first hsplit ?_ a.ofText?_text⟩
      intro b hb
      rw [← hsame]
      exact hearlier b hb

/-- The candidates of a text that was read without a currency being told and has an
address: the first spells the scheme of the text, that of the address claims the same
scheme in whatever spelling, and the search settles on the printed address too. -/
structure WasFound (registry : Registry) (a : Address) (scheme : Text) (first : Currency)
    (others : List Currency) : Prop where
  formed : Reference.isScheme scheme = true
  claiming : registry.claiming scheme = first :: others
  spelled : first.scheme = scheme
  claims : Text.lowercase a.currency.scheme = Text.lowercase scheme
  settles : Settles (first :: others) a.text (some a)

theorem exists_wasFound (hread : ofText? registry none uri = .ok r)
    (haddress : r.address? = some a) :
    (∃ scheme first others, WasFound registry a scheme first others) ∧
      r.currency = some a.currency ∧
      ∀ f ∈ r.fields, IsHeld (some a.currency) (some a) f := by
  obtain ⟨parts, address?, happart, hsettles, hcomplete⟩ := ofText?_eq_ok.mp hread
  obtain ⟨hcurrency, hheld⟩ := isHeld_of_complete? hcomplete
  obtain rfl := eq_of_address?_eq_some hheld haddress
  obtain ⟨scheme, after, first, others, hformed, -, hclaiming, hfirst, hcandidates⟩ :=
    spelled_of_takenApart happart
  rw [hcandidates] at hsettles
  obtain ⟨hmem, hsettles⟩ := hsettles.text
  rw [← hclaiming] at hmem
  have hclaims := (Registry.mem_claiming.mp hmem).2
  exact ⟨⟨scheme, first, others, hformed, hclaiming, hfirst, hclaims, hsettles⟩, hcurrency, hheld⟩

/-- The first currency to claim the scheme of the address spells it as its own does. -/
def IsSpelledFirst (registry : Registry) (a : Address) : Prop :=
  (registry.claiming a.currency.scheme).head?.map Currency.scheme = some a.currency.scheme

instance : Decidable (IsSpelledFirst registry a) :=
  inferInstanceAs (Decidable (_ = some a.currency.scheme))

/-- An assembled text is only read where its scheme is spelled as the first currency to
claim it spells it. -/
theorem isSpelledFirst_of_ofText? {tokens : List Text} (hcolon : ':' ∉ a.currency.scheme)
    (h : ofText? registry none (assemble a.currency.scheme a.text tokens) = .ok r) :
    IsSpelledFirst registry a := by
  obtain ⟨parts, -, happart, -⟩ := ofText?_eq_ok.mp h
  obtain ⟨scheme, after, first, others, hformed, huri, hclaiming, hspelled, -⟩ :=
    spelled_of_takenApart happart
  rw [assemble, List.append_assoc, List.cons_append] at huri
  have hsame : a.currency.scheme = scheme :=
    (Text.append_cons_inj hcolon (colon_not_mem_of_isScheme hformed) huri).1
  rw [IsSpelledFirst, hsame, hclaiming]
  exact congrArg some hspelled

/-- An address that was found is found again under the scheme of its currency, where that
is spelled as the first candidate spells it. -/
theorem WasFound.ofText?_assemble {scheme : Text} {first : Currency} {others : List Currency}
    {amount : Option Amount} (label message : Option Text)
    (h : WasFound registry a scheme first others) (hspelled : IsSpelledFirst registry a)
    (hamount : ∀ v ∈ amount, v.currency = a.currency ∧ 0 ≤ v.units ∧ v.IsShort) :
    ofText? registry none
        (assemble a.currency.scheme a.text (writtenFields amount label message)) =
      .ok (stating a amount label message) := by
  have hclaiming : registry.claiming a.currency.scheme = first :: others := by
    rw [← h.claiming, Registry.claiming, h.claims]
    rfl
  rw [IsSpelledFirst, hclaiming] at hspelled
  have hfirst : first.scheme = a.currency.scheme := Option.some.inj hspelled
  have hscheme : Reference.isScheme a.currency.scheme = true := by
    rw [← hfirst, h.spelled]
    exact h.formed
  exact Request.ofText?_assemble label message hscheme hclaiming hfirst h.settles hamount

/-- The requests state the same: the currency, the address, the amount, the label and the
message. -/
structure Agrees (r r' : Request) : Prop where
  currency : r'.currency = r.currency
  address : r'.address? = r.address?
  amount : r'.amount? = r.amount?
  label : r'.label? = r.label?
  message : r'.message? = r.message?

/-- Of every request that was read without a currency being told and has an address, the
canonical form is read again exactly when the first currency to claim the scheme spells
it as that of the address does. What is read then is the same. -/
theorem canonical?_readAgain_iff (hread : ofText? registry none uri = .ok r)
    (haddress : r.address? = some a) :
    ∃ s, canonical? r = .ok s ∧
      ((∃ r', ofText? registry none s = .ok r') ↔ IsSpelledFirst registry a) ∧
      ∀ r', ofText? registry none s = .ok r' → Agrees r r' := by
  obtain ⟨⟨scheme, first, others, hfound⟩, hcurrency, hheld⟩ := exists_wasFound hread haddress
  have hamount : ∀ v ∈ r.amount?, v.currency = a.currency ∧ 0 ≤ v.units ∧ v.IsShort := by
    intro v hv
    obtain ⟨hknown, hsign, hshort⟩ := amount_of_amount?_eq_some hheld hv
    exact ⟨(Option.some.inj hknown).symm, hsign, hshort⟩
  have hform : canonical? r = .ok (assemble a.currency.scheme a.text
      (writtenFields r.amount? r.label? r.message?)) := by
    rw [canonical?, haddress]
    apply form?_eq_ok
    intro v hv
    obtain ⟨hsame, hsign, -⟩ := hamount v hv
    exact ⟨hsame, hsign⟩
  have hback := fun hspelled =>
    hfound.ofText?_assemble r.label? r.message? hspelled hamount
  have hcolon := colon_not_mem_of_lowercase_eq hfound.formed hfound.claims
  refine ⟨_, hform, ⟨?_, ?_⟩, ?_⟩
  · rintro ⟨r', hr'⟩
    exact isSpelledFirst_of_ofText? hcolon hr'
  · intro hspelled
    exact ⟨_, hback hspelled⟩
  · intro r' hr'
    rw [hback (isSpelledFirst_of_ofText? hcolon hr'), Except.ok.injEq] at hr'
    subst hr'
    refine ⟨hcurrency.symm, ?_, amount?_stating, ?_, ?_⟩
    · rw [address?_stating, haddress]
    · rw [label?_stating]
      exact nonempty?_text? hheld _
    · rw [message?_stating]
      exact nonempty?_text? hheld _

theorem assemble_writtenFields_none (scheme t : Text) :
    assemble scheme t (writtenFields none none none) = scheme ++ ':' :: t :=
  List.append_nil _

theorem canonical?_readAgain_zeroAddress :
    ∃ r s r', ofText? Registry.builtin none ("bitcoin".toList ++ ':' :: zeroAddress.text) = .ok r ∧
      canonical? r = .ok s ∧ ofText? Registry.builtin none s = .ok r' ∧ Agrees r r' := by
  obtain ⟨first, others, hclaimed, hspelled, hsettles⟩ := leadsTo_zeroAddress.settles
  have hfound : candidates Registry.builtin none zeroAddress.currency.scheme = first :: others :=
    hclaimed
  have hnone : ∀ v ∈ (none : Option Amount),
      v.currency = zeroAddress.currency ∧ 0 ≤ v.units ∧ v.IsShort := by simp
  have hread := ofText?_assemble none none (by decide) hfound hspelled hsettles hnone
  rw [assemble_writtenFields_none] at hread
  obtain ⟨s, hs, hiff, hagrees⟩ := canonical?_readAgain_iff hread address?_stating
  obtain ⟨r', hr'⟩ := hiff.mpr (by decide)
  exact ⟨_, s, r', hread, hs, hr', hagrees r' hr'⟩

/-- A currency that claims a scheme which is spelled otherwise by those before it. -/
def capitalCurrency : Currency :=
  ⟨"bitcoin.capital".toList, "Bitcoin Capital".toList, "CAP".toList, "Bitcoin".toList, 8, 23, 50⟩

/-- An address that no other currency under the scheme accepts. -/
def capitalAddress : Address where
  currency := capitalCurrency
  version := 23
  hash := zeroHash
  version_mem := List.mem_cons_self
  length_hash := length_zeroHash

/-- With that currency registered, a text is read whose canonical form is not. -/
theorem not_readAgain_capitalAddress :
    ∃ registry r s, Registry.builtin.register capitalCurrency = .ok registry ∧
      ofText? registry none ("bitcoin".toList ++ ':' :: capitalAddress.text) = .ok r ∧
      r.address? = some capitalAddress ∧ canonical? r = .ok s ∧
      ¬ ∃ r', ofText? registry none s = .ok r' := by
  have hnone : ∀ v ∈ (none : Option Amount),
      v.currency = capitalAddress.currency ∧ 0 ≤ v.units ∧ v.IsShort := by simp
  obtain ⟨first, second, hclaimed, hspelled, hrefused⟩ :
      ∃ first second, candidates (Registry.builtin.append capitalCurrency) none "bitcoin".toList =
          [first, second] ++ capitalCurrency :: [] ∧ first.scheme = "bitcoin".toList ∧
        ∀ b ∈ [first, second], capitalAddress.version ∉ b.versions :=
    ⟨_, _, rfl, rfl, by decide⟩
  have hsettles : Settles ([first, second] ++ capitalCurrency :: []) capitalAddress.text
      (some capitalAddress) := by
    refine .first rfl (fun b hb => ?_) capitalAddress.ofText?_text
    rw [Address.accepts_text_iff]
    exact hrefused b hb
  have hread := ofText?_assemble none none (by decide) hclaimed hspelled hsettles hnone
  rw [assemble_writtenFields_none] at hread
  refine ⟨Registry.builtin.append capitalCurrency, _, _, rfl, hread, rfl,
    (canonical?_stating _ _ _ _).trans (form?_eq_ok none none (by simp)), ?_⟩
  rintro ⟨r', hr'⟩
  exact absurd (isSpelledFirst_of_ofText? (by decide) hr') (by decide)

end Request

end PaymentUri
