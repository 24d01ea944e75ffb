import PaymentUri.Proofs.RoundTrip
/-!
# The currency that a reader prefers

A reader who is told no currency tries those that claim the scheme, the oldest first, and
prefers the first that accepts the address. It then reads what a reader who was told that
currency would read, request or refusal: the currencies that were tried before leave no
trace, and neither an amount nor any other field has a say in the choice.
-/

namespace PaymentUri.Request

variable {registry : Registry} {uri scheme : Text} {parts : Parts} {c : Currency}

/-- What a reader answers who is told a currency that accepts the address. -/
theorem ofText?_told (h : TakenApart registry none uri parts)
    (hspelled : ∀ first ∈ parts.candidates.head?, first.scheme = c.scheme) {a : Address}
    (hread : Address.ofText? c parts.address = .ok a) :
    ofText? registry (some c) uri = complete? (some c) (some a) parts.tokens := by
  rw [ofText?_of_ofUri? (ofUri?_eq_ok.mpr (h.told hspelled)),
    (Settles.only hread).outcome_ofParts, settled, (Address.ofText?_eq_ok.mp hread).1]

/-- What a reader answers who is told a currency that does not accept the address. -/
theorem ofText?_told_of_not_accepts (h : TakenApart registry none uri parts)
    (hspelled : ∀ first ∈ parts.candidates.head?, first.scheme = c.scheme)
    (hnonempty : parts.address ≠ []) (hrefused : ¬ Address.Accepts c parts.address) :
    ofText? registry (some c) uri = .error (.invalidAddress parts.address) := by
  have honly : ∀ b ∈ [c], ¬ Address.Accepts b parts.address := by
    intro b hb
    obtain rfl := List.mem_singleton.mp hb
    exact hrefused
  rw [ofText?_of_ofUri? (ofUri?_eq_ok.mpr (h.told hspelled))]
  exact outcome_ofParts_of_not_accepts hnonempty honly

/-- When all currencies that claim the scheme of a URI spell it in the same way, the first
of them to accept its address decides: told it or not, the reader answers what it makes of
the fields for that address, and told one of those before it, the reader refuses the
address. The reader refuses the address as well when none of them accepts it, whatever the
fields are. -/
theorem ofText?_first_accepting (hscheme : schemeOf? uri = .ok scheme)
    (hspelled : ∀ c ∈ registry.claiming scheme, ∀ d ∈ registry.claiming scheme,
      c.scheme = d.scheme)
    (hparts : Parts.ofUri? registry none uri = .ok parts) (hnonempty : parts.address ≠ []) :
    (∀ before c after a, registry.claiming scheme = before ++ c :: after →
      (∀ b ∈ before, ¬ Address.Accepts b parts.address) →
        Address.ofText? c parts.address = .ok a →
          ofText? registry none uri = ofText? registry (some c) uri ∧
            ofText? registry (some c) uri = complete? (some c) (some a) parts.tokens ∧
            ∀ b ∈ before,
              ofText? registry (some b) uri = .error (.invalidAddress parts.address)) ∧
      ((∀ c ∈ registry.claiming scheme, ¬ Address.Accepts c parts.address) →
        ofText? registry none uri = .error (.invalidAddress parts.address)) := by
  have happart := ofUri?_eq_ok.mp hparts
  have hclaiming := happart.candidates_eq hscheme
  have hfirst : ∀ c ∈ registry.claiming scheme, ∀ first ∈ parts.candidates.head?,
      first.scheme = c.scheme := by
    intro c hc first hhead
    rw [hclaiming] at hhead
    exact hspelled first (List.mem_of_mem_head? hhead) c hc
  constructor
  · intro before c after a hsplit hearlier hread
    have hmem : ∀ b ∈ before, b ∈ registry.claiming scheme := by
      intro b hb
      rw [hsplit]
      exact List.mem_append_left _ hb
    have hc : c ∈ registry.claiming scheme := by simp [hsplit]
    have hsettles : Settles parts.candidates parts.address (some a) :=
      .first (hclaiming.trans hsplit) hearlier hread
    have htold := ofText?_told happart (hfirst c hc) hread
    refine ⟨?_, htold, fun b hb => ?_⟩
    · rw [htold, ofText?_of_ofUri? hparts, hsettles.outcome_ofParts, settled,
        (Address.ofText?_eq_ok.mp hread).1]
    · exact ofText?_told_of_not_accepts happart (hfirst b (hmem b hb)) hnonempty (hearlier b hb)
  · intro hrefused
    rw [ofText?_of_ofUri? hparts]
    apply outcome_ofParts_of_not_accepts hnonempty
    rwa [hclaiming]

/-- An address of the second built-in currency, which shares its scheme with the first. -/
def testAddress : Address where
  currency :=
    ⟨"bitcoin.test".toList, "Bitcoin Test".toList, "BTCTEST".toList, "bitcoin".toList, 8, 111, 196⟩
  version := 111
  hash := zeroHash
  version_mem := List.mem_cons_self
  length_hash := length_zeroHash

/-- The amount is refused with the second currency, told or not told, but with the first it
is the address. -/
theorem ofText?_first_accepting_testAddress :
    ∃ uri, uri = assemble "bitcoin".toList testAddress.text [written "amount".toList "-1".toList] ∧
      ofText? Registry.builtin none uri = .error (.negativeAmount "-1".toList) ∧
      ofText? Registry.builtin (some testAddress.currency) uri =
        .error (.negativeAmount "-1".toList) ∧
      ofText? Registry.builtin (some zeroAddress.currency) uri =
        .error (.invalidAddress testAddress.text) := by
  have hinert : ∀ t ∈ [written "amount".toList "-1".toList], IsInert t := by
    intro t ht
    obtain rfl := List.mem_singleton.mp ht
    have hname : ∀ c ∈ "amount".toList, isPlain c = true := List.all_eq_true.mp (by decide)
    have hvalue : ∀ c ∈ "-1".toList, isPlain c = true := List.all_eq_true.mp (by decide)
    exact isInert_written hname (isLegal_of_isPlain hvalue) fun c hc => .inl (hvalue c hc)
  have hclaimed : candidates Registry.builtin none "bitcoin".toList =
      [zeroAddress.currency, testAddress.currency] := by decide
  have happart := takenApart_assemble (a := testAddress) (by decide) hclaimed rfl hinert
  have hscheme := schemeOf?_eq_ok.mpr ⟨happart.isLegal, by decide, _, assemble_eq _ _ _⟩
  have hrefused : ∀ b ∈ [zeroAddress.currency], ¬ Address.Accepts b testAddress.text := by
    simp only [Address.accepts_text_iff]
    decide
  obtain ⟨hfirst, -⟩ := ofText?_first_accepting hscheme (by decide)
    (ofUri?_eq_ok.mpr happart) testAddress.text_ne_nil
  obtain ⟨hsame, htold, hearlier⟩ := hfirst [zeroAddress.currency] testAddress.currency []
    testAddress hclaimed hrefused testAddress.ofText?_text
  have hamount : complete? (some testAddress.currency) (some testAddress)
      [written "amount".toList "-1".toList] = .error (.negativeAmount "-1".toList) := rfl
  exact ⟨_, rfl, (hsame.trans htold).trans hamount, htold.trans hamount,
    hearlier _ List.mem_cons_self⟩

end PaymentUri.Request
