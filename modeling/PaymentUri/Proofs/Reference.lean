import PaymentUri.Proofs.Canonical
import PaymentUri.Proofs.RequestInvariant
import PaymentUri.Reference.Currencies
/-!
# Two ways to the scheme of a text

The reader of payment URIs takes the text before the first colon for the scheme, as it is
written. The reader of references cleans a text first, looks at its authority as well, and
answers the scheme in lower case. A legal text holds nothing that would be cleaned away, and
case does not count in the registry, so both lead to the same currencies unless the authority
is not well formed. What is accepted as a payment URI has no authority or one that is an
address, in which nothing can be wrong.
-/

namespace PaymentUri

namespace Reference

open Request

variable {registry : Registry} {uri scheme after address : Text}

/-- Nothing is cleaned away from a legal text. -/
theorem cleaned_of_isLegal (h : IsLegal uri) : cleaned uri = uri := by
  have hvisible : ∀ c ∈ uri, 0x20 < c.toNat := fun c hc => (h.characters c hc).1
  have hfront : uri.dropWhile (fun c => c.toNat ≤ 0x20) = uri := by
    cases uri with
    | nil => rfl
    | cons c t =>
        have hc := hvisible c List.mem_cons_self
        exact List.dropWhile_cons_of_neg (by simpa using hc)
  rw [cleaned, hfront, List.filter_eq_self]
  intro c hc
  have hne : ∀ d : Char, d.toNat ≤ 0x20 → c ≠ d := by
    rintro d hd rfl
    exact Nat.not_lt.mpr hd (hvisible c hc)
  simp [hne '\t' (by decide), hne '\r' (by decide), hne '\n' (by decide)]

/-- The authority of what follows a scheme, if there is one, is well formed. -/
def IsOrderly (after : Text) : Prop :=
  ∀ authority ∈ authority? after, checkAuthority authority = .ok ()

section Written

variable (hlegal : IsLegal uri) (hformed : isScheme scheme = true)
  (hcolon : uri = scheme ++ ':' :: after)
include hlegal hformed hcolon

theorem splitScheme_cleaned : splitScheme (cleaned uri) = (some scheme, after) := by
  rw [cleaned_of_isLegal hlegal, splitScheme, hcolon,
    Text.cut?_append (colon_not_mem_of_isScheme hformed)]
  exact if_pos hformed

theorem scheme?_of_isOrderly (h : IsOrderly after) :
    scheme? uri = .ok (some (Text.lowercase scheme)) := by
  rw [scheme?, splitScheme_cleaned hlegal hformed hcolon]
  dsimp only
  cases hauthority : authority? after with
  | none => rfl
  | some authority =>
      dsimp only
      rw [h authority hauthority]
      rfl

theorem scheme?_of_error {authority : Text} {cause : Refusal}
    (hauthority : authority? after = some authority)
    (hcause : checkAuthority authority = .error cause) : scheme? uri = .error cause := by
  rw [scheme?, splitScheme_cleaned hlegal hformed hcolon]
  dsimp only
  rw [hauthority]
  dsimp only
  rw [hcause]
  rfl

end Written

theorem toNat_lt_of_mem_scheme (h : isScheme scheme = true) : ∀ c ∈ scheme, c.toNat < 128 :=
  fun _ hc => toNat_lt_of_isPlain (isPlain_of_mem_scheme h hc)

theorem claiming_lowercase (h : isScheme scheme = true) :
    registry.claiming (Text.lowercase scheme) = registry.claiming scheme := by
  rw [Text.lowercase, Text.lowerFrom_ascii (toNat_lt_of_mem_scheme h)]
  apply registry.claiming_eq_of_toLower
  rw [List.map_map]
  exact List.map_congr_left fun c _ => Text.toLower_toLower c

/-- Two lookups answer alike: with the same currencies, or that none claims the scheme, which
the first names in lower case. -/
inductive Alike : Except LookupRefusal (List Currency) → Except Registry.Refusal (List Currency) →
    Prop
  | found (cs : List Currency) : Alike (.ok cs) (.ok cs)
  | unclaimed (scheme : Text) :
      Alike (.error (.registry (.unclaimedScheme (Text.lowercase scheme))))
        (.error (.unclaimedScheme scheme))

theorem Alike.eq_found {cs : List Currency} {answer : Except Registry.Refusal (List Currency)}
    (h : Alike (.ok cs) answer) : answer = .ok cs := by
  cases h
  rfl

theorem alike_of_scheme? (hformed : isScheme scheme = true)
    (h : scheme? uri = .ok (some (Text.lowercase scheme))) :
    Alike (currencies? registry uri) (registry.ofScheme scheme) := by
  rw [currencies?, h]
  dsimp only
  rw [Registry.ofScheme, Registry.ofScheme, claiming_lowercase hformed]
  cases registry.claiming scheme with
  | nil => exact .unclaimed scheme
  | cons c cs => exact .found (c :: cs)

/-- Letters and digits make no authority that could be refused. -/
theorem checkAuthority_of_isAlphanum (h : ∀ c ∈ address, c.isAlphanum = true) :
    checkAuthority address = .ok () := by
  have hplain : ∀ c ∈ address, c ≠ '[' ∧ c ≠ ']' ∧ delimiterLikes.contains c = false :=
    fun c hc => Text.forall_ascii
      (P := fun d => d.isAlphanum = true → d ≠ '[' ∧ d ≠ ']' ∧ delimiterLikes.contains d = false)
      (by decide) (Text.toNat_lt_of_isAlphanum (h c hc)) (h c hc)
  have hopening : address.contains '[' = false := by
    simpa using fun hmem => (hplain _ hmem).1 rfl
  have hclosing : address.contains ']' = false := by
    simpa using fun hmem => (hplain _ hmem).2.1 rfl
  have hlikes : address.any delimiterLikes.contains = false :=
    List.any_eq_false.mpr fun c hc => by simp [(hplain c hc).2.2]
  rw [checkAuthority, hopening, hclosing, hlikes]
  rfl

/-- The authority of an address with a query is the address. -/
theorem takeWhile_withQuery (h : ∀ c ∈ address, c.isAlphanum = true) (query? : Option Text) :
    (withQuery address query?).takeWhile (fun c => c != '/' && c != '?' && c != '#') =
      address := by
  have hinside : ∀ c ∈ address, (c != '/' && c != '?' && c != '#') = true := fun c hc =>
    Text.forall_ascii
      (P := fun d => d.isAlphanum = true → (d != '/' && d != '?' && d != '#') = true)
      (by decide) (Text.toNat_lt_of_isAlphanum (h c hc)) (h c hc)
  cases query? with
  | none =>
      rw [withQuery, ← List.append_nil address, List.takeWhile_append_of_pos hinside,
        List.takeWhile_nil]
  | some query =>
      rw [withQuery, List.takeWhile_append_of_pos hinside, List.takeWhile_cons_of_neg (by decide),
        List.append_nil]

theorem authority?_eq_none {t : Text} (h : ¬ "//".toList <+: t) : authority? t = none := by
  unfold authority?
  split
  · exact absurd (List.prefix_append "//".toList _) h
  · rfl

/-- What follows the scheme of a text whose address consists of letters and digits is orderly. -/
theorem isOrderly_of_follows {query? : Option Text}
    (hfollows : Follows scheme uri (withQuery address query?))
    (hcolon : uri = scheme ++ ':' :: after) (h : ∀ c ∈ address, c.isAlphanum = true) :
    IsOrderly after := by
  intro authority hauthority
  rcases hfollows with huri | ⟨huri, hslashes⟩
  · have hafter : after = '/' :: '/' :: withQuery address query? := by
      rw [hcolon, List.append_assoc] at huri
      exact (List.cons.inj (List.append_cancel_left huri)).2
    rw [hafter, authority?, takeWhile_withQuery h] at hauthority
    obtain rfl := Option.some.inj hauthority
    exact checkAuthority_of_isAlphanum h
  · have hafter : after = withQuery address query? := by
      rw [hcolon] at huri
      exact (List.cons.inj (List.append_cancel_left huri)).2
    rw [hafter, authority?_eq_none hslashes] at hauthority
    contradiction

theorem isAlphanum_of_settles {cs : List Currency} {address? : Option Address}
    (h : Settles cs address address?) : ∀ c ∈ address, c.isAlphanum = true := by
  intro c hc
  cases address? with
  | none =>
      rw [settles_none.mp h] at hc
      contradiction
  | some a =>
      rw [← h.text_eq] at hc
      exact Address.isAlphanum_of_mem_text hc

/-- A text that is taken apart, and whose address is settled or missing, has an orderly rest
after its scheme, which is spelled as the first candidate spells it. -/
theorem exists_isOrderly {parts : Parts} {address? : Option Address}
    (happart : TakenApart registry none uri parts)
    (hsettles : Settles parts.candidates parts.address address?) :
    ∃ first others after, parts.candidates = first :: others ∧
      registry.claiming first.scheme = first :: others ∧ isScheme first.scheme = true ∧
      uri = first.scheme ++ ':' :: after ∧ IsOrderly after := by
  obtain ⟨_, after, first, others, hformed, hcolon, hclaiming, rfl, hcandidates⟩ :=
    spelled_of_takenApart happart
  refine ⟨first, others, after, hcandidates, hclaiming, hformed, hcolon, ?_⟩
  have halphanum := isAlphanum_of_settles hsettles
  obtain ⟨-, -, -, -, hfollows, -, -⟩ := happart
  obtain ⟨rfl, -⟩ := List.cons.inj hcandidates
  exact isOrderly_of_follows hfollows hcolon halphanum

/-- The currency of a request that was read without one being told is among the candidates. -/
theorem mem_candidates_of_complete? {cs : List Currency} {address? : Option Address}
    {tokens : List Text} {r : Request} (hsettles : Settles cs address address?)
    (h : complete? (settled none address?) address? tokens = .ok r) :
    ∀ c ∈ r.currency, c ∈ cs := by
  intro c hc
  rw [(isHeld_of_complete? h).1] at hc
  cases address? with
  | none => contradiction
  | some a =>
      obtain rfl : a.currency = c := Option.some.inj hc
      exact hsettles.text.1

/-- For a text with a scheme, the lookup by reference answers like the lookup by scheme,
unless the authority is not well formed: then it answers why. For a text that is accepted
as a payment URI without a currency being told, it finds currencies: the first spells the
scheme as it stands before the first colon, and that of the request is among them. -/
theorem currencies?_agrees (registry : Registry) (uri : Text) :
    (∀ scheme, schemeOf? uri = .ok scheme →
      (∃ after authority cause, uri = scheme ++ ':' :: after ∧
          authority? after = some authority ∧ checkAuthority authority = .error cause ∧
          currencies? registry uri = .error (.reference cause)) ∨
        Alike (currencies? registry uri) (registry.ofScheme scheme)) ∧
    (∀ r, ofText? registry none uri = .ok r →
      ∃ first others after, uri = first.scheme ++ ':' :: after ∧ ':' ∉ first.scheme ∧
        scheme? uri = .ok (some (Text.lowercase first.scheme)) ∧
        currencies? registry uri = .ok (first :: others) ∧
        ∀ c ∈ r.currency, c ∈ first :: others) := by
  constructor
  · intro scheme hscheme
    obtain ⟨hlegal, hformed, after, hcolon⟩ := schemeOf?_eq_ok.mp hscheme
    by_cases horderly : IsOrderly after
    · exact .inr (alike_of_scheme? hformed
        (scheme?_of_isOrderly hlegal hformed hcolon horderly))
    · rw [IsOrderly] at horderly
      push Not at horderly
      obtain ⟨authority, hauthority, hrefused⟩ := horderly
      cases hcause : checkAuthority authority with
      | ok u => exact absurd hcause hrefused
      | error cause =>
          have herror := scheme?_of_error hlegal hformed hcolon hauthority hcause
          refine .inl ⟨after, authority, cause, hcolon, hauthority, hcause, ?_⟩
          rw [currencies?, herror]
  · intro r hread
    obtain ⟨parts, address?, happart, hsettles, hcomplete⟩ := ofText?_eq_ok.mp hread
    obtain ⟨first, others, after, hcandidates, hclaiming, hformed, hcolon, horderly⟩ :=
      exists_isOrderly happart hsettles
    have hanswer := scheme?_of_isOrderly happart.isLegal hformed hcolon horderly
    refine ⟨first, others, after, hcolon, colon_not_mem_of_isScheme hformed, hanswer, ?_, ?_⟩
    · rw [currencies?, hanswer]
      dsimp only
      rw [Registry.ofScheme, claiming_lowercase hformed, hclaiming]
    · rw [← hcandidates]
      exact mem_candidates_of_complete? hsettles hcomplete

/-- A text with slashes in front of its address, which is the authority then. -/
def slashedText : Text :=
  "bitcoin://".toList ++ withQuery zeroAddress.text (some "amount=20.3".toList)

theorem isLegal_slashedText : IsLegal slashedText := by
  have haddress : IsLegal zeroAddress.text := isLegal_of_isPlain fun c => isPlain_of_mem_text
  have hquery : IsLegal "amount=20.3".toList := isLegal_iff.mpr (by decide)
  exact (isLegal_iff.mpr (by decide)).append (haddress.join (by simp) hquery)

theorem ofText?_slashedText :
    ∃ r, ofText? Registry.builtin none slashedText = .ok r ∧
      r.currency = some zeroAddress.currency := by
  obtain ⟨first, others, hclaimed, hspelled, hsettles⟩ := leadsTo_zeroAddress.settles
  have hcolon : slashedText = "bitcoin".toList ++ ':' ::
      ("//".toList ++ withQuery zeroAddress.text (some "amount=20.3".toList)) := rfl
  have happart : TakenApart Registry.builtin none slashedText
      ⟨first :: others, zeroAddress.text, queryTokens (some "amount=20.3".toList)⟩ :=
    .intro isLegal_slashedText (isScheme_iff.mpr (by decide)) hcolon hclaimed
      (.inl (by rw [hspelled]; rfl)) (question_not_mem_text _) (by decide)
  obtain ⟨r, hr, hcurrency⟩ : ∃ r, complete? (some zeroAddress.currency) (some zeroAddress)
      (queryTokens (some "amount=20.3".toList)) = .ok r ∧
        r.currency = some zeroAddress.currency := ⟨_, rfl, rfl⟩
  exact ⟨r, ofText?_eq_ok.mpr ⟨_, some zeroAddress, happart, hsettles, hr⟩, hcurrency⟩

theorem currencies?_agrees_slashedText :
    ∃ r cs, schemeOf? slashedText = .ok "bitcoin".toList ∧
      Registry.builtin.ofScheme "bitcoin".toList = .ok cs ∧
      currencies? Registry.builtin slashedText = .ok cs ∧
      ofText? Registry.builtin none slashedText = .ok r ∧
      r.currency = some zeroAddress.currency ∧ zeroAddress.currency ∈ cs := by
  obtain ⟨r, hread, hcurrency⟩ := ofText?_slashedText
  have hscheme : schemeOf? slashedText = .ok "bitcoin".toList :=
    schemeOf?_eq_ok.mpr ⟨isLegal_slashedText, by decide, _, rfl⟩
  obtain ⟨hlookups, haccepted⟩ := currencies?_agrees Registry.builtin slashedText
  obtain ⟨first, others, after, -, -, -, hfound, hmem⟩ := haccepted r hread
  refine ⟨r, first :: others, hscheme, ?_, hfound, hread, hcurrency, hmem _ hcurrency⟩
  rcases hlookups _ hscheme with ⟨_, _, cause, -, -, -, hrefused⟩ | halike
  · rw [hfound] at hrefused
    cases hrefused
  · rw [hfound] at halike
    exact halike.eq_found

end Reference

end PaymentUri
