import PaymentUri.Proofs.CanonicalInjective
import PaymentUri.Proofs.Fixpoint
/-!
# URIs rewritten behind the scheme

What a reader takes off the front of a URI is known from the URI and the currency that the
reader was told. Texts with the same front have the same candidates, so whatever may stand in
a URI can be put behind a front that was accepted. With the same address there, only the
fields are read anew.
-/

namespace PaymentUri.Request

variable {registry : Registry} {currency? : Option Currency} {parts : Parts} {r : Request}
variable {uri uri' scheme front rest rest' address query s t token : Text}
variable {query? query?' : Option Text} {tokens : List Text}

/-- What a reader takes off the front of a URI that it accepts, together with a colon: what
the currency it was told spells, or else the text before the first colon. -/
def frontOf (currency? : Option Currency) (uri : Text) : Text :=
  match currency? with
  | some c => c.scheme
  | none => uri.takeWhile (· != ':')

theorem takeWhile_append_colon (h : ':' ∉ s) (t : Text) :
    (s ++ ':' :: t).takeWhile (· != ':') = s := by
  have hall : ∀ c ∈ s, (c != ':') = true := by
    intro c hc
    rw [bne_iff_ne]
    rintro rfl
    exact h hc
  rw [List.takeWhile_append_of_pos hall, List.takeWhile_cons_of_neg (by simp), List.append_nil]

theorem colon_not_mem_takeWhile (uri : Text) : ':' ∉ uri.takeWhile (· != ':') := by
  intro h
  have hall := List.all_eq_true.mp (List.all_takeWhile (p := (· != ':')) (l := uri)) ':' h
  simp at hall

/-- Texts with the same front are read behind it. -/
theorem frontOf_of_follows (h : Follows (frontOf currency? uri) uri' rest) :
    frontOf currency? uri' = frontOf currency? uri := by
  cases currency? with
  | some c => rfl
  | none =>
      obtain ⟨after, rfl⟩ := h.exists_colon
      exact takeWhile_append_colon (colon_not_mem_takeWhile uri) after

theorem Follows.unique (h : Follows scheme uri rest) (h' : Follows scheme uri rest') :
    rest = rest' :=
  Option.some.inj ((withoutScheme?_eq_some.mpr h).symm.trans (withoutScheme?_eq_some.mpr h'))

theorem Follows.exists_front (h : Follows scheme uri rest) : ∃ front, uri = front ++ rest := by
  rcases h with rfl | ⟨rfl, -⟩
  · exact ⟨_, rfl⟩
  · exact ⟨scheme ++ [':'], List.append_cons _ _ _⟩

theorem Follows.isLegal_rest (h : Follows scheme uri rest) (hlegal : IsLegal uri) :
    IsLegal rest := by
  obtain ⟨front, rfl⟩ := h.exists_front
  exact hlegal.of_append_right

theorem Follows.isLegal (h : Follows scheme uri rest) (hscheme : IsLegal scheme)
    (hrest : IsLegal rest) : IsLegal uri := by
  rcases h with rfl | ⟨rfl, -⟩
  · have hcolon : scheme ++ "://".toList ++ rest = scheme ++ ':' :: ("//".toList ++ rest) := by
      simp
    have hslashes : IsLegal "//".toList := isLegal_iff.mpr (by decide)
    rw [hcolon]
    exact hscheme.join (by simp) (hslashes.append hrest)
  · exact hscheme.join (by simp) hrest

/-- The text may stand behind the scheme of a URI, as an address and possibly a query. -/
structure IsRest (rest address : Text) (query? : Option Text) : Prop where
  eq : rest = withQuery address query?
  legal : IsLegal rest
  address_free : '?' ∉ address
  query_free : ∀ query ∈ query?, '?' ∉ query

theorem TakenApart.exists_front (h : TakenApart registry currency? uri parts) :
    ∃ scheme first others, candidates registry currency? scheme = first :: others ∧
      parts.candidates = first :: others ∧ IsSchemeOf scheme first.scheme ∧
      first.scheme = frontOf currency? uri := by
  cases currency? with
  | some c =>
      obtain ⟨scheme, first, others, hclaimed, hparts, hscheme⟩ := h.isSchemeOf
      obtain ⟨rfl, rfl⟩ := List.cons.inj hclaimed
      exact ⟨scheme, c, [], rfl, hparts, hscheme, rfl⟩
  | none =>
      obtain ⟨scheme, after, first, others, hformed, rfl, hclaimed, rfl, hparts⟩ :=
        spelled_of_takenApart h
      refine ⟨_, first, others, hclaimed, hparts, .refl hformed, ?_⟩
      exact (takeWhile_append_colon (colon_not_mem_of_isScheme hformed) after).symm

/-- Behind the front of a URI that is taken apart stand its address and its fields. -/
theorem TakenApart.exists_rest (h : TakenApart registry currency? uri parts) :
    ∃ rest query?, Follows (frontOf currency? uri) uri rest ∧
      IsRest rest parts.address query? ∧ parts.tokens = queryTokens query? := by
  obtain ⟨-, first, others, -, hparts, -, hfront⟩ := h.exists_front
  cases h with
  | intro hlegal hformed hcolon hclaimed hfollows haddress hquery =>
      obtain ⟨rfl, rfl⟩ := List.cons.inj hparts
      rw [hfront] at hfollows
      exact ⟨_, _, hfollows, ⟨rfl, hfollows.isLegal_rest hlegal, haddress, hquery⟩, rfl⟩

/-- What stands behind the front of a URI may be replaced. -/
theorem TakenApart.rewrite (h : TakenApart registry currency? uri parts)
    (hfollows : Follows (frontOf currency? uri) uri' rest) (hrest : IsRest rest address query?) :
    TakenApart registry currency? uri' ⟨parts.candidates, address, queryTokens query?⟩ := by
  obtain ⟨scheme, first, others, hclaimed, hparts, hscheme, hfront⟩ := h.exists_front
  obtain ⟨rfl, hlegal, haddress, hquery⟩ := hrest
  rw [← hfront] at hfollows
  obtain ⟨more, hmore⟩ := hfollows.exists_colon
  obtain ⟨after, hafter⟩ := hscheme.exists_after more
  rw [hparts]
  exact .intro (hfollows.isLegal hscheme.legal hlegal) (isScheme_iff.mpr hscheme.formed)
    (hmore.trans hafter) hclaimed hfollows haddress hquery

/-- Of a text that is read, the part behind the front is an address that is settled on, and
possibly a query. -/
theorem exists_isRest_of_ofText? (hread : ofText? registry currency? uri = .ok r)
    (hfollows : Follows (frontOf currency? uri) uri rest) :
    ∃ address query?, IsRest rest address query? ∧
      ∃ cs address?, Settles cs address address? := by
  obtain ⟨parts, address?, happart, hsettles, -⟩ := ofText?_eq_ok.mp hread
  obtain ⟨rest', query?, hfollows', hrest, -⟩ := happart.exists_rest
  obtain rfl := hfollows.unique hfollows'
  exact ⟨parts.address, query?, hrest, parts.candidates, address?, hsettles⟩

theorem isRest_of_ofText? (hread : ofText? registry currency? uri = .ok r)
    (hfollows : Follows (frontOf currency? uri) uri (withQuery address query?))
    (haddress : '?' ∉ address) : IsRest (withQuery address query?) address query? := by
  obtain ⟨address', query?', hrest, -⟩ := exists_isRest_of_ofText? hread hfollows
  obtain ⟨rfl, rfl⟩ := withQuery_inj haddress hrest.address_free hrest.eq
  exact hrest

/-- A text that is read makes a request of its fields, and so does every text with the same
front and the same address. -/
theorem exists_complete?_of_ofText? (hread : ofText? registry currency? uri = .ok r)
    (hfollows : Follows (frontOf currency? uri) uri rest) (hrest : IsRest rest address query?) :
    ∃ known? address?, complete? known? address? (queryTokens query?) = .ok r ∧
      ∀ uri' rest' query?' r', Follows (frontOf currency? uri) uri' rest' →
        IsRest rest' address query?' →
        complete? known? address? (queryTokens query?') = .ok r' →
        ofText? registry currency? uri' = .ok r' := by
  obtain ⟨parts, address?, happart, hsettles, hcomplete⟩ := ofText?_eq_ok.mp hread
  obtain ⟨rest₀, query?₀, hfollows₀, hrest₀, htokens⟩ := happart.exists_rest
  obtain rfl := hfollows.unique hfollows₀
  obtain ⟨rfl, rfl⟩ :=
    withQuery_inj hrest.address_free hrest₀.address_free (hrest.eq.symm.trans hrest₀.eq)
  rw [htokens] at hcomplete
  refine ⟨settled currency? address?, address?, hcomplete, ?_⟩
  intro uri' rest' query?' r' hfollows' hrest' hcomplete'
  exact ofText?_eq_ok.mpr ⟨_, address?, happart.rewrite hfollows' hrest', hsettles, hcomplete'⟩

/-- Only the front and what stands behind it decide what is read, not what is between. -/
theorem ofText?_of_follows (hread : ofText? registry currency? uri = .ok r)
    (hfollows : Follows (frontOf currency? uri) uri rest)
    (hfollows' : Follows (frontOf currency? uri) uri' rest) :
    ofText? registry currency? uri' = .ok r := by
  obtain ⟨address, query?, hrest, -⟩ := exists_isRest_of_ofText? hread hfollows
  obtain ⟨known?, address?, hcomplete, hagain⟩ := exists_complete?_of_ofText? hread hfollows hrest
  exact hagain _ _ _ _ hfollows' hrest hcomplete

/-- The text may stand in a field: it is legal and separates neither fields nor the query. -/
structure IsBare (t : Text) : Prop where
  legal : IsLegal t
  ampersand : '&' ∉ t
  question : '?' ∉ t

theorem IsBare.isInert (h : IsBare t) (hne : t ≠ []) : IsInert t :=
  ⟨h.legal, hne, h.ampersand, h.question⟩

theorem isBare_join_iff : IsBare (s ++ '=' :: t) ↔ IsBare s ∧ IsBare t := by
  constructor
  · intro h
    have hampersand := not_or.mp (mt List.mem_append.mpr h.ampersand)
    have hquestion := not_or.mp (mt List.mem_append.mpr h.question)
    refine ⟨⟨h.legal.of_append_cons (by decide), hampersand.1, hquestion.1⟩, ?_, ?_, ?_⟩
    · exact h.legal.of_append_right.of_append_right (s := ['='])
    · exact mt (List.mem_cons_of_mem '=') hampersand.2
    · exact mt (List.mem_cons_of_mem '=') hquestion.2
  · rintro ⟨hs, ht⟩
    refine ⟨hs.legal.join (by simp) ht.legal, ?_, ?_⟩
    · simp [hs.ampersand, ht.ampersand]
    · simp [hs.question, ht.question]

/-- A piece of joined texts ends where they do or in front of a separator. -/
theorem exists_intercalate_eq (h : t ∈ tokens) :
    ∃ before after, ['&'].intercalate tokens = before ++ t ++ after ∧
      (after = [] ∨ ∃ more, after = '&' :: more) := by
  induction tokens with
  | nil => contradiction
  | cons first tokens ih =>
      cases tokens with
      | nil =>
          obtain rfl := List.mem_singleton.mp h
          exact ⟨[], [], by simp, .inl rfl⟩
      | cons second tokens =>
          rw [List.intercalate_cons_cons]
          rcases List.mem_cons.mp h with rfl | h
          · exact ⟨[], _, (List.append_assoc _ _ _), .inr ⟨_, rfl⟩⟩
          · obtain ⟨before, after, heq, hafter⟩ := ih h
            exact ⟨first ++ ['&'] ++ before, after, by simp [heq], hafter⟩

theorem isBare_of_mem_splitOn (hlegal : IsLegal query) (hquestion : '?' ∉ query)
    (h : token ∈ query.splitOn '&') : IsBare token := by
  obtain ⟨before, after, heq, hafter⟩ := exists_intercalate_eq h
  rw [List.intercalate_splitOn] at heq
  rw [heq] at hlegal hquestion
  refine ⟨?_, Text.not_mem_of_mem_splitOn h, fun hmem => hquestion (by simp [hmem])⟩
  rw [List.append_assoc] at hlegal
  have htail : IsLegal (token ++ after) := hlegal.of_append_right
  rcases hafter with rfl | ⟨more, rfl⟩
  · rwa [List.append_nil] at htail
  · exact htail.of_append_cons (by decide)

/-- The pieces of a query that may stand in a URI separate nothing. -/
theorem IsRest.isBare_of_mem_splitOn (h : IsRest rest address (some query)) :
    ∀ token ∈ query.splitOn '&', IsBare token := by
  intro token htoken
  have hlegal := h.legal
  rw [h.eq, withQuery] at hlegal
  exact Request.isBare_of_mem_splitOn (hlegal.of_append_right.of_append_right (s := ['?']))
    (h.query_free query rfl) htoken

theorem IsRest.isBare (h : IsRest rest address query?) :
    ∀ token ∈ queryTokens query?, IsBare token := by
  intro token htoken
  cases query? with
  | none => contradiction
  | some query =>
      rw [queryTokens] at htoken
      split at htoken
      · contradiction
      · exact h.isBare_of_mem_splitOn token htoken

/-- A query may be replaced by any tokens that separate nothing. -/
theorem IsRest.requery (h : IsRest rest address query?) (htokens : ∀ token ∈ tokens, IsBare token) :
    IsRest (withQuery address (some (['&'].intercalate tokens))) address
      (some (['&'].intercalate tokens)) := by
  have haddress : IsLegal address := by
    have hlegal := h.legal
    rw [h.eq] at hlegal
    cases query? with
    | none => exact hlegal
    | some query => exact hlegal.of_append_cons (by decide)
  have hquery := isLegal_intercalate fun token htoken => (htokens token htoken).legal
  refine ⟨rfl, haddress.join (by simp) hquery, h.address_free, ?_⟩
  rintro _ ⟨⟩
  exact not_mem_intercalate (by decide) fun token htoken => (htokens token htoken).question

/-- Slashes in front of an address do not reach over the question mark behind it. -/
theorem slashes_prefix_withQuery_iff :
    "//".toList <+: withQuery address query? ↔ "//".toList <+: address := by
  have hslashes : "//".toList = ['/', '/'] := rfl
  cases query? with
  | none => rfl
  | some query =>
      rw [hslashes, withQuery]
      rcases address with _ | ⟨c, _ | ⟨d, address⟩⟩
      all_goals simp

/-- Where the address begins does not depend on the query. -/
theorem Follows.requery (h : Follows scheme (front ++ withQuery address query?)
    (withQuery address query?)) (query?' : Option Text) :
    Follows scheme (front ++ withQuery address query?') (withQuery address query?') := by
  rcases h with h | ⟨h, hslashes⟩
  · obtain rfl := List.append_cancel_right h
    exact .inl rfl
  · rw [List.append_cons] at h
    obtain rfl := List.append_cancel_right h
    rw [slashes_prefix_withQuery_iff] at hslashes
    exact .inr ⟨List.append_assoc _ _ _, mt slashes_prefix_withQuery_iff.mp hslashes⟩

/-- No slashes stand behind the front of a text that is read, other than those that were
taken off. -/
theorem not_slashes_of_ofText? (hread : ofText? registry currency? uri = .ok r)
    (hfollows : Follows (frontOf currency? uri) uri rest) : ¬ "//".toList <+: rest := by
  obtain ⟨address, query?, hrest, cs, address?, hsettles⟩ :=
    exists_isRest_of_ofText? hread hfollows
  rw [hrest.eq, slashes_prefix_withQuery_iff]
  cases hsettles with
  | none => decide
  | first _ _ haddress =>
      rw [← Address.text_of_ofText? haddress]
      exact not_slashes_prefix_withQuery _ none

/-- With the same front and the same address, only the fields decide what is read. -/
theorem exists_complete?_requery
    (hread : ofText? registry currency? (front ++ withQuery address query?) = .ok r)
    (hfollows : Follows (frontOf currency? (front ++ withQuery address query?))
      (front ++ withQuery address query?) (withQuery address query?))
    (haddress : '?' ∉ address) :
    IsRest (withQuery address query?) address query? ∧
    ∃ known? address?, complete? known? address? (queryTokens query?) = .ok r ∧
      ∀ tokens r', (∀ token ∈ tokens, IsBare token) →
        complete? known? address? (queryTokens (some (['&'].intercalate tokens))) = .ok r' →
        ofText? registry currency?
          (front ++ withQuery address (some (['&'].intercalate tokens))) = .ok r' := by
  have hrest := isRest_of_ofText? hread hfollows haddress
  obtain ⟨known?, address?, hcomplete, hagain⟩ := exists_complete?_of_ofText? hread hfollows hrest
  refine ⟨hrest, known?, address?, hcomplete, ?_⟩
  intro tokens r' htokens
  exact hagain _ _ _ _ (hfollows.requery _) (hrest.requery htokens)

end PaymentUri.Request
