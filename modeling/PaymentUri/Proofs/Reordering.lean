import PaymentUri.Proofs.RequestInvariant
import PaymentUri.Proofs.Rewritten
/-!
# Fields in another order

What a field stores does not depend on the fields in front of it, and names that are distinct
in one order are so in every order. The tokens of a query may therefore be permuted: what is
stored is permuted with them, every lookup finds the same, and so does whoever writes the
canonical form. A query that is refused is refused in every order.
-/

namespace PaymentUri

namespace Fields

variable {fields fields' : Fields}

/-- Where no name is stored twice, lookups do not see the order. -/
theorem find?_perm (hperm : fields.Perm fields') (hnodup : (names fields).Nodup) (name : Text) :
    find? fields' name = find? fields name := by
  have hnodup' : (names fields').Nodup := (hperm.map Prod.fst).nodup_iff.mp hnodup
  ext v
  rw [find?_eq_some hnodup', find?_eq_some hnodup, hperm.mem_iff]

end Fields

namespace Request

variable {registry : Registry} {currency? known? : Option Currency} {address? : Option Address}
variable {front address query query' uri : Text} {tokens tokens' : List Text} {r r' : Request}

/-- The requests differ in nothing but the order of their fields. -/
structure Reorders (r r' : Request) : Prop extends Agrees r r' where
  fields : r.fields.Perm r'.fields
  found : ∀ name, r'.find? name = r.find? name
  url : r'.url? = r.url?
  /-- The canonical forms are the same, or refused for the same reason. -/
  form : canonical? r' = canonical? r

theorem Reorders.of_perm (hcurrency : r'.currency = r.currency)
    (hperm : r.fields.Perm r'.fields) (hnodup : (Fields.names r.fields).Nodup) :
    Reorders r r' := by
  have hfound : ∀ name, r'.find? name = r.find? name := Fields.find?_perm hperm hnodup
  have htext : ∀ name, r'.text? name = r.text? name := by
    intro name
    rw [text?, text?, hfound]
  have haddress : r'.address? = r.address? := by rw [address?, address?, hfound]
  have hamount : r'.amount? = r.amount? := by rw [amount?, amount?, hfound]
  exact {
    currency := hcurrency
    address := haddress
    amount := hamount
    label := htext _
    message := htext _
    fields := hperm
    found := hfound
    url := htext _
    form := canonical?_congr haddress hamount (htext _) (htext _) }

/-- Each token stores what it stores, whatever stands in front of it. -/
theorem complete?_perm (hperm : tokens.Perm tokens')
    (h : complete? known? address? tokens = .ok r) :
    ∃ r', complete? known? address? tokens' = .ok r' ∧ Reorders r r' := by
  obtain ⟨stored, hstored, rfl, hnodup, hdestination⟩ := complete?_eq_ok.mp h
  obtain ⟨stored', hstored', hpermuted⟩ := List.perm_comp_forall₂ hperm.symm hstored
  have hfields : (addressFields address? ++ stored.flatten).Perm
      (addressFields address? ++ stored'.flatten) := hpermuted.symm.flatten.append_left _
  have hnames := hfields.map Prod.fst
  refine ⟨⟨known?, addressFields address? ++ stored'.flatten⟩, ?_, .of_perm rfl hfields hnodup⟩
  refine complete?_eq_ok.mpr ⟨stored', hstored', rfl, hnames.nodup_iff.mp hnodup, ?_⟩
  intro hnone
  exact hnames.mem_iff.mp (hdestination hnone)

theorem splitOn_eq_singleton_nil_iff : query.splitOn '&' = [[]] ↔ query = [] := by
  constructor
  · intro h
    have hjoin : ['&'].intercalate (query.splitOn '&') = query := List.intercalate_splitOn '&'
    rw [h] at hjoin
    exact hjoin.symm
  · rintro rfl
    rfl

/-- A query without any tokens has only itself as a permutation. -/
theorem perm_queryTokens (h : (query.splitOn '&').Perm (query'.splitOn '&')) :
    (queryTokens (some query)).Perm (queryTokens (some query')) := by
  have hempty : query = [] ↔ query' = [] := by
    rw [← splitOn_eq_singleton_nil_iff, ← splitOn_eq_singleton_nil_iff, ← List.perm_singleton,
      ← List.perm_singleton, h.congr_left]
  rw [queryTokens, queryTokens]
  by_cases hnil : query = []
  · rw [if_pos hnil, if_pos (hempty.mp hnil)]
  · rwa [if_neg hnil, if_neg (mt hempty.mpr hnil)]

/-- Tokens in another order are split where they were joined. -/
theorem splitOn_intercalate_of_perm (hperm : (query.splitOn '&').Perm tokens) :
    (['&'].intercalate tokens).splitOn '&' = tokens := by
  apply List.splitOn_intercalate
  · intro token htoken
    exact Text.not_mem_of_mem_splitOn (hperm.mem_iff.mpr htoken)
  · intro hnil
    rw [hnil, List.perm_nil] at hperm
    exact List.splitOn_ne_nil _ _ hperm

/-- A text that is read is read in every order of its fields. -/
theorem exists_reorders
    (hread : ofText? registry currency? (front ++ withQuery address (some query)) = .ok r)
    (hfollows : Follows (frontOf currency? (front ++ withQuery address (some query)))
      (front ++ withQuery address (some query)) (withQuery address (some query)))
    (haddress : '?' ∉ address) (hperm : (query.splitOn '&').Perm tokens) :
    ∃ r', ofText? registry currency?
        (front ++ withQuery address (some (['&'].intercalate tokens))) = .ok r' ∧
      Reorders r r' := by
  obtain ⟨hrest, known?, address?, hcomplete, hagain⟩ :=
    exists_complete?_requery hread hfollows haddress
  have htokens : (query.splitOn '&').Perm ((['&'].intercalate tokens).splitOn '&') := by
    rwa [splitOn_intercalate_of_perm hperm]
  obtain ⟨r', hcomplete', hreorders⟩ := complete?_perm (perm_queryTokens htokens) hcomplete
  refine ⟨r', hagain tokens r' ?_ hcomplete', hreorders⟩
  intro token htoken
  exact hrest.isBare_of_mem_splitOn token (hperm.mem_iff.mpr htoken)

/-- Whatever the registry and the currency that a reader is told, a text behind whose front
an address and a query stand is read exactly when it is read with the tokens of the query in
any other order. The requests then agree in their currency, in every lookup and in their
canonical form, and hold the same fields. -/
theorem ofText?_reordered (registry : Registry)
    (huri : uri = front ++ withQuery address (some query))
    (hfollows : Follows (frontOf currency? uri) uri (withQuery address (some query)))
    (haddress : '?' ∉ address) (hperm : (query.splitOn '&').Perm tokens) :
    ((∃ r, ofText? registry currency? uri = .ok r) ↔
      ∃ r', ofText? registry currency?
        (front ++ withQuery address (some (['&'].intercalate tokens))) = .ok r') ∧
    ∀ r r', ofText? registry currency? uri = .ok r →
      ofText? registry currency?
        (front ++ withQuery address (some (['&'].intercalate tokens))) = .ok r' →
      Reorders r r' := by
  subst huri
  have hforth : ∀ r, ofText? registry currency? (front ++ withQuery address (some query)) = .ok r →
      ∃ r', ofText? registry currency?
          (front ++ withQuery address (some (['&'].intercalate tokens))) = .ok r' ∧
        Reorders r r' :=
    fun r hread => exists_reorders hread hfollows haddress hperm
  refine ⟨⟨?forth, ?back⟩, ?same⟩
  case forth =>
    rintro ⟨r, hread⟩
    obtain ⟨r', hread', -⟩ := hforth r hread
    exact ⟨r', hread'⟩
  case back =>
    rintro ⟨r', hread'⟩
    have hfollows' := hfollows.requery (some (['&'].intercalate tokens))
    rw [← frontOf_of_follows hfollows'] at hfollows'
    have hperm' : ((['&'].intercalate tokens).splitOn '&').Perm (query.splitOn '&') := by
      rw [splitOn_intercalate_of_perm hperm]
      exact hperm.symm
    have hjoin : ['&'].intercalate (query.splitOn '&') = query := List.intercalate_splitOn '&'
    obtain ⟨r, hread, -⟩ := exists_reorders hread' hfollows' haddress hperm'
    rw [hjoin] at hread
    exact ⟨r, hread⟩
  case same =>
    intro r r' hread hread'
    obtain ⟨r₂, hread₂, hreorders⟩ := hforth r hread
    obtain rfl := Except.ok.inj (hread'.symm.trans hread₂)
    exact hreorders

/-- The tokens of the example text in another order. -/
def fineTokens : List Text :=
  ["label=Tom+J".toList, "AMOUNT=00.50".toList, "colour=red".toList]

theorem ofText?_reordered_fineText :
    ∃ r r', ofText? Registry.builtin (some fineCurrency) fineText = .ok r ∧
      ofText? Registry.builtin (some fineCurrency) ("fine:coin://".toList ++
        withQuery fineAddress.text (some (['&'].intercalate fineTokens))) = .ok r' ∧
      Reorders r r' := by
  have hperm : (fineQuery.splitOn '&').Perm fineTokens := by decide
  have hfollows : Follows (frontOf (some fineCurrency) fineText) fineText
      (withQuery fineAddress.text (some fineQuery)) := .inl rfl
  obtain ⟨r, hread, -⟩ := ofText?_fineText
  obtain ⟨hiff, hsame⟩ :=
    ofText?_reordered Registry.builtin rfl hfollows (question_not_mem_text _) hperm
  obtain ⟨r', hread'⟩ := hiff.mp ⟨r, hread⟩
  exact ⟨r, r', hread, hread', hsame r r' hread hread'⟩

end Request

end PaymentUri
