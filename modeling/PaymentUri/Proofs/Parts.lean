import Mathlib.Data.List.Basic
import PaymentUri.Proofs.LegalText
import PaymentUri.Proofs.Text
/-!
# What the parts of a payment URI are put together to

Every step that takes a URI apart is stated by the text it takes apart: the part
before the first colon, what follows a scheme, and what stands before and after
the only question mark. The last theorem puts the steps together.
-/

namespace PaymentUri

/-- Two steps succeed when the first does and the second does with what it answers. -/
theorem bind_eq_ok {ε α β : Type} {x : Except ε α} {f : α → Except ε β} {b : β} :
    x >>= f = .ok b ↔ ∃ a, x = .ok a ∧ f a = .ok b := by
  cases x with
  | error e => simp [bind, Except.bind]
  | ok a => simp [bind, Except.bind]

namespace Request

variable {registry : Registry} {currency? : Option Currency} {uri scheme rest address : Text}

/-- The form of a scheme: a letter, and then letters, digits and three marks. -/
structure IsScheme (t : Text) : Prop where
  first : ∃ c rest, t = c :: rest ∧ c.isAlpha = true
  others : ∀ c ∈ t, c.isAlpha = true ∨ c.isDigit = true ∨ c ∈ ['+', '.', '-']

theorem isSchemeChar_iff {c : Char} :
    Reference.isSchemeChar c = true ↔
      c.isAlpha = true ∨ c.isDigit = true ∨ c ∈ ['+', '.', '-'] := by
  simp [Reference.isSchemeChar, Char.isAlphanum, or_assoc]

theorem isScheme_iff : IsScheme scheme ↔ Reference.isScheme scheme = true := by
  cases scheme with
  | nil =>
      constructor
      · rintro ⟨⟨c, rest, h, -⟩, -⟩
        contradiction
      · intro h
        contradiction
  | cons c cs =>
      rw [Reference.isScheme, Bool.and_eq_true, List.all_eq_true]
      simp only [isSchemeChar_iff]
      constructor
      · rintro ⟨⟨_, _, ⟨⟩, hfirst⟩, hothers⟩
        exact ⟨hfirst, fun d hd => hothers d (List.mem_cons_of_mem c hd)⟩
      · rintro ⟨hfirst, hothers⟩
        exact ⟨⟨c, cs, rfl, hfirst⟩, List.forall_mem_cons.mpr ⟨.inl hfirst, hothers⟩⟩

theorem colon_not_mem_of_isScheme (h : Reference.isScheme scheme = true) : ':' ∉ scheme :=
  fun hmem => absurd (isPlain_of_mem_scheme h hmem) (by decide)

/-- A text has a scheme when it is legal and a scheme stands before its first colon. -/
theorem schemeOf?_eq_ok :
    schemeOf? uri = .ok scheme ↔
      IsLegal uri ∧ Reference.isScheme scheme = true ∧ ∃ after, uri = scheme ++ ':' :: after := by
  rw [isLegal_iff, schemeOf?]
  cases illegalFrom? 0 uri with
  | some illegal => simp
  | none =>
      cases badEscapeFrom? 0 uri with
      | some index => simp
      | none =>
          simp only [true_and]
          constructor
          · intro h
            split at h
            · next before after hcut =>
                split at h
                · next hscheme =>
                    obtain rfl := Except.ok.inj h
                    exact ⟨hscheme, after, (Text.cut?_eq_some hcut).1⟩
                · contradiction
            · contradiction
          · rintro ⟨hscheme, after, rfl⟩
            rw [Text.cut?_append (colon_not_mem_of_isScheme hscheme)]
            exact if_pos hscheme

/-- The text is a scheme and a colon, possibly with two slashes, and the rest. A rest
without the slashes does not begin with them. -/
def Follows (scheme uri rest : Text) : Prop :=
  uri = scheme ++ "://".toList ++ rest ∨
    uri = scheme ++ ':' :: rest ∧ ¬ "//".toList <+: rest

theorem withoutScheme?_eq_some :
    withoutScheme? scheme uri = some rest ↔ Follows scheme uri rest := by
  rw [withoutScheme?, Follows]
  cases h : (scheme ++ "://".toList).isPrefixOf? uri with
  | some rest' =>
      rw [List.isPrefixOf?_eq_some_iff_append_eq] at h
      constructor
      · intro hrest
        obtain rfl := Option.some.inj hrest
        exact .inl h.symm
      · rintro (huri | ⟨huri, hslashes⟩)
        · rw [huri] at h
          exact congrArg some (List.append_cancel_left h)
        · rw [huri, List.append_assoc] at h
          have hrest : ':' :: ("//".toList ++ rest') = ':' :: rest := List.append_cancel_left h
          exact absurd ⟨rest', (List.cons.inj hrest).2⟩ hslashes
  | none =>
      have hno : ∀ rest', uri ≠ scheme ++ "://".toList ++ rest' := by
        intro rest' huri
        rw [List.isPrefixOf?_eq_some_iff_append_eq.mpr huri.symm] at h
        contradiction
      simp only [List.isPrefixOf?_eq_some_iff_append_eq, List.append_assoc, List.singleton_append]
      constructor
      · rintro rfl
        refine .inr ⟨rfl, ?_⟩
        rintro ⟨rest', rfl⟩
        exact hno rest' (by simp)
      · rintro (huri | ⟨huri, -⟩)
        · exact absurd huri (by simpa using hno rest)
        · exact huri.symm

/-- The currencies that the address may belong to: the one that the reader was told, or else all
registered ones whose scheme is that of the URI but for case, the oldest first. -/
def candidates (registry : Registry) (currency? : Option Currency) (scheme : Text) :
    List Currency :=
  match currency? with
  | some c => [c]
  | none => registry.currencies.filter fun c => Text.lowercase c.scheme == Text.lowercase scheme

theorem candidates?_eq (registry : Registry) (currency? : Option Currency) (scheme : Text) :
    Parts.candidates? registry currency? scheme =
      match candidates registry currency? scheme with
      | [] => .error (.unsupportedScheme scheme)
      | c :: cs => .ok (c :: cs, c.scheme) := by
  cases currency? <;> rfl

theorem candidates?_eq_ok {found : List Currency × Text} :
    Parts.candidates? registry currency? scheme = .ok found ↔
      ∃ c cs, candidates registry currency? scheme = c :: cs ∧ found = (c :: cs, c.scheme) := by
  rw [candidates?_eq]
  cases candidates registry currency? scheme with
  | nil => simp
  | cons c cs =>
      constructor
      · intro h
        exact ⟨c, cs, rfl, (Except.ok.inj h).symm⟩
      · rintro ⟨d, ds, heq, rfl⟩
        obtain ⟨rfl, rfl⟩ := List.cons.inj heq
        rfl

/-- An address, and what follows it after a question mark if there is one. -/
def withQuery (address : Text) : Option Text → Text
  | none => address
  | some query => address ++ '?' :: query

def queryTokens : Option Text → List Text
  | none => []
  | some query => if query = [] then [] else query.splitOn '&'

theorem splitRest?_eq_ok {tokens : List Text} :
    Parts.splitRest? uri rest = .ok (address, tokens) ↔
      ∃ query?, rest = withQuery address query? ∧ '?' ∉ address ∧ (∀ q ∈ query?, '?' ∉ q) ∧
        tokens = queryTokens query? := by
  constructor
  · intro h
    have hjoin : ['?'].intercalate (rest.splitOn '?') = rest := List.intercalate_splitOn '?'
    have hpieces : ∀ piece ∈ rest.splitOn '?', '?' ∉ piece :=
      fun _ => Text.not_mem_of_mem_splitOn
    rw [Parts.splitRest?] at h
    split at h
    · next hnil => exact absurd hnil (List.splitOn_ne_nil _ _)
    · next hone =>
        obtain ⟨rfl, rfl⟩ := Prod.mk.inj (Except.ok.inj h)
        rw [hone] at hjoin hpieces
        exact ⟨none, by simpa [withQuery] using hjoin.symm, hpieces _ (by simp), by simp, rfl⟩
    · next query htwo =>
        obtain ⟨rfl, rfl⟩ := Prod.mk.inj (Except.ok.inj h)
        rw [htwo] at hjoin hpieces
        refine ⟨some query, by simpa [withQuery] using hjoin.symm, hpieces _ (by simp), ?_, rfl⟩
        rintro q ⟨⟩
        exact hpieces _ (by simp)
    · contradiction
  · rintro ⟨query?, rfl, haddress, hquery, rfl⟩
    cases query? with
    | none => rw [Parts.splitRest?, withQuery, List.splitOn_eq_singleton haddress, queryTokens]
    | some query =>
        rw [Parts.splitRest?, withQuery,
          List.splitOn_append_cons_self_of_not_mem haddress query,
          List.splitOn_eq_singleton (hquery query rfl), queryTokens]

/-- The parts that a URI is put together from: a scheme before its first colon that is
spelled as the first candidate spells it, then an address and possibly a query. -/
inductive TakenApart (registry : Registry) (currency? : Option Currency) (uri : Text) :
    Parts → Prop
  | intro {scheme after address : Text} {first : Currency} {others : List Currency}
      {query? : Option Text} (legal : IsLegal uri) (formed : IsScheme scheme)
      (colon : uri = scheme ++ ':' :: after)
      (claimed : candidates registry currency? scheme = first :: others)
      (follows : Follows first.scheme uri (withQuery address query?))
      (address_free : '?' ∉ address) (query_free : ∀ query ∈ query?, '?' ∉ query) :
      TakenApart registry currency? uri ⟨first :: others, address, queryTokens query?⟩

theorem ofUri?_eq_ok {parts : Parts} :
    Parts.ofUri? registry currency? uri = .ok parts ↔ TakenApart registry currency? uri parts := by
  constructor
  · intro h
    rw [Parts.ofUri?] at h
    split at h
    · contradiction
    · next scheme hscheme =>
        obtain ⟨hlegal, hformed, after, hcolon⟩ := schemeOf?_eq_ok.mp hscheme
        obtain ⟨found, hfound, h⟩ := bind_eq_ok.mp h
        obtain ⟨first, others, hclaimed, rfl⟩ := candidates?_eq_ok.mp hfound
        dsimp only at h
        split at h
        · contradiction
        · next rest hrest =>
            obtain ⟨⟨address, tokens⟩, hsplit, h⟩ := bind_eq_ok.mp h
            obtain rfl := Except.ok.inj h
            obtain ⟨query?, rfl, haddress, hquery, rfl⟩ := splitRest?_eq_ok.mp hsplit
            exact .intro hlegal (isScheme_iff.mpr hformed) hcolon hclaimed
              (withoutScheme?_eq_some.mp hrest) haddress hquery
  · rintro ⟨hlegal, hformed, hcolon, hclaimed, hfollows, haddress, hquery⟩
    have hscheme := schemeOf?_eq_ok.mpr ⟨hlegal, isScheme_iff.mp hformed, _, hcolon⟩
    have hfound := candidates?_eq_ok.mpr ⟨_, _, hclaimed, rfl⟩
    have hrest := withoutScheme?_eq_some.mpr hfollows
    simp only [Parts.ofUri?, hscheme]
    refine bind_eq_ok.mpr ⟨_, hfound, ?_⟩
    simp only [hrest]
    exact bind_eq_ok.mpr ⟨_, splitRest?_eq_ok.mpr ⟨_, rfl, haddress, hquery, rfl⟩, rfl⟩

theorem TakenApart.isLegal {parts : Parts} (h : TakenApart registry currency? uri parts) :
    IsLegal uri := by
  obtain ⟨hlegal⟩ := h
  exact hlegal

/-- The candidates of a reader who is told no currency are those that claim the scheme. -/
theorem TakenApart.candidates_eq {parts : Parts} (h : TakenApart registry none uri parts)
    (hscheme : schemeOf? uri = .ok scheme) : parts.candidates = registry.claiming scheme := by
  obtain ⟨hlegal, hformed, hcolon, hclaimed⟩ := h
  have hagain := schemeOf?_eq_ok.mpr ⟨hlegal, isScheme_iff.mp hformed, _, hcolon⟩
  obtain rfl := Except.ok.inj (hagain.symm.trans hscheme)
  exact hclaimed.symm

/-- A reader who is told a currency takes the same parts out of a URI as one that is not,
when that currency and the first candidate spell the scheme in the same way. -/
theorem TakenApart.told {parts : Parts} {c : Currency} (h : TakenApart registry none uri parts)
    (hspelled : ∀ first ∈ parts.candidates.head?, first.scheme = c.scheme) :
    TakenApart registry (some c) uri { parts with candidates := [c] } := by
  obtain ⟨hlegal, hformed, hcolon, -, hfollows, haddress, hquery⟩ := h
  rw [hspelled _ rfl] at hfollows
  exact .intro hlegal hformed hcolon rfl hfollows haddress hquery

end Request

end PaymentUri
