import Mathlib.Logic.Relation
import PaymentUri.Proofs.Rewritten
/-!
# Other spellings of a request

The same request can be spelled in many ways: with or without slashes behind the scheme, with
names in other case, with values that are encoded otherwise, with a question mark before no
fields, and with fields that store nothing. Each such change is one step of a relation between
texts, made of steps for lists of tokens and for single tokens. What a token stores, and that
it separates nothing, is kept by every step, so a text that is read is read as the same request
after any number of them.
-/

namespace PaymentUri.Request

variable {registry : Registry} {currency? known? : Option Currency} {address? : Option Address}
variable {token token' raw value name t uri uri' rest : Text} {tokens tokens' : List Text}
variable {new : Fields} {stored : List Fields} {r : Request}

/-- One field, spelled otherwise. -/
inductive RespellsToken : Text → Text → Prop
  /-- Names are compared in lower case. -/
  | name {raw raw' value : Text} (free : '=' ∉ raw) (free' : '=' ∉ raw') (bare : IsBare raw')
      (same : Text.lowercase raw' = Text.lowercase raw) :
      RespellsToken (raw ++ '=' :: value) (raw' ++ '=' :: value)
  /-- Free text may be encoded as in a canonical form. -/
  | value {raw value t : Text} (free : '=' ∉ raw) (other : Text.lowercase raw ≠ Fields.amountName)
      (present : value ≠ []) (decoded : Text.percentDecode? value = some t) :
      RespellsToken (raw ++ '=' :: value) (raw ++ '=' :: Text.percentEncode t)

/-- The fields of a query, one of them spelled otherwise or put in. -/
inductive RespellsTokens : List Text → List Text → Prop
  | token {token token' : Text} {tokens : List Text} (respelled : RespellsToken token token') :
      RespellsTokens (token :: tokens) (token' :: tokens)
  /-- A field that is not required and has no value stores nothing, but an amount has to have
  a value. -/
  | insert {raw : Text} {tokens : List Text} (nonempty : raw ≠ []) (free : '=' ∉ raw)
      (bare : IsBare raw) (other : Text.lowercase raw ≠ Fields.amountName)
      (unmarked : ¬ requirementMark <+: Text.lowercase raw) :
      RespellsTokens tokens ((raw ++ '=' :: []) :: tokens)
  | later {token : Text} {tokens tokens' : List Text} (respelled : RespellsTokens tokens tokens') :
      RespellsTokens (token :: tokens) (token :: tokens')

/-- A text, spelled otherwise in one place. -/
inductive Respells (currency? : Option Currency) (uri : Text) : Text → Prop
  /-- Slashes may follow the colon behind the scheme, or not. -/
  | slashes {rest : Text} (follows : Follows (frontOf currency? uri) uri rest) :
      Respells currency? uri (frontOf currency? uri ++ "://".toList ++ rest)
  | colon {rest : Text} (follows : Follows (frontOf currency? uri) uri rest) :
      Respells currency? uri (frontOf currency? uri ++ ':' :: rest)
  /-- A query may be there without any fields. -/
  | mark {address : Text} (follows : Follows (frontOf currency? uri) uri address)
      (free : '?' ∉ address) : Respells currency? uri (uri ++ ['?'])
  | tokens {front address : Text} {query? : Option Text} {tokens' : List Text}
      (split : uri = front ++ withQuery address query?)
      (follows : Follows (frontOf currency? uri) uri (withQuery address query?))
      (free : '?' ∉ address) (respelled : RespellsTokens (queryTokens query?) tokens') :
      Respells currency? uri (front ++ withQuery address (some (['&'].intercalate tokens')))

theorem isToken_join_iff (hfree : '=' ∉ raw) :
    IsToken (raw ++ '=' :: value) name t ↔ raw ≠ [] ∧ name = Text.lowercase raw ∧ t = value := by
  constructor
  · intro h
    generalize heq : raw ++ '=' :: value = token at h
    obtain ⟨hne, hfree'⟩ := h
    obtain ⟨rfl, rfl⟩ := Text.append_cons_inj hfree hfree' heq
    exact ⟨hne, rfl, rfl⟩
  · rintro ⟨hne, rfl, rfl⟩
    exact .intro hne hfree

theorem yields_join_iff (hfree : '=' ∉ raw) :
    Yields currency? (raw ++ '=' :: value) new ↔
      raw ≠ [] ∧ Contributes currency? (Text.lowercase raw) value new := by
  constructor
  · rintro ⟨name, t, htoken, hnew⟩
    obtain ⟨hne, rfl, rfl⟩ := (isToken_join_iff hfree).mp htoken
    exact ⟨hne, hnew⟩
  · rintro ⟨hne, hnew⟩
    exact ⟨_, value, .intro hne hfree, hnew⟩

/-- Free text is stored as it is decoded, however it is encoded. -/
theorem Contributes.percentEncode (h : Contributes currency? name value new)
    (hother : name ≠ Fields.amountName) (hpresent : value ≠ [])
    (hdecoded : Text.percentDecode? value = some t) :
    Contributes currency? name (Text.percentEncode t) new := by
  cases h with
  | amount => contradiction
  | empty => contradiction
  | text _ hunmarked _ hdecoded' =>
      obtain rfl := Option.some.inj (hdecoded'.symm.trans hdecoded)
      have hencoded := Text.percentEncode_ne_nil (Text.ne_nil_of_percentDecode? hpresent hdecoded)
      exact .text hother hunmarked hencoded (Text.percentDecode?_percentEncode _)

theorem RespellsToken.yields (h : RespellsToken token token') (hnew : Yields currency? token new) :
    Yields currency? token' new := by
  cases h with
  | name hfree hfree' hbare hsame =>
      obtain ⟨hne, hnew⟩ := (yields_join_iff hfree).mp hnew
      refine (yields_join_iff hfree').mpr ⟨?_, hsame ▸ hnew⟩
      rwa [Ne, ← Text.lowercase_eq_nil, hsame, Text.lowercase_eq_nil]
  | value hfree hother hpresent hdecoded =>
      obtain ⟨hne, hnew⟩ := (yields_join_iff hfree).mp hnew
      exact (yields_join_iff hfree).mpr ⟨hne, hnew.percentEncode hother hpresent hdecoded⟩

/-- Fields that are spelled otherwise store the same, in the same order. -/
theorem RespellsTokens.exists_stored (h : RespellsTokens tokens tokens')
    (hstored : List.Forall₂ (Yields currency?) tokens stored) :
    ∃ stored', List.Forall₂ (Yields currency?) tokens' stored' ∧
      stored'.flatten = stored.flatten := by
  induction h generalizing stored with
  | token hrespelled =>
      cases hstored with
      | cons hnew hrest => exact ⟨_, .cons (hrespelled.yields hnew) hrest, rfl⟩
  | insert hne hfree _ hother hunmarked =>
      exact ⟨_, .cons ((yields_join_iff hfree).mpr ⟨hne, .empty hother hunmarked⟩) hstored, rfl⟩
  | later _ ih =>
      cases hstored with
      | cons hnew hrest =>
          obtain ⟨stored', hstored', hsame⟩ := ih hrest
          exact ⟨_, .cons hnew hstored', by rw [List.flatten_cons, List.flatten_cons, hsame]⟩

theorem RespellsTokens.complete?_eq_ok (h : RespellsTokens tokens tokens')
    (hcomplete : complete? known? address? tokens = .ok r) :
    complete? known? address? tokens' = .ok r := by
  obtain ⟨stored, hstored, hr, hkept⟩ := Request.complete?_eq_ok.mp hcomplete
  obtain ⟨stored', hstored', hsame⟩ := h.exists_stored hstored
  rw [← hsame] at hr
  exact Request.complete?_eq_ok.mpr ⟨stored', hstored', hr, hkept⟩

theorem isBare_percentEncode (t : Text) : IsBare (Text.percentEncode t) where
  legal := isLegal_percentEncode t
  ampersand h := absurd (Text.isUnreserved_of_mem_percentEncode h) (by decide)
  question h := absurd (Text.isUnreserved_of_mem_percentEncode h) (by decide)

theorem RespellsToken.isBare (h : RespellsToken token token') (hbare : IsBare token) :
    IsBare token' := by
  cases h with
  | name _ _ hname => exact isBare_join_iff.mpr ⟨hname, (isBare_join_iff.mp hbare).2⟩
  | value => exact isBare_join_iff.mpr ⟨(isBare_join_iff.mp hbare).1, isBare_percentEncode _⟩

/-- No step puts a separator into a field. -/
theorem RespellsTokens.isBare (h : RespellsTokens tokens tokens')
    (hbare : ∀ token ∈ tokens, IsBare token) : ∀ token ∈ tokens', IsBare token := by
  induction h with
  | token hrespelled =>
      obtain ⟨hfirst, hrest⟩ := List.forall_mem_cons.mp hbare
      exact List.forall_mem_cons.mpr ⟨hrespelled.isBare hfirst, hrest⟩
  | insert _ _ hname =>
      have hnil : IsBare [] := ⟨.nil, List.not_mem_nil, List.not_mem_nil⟩
      exact List.forall_mem_cons.mpr ⟨isBare_join_iff.mpr ⟨hname, hnil⟩, hbare⟩
  | later _ ih =>
      obtain ⟨hfirst, hrest⟩ := List.forall_mem_cons.mp hbare
      exact List.forall_mem_cons.mpr ⟨hfirst, ih hrest⟩

theorem Yields.ne_nil (h : Yields currency? token new) : token ≠ [] := by
  obtain ⟨name, value, htoken, -⟩ := h
  obtain ⟨hne, -⟩ := htoken
  exact List.append_ne_nil_of_left_ne_nil hne _

theorem ne_nil_of_complete? (h : complete? known? address? tokens = .ok r) :
    ∀ token ∈ tokens, token ≠ [] := by
  obtain ⟨stored, hstored, -⟩ := complete?_eq_ok.mp h
  clear h
  induction hstored with
  | nil => exact fun _ h => absurd h List.not_mem_nil
  | cons hnew _ ih => exact List.forall_mem_cons.mpr ⟨hnew.ne_nil, ih⟩

/-- A text that is read is read as the same request when it is spelled otherwise in one
place. -/
theorem Respells.ofText?_eq_ok (h : Respells currency? uri uri')
    (hread : ofText? registry currency? uri = .ok r) :
    ofText? registry currency? uri' = .ok r := by
  cases h with
  | slashes hfollows => exact ofText?_of_follows hread hfollows (.inl rfl)
  | colon hfollows =>
      have hslashes := not_slashes_of_ofText? hread hfollows
      exact ofText?_of_follows hread hfollows (.inr ⟨rfl, hslashes⟩)
  | mark hfollows hfree =>
      next address =>
        obtain ⟨front, rfl⟩ := hfollows.exists_front
        have hread : ofText? registry currency? (front ++ withQuery address none) = .ok r := hread
        obtain ⟨-, known?, address?, hcomplete, hagain⟩ :=
          exists_complete?_requery hread hfollows hfree
        rw [List.append_assoc]
        exact hagain [] r (by simp) hcomplete
  | tokens hsplit hfollows hfree hrespelled =>
      next tokens' =>
        subst hsplit
        obtain ⟨hrest, known?, address?, hcomplete, hagain⟩ :=
          exists_complete?_requery hread hfollows hfree
        have hbare := hrespelled.isBare hrest.isBare
        have hcomplete' := hrespelled.complete?_eq_ok hcomplete
        have hinert : ∀ token ∈ tokens', IsInert token := by
          intro token htoken
          exact (hbare token htoken).isInert (ne_nil_of_complete? hcomplete' token htoken)
        apply hagain tokens' r hbare
        rwa [queryTokens_intercalate hinert]

/-- Whatever the registry and the currency that a reader is told, a text that is read is read
as the same request, with the same fields in the same order, when it is spelled otherwise in
any number of places. -/
theorem ofText?_respelled (h : Relation.ReflTransGen (Respells currency?) uri uri')
    (hread : ofText? registry currency? uri = .ok r) :
    ofText? registry currency? uri' = .ok r := by
  induction h with
  | refl => exact hread
  | tail _ hstep ih => exact hstep.ofText?_eq_ok ih

def fineTextOf (tokens : List Text) : Text :=
  "fine:coin://".toList ++ withQuery fineAddress.text (some (['&'].intercalate tokens))

theorem respells_fineTextOf (hsplit : queryTokens (some (['&'].intercalate tokens)) = tokens)
    (h : RespellsTokens tokens tokens') :
    Respells (some fineCurrency) (fineTextOf tokens) (fineTextOf tokens') := by
  rw [← hsplit] at h
  exact .tokens rfl (.inl rfl) (question_not_mem_text fineAddress) h

theorem ofText?_respelled_fineText :
    ∃ r, ofText? Registry.builtin (some fineCurrency) fineText = .ok r ∧
      ofText? Registry.builtin (some fineCurrency) ("fine:coin:".toList ++
        withQuery fineAddress.text
          (some "AMOUNT=00.50&note=&COLOUR=red&label=Tom%20J".toList)) = .ok r := by
  obtain ⟨r, hread, -⟩ := ofText?_fineText
  have hname : RespellsToken ("colour".toList ++ '=' :: "red".toList)
      ("COLOUR".toList ++ '=' :: "red".toList) := by
    have hbare : IsBare "COLOUR".toList := ⟨isLegal_iff.mpr (by decide), by decide, by decide⟩
    exact .name (by decide) (by decide) hbare (by decide)
  have hvalue : RespellsToken ("label".toList ++ '=' :: "Tom+J".toList)
      ("label".toList ++ '=' :: Text.percentEncode "Tom J".toList) :=
    .value (by decide) (by decide) (by decide) (by rfl)
  have hinsert : RespellsTokens ["COLOUR=red".toList, "label=Tom+J".toList]
      ["note".toList ++ '=' :: [], "COLOUR=red".toList, "label=Tom+J".toList] := by
    have hbare : IsBare "note".toList := ⟨isLegal_iff.mpr (by decide), by decide, by decide⟩
    exact .insert (by decide) (by decide) hbare (by decide) (by decide)
  have hnamed : Respells (some fineCurrency)
      (fineTextOf ["AMOUNT=00.50".toList, "colour=red".toList, "label=Tom+J".toList])
      (fineTextOf ["AMOUNT=00.50".toList, "COLOUR=red".toList, "label=Tom+J".toList]) :=
    respells_fineTextOf rfl (.later (.token hname))
  have hinserted : Respells (some fineCurrency) _
      (fineTextOf ["AMOUNT=00.50".toList, "note=".toList, "COLOUR=red".toList,
        "label=Tom+J".toList]) := respells_fineTextOf rfl (.later hinsert)
  have hencoded : Respells (some fineCurrency) _
      (fineTextOf ["AMOUNT=00.50".toList, "note=".toList, "COLOUR=red".toList,
        "label=Tom%20J".toList]) :=
    respells_fineTextOf rfl (.later (.later (.later (.token hvalue))))
  have hcolon : Respells (some fineCurrency) _ ("fine:coin:".toList ++ withQuery fineAddress.text
      (some "AMOUNT=00.50&note=&COLOUR=red&label=Tom%20J".toList)) := .colon (.inl rfl)
  have hsteps := (((Relation.ReflTransGen.single hnamed).tail hinserted).tail hencoded).tail hcolon
  exact ⟨r, hread, ofText?_respelled hsteps hread⟩

end PaymentUri.Request
