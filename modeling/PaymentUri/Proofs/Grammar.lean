import PaymentUri.Proofs.AddressDecoding
import PaymentUri.Proofs.AmountNotation
import PaymentUri.Proofs.PercentRuns
import PaymentUri.Proofs.Rewritten
/-!
# The grammar of payment URIs

The texts that are accepted, described without the order in which anything is
checked: how a URI is put together, which address settles its currency, what each
field may say on its own, and which names may stand beside one another.

A text that is grammatical is still refused where its amount has more digits behind
the point than are ever written, since what is read has to be recorded. No other
text is refused for that.
-/

namespace PaymentUri.Request

variable {registry : Registry} {currency? known? : Option Currency} {address? : Option Address}
variable {uri token name value t : Text} {new : Fields} {tokens : List Text} {stored : List Fields}
variable {parts : Parts} {r : Request}

/-- The address that a text is of the first candidate that has it. The empty text is no
address. -/
inductive SettlesOn (cs : List Currency) : Text → Option Address → Prop
  | none : SettlesOn cs [] none
  | first {before after : List Currency} {c : Currency} {t : Text} {a : Address}
      (split : cs = before ++ c :: after) (earlier : ∀ b ∈ before, ¬ Address.IsWritten b t)
      (currency : a.currency = c) (text : a.text = t) : SettlesOn cs t (some a)

/-- The field stores a value under the name: an amount always, anything else unless its
value is empty. -/
def Stores (token name : Text) : Prop :=
  ∃ value, IsToken token name value ∧ (name = "amount".toList ∨ value ≠ [])

/-- The value may stand under the name: an amount of the known currency that is not
negative, or any text that is encoded well, if the name is not marked as a requirement. -/
inductive IsReadable (known? : Option Currency) : Text → Text → Prop
  | amount {value : Text} {c : Currency} {n : Numeral} {units : ℤ} (known : known? = some c)
      (spelled : Numeral.Spells value n) (counts : n.value * c.unitsPerCoin = units)
      (sign : 0 ≤ units) : IsReadable known? "amount".toList value
  | other {name value t : Text} (other : name ≠ "amount".toList)
      (free : ¬ "req-".toList <+: name) (decoded : Text.StandsFor value (Text.utf8 t)) :
      IsReadable known? name value

/-- The fields that may follow an address in a known currency, or stand without one. -/
structure IsQuery (known? : Option Currency) (address? : Option Address) (tokens : List Text) :
    Prop where
  readable : ∀ token ∈ tokens, ∃ name value, IsToken token name value ∧
    IsReadable known? name value
  distinct : tokens.Pairwise fun s t => ∀ name, Stores s name → ¬ Stores t name
  address_free : address? ≠ none → ∀ token ∈ tokens, ¬ Stores token "address".toList
  destination : address? = none → ∃ token ∈ tokens, Stores token "r".toList

/-- The text is composed of a scheme, an address and fields that may stand together in the
currency that is known then. -/
inductive IsComposed (registry : Registry) (currency? : Option Currency) (uri : Text) :
    Option Currency → List Text → Prop
  | intro {parts : Parts} {address? : Option Address}
      (apart : TakenApart registry currency? uri parts)
      (settles : SettlesOn parts.candidates parts.address address?)
      (query : IsQuery (settled currency? address?) address? parts.tokens) :
      IsComposed registry currency? uri (settled currency? address?) parts.tokens

/-- A field states an amount with more digits behind the point than are written. -/
inductive HasLongAmount (known? : Option Currency) (tokens : List Text) : Prop
  | intro {token value : Text} {c : Currency} {n : Numeral} {units : ℤ} (known : known? = some c)
      (mem : token ∈ tokens) (named : IsToken token "amount".toList value)
      (spelled : Numeral.Spells value n) (counts : n.value * c.unitsPerCoin = units)
      (long : Text.IsLong (units.natAbs % c.unitsPerCoin))

/-- The texts that state a payment request. -/
def Grammatical (registry : Registry) (currency? : Option Currency) (uri : Text) : Prop :=
  ∃ known? tokens, IsComposed registry currency? uri known? tokens

/-- The texts that state a payment request of too long an amount. -/
def Overlong (registry : Registry) (currency? : Option Currency) (uri : Text) : Prop :=
  ∃ known? tokens, IsComposed registry currency? uri known? tokens ∧ HasLongAmount known? tokens

theorem settlesOn_iff {cs : List Currency} : SettlesOn cs t address? ↔ Settles cs t address? := by
  constructor
  · intro h
    cases h with
    | none => exact .none
    | first hsplit hearlier hcurrency htext =>
        refine .first hsplit (fun b hb => ?_)
          (Address.ofText?_eq_ok_iff_text.mpr ⟨hcurrency, htext⟩)
        exact mt Address.accepts_iff_isWritten.mp (hearlier b hb)
  · intro h
    cases h with
    | none => exact .none
    | first hsplit hearlier hread =>
        obtain ⟨hcurrency, htext⟩ := Address.ofText?_eq_ok_iff_text.mp hread
        refine .first hsplit (fun b hb => ?_) hcurrency htext
        exact mt Address.accepts_iff_isWritten.mpr (hearlier b hb)

section Fields

/-- In a legal text, a value is read as the text for whose octets it stands. -/
theorem exists_percentDecode?_iff (hescaped : IsEscaped value) :
    (∃ t, Text.percentDecode? value = some t) ↔ ∃ t, Text.StandsFor value (Text.utf8 t) := by
  obtain ⟨bytes, hbytes⟩ := hescaped.exists_standsFor
  rw [Text.percentDecode?_eq_formBytes, ← hbytes.eq_formBytes]
  simp only [Text.decodeUtf8?_eq_some_iff]
  constructor
  · rintro ⟨t, rfl⟩
    exact ⟨t, hbytes⟩
  · rintro ⟨t, ht⟩
    exact ⟨t, hbytes.eq_formBytes.trans ht.eq_formBytes.symm⟩

theorem IsToken.isEscaped (h : IsToken token name value) (htoken : IsEscaped token) :
    IsEscaped value := by
  obtain ⟨-, -⟩ := h
  exact (htoken.of_append).of_append (s := ['='])

theorem IsBare.isEscaped (h : IsBare t) : IsEscaped t := fun before after heq =>
  startsWithEscape_iff.mpr (h.legal.escapes before after heq)

theorem TakenApart.isEscaped (h : TakenApart registry currency? uri parts) :
    ∀ token ∈ parts.tokens, IsEscaped token := by
  obtain ⟨rest, query?, -, hrest, htokens⟩ := h.exists_rest
  rw [htokens]
  exact fun token htoken => (hrest.isBare token htoken).isEscaped

theorem exists_contributes_iff (hescaped : IsEscaped value) :
    (∃ new, Contributes known? name value new) ↔ IsReadable known? name value := by
  constructor
  · rintro ⟨new, h⟩
    cases h with
    | amount hknown hread hsign =>
        obtain ⟨-, n, hspelled, hcounts⟩ := Amount.ofText?_eq_ok_iff_counts.mp hread
        exact .amount hknown hspelled hcounts hsign
    | empty hother hfree => exact .other (t := []) hother hfree .nil
    | text hother hfree _ hdecoded =>
        obtain ⟨t, ht⟩ := (exists_percentDecode?_iff hescaped).mp ⟨_, hdecoded⟩
        exact .other hother hfree ht
  · intro h
    cases h with
    | amount hknown hspelled hcounts hsign =>
        obtain ⟨a, hread, rfl⟩ := Amount.exists_ofText?_of_counts hspelled hcounts
        exact ⟨_, .amount hknown hread hsign⟩
    | other hother hfree hdecoded =>
        by_cases hempty : value = []
        · subst hempty
          exact ⟨_, .empty hother hfree⟩
        · obtain ⟨t, ht⟩ := (exists_percentDecode?_iff hescaped).mpr ⟨_, hdecoded⟩
          exact ⟨_, .text hother hfree hempty ht⟩

theorem exists_yields_iff (hescaped : IsEscaped token) :
    (∃ new, Yields known? token new) ↔
      ∃ name value, IsToken token name value ∧ IsReadable known? name value := by
  constructor
  · rintro ⟨new, name, value, htoken, hnew⟩
    have hvalue := htoken.isEscaped hescaped
    exact ⟨name, value, htoken, (exists_contributes_iff hvalue).mp ⟨new, hnew⟩⟩
  · rintro ⟨name, value, htoken, hreadable⟩
    have hvalue := htoken.isEscaped hescaped
    obtain ⟨new, hnew⟩ := (exists_contributes_iff hvalue).mpr hreadable
    exact ⟨new, name, value, htoken, hnew⟩

/-- The names under which a field stores something do not depend on what it says. -/
theorem Yields.mem_names_iff (h : Yields known? token new) :
    name ∈ Fields.names new ↔ Stores token name := by
  obtain ⟨stated, value, htoken, hnew⟩ := h
  rw [hnew.eq_of_mem_names]
  constructor
  · rintro ⟨rfl, hstored⟩
    exact ⟨value, htoken, hstored⟩
  · rintro ⟨value', htoken', hstored⟩
    obtain ⟨rfl, rfl⟩ := htoken.unique htoken'
    exact ⟨rfl, hstored⟩

theorem mem_names_flatten_iff (h : List.Forall₂ (Yields known?) tokens stored) :
    name ∈ Fields.names stored.flatten ↔ ∃ token ∈ tokens, Stores token name := by
  induction h with
  | nil => simp
  | cons hnew _ ih =>
      rw [List.flatten_cons, Fields.names_append, List.mem_append, ih, hnew.mem_names_iff]
      simp

/-- No name is stored twice exactly when no two fields store under the same name. -/
theorem nodup_names_flatten_iff (h : List.Forall₂ (Yields known?) tokens stored) :
    (Fields.names stored.flatten).Nodup ↔
      tokens.Pairwise fun s t => ∀ name, Stores s name → ¬ Stores t name := by
  induction h with
  | nil => simp
  | cons hnew hrest ih =>
      have hnodup : (Fields.names _).Nodup := hnew.choose_spec.choose_spec.2.nodup_names
      rw [List.flatten_cons, Fields.names_append, List.nodup_append, ih, List.pairwise_cons]
      constructor
      · rintro ⟨-, hpairwise, hapart⟩
        refine ⟨fun t ht name hs hstores => ?_, hpairwise⟩
        exact hapart name (hnew.mem_names_iff.mpr hs) name
          ((mem_names_flatten_iff hrest).mpr ⟨t, ht, hstores⟩) rfl
      · rintro ⟨hhead, hpairwise⟩
        refine ⟨hnodup, hpairwise, ?_⟩
        rintro name hname _ hmem rfl
        obtain ⟨t, ht, hstores⟩ := (mem_names_flatten_iff hrest).mp hmem
        exact hhead t ht name (hnew.mem_names_iff.mp hname) hstores

theorem exists_stored_iff :
    (∃ stored, List.Forall₂ (Yields known?) tokens stored) ↔
      ∀ token ∈ tokens, ∃ new, Yields known? token new := by
  constructor
  · rintro ⟨stored, h⟩
    induction h with
    | nil => simp
    | cons hnew _ ih => exact List.forall_mem_cons.mpr ⟨⟨_, hnew⟩, ih⟩
  · intro h
    induction tokens with
    | nil => exact ⟨[], .nil⟩
    | cons token tokens ih =>
        obtain ⟨hfirst, hothers⟩ := List.forall_mem_cons.mp h
        obtain ⟨new, hnew⟩ := hfirst
        obtain ⟨stored, hstored⟩ := ih hothers
        exact ⟨new :: stored, .cons hnew hstored⟩

/-- The fields are read exactly when they may stand together. -/
theorem exists_complete?_iff (hescaped : ∀ token ∈ tokens, IsEscaped token) :
    (∃ r, complete? known? address? tokens = .ok r) ↔ IsQuery known? address? tokens := by
  have hnames : ∀ stored : List Fields, List.Forall₂ (Yields known?) tokens stored →
      ((Fields.names (addressFields address? ++ stored.flatten)).Nodup ↔
        (tokens.Pairwise fun s t => ∀ name, Stores s name → ¬ Stores t name) ∧
          (address? ≠ none → ∀ token ∈ tokens, ¬ Stores token Fields.addressName)) := by
    intro stored hstored
    rw [← nodup_names_flatten_iff hstored]
    cases address? with
    | none => simp [addressFields]
    | some a =>
        rw [addressFields, List.singleton_append, Fields.names_cons, List.nodup_cons,
          mem_names_flatten_iff hstored]
        simp [and_comm]
  have hurl : ∀ stored : List Fields, List.Forall₂ (Yields known?) tokens stored →
      ((address? = none → Fields.urlName ∈ Fields.names (addressFields address? ++ stored.flatten))
        ↔ (address? = none → ∃ token ∈ tokens, Stores token Fields.urlName)) := by
    intro stored hstored
    rw [← mem_names_flatten_iff hstored]
    cases address? with
    | none => simp [addressFields]
    | some a => simp
  constructor
  · rintro ⟨r, hr⟩
    obtain ⟨stored, hstored, rfl, hnodup, hdestination⟩ := complete?_eq_ok.mp hr
    have hreadable := exists_stored_iff.mp ⟨stored, hstored⟩
    obtain ⟨hdistinct, hfree⟩ := (hnames stored hstored).mp hnodup
    refine ⟨fun token htoken => ?_, hdistinct, hfree, (hurl stored hstored).mp hdestination⟩
    exact (exists_yields_iff (hescaped token htoken)).mp (hreadable token htoken)
  · rintro ⟨hreadable, hdistinct, hfree, hdestination⟩
    obtain ⟨stored, hstored⟩ := exists_stored_iff.mpr fun token htoken =>
      (exists_yields_iff (hescaped token htoken)).mpr (hreadable token htoken)
    exact ⟨_, complete?_eq_ok.mpr ⟨stored, hstored, rfl,
      (hnames stored hstored).mpr ⟨hdistinct, hfree⟩, (hurl stored hstored).mpr hdestination⟩⟩

theorem hasLongAmount_cons : HasLongAmount known? (token :: tokens) ↔
    HasLongAmount known? [token] ∨ HasLongAmount known? tokens := by
  constructor
  · rintro ⟨hknown, hmem, hnamed, hspelled, hcounts, hlong⟩
    rcases List.mem_cons.mp hmem with rfl | hmem
    · exact .inl (.intro hknown List.mem_cons_self hnamed hspelled hcounts hlong)
    · exact .inr (.intro hknown hmem hnamed hspelled hcounts hlong)
  · rintro (⟨hknown, hmem, hnamed, hspelled, hcounts, hlong⟩ |
      ⟨hknown, hmem, hnamed, hspelled, hcounts, hlong⟩)
    · obtain rfl := List.mem_singleton.mp hmem
      exact .intro hknown List.mem_cons_self hnamed hspelled hcounts hlong
    · exact .intro hknown (List.mem_cons_of_mem _ hmem) hnamed hspelled hcounts hlong

/-- Only a field of the name of an amount states one. -/
theorem not_hasLongAmount_of_ne (htoken : IsToken token name value)
    (hother : name ≠ Fields.amountName) : ¬ HasLongAmount known? [token] := by
  rintro ⟨-, hmem, hnamed, -, -, -⟩
  obtain rfl := List.mem_singleton.mp hmem
  exact hother (htoken.unique hnamed).1

/-- The amount that a field states has a text exactly when it is not too long. -/
theorem hasLongAmount_singleton_iff {c : Currency} {a : Amount} (hknown : known? = some c)
    (htoken : IsToken token Fields.amountName value) (hread : Amount.ofText? c value = .ok a) :
    HasLongAmount known? [token] ↔ a.format? = none := by
  obtain ⟨rfl, n, hspelled, hcounts⟩ := Amount.ofText?_eq_ok_iff_counts.mp hread
  rw [Amount.format?_eq_none]
  constructor
  · rintro ⟨hknown', hmem, hnamed, hspelled', hcounts', hlong⟩
    obtain rfl := List.mem_singleton.mp hmem
    obtain rfl := Option.some.inj (hknown.symm.trans hknown')
    obtain ⟨-, rfl⟩ := htoken.unique hnamed
    obtain ⟨b, hread', rfl⟩ := Amount.exists_ofText?_of_counts hspelled' hcounts'
    obtain rfl := Except.ok.inj (hread.symm.trans hread')
    exact hlong
  · exact fun hlong => .intro hknown List.mem_cons_self htoken hspelled hcounts hlong

/-- What a field stores has a text unless it is too long an amount. -/
theorem Yields.isShown_iff (h : Yields known? token new) :
    (∀ f ∈ new, f.2.isShown = true) ↔ ¬ HasLongAmount known? [token] := by
  obtain ⟨name, value, htoken, hnew⟩ := h
  cases hnew with
  | amount hknown hread _ =>
      rw [List.forall_mem_singleton, FieldValue.isShown, Option.isSome_iff_ne_none, Ne,
        hasLongAmount_singleton_iff hknown htoken hread]
  | empty hother =>
      exact iff_of_true (List.forall_mem_nil _) (not_hasLongAmount_of_ne htoken hother)
  | text hother =>
      exact iff_of_true (List.forall_mem_singleton.mpr rfl)
        (not_hasLongAmount_of_ne htoken hother)

theorem isShown_flatten_iff (h : List.Forall₂ (Yields known?) tokens stored) :
    (∀ f ∈ stored.flatten, f.2.isShown = true) ↔ ¬ HasLongAmount known? tokens := by
  induction h with
  | nil => exact iff_of_true (List.forall_mem_nil _) fun ⟨_, hmem, _, _, _, _⟩ => nomatch hmem
  | cons hnew _ ih =>
      rw [List.flatten_cons, List.forall_mem_append, hnew.isShown_iff, ih, ← not_or,
        ← hasLongAmount_cons]

/-- A request has a listing unless the amount in a field is too long for it. -/
theorem isShown_iff (h : complete? known? address? tokens = .ok r) :
    r.isShown = true ↔ ¬ HasLongAmount known? tokens := by
  obtain ⟨stored, hstored, rfl, -, -⟩ := complete?_eq_ok.mp h
  have haddress : ∀ f ∈ addressFields address?, f.2.isShown = true := by
    cases address? with
    | none => exact List.forall_mem_nil _
    | some a => exact List.forall_mem_singleton.mpr rfl
  rw [isShown, List.all_eq_true, List.forall_mem_append, and_iff_right haddress,
    isShown_flatten_iff hstored]

end Fields

/-- A text is read exactly as it is composed. -/
theorem isComposed_iff :
    IsComposed registry currency? uri known? tokens ↔
      ∃ parts address? r, TakenApart registry currency? uri parts ∧
        Settles parts.candidates parts.address address? ∧ known? = settled currency? address? ∧
        tokens = parts.tokens ∧ complete? known? address? tokens = .ok r ∧
        ofText? registry currency? uri = .ok r := by
  constructor
  · rintro ⟨happart, hsettles, hquery⟩
    obtain ⟨r, hr⟩ := (exists_complete?_iff happart.isEscaped).mpr hquery
    have hsettles' := settlesOn_iff.mp hsettles
    exact ⟨_, _, r, happart, hsettles', rfl, rfl, hr,
      ofText?_eq_ok.mpr ⟨_, _, happart, hsettles', hr⟩⟩
  · rintro ⟨parts, address?, r, happart, hsettles, rfl, rfl, hcomplete, -⟩
    exact .intro happart (settlesOn_iff.mpr hsettles)
      ((exists_complete?_iff happart.isEscaped).mp ⟨r, hcomplete⟩)

/-- Where numbers have texts whatever they are, a text is accepted exactly when it is
grammatical. -/
theorem exists_ofText?_iff :
    (∃ r, ofText? registry currency? uri = .ok r) ↔ Grammatical registry currency? uri := by
  constructor
  · rintro ⟨r, hr⟩
    obtain ⟨parts, address?, happart, hsettles, hcomplete⟩ := ofText?_eq_ok.mp hr
    exact ⟨_, _, isComposed_iff.mpr
      ⟨parts, address?, r, happart, hsettles, rfl, rfl, hcomplete, hr⟩⟩
  · rintro ⟨known?, tokens, hcomposed⟩
    obtain ⟨-, -, r, -, -, -, -, -, hr⟩ := isComposed_iff.mp hcomposed
    exact ⟨r, hr⟩

/-- Of a request that is read, the listing is too long exactly when the text is overlong. -/
theorem isShown_iff_not_overlong (h : ofText? registry currency? uri = .ok r) :
    r.isShown = true ↔ ¬ Overlong registry currency? uri := by
  obtain ⟨parts, address?, happart, hsettles, hcomplete⟩ := ofText?_eq_ok.mp h
  constructor
  · rintro hshown ⟨known?, tokens, hcomposed, hlong⟩
    obtain ⟨_, _, r', _, _, rfl, rfl, hcomplete', hr'⟩ := isComposed_iff.mp hcomposed
    obtain rfl := Except.ok.inj (h.symm.trans hr')
    exact (isShown_iff hcomplete').mp hshown hlong
  · intro hshort
    refine (isShown_iff hcomplete).mpr fun hlong => hshort ⟨_, _, ?_, hlong⟩
    exact isComposed_iff.mpr ⟨parts, address?, r, happart, hsettles, rfl, rfl, hcomplete, h⟩

/-- A text is read as if all numbers had texts, until what was read is to be recorded. -/
theorem outcome_attempt (registry : Registry) (currency? : Option Currency) (uri : Text) :
    (attempt registry currency? (.text uri)).outcome =
      match ofText? registry currency? uri with
      | .ok r => if r.isShown then .ok r else .error .unrecorded
      | .error cause => .error cause := by
  rw [attempt, if_pos (Datum.isShown_text uri), ofText?, read, Reading.outcome_finish,
    Reading.finishShown]
  cases houtcome : (unfinished registry currency? (.text uri)).outcome with
  | error cause => exact houtcome
  | ok r =>
      dsimp only
      split
      · rw [Reading.outcome_finish, houtcome]
      · rfl

theorem outcome_attempt_eq_ok_iff :
    (∃ r, (attempt registry currency? (.text uri)).outcome = .ok r) ↔
      Grammatical registry currency? uri ∧ ¬ Overlong registry currency? uri := by
  rw [outcome_attempt, ← exists_ofText?_iff]
  cases h : ofText? registry currency? uri with
  | error cause => simp
  | ok r =>
      rw [← isShown_iff_not_overlong h]
      by_cases hshown : r.isShown = true <;> simp [hshown]

theorem outcome_attempt_eq_unrecorded_iff :
    (attempt registry currency? (.text uri)).outcome = .error .unrecorded ↔
      Overlong registry currency? uri := by
  rw [outcome_attempt]
  cases h : ofText? registry currency? uri with
  | error cause =>
      constructor
      · intro hcause
        obtain rfl := Except.error.inj hcause
        exact absurd (isClean_outcome registry currency? (.text uri) _ h) (by decide)
      · rintro ⟨known?, tokens, hcomposed, -⟩
        obtain ⟨-, -, r, -, -, -, -, -, hr⟩ := isComposed_iff.mp hcomposed
        rw [h] at hr
        contradiction
  | ok r =>
      rw [← not_iff_not, ← isShown_iff_not_overlong h]
      by_cases hshown : r.isShown = true <;> simp [hshown]

/-- Only an amount of a currency with more than 4300 decimal places is too long to be written. -/
theorem HasLongAmount.exists_currency (h : HasLongAmount known? tokens) :
    ∃ c, known? = some c ∧ 4300 < c.exponent := by
  obtain ⟨hknown, -, -, -, -, hlong⟩ := h
  exact ⟨_, hknown, Currency.lt_exponent_of_isLong hlong⟩

/-- A text is accepted exactly when it is grammatical and no amount in it is too long to be
written. Of all other texts exactly those are refused for what cannot be written that are
grammatical but for such an amount, which takes a currency with more than 4300 decimal places.
Were numbers of any length written, exactly the grammatical texts would be accepted. -/
theorem exists_attempt_iff_grammatical (registry : Registry) (currency? : Option Currency)
    (uri : Text) :
    ((∃ r, (attempt registry currency? (.text uri)).outcome = .ok r) ↔
      Grammatical registry currency? uri ∧ ¬ Overlong registry currency? uri) ∧
    ((attempt registry currency? (.text uri)).outcome = .error .unrecorded ↔
      Overlong registry currency? uri) ∧
    (∀ known? tokens, HasLongAmount known? tokens → ∃ c, known? = some c ∧ 4300 < c.exponent) ∧
    ((∃ r, ofText? registry currency? uri = .ok r) ↔ Grammatical registry currency? uri) :=
  ⟨outcome_attempt_eq_ok_iff, outcome_attempt_eq_unrecorded_iff,
    fun _ _ => HasLongAmount.exists_currency, exists_ofText?_iff⟩

/-- A text that asks for half a coin of a currency and says where a full request may be fetched. -/
def halfUri : Text := "minute:?r=u&amount=0.5".toList

theorem isToken_url : IsToken "r=u".toList "r".toList "u".toList := by
  have htoken : IsToken ("r".toList ++ '=' :: "u".toList) (Text.lowercase "r".toList) "u".toList :=
    .intro (by decide) (by decide)
  exact htoken

theorem isToken_half : IsToken "amount=0.5".toList "amount".toList "0.5".toList := by
  have htoken : IsToken ("amount".toList ++ '=' :: "0.5".toList) (Text.lowercase "amount".toList)
      "0.5".toList := .intro (by decide) (by decide)
  exact htoken

theorem isReadable_half (k : Nat) :
    IsReadable (some (Amount.minute (k + 1))) "amount".toList "0.5".toList :=
  .amount rfl Amount.spells_half (Amount.value_mul_half k) (Int.natCast_nonneg _)

theorem isReadable_url : IsReadable known? "r".toList "u".toList :=
  .other (t := "u".toList) (by decide) (by decide) (.char (by decide) (by decide) .nil)

theorem stores_url_iff : Stores "r=u".toList name ↔ name = "r".toList := by
  constructor
  · rintro ⟨value, htoken, -⟩
    exact (htoken.unique isToken_url).1
  · rintro rfl
    exact ⟨_, isToken_url, .inr (by decide)⟩

theorem stores_half_iff : Stores "amount=0.5".toList name ↔ name = "amount".toList := by
  constructor
  · rintro ⟨value, htoken, -⟩
    exact (htoken.unique isToken_half).1
  · rintro rfl
    exact ⟨_, isToken_half, .inl rfl⟩

theorem takenApart_half (c : Currency) (h : c.scheme = "minute".toList) :
    TakenApart registry (some c) halfUri ⟨[c], [], ["r=u".toList, "amount=0.5".toList]⟩ := by
  have hcolon : halfUri = "minute".toList ++ ':' :: "?r=u&amount=0.5".toList := rfl
  have hformed : IsScheme "minute".toList := isScheme_iff.mpr (by decide)
  have hfollows : Follows c.scheme halfUri (withQuery [] (some "r=u&amount=0.5".toList)) := by
    rw [h]
    exact .inr ⟨rfl, by decide⟩
  have htokens : queryTokens (some "r=u&amount=0.5".toList) =
      ["r=u".toList, "amount=0.5".toList] := rfl
  rw [← htokens]
  exact .intro (isLegal_iff.mpr (by decide)) hformed hcolon rfl hfollows (by decide) (by simp)

theorem isComposed_half (k : Nat) :
    IsComposed registry (some (Amount.minute (k + 1))) halfUri (some (Amount.minute (k + 1)))
      ["r=u".toList, "amount=0.5".toList] := by
  refine .intro (takenApart_half _ rfl) .none ⟨?readable, ?distinct, nofun, ?destination⟩
  case readable =>
    exact List.forall_mem_cons.mpr ⟨⟨_, _, isToken_url, isReadable_url⟩,
      List.forall_mem_singleton.mpr ⟨_, _, isToken_half, isReadable_half k⟩⟩
  case distinct =>
    simp only [List.pairwise_cons, List.forall_mem_singleton, stores_url_iff, stores_half_iff]
    simp
  case destination =>
    exact fun _ => ⟨_, List.mem_cons_self, stores_url_iff.mpr rfl⟩

/-- Half a coin of a currency with five thousand decimal places is asked for in a grammatical
text. It is not accepted, since the amount has more digits behind the point than are written. -/
theorem grammatical_unrecorded :
    Grammatical Registry.builtin (some (Amount.minute 5000)) halfUri ∧
      (attempt Registry.builtin (some (Amount.minute 5000)) (.text halfUri)).outcome =
        .error .unrecorded ∧
      ¬ ∃ r, (attempt Registry.builtin (some (Amount.minute 5000)) (.text halfUri)).outcome =
        .ok r := by
  have hlong : ∀ k, Text.maxIntegerDigits ≤ k →
      HasLongAmount (some (Amount.minute (k + 1))) ["r=u".toList, "amount=0.5".toList] := by
    intro k hk
    have hfraction := Amount.isLong_half hk
    rw [← Amount.mod_half] at hfraction
    exact .intro rfl (List.mem_cons_of_mem _ List.mem_cons_self) isToken_half Amount.spells_half
      (Amount.value_mul_half k) hfraction
  have hoverlong : Overlong Registry.builtin (some (Amount.minute 5000)) halfUri :=
    ⟨_, _, isComposed_half 4999, hlong 4999 (by decide)⟩
  refine ⟨⟨_, _, isComposed_half 4999⟩, outcome_attempt_eq_unrecorded_iff.mpr hoverlong, ?_⟩
  exact fun haccepted => (outcome_attempt_eq_ok_iff.mp haccepted).2 hoverlong

end PaymentUri.Request
