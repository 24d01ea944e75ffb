import PaymentUri.Proofs.Canonical
/-!
# What every request that is read guarantees

The names of the fields are chosen by whoever writes the URI, and one list holds values
of every kind. Still a name and the kind of its value fit together: an amount stands
under its own name and no text does, and the name of the address holds a text only
where no address was read. Both are true of what a single field stores, and so of all
that is stored.
-/

namespace PaymentUri

namespace Fields

variable {fields : Fields} {name : Text} {v : FieldValue}

/-- Where no name is stored twice, a lookup finds every field. -/
theorem find?_eq_some (hnodup : (names fields).Nodup) :
    find? fields name = some v ↔ (name, v) ∈ fields := by
  constructor
  · exact mem_of_find?
  · intro h
    obtain ⟨before, after, rfl⟩ := List.append_of_mem h
    have hbefore : name ∉ names before := by
      intro hmem
      rw [names_append] at hnodup
      exact (List.nodup_append.mp hnodup).2.2 name hmem name (by simp) rfl
    rw [find?_append, find?_eq_none.mpr hbefore, Option.none_or, find?_cons, if_pos rfl]

end Fields

namespace Request

variable {registry : Registry} {currency? : Option Currency} {address? : Option Address}
variable {token : Text} {tokens : List Text} {r : Request}

/-- The name of a field is not empty and marks no requirement, and it is that of the
amount only where the value is one. -/
structure IsNamed (f : Text × FieldValue) : Prop where
  nonempty : f.1 ≠ []
  unmarked : ¬ requirementMark <+: f.1
  amount : f.1 = Fields.amountName → ∃ a, f.2 = .amount a

theorem isNamed_address (a : Address) : IsNamed (Fields.addressName, .address a) where
  nonempty := (by decide : Fields.addressName ≠ [])
  unmarked := (by decide : ¬ requirementMark <+: Fields.addressName)
  amount h := absurd h (by decide : Fields.addressName ≠ Fields.amountName)

theorem isNamed_amount (a : Amount) : IsNamed (Fields.amountName, .amount a) where
  nonempty := (by decide : Fields.amountName ≠ [])
  unmarked := (by decide : ¬ requirementMark <+: Fields.amountName)
  amount _ := ⟨a, rfl⟩

theorem IsToken.name_ne_nil {name value : Text} (h : IsToken token name value) : name ≠ [] := by
  obtain ⟨hne, -⟩ := h
  rwa [Ne, Text.lowercase_eq_nil]

theorem Yields.isNamed {new : Fields} (h : Yields currency? token new) :
    ∀ f ∈ new, IsNamed f := by
  obtain ⟨name, value, htoken, hnew⟩ := h
  intro f hf
  cases hnew with
  | amount =>
      obtain rfl := List.mem_singleton.mp hf
      exact isNamed_amount _
  | empty => contradiction
  | text hother hunmarked =>
      obtain rfl := List.mem_singleton.mp hf
      exact ⟨htoken.name_ne_nil, hunmarked, fun h => absurd h hother⟩

theorem isNamed_of_complete? (h : complete? currency? address? tokens = .ok r) :
    ∀ f ∈ r.fields, IsNamed f := by
  refine forall_mem_of_complete? h ?_ Yields.isNamed
  intro f hf
  cases address? with
  | none => contradiction
  | some a =>
      obtain rfl := List.mem_singleton.mp hf
      exact isNamed_address a

/-- A completed request has the address that it was completed with, and no field makes up
for one that is missing. -/
theorem address?_of_complete? (h : complete? currency? address? tokens = .ok r) :
    r.address? = address? := by
  cases address? with
  | none =>
      cases haddress : r.address? with
      | none => rfl
      | some a =>
          have hnone := eq_of_address?_eq_some (isHeld_of_complete? h).2 haddress
          contradiction
  | some a =>
      obtain ⟨stored, -, rfl, -⟩ := complete?_eq_ok.mp h
      rfl

/-- A request without an address says where it may be fetched. -/
theorem url?_of_complete? (h : complete? currency? none tokens = .ok r) :
    r.url?.isSome = true := by
  obtain ⟨-, -, -, -, hdestination⟩ := complete?_eq_ok.mp h
  cases hurl : r.find? Fields.urlName with
  | none => exact absurd (hdestination rfl) (Fields.find?_eq_none.mp hurl)
  | some v =>
      have hheld := (isHeld_of_complete? h).2 _ (Fields.mem_of_find? hurl)
      rw [url?, text?, hurl]
      cases hheld with
      | text => rfl

/-- The text of the address that is settled on stands in the URI as it is. -/
theorem Settles.text_eq {cs : List Currency} {a : Address} (h : Settles cs token (some a)) :
    a.text = token := by
  cases h with
  | first _ _ hread => exact Address.text_of_ofText? hread

/-- What a request guarantees that was read from a URI with the given text in the place
of the address, by a reader who may have been told a currency. -/
structure IsSound (currency? : Option Currency) (token : Text) (r : Request) : Prop where
  nodup_names : (Fields.names r.fields).Nodup
  names : ∀ name ∈ Fields.names r.fields, name ≠ [] ∧ ¬ requirementMark <+: name
  address?_isSome_iff : r.address?.isSome = true ↔ token ≠ []
  /-- The address comes first, settles the currency, and is written in the URI. -/
  address : ∀ a, r.address? = some a →
    r.fields.head? = some (Fields.addressName, .address a) ∧ r.currency = some a.currency ∧
      a.text = token
  /-- Under the name of the amount stands an amount in the currency of the request. -/
  amount : ∀ v, (Fields.amountName, v) ∈ r.fields →
    ∃ a, v = .amount a ∧ r.amount? = some a ∧ 0 ≤ a.units ∧ r.currency = some a.currency
  /-- All other fields hold a text, also one that is named like the missing address. -/
  text : ∀ name v, (name, v) ∈ r.fields → name ≠ Fields.amountName →
    (name = Fields.addressName → r.address? = none) → ∃ t, v = .text t ∧ t ≠ []
  destination : r.address?.isSome = true ∨ r.url?.isSome = true
  currency_eq_none_iff : r.currency = none ↔ token = [] ∧ currency? = none

/-- Fields that were read after an address was settled on make a sound request. -/
theorem isSound_of_complete? {cs : List Currency} (hsettles : Settles cs token address?)
    (h : complete? (settled currency? address?) address? tokens = .ok r) :
    IsSound currency? token r := by
  obtain ⟨hcurrency, hheld⟩ := isHeld_of_complete? h
  have hnamed := isNamed_of_complete? h
  have haddress := address?_of_complete? h
  obtain ⟨stored, -, hr, hnodup, -⟩ := complete?_eq_ok.mp h
  have htoken : address? = none ↔ token = [] := by
    constructor
    · rintro rfl
      exact settles_none.mp hsettles
    · rintro rfl
      exact settles_nil.mp hsettles
  refine ⟨hnodup, ?names, ?isSome, ?address, ?amount, ?text, ?destination, ?currency⟩
  case names =>
    intro name hname
    obtain ⟨f, hf, rfl⟩ := List.mem_map.mp hname
    exact ⟨(hnamed f hf).nonempty, (hnamed f hf).unmarked⟩
  case isSome =>
    rw [haddress, Option.isSome_iff_ne_none, Ne, htoken]
  case address =>
    rintro a ha
    obtain rfl : address? = some a := haddress.symm.trans ha
    refine ⟨?_, hcurrency, hsettles.text_eq⟩
    rw [hr]
    rfl
  case amount =>
    intro v hv
    obtain ⟨a, rfl⟩ : ∃ a, v = .amount a := (hnamed _ hv).amount rfl
    have hfind : r.find? Fields.amountName = some (.amount a) :=
      (Fields.find?_eq_some hnodup).mpr hv
    cases hheld _ hv with
    | amount hknown hsign =>
        refine ⟨a, rfl, ?_, hsign, hcurrency.trans hknown⟩
        rw [amount?, hfind]
  case text =>
    intro name v hv hother hmissing
    cases hheld _ hv with
    | address hgiven =>
        rw [← haddress, hmissing rfl] at hgiven
        contradiction
    | amount => contradiction
    | text hpresent => exact ⟨_, rfl, hpresent⟩
  case destination =>
    rw [haddress]
    cases address? with
    | none => exact .inr (url?_of_complete? h)
    | some a => exact .inl rfl
  case currency =>
    rw [hcurrency, ← htoken]
    cases address? <;> simp [settled]

/-- Whatever is read is sound, in every registry and for every datum. -/
theorem isSound_of_read {uri : Datum} (h : (read registry currency? uri).outcome = .ok r) :
    ∃ t parts, uri = .text t ∧ TakenApart registry currency? t parts ∧
      IsSound currency? parts.address r := by
  cases uri with
  | text t =>
      obtain ⟨parts, address?, happart, hsettles, hcomplete⟩ := ofText?_eq_ok.mp h
      exact ⟨t, parts, rfl, happart, isSound_of_complete? hsettles hcomplete⟩
  | _ => contradiction

/-- An address, an amount, a label and a message are all read from one text. -/
theorem isSound_of_read_zeroAddress :
    ∃ uri t parts r, (read Registry.builtin none (.text uri)).outcome = .ok r ∧
      r.address? = some zeroAddress ∧
      r.amount? = some ⟨zeroAddress.currency, 2030000000, by decide⟩ ∧
      r.label? = some "Tom & Jerry".toList ∧ TakenApart Registry.builtin none t parts ∧
      IsSound none parts.address r := by
  have hamount : ∀ v ∈ some (⟨zeroAddress.currency, 2030000000, by decide⟩ : Amount),
      v.currency = zeroAddress.currency ∧ 0 ≤ v.units ∧ v.IsShort := by
    rintro v ⟨⟩
    exact ⟨rfl, by decide, Amount.isShort_of_exponent_le (by decide)⟩
  have hread := leadsTo_zeroAddress.ofText?_assemble (some "Tom & Jerry".toList)
    (some "cheese".toList) (by decide) hamount
  obtain ⟨t, parts, -, happart, hsound⟩ := isSound_of_read hread
  exact ⟨_, t, parts, _, hread, address?_stating, amount?_stating, label?_stating, happart, hsound⟩

end Request

end PaymentUri
