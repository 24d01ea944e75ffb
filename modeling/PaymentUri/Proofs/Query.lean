import Mathlib.Data.List.Forall2
import PaymentUri.Proofs.Amount
import PaymentUri.Proofs.Parts
import PaymentUri.Request.Reader
/-!
# What the fields of a payment URI store

Reading a field either stores one value under a name that is free or stores
nothing. A list of fields is therefore read exactly when each of them can be read
on its own and no name is stored twice, and what is stored stands in the order of
the fields.
-/

namespace PaymentUri

namespace Fields

def names (fields : Fields) : List Text := fields.map Prod.fst

@[simp] theorem names_nil : names [] = [] := rfl

@[simp] theorem names_cons (f : Text × FieldValue) (fields : Fields) :
    names (f :: fields) = f.1 :: names fields := rfl

@[simp] theorem names_append (fields more : Fields) :
    names (fields ++ more) = names fields ++ names more := List.map_append

theorem find?_cons (f : Text × FieldValue) (fields : Fields) (name : Text) :
    find? (f :: fields) name = if name = f.1 then some f.2 else find? fields name := by
  obtain ⟨n, v⟩ := f
  rw [find?, List.lookup_cons]
  by_cases h : name = n
  · simp [h]
  · simp [h, beq_eq_false_iff_ne.mpr h, find?]

theorem mem_of_find? {fields : Fields} {name : Text} {v : FieldValue}
    (h : find? fields name = some v) : (name, v) ∈ fields := by
  obtain ⟨before, after, rfl, -⟩ := List.lookup_eq_some_iff.mp h
  exact List.mem_append_right before List.mem_cons_self

theorem find?_eq_none {fields : Fields} {name : Text} :
    find? fields name = none ↔ name ∉ names fields := by
  rw [find?, List.lookup_eq_none_iff, names, List.mem_map]
  constructor
  · rintro h ⟨f, hf, rfl⟩
    simpa using h f hf
  · intro h f hf
    rw [bne_iff_ne]
    rintro rfl
    exact h ⟨f, hf, rfl⟩

end Fields

namespace Request

variable {currency? : Option Currency} {fields fields' : Fields} {token name value : Text}

/-- The token is a name, an equals sign and a value. The name counts in lower case. -/
inductive IsToken : Text → Text → Text → Prop
  | intro {raw value : Text} (hne : raw ≠ []) (hfree : '=' ∉ raw) :
      IsToken (raw ++ '=' :: value) (Text.lowercase raw) value

theorem splitToken?_eq_ok : splitToken? token = .ok (name, value) ↔ IsToken token name value := by
  constructor
  · intro h
    rw [splitToken?] at h
    split at h
    · contradiction
    · contradiction
    · next raw rest hempty hcut =>
        obtain ⟨rfl, rfl⟩ := Prod.mk.inj (Except.ok.inj h)
        obtain ⟨rfl, hfree⟩ := Text.cut?_eq_some hcut
        exact .intro hempty hfree
  · rintro ⟨hne, hfree⟩
    next raw =>
      obtain ⟨c, cs, rfl⟩ := List.exists_cons_of_ne_nil hne
      simp only [splitToken?, Text.cut?_append hfree]

theorem IsToken.unique {name' value' : Text} (h : IsToken token name value)
    (h' : IsToken token name' value') : name = name' ∧ value = value' := by
  have heq := (splitToken?_eq_ok.mpr h).symm.trans (splitToken?_eq_ok.mpr h')
  exact Prod.mk.inj (Except.ok.inj heq)

/-- What a field of a name and a value stores. -/
inductive Contributes (currency? : Option Currency) : Text → Text → Fields → Prop
  | amount {value : Text} {c : Currency} {a : Amount} (known : currency? = some c)
      (read : Amount.ofText? c value = .ok a) (sign : 0 ≤ a.units) :
      Contributes currency? Fields.amountName value [(Fields.amountName, .amount a)]
  | empty {name : Text} (other : name ≠ Fields.amountName) (free : ¬ requirementMark <+: name) :
      Contributes currency? name [] []
  | text {name value t : Text} (other : name ≠ Fields.amountName)
      (free : ¬ requirementMark <+: name) (present : value ≠ [])
      (decoded : Text.percentDecode? value = some t) :
      Contributes currency? name value [(name, .text t)]

/-- The name under which something is stored is that of the field. -/
theorem Contributes.eq_of_mem_names {new : Fields} (h : Contributes currency? name value new)
    {n : Text} : n ∈ Fields.names new ↔ n = name ∧ (name = Fields.amountName ∨ value ≠ []) := by
  cases h with
  | amount => simp
  | empty other => simp [other]
  | text other free present => simp [present]

theorem Contributes.nodup_names {new : Fields} (h : Contributes currency? name value new) :
    (Fields.names new).Nodup := by
  cases h <;> simp

theorem putField?_eq_ok {v : FieldValue} :
    putField? fields name v = .ok fields' ↔
      name ∉ Fields.names fields ∧ fields' = fields ++ [(name, v)] := by
  rw [← Fields.find?_eq_none, ← Fields.put?_eq_some]
  rw [putField?]
  cases fields.put? name v <;> simp

theorem amountField?_eq_ok {a : Amount} :
    amountField? currency? value = .ok a ↔
      ∃ c, currency? = some c ∧ Amount.ofText? c value = .ok a ∧ 0 ≤ a.units := by
  cases currency? with
  | none => simp [amountField?]
  | some c =>
      simp only [amountField?, Option.some.injEq, exists_eq_left']
      cases Amount.ofText? c value with
      | error cause => simp
      | ok b =>
          by_cases hneg : b.units < 0
          · simp only [hneg, if_true, reduceCtorEq, Except.ok.injEq, false_iff]
            rintro ⟨rfl, hsign⟩
            omega
          · simp only [hneg, if_false, Except.ok.injEq]
            constructor
            · rintro rfl
              exact ⟨rfl, Int.not_lt.mp hneg⟩
            · exact fun h => h.1

theorem addField?_eq_ok :
    addField? currency? fields name value = .ok fields' ↔
      ∃ new, Contributes currency? name value new ∧ fields' = fields ++ new ∧
        ∀ n ∈ Fields.names new, n ∉ Fields.names fields := by
  rw [addField?]
  constructor
  · intro h
    split at h
    · next hamount =>
        obtain ⟨a, ha, hput⟩ := bind_eq_ok.mp h
        obtain ⟨c, hknown, hread, hsign⟩ := amountField?_eq_ok.mp ha
        obtain ⟨hfree, rfl⟩ := putField?_eq_ok.mp hput
        subst hamount
        exact ⟨_, .amount hknown hread hsign, rfl, by simpa using hfree⟩
    · next hother =>
        split at h
        · contradiction
        · next hmark =>
            rw [List.isPrefixOf_iff_prefix] at hmark
            split at h
            · next hempty =>
                obtain rfl := Except.ok.inj h
                subst hempty
                exact ⟨[], .empty hother hmark, by simp, by simp⟩
            · next hpresent =>
                split at h
                · next t ht =>
                    obtain ⟨hfree, rfl⟩ := putField?_eq_ok.mp h
                    exact ⟨_, .text hother hmark hpresent ht, rfl, by simpa using hfree⟩
                · contradiction
  · rintro ⟨new, hnew, rfl, hfree⟩
    cases hnew with
    | amount hknown hread hsign =>
        rw [if_pos rfl]
        refine bind_eq_ok.mpr ⟨_, amountField?_eq_ok.mpr ⟨_, hknown, hread, hsign⟩, ?_⟩
        exact putField?_eq_ok.mpr ⟨hfree _ (by simp), rfl⟩
    | empty hother hmark =>
        rw [if_neg hother, if_neg (mt List.isPrefixOf_iff_prefix.mp hmark), if_pos rfl,
          List.append_nil]
    | text hother hmark hpresent hdecoded =>
        rw [if_neg hother, if_neg (mt List.isPrefixOf_iff_prefix.mp hmark), if_neg hpresent,
          hdecoded]
        exact putField?_eq_ok.mpr ⟨hfree _ (by simp), rfl⟩

/-- What a field stores as it is written. -/
def Yields (currency? : Option Currency) (token : Text) (new : Fields) : Prop :=
  ∃ name value, IsToken token name value ∧ Contributes currency? name value new

theorem addToken?_eq_ok :
    addToken? currency? fields token = .ok fields' ↔
      ∃ new, Yields currency? token new ∧ fields' = fields ++ new ∧
        ∀ n ∈ Fields.names new, n ∉ Fields.names fields := by
  rw [addToken?]
  constructor
  · intro h
    split at h
    · contradiction
    · next name value hsplit =>
        obtain ⟨new, hnew, heq, hfree⟩ := addField?_eq_ok.mp h
        exact ⟨new, ⟨name, value, splitToken?_eq_ok.mp hsplit, hnew⟩, heq, hfree⟩
  · rintro ⟨new, ⟨name, value, htoken, hnew⟩, heq, hfree⟩
    rw [splitToken?_eq_ok.mpr htoken]
    exact addField?_eq_ok.mpr ⟨new, hnew, heq, hfree⟩

/-- Fields are read in order exactly when each of them stores something or nothing and
no name is stored twice. -/
theorem addTokens?_eq_ok {tokens : List Text} (hstart : (Fields.names fields).Nodup) :
    addTokens? currency? fields tokens = .ok fields' ↔
      ∃ stored : List Fields, List.Forall₂ (Yields currency?) tokens stored ∧
        fields' = fields ++ stored.flatten ∧ (Fields.names fields').Nodup := by
  induction tokens generalizing fields with
  | nil =>
      rw [addTokens?_nil]
      constructor
      · intro h
        obtain rfl := Except.ok.inj h
        exact ⟨[], .nil, by simp, hstart⟩
      · rintro ⟨stored, ⟨⟩, rfl, -⟩
        simp
  | cons token tokens ih =>
      constructor
      · intro h
        rw [addTokens?] at h
        split at h
        · contradiction
        · next mid hmid =>
            obtain ⟨new, hnew, rfl, hfree⟩ := addToken?_eq_ok.mp hmid
            have hnodup : (Fields.names (fields ++ new)).Nodup := by
              obtain ⟨_, _, _, hcontributes⟩ := hnew
              rw [Fields.names_append]
              refine List.nodup_append.mpr ⟨hstart, hcontributes.nodup_names, ?_⟩
              rintro n hn m hm rfl
              exact hfree n hm hn
            obtain ⟨stored, hstored, heq, hdistinct⟩ := (ih hnodup).mp h
            exact ⟨new :: stored, .cons hnew hstored, by simp [heq], hdistinct⟩
      · rintro ⟨stored, hstored, rfl, hdistinct⟩
        cases hstored with
        | cons hnew hrest =>
            next new stored =>
              have heq : fields ++ (new :: stored).flatten = fields ++ new ++ stored.flatten := by
                simp
              have hnodup : (Fields.names (fields ++ new)).Nodup := by
                rw [heq, Fields.names_append] at hdistinct
                exact (List.nodup_append.mp hdistinct).1
              have hfree : ∀ n ∈ Fields.names new, n ∉ Fields.names fields := by
                rw [Fields.names_append] at hnodup
                intro n hn hmem
                exact (List.nodup_append.mp hnodup).2.2 n hmem n hn rfl
              rw [addTokens?, addToken?_eq_ok.mpr ⟨new, hnew, rfl, hfree⟩]
              exact (ih hnodup).mpr ⟨stored, hrest, heq, hdistinct⟩

def addressFields : Option Address → Fields
  | none => []
  | some a => [(Fields.addressName, .address a)]

theorem complete?_eq (address? : Option Address) (tokens : List Text) :
    complete? currency? address? tokens =
      match addTokens? currency? (addressFields address?) tokens with
      | .error cause => .error cause
      | .ok fields =>
        if address?.isNone ∧ (fields.find? Fields.urlName).isNone then .error .noDestination
        else .ok ⟨currency?, fields⟩ := by
  cases address? <;> rfl

theorem complete?_eq_ok {address? : Option Address} {tokens : List Text} {r : Request} :
    complete? currency? address? tokens = .ok r ↔
      ∃ stored : List Fields, List.Forall₂ (Yields currency?) tokens stored ∧
        r = ⟨currency?, addressFields address? ++ stored.flatten⟩ ∧
        (Fields.names r.fields).Nodup ∧
        (address? = none → Fields.urlName ∈ Fields.names r.fields) := by
  have hstart : (Fields.names (addressFields address?)).Nodup := by
    cases address? <;> simp [addressFields]
  rw [complete?_eq]
  constructor
  · intro h
    split at h
    · contradiction
    · next fields hfields =>
        obtain ⟨stored, hstored, rfl, hdistinct⟩ := (addTokens?_eq_ok hstart).mp hfields
        split at h
        · contradiction
        · next hdestination =>
            obtain rfl := Except.ok.inj h
            refine ⟨stored, hstored, rfl, hdistinct, ?_⟩
            rintro rfl
            by_contra hurl
            exact hdestination ⟨rfl, Option.isNone_iff_eq_none.mpr (Fields.find?_eq_none.mpr hurl)⟩
  · rintro ⟨stored, hstored, rfl, hdistinct, hdestination⟩
    have hfields := (addTokens?_eq_ok hstart).mpr ⟨stored, hstored, rfl, hdistinct⟩
    rw [hfields]
    apply if_neg
    rintro ⟨hnone, hurl⟩
    rw [Option.isNone_iff_eq_none] at hnone hurl
    exact Fields.find?_eq_none.mp hurl (hdestination hnone)

/-- What a request in a known currency may hold: its address, an amount of that currency
which can be printed and read again, and texts that are not empty. -/
inductive IsHeld (currency? : Option Currency) (address? : Option Address) :
    Text × FieldValue → Prop
  | address {a : Address} (given : address? = some a) :
      IsHeld currency? address? (Fields.addressName, .address a)
  | amount {a : Amount} (known : currency? = some a.currency) (sign : 0 ≤ a.units)
      (short : a.IsShort) : IsHeld currency? address? (Fields.amountName, .amount a)
  | text {name t : Text} (present : t ≠ []) : IsHeld currency? address? (name, .text t)

theorem Yields.isHeld {new : Fields} {address? : Option Address}
    (h : Yields currency? token new) : ∀ f ∈ new, IsHeld currency? address? f := by
  obtain ⟨name, value, -, hnew⟩ := h
  intro f hf
  cases hnew with
  | amount hknown hread hsign =>
      obtain rfl := List.mem_singleton.mp hf
      obtain ⟨rfl, -⟩ := Amount.ofText?_eq_ok.mp hread
      exact .amount hknown hsign (Amount.isShort_of_ofText? hread)
  | empty => contradiction
  | text _ _ hpresent hdecoded =>
      obtain rfl := List.mem_singleton.mp hf
      exact .text (Text.ne_nil_of_percentDecode? hpresent hdecoded)

/-- What is true of the address and of everything that a field stores is true of all that
a completed request holds. -/
theorem forall_mem_of_complete? {P : Text × FieldValue → Prop} {address? : Option Address}
    {tokens : List Text} {r : Request} (h : complete? currency? address? tokens = .ok r)
    (haddress : ∀ f ∈ addressFields address?, P f)
    (hyields : ∀ {token new}, Yields currency? token new → ∀ f ∈ new, P f) :
    ∀ f ∈ r.fields, P f := by
  obtain ⟨stored, hstored, rfl, -⟩ := complete?_eq_ok.mp h
  refine List.forall_mem_append.mpr ⟨haddress, ?_⟩
  clear h
  induction hstored with
  | nil => simp
  | cons hnew _ ih =>
      rw [List.flatten_cons]
      exact List.forall_mem_append.mpr ⟨hyields hnew, ih⟩

/-- A completed request holds nothing else, whatever fields it was read from. -/
theorem isHeld_of_complete? {address? : Option Address} {tokens : List Text} {r : Request}
    (h : complete? currency? address? tokens = .ok r) :
    r.currency = currency? ∧ ∀ f ∈ r.fields, IsHeld currency? address? f := by
  constructor
  · obtain ⟨stored, -, rfl, -⟩ := complete?_eq_ok.mp h
    rfl
  · refine forall_mem_of_complete? h ?_ Yields.isHeld
    intro f hf
    cases address? with
    | none => contradiction
    | some a =>
        obtain rfl := List.mem_singleton.mp hf
        exact .address rfl

end Request

end PaymentUri
