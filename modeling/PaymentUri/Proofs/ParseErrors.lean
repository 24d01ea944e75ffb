import PaymentUri.Proofs.Reader
/-!
# What escapes a reading

A reading calls on the registry, on addresses, on amounts and on the encoding of
texts, and each of them refuses in its own way. Here all of that is raised as it
is, and only the handlers of the reader turn some of it into refusals of a payment
URI. The reader with raised troubles answers what the reader answers, and what
escapes it is always a refusal of a payment URI. All of this is about readings in
which every number has a text.
-/

namespace PaymentUri.Request

/-- What may be raised while a payment URI is read. -/
inductive Trouble where
  /-- By the reader itself, or by the amount in a field. -/
  | refusal (cause : Refusal)
  | registry (cause : Registry.Refusal)
  | address (cause : Address.Refusal)
  /-- The octets of a value encode no text. -/
  | encoding
  /-- The first of no elements is asked for. -/
  | noFirst

/-- The trouble is one of a payment URI. -/
def Trouble.isParseError : Trouble → Bool
  | .refusal cause => cause.isParseError
  | _ => false

/-- A step with a handler. Trouble that the handler does not take is raised again. -/
def handled {α : Type} (x : Except Trouble α) (handler : Trouble → Option (Except Trouble α)) :
    Except Trouble α :=
  match x with
  | .ok a => .ok a
  | .error e => (handler e).getD (.error e)

namespace Raising

/-- The currencies to try and the scheme of the first of them. That the registry knows
none is handled. -/
def candidates (registry : Registry) (currency? : Option Currency) (scheme : Text) :
    Except Trouble (List Currency × Text) :=
  match currency? with
  | some c => .ok ([c], c.scheme)
  | none => do
    let cs ← handled ((registry.ofScheme scheme).mapError .registry) fun
      | .registry (.unclaimedScheme _) => some (.error (.refusal (.unsupportedScheme scheme)))
      | .registry (.unknownCurrency _) => some (.error (.refusal (.unsupportedScheme scheme)))
      | _ => none
    match cs with
    | [] => .error .noFirst
    | c :: _ => .ok (cs, c.scheme)

def split (uri rest : Text) : Except Trouble (Text × List Text) :=
  match rest.splitOn '?' with
  | [] => .error .noFirst
  | [address] => .ok (address, [])
  | [address, query] => .ok (address, if query = [] then [] else query.splitOn '&')
  | _ => .error (.refusal (.malformed (.tooManyQueries uri)))

/-- The address that a text states: its version and payload are checked, and checked once
more when the address is made. -/
def decode (c : Currency) (t : Text) : Except Trouble Address :=
  match Address.contents? t with
  | .error cause => .error (.address cause)
  | .ok (version, payload) =>
    if version ∉ c.versions then .error (.address (.foreignVersion c.id))
    else if payload.length ≠ 20 then .error (.address .payloadLength)
    else (Address.ofVersion? c version.toNat payload).mapError .address

/-- The address of the first candidate. Trouble with an address is handled by trying the
next one. -/
def resolve (t : Text) : List Currency → Except Trouble Address
  | [] => .error (.refusal (.invalidAddress t))
  | c :: cs => handled (decode c t) fun
    | .address _ => some (resolve t cs)
    | _ => none

def decodeValue (value : Text) : Except Trouble Text :=
  match Text.percentDecode? value with
  | some t => .ok t
  | none => .error .encoding

/-- The fields with one more. Trouble with the encoding is handled, trouble with an amount
is not. -/
def addField (known? : Option Currency) (fields : Fields) (name value : Text) :
    Except Trouble Fields :=
  if name = Fields.amountName then do
    let a ← (amountField? known? value).mapError .refusal
    (putField? fields name (.amount a)).mapError .refusal
  else if requirementMark.isPrefixOf name then .error (.refusal (.unknownRequirement name))
  else if value = [] then .ok fields
  else do
    let t ← handled (decodeValue value) fun
      | .encoding => some (.error (.refusal (.malformed (.notUtf8 name))))
      | _ => none
    (putField? fields name (.text t)).mapError .refusal

def addTokens (known? : Option Currency) : Fields → List Text → Except Trouble Fields
  | fields, [] => .ok fields
  | fields, token :: tokens => do
    let (name, value) ← (splitToken? token).mapError fun fault => .refusal (.malformed fault)
    let fields' ← addField known? fields name value
    addTokens known? fields' tokens

def complete (known? : Option Currency) (address? : Option Address) (tokens : List Text) :
    Except Trouble Request := do
  let fields ← addTokens known? (addressFields address?) tokens
  if address?.isNone ∧ (fields.find? Fields.urlName).isNone then .error (.refusal .noDestination)
  else .ok ⟨known?, fields⟩

def ofUri (registry : Registry) (currency? : Option Currency) (uri : Text) :
    Except Trouble Parts := do
  let scheme ← (schemeOf? uri).mapError fun fault => .refusal (.malformed fault)
  let (cs, prefixed) ← candidates registry currency? scheme
  match withoutScheme? prefixed uri with
  | none => .error (.refusal (.unsupportedScheme scheme))
  | some rest => do
    let (address, tokens) ← split uri rest
    return ⟨cs, address, tokens⟩

def ofParts (currency? : Option Currency) (parts : Parts) : Except Trouble Request :=
  if parts.address = [] then complete currency? none parts.tokens
  else do
    let a ← resolve parts.address parts.candidates
    complete (some a.currency) (some a) parts.tokens

def read (registry : Registry) (currency? : Option Currency) : Datum → Except Trouble Request
  | .text t => do
    let parts ← ofUri registry currency? t
    ofParts currency? parts
  | _ => .error (.refusal (.malformed .notText))

/-- The datum states a payment request. Only trouble of a payment URI is handled. -/
def isRequest (registry : Registry) (currency? : Option Currency) (uri : Datum) :
    Except Trouble Bool :=
  handled ((read registry currency? uri).map fun _ => true) fun e =>
    if e.isParseError then some (.ok false) else none

end Raising

section Simulation

variable {α β : Type} {known? : Option Currency} {fields : Fields} {tokens : List Text}

theorem mapError_bind (x : Except Refusal α) (f : α → Except Refusal β) :
    (x >>= f).mapError Trouble.refusal =
      x.mapError Trouble.refusal >>= fun a => (f a).mapError Trouble.refusal := by
  cases x <;> rfl

namespace Raising

theorem candidates_eq (registry : Registry) (currency? : Option Currency) (scheme : Text) :
    candidates registry currency? scheme =
      (Parts.candidates? registry currency? scheme).mapError .refusal := by
  cases currency? with
  | some c => rfl
  | none =>
      rw [candidates, Parts.candidates?, Registry.ofScheme]
      cases registry.claiming scheme <;> rfl

theorem split_eq (uri rest : Text) :
    split uri rest = (Parts.splitRest? uri rest).mapError .refusal := by
  rw [split, Parts.splitRest?]
  rcases h : rest.splitOn '?' with _ | ⟨address, _ | ⟨query, _ | ⟨more, others⟩⟩⟩
  · exact absurd h (List.splitOn_ne_nil '?' rest)
  all_goals rfl

/-- An octet that is one of the versions makes an address with every hash: making it checks
nothing that was not checked before. -/
theorem ofVersion?_eq_ok {c : Currency} {version : UInt8} {hash : List UInt8}
    (hversion : version ∈ c.versions) (hhash : hash.length = 20) :
    Address.ofVersion? c version.toNat hash = .ok ⟨c, version, hash, hversion, hhash⟩ := by
  have hfind : c.versions.find? (fun v => (v.toNat : Int) == version.toNat) = some version := by
    have hsame : (fun v : UInt8 => (v.toNat : Int) == version.toNat) = (· == version) := by
      funext v
      rw [Bool.eq_iff_iff, beq_iff_eq, beq_iff_eq, Int.natCast_inj, UInt8.toNat_inj]
    rw [hsame]
    cases hv : c.versions.find? (· == version) with
    | none => exact absurd (beq_self_eq_true version) (List.find?_eq_none.mp hv version hversion)
    | some v =>
        have heq := List.find?_some hv
        rw [beq_iff_eq.mp heq]
  rw [Address.ofVersion?]
  split
  · next hnone => rw [hfind] at hnone; contradiction
  · next v hsome =>
      obtain rfl : version = v := Option.some.inj (hfind.symm.trans hsome)
      rw [dif_pos hversion, dif_pos hhash]

theorem decode_eq (c : Currency) (t : Text) :
    decode c t = (Address.ofText? c t).mapError .address := by
  rw [decode, Address.ofText?]
  cases Address.contents? t with
  | error cause => rfl
  | ok contents =>
      obtain ⟨version, hash⟩ := contents
      dsimp only
      rw [Address.ofContents?]
      by_cases hversion : version ∈ c.versions
      · by_cases hhash : hash.length = 20
        · rw [if_neg (not_not_intro hversion), if_neg (not_not_intro hhash), dif_pos hversion,
            dif_pos hhash, ofVersion?_eq_ok hversion hhash]
        · rw [if_neg (not_not_intro hversion), if_pos hhash, dif_pos hversion, dif_neg hhash]
          rfl
      · rw [if_pos hversion, dif_neg hversion]
        rfl

/-- The search raises nothing but that no candidate accepts the text. -/
theorem resolve_eq (t : Text) (cs : List Currency) :
    resolve t cs = match (resolve? t cs).1 with
      | some a => .ok a
      | none => .error (.refusal (.invalidAddress t)) := by
  induction cs with
  | nil => rfl
  | cons c cs ih =>
      rw [resolve, resolve?, decode_eq]
      cases Address.ofText? c t with
      | ok a => rfl
      | error cause => exact ih

theorem addField_eq (name value : Text) :
    addField known? fields name value =
      (addField? known? fields name value).mapError .refusal := by
  rw [addField, addField?]
  split
  · exact (mapError_bind _ _).symm
  · split
    · rfl
    · split
      · rfl
      · rw [decodeValue]
        cases Text.percentDecode? value <;> rfl

theorem addTokens_eq (tokens : List Text) :
    addTokens known? fields tokens = (addTokens? known? fields tokens).mapError .refusal := by
  induction tokens generalizing fields with
  | nil => rfl
  | cons token tokens ih =>
      rw [addTokens, addTokens?, addToken?]
      cases splitToken? token with
      | error fault => rfl
      | ok pair =>
          obtain ⟨name, value⟩ := pair
          change addField known? fields name value >>= (addTokens known? · tokens) = _
          rw [addField_eq]
          dsimp only
          cases addField? known? fields name value with
          | error cause => rfl
          | ok fields' => exact ih

theorem complete_eq (address? : Option Address) :
    complete known? address? tokens = (complete? known? address? tokens).mapError .refusal := by
  rw [complete, addTokens_eq, complete?_eq]
  cases addTokens? known? (addressFields address?) tokens with
  | error cause => rfl
  | ok fields =>
      change (if _ then _ else _) = Except.mapError Trouble.refusal (if _ then _ else _)
      split <;> rfl

theorem ofUri_eq (registry : Registry) (currency? : Option Currency) (uri : Text) :
    ofUri registry currency? uri = (Parts.ofUri? registry currency? uri).mapError .refusal := by
  rw [ofUri, Parts.ofUri?]
  cases schemeOf? uri with
  | error fault => rfl
  | ok scheme =>
      change candidates registry currency? scheme >>= _ =
        Except.mapError _ (Parts.candidates? registry currency? scheme >>= _)
      rw [candidates_eq, mapError_bind]
      apply bind_congr
      rintro ⟨cs, prefixed⟩
      dsimp only
      cases withoutScheme? prefixed uri with
      | none => rfl
      | some rest =>
          dsimp only
          rw [split_eq, mapError_bind]
          rfl

theorem ofParts_eq (currency? : Option Currency) (parts : Parts) :
    ofParts currency? parts = (Request.ofParts currency? parts).outcome.mapError .refusal := by
  rw [ofParts, Request.ofParts]
  split
  · exact complete_eq none
  · rw [resolve_eq]
    dsimp only
    cases (resolve? parts.address parts.candidates).1 with
    | none => rfl
    | some a => exact complete_eq (some a)

/-- The reader with raised troubles answers what the reader answers. -/
theorem read_eq (registry : Registry) (currency? : Option Currency) (uri : Datum) :
    read registry currency? uri =
      (Request.read registry currency? uri).outcome.mapError .refusal := by
  rw [Request.read, Reading.outcome_finish]
  cases uri with
  | text t =>
      rw [read, unfinished, ofUri_eq]
      cases Parts.ofUri? registry currency? t with
      | error cause => rfl
      | ok parts => exact ofParts_eq currency? parts
  | _ => rfl

end Raising

/-- Whatever is refused, it is refused as a payment URI. -/
def IsClean (x : Except Refusal α) : Prop := ∀ cause, x = .error cause → cause.isParseError = true

theorem isClean_ok (a : α) : IsClean (.ok a) := by
  rintro cause ⟨⟩

theorem isClean_error {cause : Refusal} (h : cause.isParseError = true) :
    IsClean (.error cause : Except Refusal α) := by
  rintro cause' ⟨⟩
  exact h

theorem IsClean.bind {x : Except Refusal α} {f : α → Except Refusal β} (hx : IsClean x)
    (hf : ∀ a, IsClean (f a)) : IsClean (x >>= f) := by
  cases x with
  | error cause => exact isClean_error (hx cause rfl)
  | ok a => exact hf a

/-- No amount in a field is refused for its range: the digits of a numeral are bounded. -/
theorem isClean_amountField? (known? : Option Currency) (value : Text) :
    IsClean (amountField? known? value) := by
  cases known? with
  | none => exact isClean_error rfl
  | some c =>
      rw [amountField?]
      rcases Amount.ofText?_cases c value with ⟨-, h⟩ | ⟨-, -, -, h⟩ | ⟨-, a, -, -, -, -, h⟩
      · rw [h]
        exact isClean_error rfl
      · rw [h]
        exact isClean_error rfl
      · rw [h]
        dsimp only
        split
        · exact isClean_error rfl
        · exact isClean_ok a

theorem isClean_putField? (fields : Fields) (name : Text) (v : FieldValue) :
    IsClean (putField? fields name v) := by
  rw [putField?]
  split
  · exact isClean_ok _
  · exact isClean_error rfl

theorem isClean_addField? (name value : Text) :
    IsClean (addField? known? fields name value) := by
  rw [addField?]
  split
  · exact (isClean_amountField? known? value).bind fun a => isClean_putField? fields name _
  · split
    · exact isClean_error rfl
    · split
      · exact isClean_ok fields
      · split
        · exact isClean_putField? fields name _
        · exact isClean_error rfl

theorem isClean_addToken? (token : Text) : IsClean (addToken? known? fields token) := by
  rw [addToken?]
  split
  · exact isClean_error rfl
  · exact isClean_addField? _ _

theorem isClean_addTokens? (tokens : List Text) : IsClean (addTokens? known? fields tokens) := by
  induction tokens generalizing fields with
  | nil => exact isClean_ok fields
  | cons token tokens ih =>
      rw [addTokens?]
      split
      · next cause hcause => exact isClean_error (isClean_addToken? token cause hcause)
      · exact ih

theorem isClean_complete? (address? : Option Address) :
    IsClean (complete? known? address? tokens) := by
  rw [complete?_eq]
  split
  · next cause hcause => exact isClean_error (isClean_addTokens? tokens cause hcause)
  · split
    · exact isClean_error rfl
    · exact isClean_ok _

theorem isClean_ofUri? (registry : Registry) (currency? : Option Currency) (uri : Text) :
    IsClean (Parts.ofUri? registry currency? uri) := by
  have hcandidates : ∀ scheme, IsClean (Parts.candidates? registry currency? scheme) := by
    intro scheme
    rw [candidates?_eq]
    split
    · exact isClean_error rfl
    · exact isClean_ok _
  have hsplit : ∀ rest, IsClean (Parts.splitRest? uri rest) := by
    intro rest
    rw [Parts.splitRest?]
    split
    · exact isClean_ok _
    · exact isClean_ok _
    · exact isClean_ok _
    · exact isClean_error rfl
  rw [Parts.ofUri?]
  split
  · exact isClean_error rfl
  · apply (hcandidates _).bind
    rintro ⟨cs, prefixed⟩
    dsimp only
    split
    · exact isClean_error rfl
    · exact (hsplit _).bind fun parted => isClean_ok _

theorem isClean_outcome (registry : Registry) (currency? : Option Currency) (uri : Datum) :
    IsClean (read registry currency? uri).outcome := by
  rw [read, Reading.outcome_finish]
  cases uri with
  | text t =>
      rw [unfinished]
      dsimp only
      split
      · next cause hcause => exact isClean_error (isClean_ofUri? registry currency? t cause hcause)
      · next parts hparts =>
          rw [ofParts]
          split
          · exact isClean_complete? none
          · dsimp only
            split
            · exact isClean_error rfl
            · next a _ => exact isClean_complete? (some a)
  | _ => exact isClean_error rfl

/-- Nothing but refusals of a payment URI escapes a reading, whatever the registry, the
currency and the datum; asking whether a datum states a payment request therefore always
answers, and it answers yes exactly when the reading succeeds. -/
theorem escaping_isParseError (registry : Registry) (currency? : Option Currency) (uri : Datum) :
    (∀ e, Raising.read registry currency? uri = .error e → e.isParseError = true) ∧
      Raising.read registry currency? uri =
        (read registry currency? uri).outcome.mapError .refusal ∧
      Raising.isRequest registry currency? uri = .ok (isRequest registry currency? uri) ∧
      (isRequest registry currency? uri = true ↔
        ∃ r, Raising.read registry currency? uri = .ok r) := by
  have hclean := isClean_outcome registry currency? uri
  rw [Raising.isRequest, Raising.read_eq, isRequest]
  cases h : (read registry currency? uri).outcome with
  | error cause =>
      have hparse : (Trouble.refusal cause).isParseError = true := hclean cause h
      refine ⟨?_, rfl, ?_, ?_⟩
      · rintro e ⟨⟩
        exact hparse
      · change (if (Trouble.refusal cause).isParseError then _ else _ : Option _).getD _ = _
        rw [if_pos hparse]
        rfl
      · constructor
        · intro hok
          contradiction
        · rintro ⟨r, hr⟩
          contradiction
  | ok r =>
      refine ⟨?_, rfl, rfl, ?_⟩
      · rintro e ⟨⟩
      · exact ⟨fun _ => ⟨r, rfl⟩, fun _ => rfl⟩

end Simulation

end PaymentUri.Request
