import PaymentUri.Session.Command
import PaymentUri.Session.Failure
/-!
# Steps of a session

A step answers one command, or fails, and leaves a state. A failing step leaves
one too: what it did before it failed stays done. What a command refers to is
looked up in the order in which the command names it, and the first refusal is
the failure.
-/

namespace PaymentUri.Session

abbrev Result := Except Failure Answer

namespace CurrencyRef

/-- The currency that is referred to, if any is. -/
def get? (r : Registry) : CurrencyRef → Except Failure (Option Currency)
  | .absent => .ok none
  | .registered id => ((r.get id).mapError .registry).map some
  | .described id name symbol scheme exponent keyVersion scriptVersion =>
    ((Currency.ofParts? id name symbol scheme exponent keyVersion scriptVersion).mapError
      .currency).map some

/-- The currency that is referred to, of which a part is asked for. -/
def get (part : String) (r : Registry) (c : CurrencyRef) : Except Failure Currency := do
  match ← c.get? r with
  | some c => return c
  | none => throw (.noCurrency part)

end CurrencyRef

/-- A currency, if there is one after all, of which a part is asked for. -/
def needed (part : String) : Option Currency → Except Failure Currency
  | some c => .ok c
  | none => .error (.noCurrency part)

namespace AmountRef

/-- The amount of a number of units that may be a datum of any kind. That it is a
whole number is seen before the currency is needed. -/
def ofUnits (c? : Option Currency) (d : Datum) : Except Failure Amount := do
  match c?, d with
  | none, .whole _ => throw (.noCurrency "unit_exponent")
  | none, _ => throw (.amount .notWhole)
  | some c, d => (Amount.ofUnitsDatum? c d).mapError .amount

/-- The amount that a datum states in whole coins. That it is a numeral is seen
before the currency is needed. -/
def ofWritten (c? : Option Currency) (d : Datum) : Except Failure Amount :=
  match c? with
  | some c => (Amount.ofDatum? c d).mapError .amount
  | none =>
    if Amount.isNumeral d then .error (.noCurrency "unit_exponent")
    else .error (.amount (Amount.refusalOf d))

/-- The amount that is referred to. -/
def get (r : Registry) : AmountRef → Except Failure Amount
  | .counted c t => do
    let c? ← c.get? r
    let n ← (Text.integer? t).mapError .integer
    ofUnits c? (.whole n)
  | .units c d => do ofUnits (← c.get? r) d
  | .written c d => do ofWritten (← c.get? r) d

end AmountRef

namespace AddressRef

/-- The address that is referred to. -/
def get (r : Registry) : AddressRef → Except Failure Address
  | .written c d => do
    let c? ← c.get? r
    let (version, payload) ← (Address.textOf? d >>= Address.contents?).mapError .address
    let c ← needed "acceptable_address_codes" c?
    (Address.ofContents? c version payload).mapError .address
  | .versioned c hash version => do
    let c ← c.get "acceptable_address_codes" r
    (Address.ofVersion? c version hash).mapError .address
  | .hashed c hash script => do
    let c ← c.get (if script then "p2sh_header" else "address_header") r
    (Address.ofHash? c hash script).mapError .address

end AddressRef

/-- An operand with its value looked up. -/
def getOperand {α β : Type} (get : α → Except Failure β) :
    Operand α → Except Failure (Operand β)
  | .value a => (get a).map .value
  | .datum d => .ok (.datum d)

/-- Something that may be missing, looked up. -/
def getOption {α β : Type} (get : α → Except Failure β) : Option α → Except Failure (Option β)
  | none => .ok none
  | some a => (get a).map some

/-- Whether two operands are the same, unless one is a collection. -/
def equality {α : Type} (same : α → α → Bool) (x y : Operand α) : Except Failure Bool :=
  match Operand.collection? x y with
  | some kind => .error (.collection kind)
  | none => .ok (Operand.same same x y)

/-- What a payment URI is built from, looked up: the address and the amount. -/
def FormRef.get (f : FormRef) (r : Registry) :
    Except Failure (Option Address × Option Amount) := do
  let address ← getOption (AddressRef.get r) f.address
  let amount ← getOption (AmountRef.get r) f.amount
  return (address, amount)

/-- A payment URI that is written, after the address and the amount that it states. The amount is
formatted when everything else is known to be in order, so that it has too many digits is
the last thing that is found out. -/
def FormRef.write (f : FormRef) (r : Registry) :
    Except Failure (Option Address × Option Amount × Text) := do
  let (address, amount) ← f.get r
  let uri ← (Request.form? address amount f.label f.message).mapError .form
  if amount.all fun a => a.format?.isSome then return (address, amount, uri) else throw .tooLong

/-- Values that are the same, or both missing. -/
def sameOption {α : Type} (same : α → α → Bool) : Option α → Option α → Bool
  | none, none => true
  | some a, some b => same a b
  | _, _ => false

def versionOf? (n : Int) : Except Failure UInt8 :=
  if 0 ≤ n ∧ n ≤ 255 then .ok (UInt8.ofNat n.toNat) else .error (.version n)

/-- The document of a settings text on its own, without the built-in settings. A text that is
not accepted has no document here, although some of it could be read. -/
def documentOf? (source content : Text) : Except Failure Settings.Document :=
  match Settings.Document.empty.read source content with
  | (d, none) => .ok d
  | (_, some cause) => .error (.settingsText cause)

namespace State

/-- A datum is read as a payment URI, and the reading is recorded. Nothing else in the state
changes, whatever comes of it. -/
def readDatum (s : State) (currency? : Option Currency) (uri : Datum) :
    Except Failure Request × State :=
  let reading := Request.attempt s.registry currency? uri
  (reading.outcome.mapError .request, s.noteAll reading.records)

/-- Whether a datum is read as a payment URI. Only a refusal of a payment URI is an answer; any
other is passed on. -/
def asksDatum (s : State) (currency? : Option Currency) (uri : Datum) : Result × State :=
  let reading := Request.attempt s.registry currency? uri
  (match reading.outcome with
    | .ok _ => .ok (.flag true)
    | .error cause => if cause.isParseError then .ok (.flag false) else .error (.request cause),
    s.noteAll reading.records)

def readUri (s : State) (u : UriRef) : Except Failure Request × State :=
  match u.currency.get? s.registry with
  | .error cause => (.error cause, s)
  | .ok currency? => s.readDatum currency? u.uri

/-- Two payment URIs are read one after the other. The second is not tried when the first is
refused, so nothing is recorded of it then. -/
def readBoth (s : State) (u v : UriRef) : Except Failure (Request × Request) × State :=
  match s.readUri u with
  | (.error cause, s) => (.error cause, s)
  | (.ok a, s) =>
    match s.readUri v with
    | (.error cause, s) => (.error cause, s)
    | (.ok b, s) => (.ok (a, b), s)

/-- A payment URI is written and read again. -/
def roundTrip (s : State) (f : FormRef) (currency : CurrencyRef) : Result × State :=
  match f.write s.registry with
  | .error cause => (.error cause, s)
  | .ok (address, amount, uri) =>
    match currency.get? s.registry with
    | .error cause => (.error cause, s)
    | .ok currency? =>
      let (outcome, s) := s.readDatum currency? (.text uri)
      (outcome.map fun r => .roundTrip uri r (sameOption Address.same r.address? address)
        (sameOption Amount.same r.amount? amount) (r.label? == f.label)
        (r.message? == f.message), s)

def register (s : State) (c : Currency) : Result × State :=
  match s.registry.register c with
  | .error cause => (.error (.registry cause), s)
  | .ok registry => (.ok (.currency c), { s with registry }.note (Registry.registered c))

def unregister (s : State) (id : Text) : Result × State :=
  match s.registry.unregister id with
  | .error cause => (.error (.registry cause), s)
  | .ok (c, registry) => (.ok (.currency c), { s with registry })

def registerText (s : State) (source content : Text) : Result × State :=
  match documentOf? source content with
  | .error cause => (.error cause, s)
  | .ok d =>
    let r := Settings.registerCurrencies d s.registry
    (match r.outcome with
      | .ok cs => .ok (.currencies cs)
      | .error cause => .error (.settingsCurrency cause),
      { s with registry := r.registry }.noteAll r.records)

/-- Settings are loaded, and the names of the sections answered. -/
def loadPath (s : State) (path : Text) : Result × State :=
  let (outcome, s) := s.load path
  (match outcome with
    | .ok () => .ok (.sections s.settings.names)
    | .error cause => .error (.load cause), s)

def query (s : State) : Query → Result
  | .form f => do
    let (_, _, uri) ← f.write s.registry
    return .text uri
  | .encodeText t => .ok (.text (Text.percentEncode t))
  | .amount a => (a.get s.registry).map .amount
  | .amountOf c d => do
    let c ← c.get "value" s.registry
    return .amount (← (Amount.ofDatum? c d).mapError .amount)
  | .writeAmount a => do
    match (← a.get s.registry).format? with
    | some t => return .text t
    | none => throw .tooLong
  | .compareAmounts a b => do
    let x ← getOperand (AmountRef.get s.registry) a
    let y ← getOperand (AmountRef.get s.registry) b
    return .ordering (← equality Amount.same x y) x y
  | .encodeBase58 payload version => do
    return .text (Base58Check.encode .doubleSha256 (← versionOf? version) payload)
  | .decodeBase58 t =>
    match Base58Check.decode? .doubleSha256 t with
    | .ok (version, payload) => .ok (.payload version payload)
    | .error cause => .error (.base58 cause)
  | .address a => (a.get s.registry).map .address
  | .isAddress c d => do
    match ← c.get? s.registry with
    | some c => return .flag (Address.isAddress c d)
    | none =>
      if (Address.textOf? d >>= Address.contents?).isOk then
        throw (.noCurrency "acceptable_address_codes")
      else return .flag false
  | .compareAddresses a b => do
    let x ← getOperand (AddressRef.get s.registry) a
    let y ← getOperand (AddressRef.get s.registry) b
    return .equality (← equality Address.same x y)
  | .currency c => (c.get "id" s.registry).map .currency
  | .compareCurrencies a b => do
    let x ← getOperand (CurrencyRef.get "id" s.registry) a
    let y ← getOperand (CurrencyRef.get "id" s.registry) b
    return .equality (← equality Currency.same x y)
  | .currencies => .ok (.currencies s.registry.currencies)
  | .currenciesOfScheme scheme =>
    (s.registry.ofScheme scheme).map Answer.candidates |>.mapError .registry
  | .currenciesOfReference t =>
    (Reference.currencies? s.registry t).map Answer.candidates |>.mapError .lookup
  | .setting place option => (s.settings.get place option).map Answer.text |>.mapError .setting
  | .currencyOfText source content place => do
    let d ← documentOf? source content
    (d.currency? place).map Answer.currency |>.mapError .settingsCurrency

/-- One command, answered. -/
def step (s : State) : Command → Result × State
  | .ask q => (s.query q, s)
  | .read u =>
    let (r, s) := s.readUri u
    (r.map .request, s)
  | .isRequest u =>
    match u.currency.get? s.registry with
    | .error cause => (.error cause, s)
    | .ok currency? => s.asksDatum currency? u.uri
  | .fields u names =>
    let (r, s) := s.readUri u
    (r.map fun r => .fields (names.map r.find?), s)
  | .compareRequests u v =>
    let (r, s) := s.readBoth u v
    (r.map fun (a, b) => .equality (a.same b), s)
  | .roundTrip f currency => s.roundTrip f currency
  | .register c _ =>
    match c.get "id" s.registry with
    | .error cause => (.error cause, s)
    | .ok c => s.register c
  | .unregister id => s.unregister id
  | .loadText name content => (s.save name content).loadPath name
  | .load path => s.loadPath path
  | .registerText source content => s.registerText source content
  | .setThreshold d =>
    match Log.Threshold.ofDatum? d with
    | .ok t => (.ok .done, s.setThreshold t)
    | .error cause => (.error (.threshold cause), s)
  | .setColor on => (.ok .done, s.setColored on)
  | .note level message => (.ok .done, s.note ⟨level, message⟩)

/-- Commands, answered in order, each with the state it leaves. -/
def run (s : State) : List Command → List (Result × State)
  | [] => []
  | command :: commands =>
    let after := s.step command
    after :: after.2.run commands

end State

end PaymentUri.Session
