import PaymentUri.Request.Query
/-!
# Reading a payment URI

A reading answers a request or the cause of its refusal, and what was recorded on
the way. The address is tried with every candidate in order, and the first
currency that accepts it is the currency of the request, even if a later one
would accept it too. Nothing about the fields influences that choice.

Two records show what was handed in and what was read: the first and the last. Where
numbers of too many digits are not written, a reading may fail at either of them, and
`attempt` is that reading. `read` takes numbers to have a text whatever they are, and
the two agree wherever both records can be made.
-/

namespace PaymentUri.Request

/-- What a reading answers and records. The records are kept beside the outcome and not
inside a success, since a refusal has them too. -/
structure Reading where
  outcome : Except Refusal Request
  records : List Log.Record

/-- What is recorded before anything else. -/
def attempted (currency? : Option Currency) (uri : Datum) : Log.Record where
  level := .debug
  message :=
    let wanted := match currency? with
      | some c => String.ofList c.id
      | none => "any"
    s!"Attempting to parse '{String.ofList uri.display}' for {wanted}"

/-- What is recorded when a candidate does not accept the address. -/
def rejected (token : Text) (c : Currency) (cause : Address.Refusal) : Log.Record where
  level := .debug
  message :=
    s!"Address {String.ofList token} is not valid for {String.ofList c.id}: {cause.message}"

/-- What is recorded when a candidate accepts the address. -/
def resolved (token : Text) (c : Currency) : Log.Record where
  level := .debug
  message := s!"Address {String.ofList token} resolved to {String.ofList c.id}"

/-- What is recorded when the whole URI is accepted. -/
def accepted (r : Request) : Log.Record where
  level := .debug
  message := s!"Parsed {String.ofList r.display}"

/-- The address of the first candidate that accepts the text, and what is recorded
while the candidates are tried. -/
def resolve? (token : Text) : List Currency → Option Address × List Log.Record
  | [] => (none, [])
  | c :: cs =>
    match Address.ofText? c token with
    | .ok a => (some a, [resolved token c])
    | .error cause =>
      let later := resolve? token cs
      (later.1, rejected token c cause :: later.2)

/-- The request of a currency and an address, with the fields that are written. The address
is put first, so a field that has its name is a duplicate. -/
def complete? (currency? : Option Currency) (address? : Option Address) (tokens : List Text) :
    Except Refusal Request :=
  let start : Fields := match address? with
    | some a => [(Fields.addressName, .address a)]
    | none => []
  match addTokens? currency? start tokens with
  | .error cause => .error cause
  | .ok fields =>
    if address?.isNone ∧ (fields.find? Fields.urlName).isNone then .error .noDestination
    else .ok ⟨currency?, fields⟩

/-- The request of a URI in parts. Without an address the currency is the one that
the reader was told. -/
def ofParts (currency? : Option Currency) (parts : Parts) : Reading :=
  if parts.address = [] then ⟨complete? currency? none parts.tokens, []⟩
  else
    let search := resolve? parts.address parts.candidates
    match search.1 with
    | none => ⟨.error (.invalidAddress parts.address), search.2⟩
    | some a => ⟨complete? (some a.currency) (some a) parts.tokens, search.2⟩

/-- The record of a success after the others. -/
def Reading.finish (r : Reading) : Reading :=
  match r.outcome with
  | .ok request => ⟨.ok request, r.records ++ [accepted request]⟩
  | .error cause => ⟨.error cause, r.records⟩

/-- The record of a success after the others, unless the request has no listing. The reading
then fails, after everything else that it has recorded. -/
def Reading.finishShown (r : Reading) : Reading :=
  match r.outcome with
  | .ok request => if request.isShown then r.finish else ⟨.error .unrecorded, r.records⟩
  | .error _ => r

/-- The reading of a datum up to the record of its success. -/
def unfinished (registry : Registry) (currency? : Option Currency) (uri : Datum) : Reading :=
  let first := attempted currency? uri
  match uri with
  | .text t =>
    match Parts.ofUri? registry currency? t with
    | .error cause => ⟨.error cause, [first]⟩
    | .ok parts =>
      let rest := ofParts currency? parts
      ⟨rest.outcome, first :: rest.records⟩
  | _ => ⟨.error (.malformed .notText), [first]⟩

/-- The payment request that a datum states. -/
def read (registry : Registry) (currency? : Option Currency) (uri : Datum) : Reading :=
  (unfinished registry currency? uri).finish

/-- The payment request that a datum states, where numbers of too many digits are not written.
A datum without a text is not even looked at, since that it is read is recorded first. -/
def attempt (registry : Registry) (currency? : Option Currency) (uri : Datum) : Reading :=
  if uri.isShown then (unfinished registry currency? uri).finishShown else ⟨.error .unrecorded, []⟩

def ofText? (registry : Registry) (currency? : Option Currency) (uri : Text) :
    Except Refusal Request :=
  (read registry currency? (.text uri)).outcome

def isRequest (registry : Registry) (currency? : Option Currency) (uri : Datum) : Bool :=
  (read registry currency? uri).outcome.isOk

@[simp] theorem Reading.outcome_finish (r : Reading) : r.finish.outcome = r.outcome := by
  unfold finish
  cases h : r.outcome <;> rfl

end PaymentUri.Request
