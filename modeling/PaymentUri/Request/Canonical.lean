import PaymentUri.Request.Reader
/-!
# The canonical form of a payment request

The one text that states an address with an amount, a label and a message: the
scheme of the currency, the address, and the fields in this order. An empty label
or message is left out. Free text is encoded so that it holds no separator.
-/

namespace PaymentUri.Request

inductive FormRefusal where
  /-- No address is given. -/
  | noAddress
  /-- The amount is below zero. -/
  | negativeAmount
  /-- The amount is of another currency than the address. -/
  | otherCurrency (amount address : Currency)
  /-- The request only says where it may be fetched. -/
  | onlyUrl
  deriving DecidableEq, Repr

def FormRefusal.message : FormRefusal → String
  | .noAddress => "An address is required"
  | .negativeAmount => "Coin must be positive"
  | .otherCurrency amount address =>
    s!"Amount in {String.ofList amount.name} for an address of {String.ofList address.name}"
  | .onlyUrl => "URI has no address, only a payment request URL"

def written (name value : Text) : Text := name ++ '=' :: value

/-- A field of free text, unless the text is missing or empty. -/
def writtenText (name : Text) : Option Text → List Text
  | none => []
  | some [] => []
  | some t => [written name (Text.percentEncode t)]

/-- The fields of a canonical form. -/
def writtenFields (amount : Option Amount) (label message : Option Text) : List Text :=
  (amount.map fun a => written Fields.amountName a.numeral).toList ++
    writtenText Fields.labelName label ++ writtenText Fields.messageName message

/-- The text of a scheme, an address and fields as they are written. -/
def assemble (scheme address : Text) (tokens : List Text) : Text :=
  scheme ++ ':' :: address ++ (if tokens = [] then [] else '?' :: ['&'].intercalate tokens)

/-- The amount may be asked for at the address. -/
def checkAmount (address : Address) : Option Amount → Except FormRefusal Unit
  | none => .ok ()
  | some a =>
    if a.units < 0 then .error .negativeAmount
    else if a.currency.same address.currency then .ok ()
    else .error (.otherCurrency a.currency address.currency)

/-- The canonical form of a request from its parts. -/
def form? (address : Option Address) (amount : Option Amount) (label message : Option Text) :
    Except FormRefusal Text :=
  match address with
  | none => .error .noAddress
  | some a =>
    match checkAmount a amount with
    | .error cause => .error cause
    | .ok () =>
      .ok (assemble a.currency.scheme a.text (writtenFields amount label message))

/-- The canonical form of a request that was read. -/
def canonical? (r : Request) : Except FormRefusal Text :=
  match r.address? with
  | none => .error .onlyUrl
  | some a => form? (some a) r.amount? r.label? r.message?

end PaymentUri.Request
