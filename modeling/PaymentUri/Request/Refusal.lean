import PaymentUri.Request.Basic
/-!
# Why a payment URI is refused

One cause for every way in which a text fails to be a payment URI, with the
wording that is shown to a person. Some causes name the part of the URI that is
to blame.
-/

namespace PaymentUri.Request

/-- Why a text is not written like a payment URI. -/
inductive SyntaxFault where
  /-- The datum is no text. -/
  | notText
  /-- A character that never stands in a URI, and where. -/
  | illegalCharacter (c : Char) (index : Nat)
  /-- A percent sign without two digits, and where. -/
  | malformedEscape (index : Nat)
  /-- There is no scheme. -/
  | noScheme (uri : Text)
  /-- There is more than one question mark. -/
  | tooManyQueries (uri : Text)
  /-- A field without an equals sign. -/
  | noSeparator (token : Text)
  /-- A field without a name. -/
  | emptyName (token : Text)
  /-- The escapes of a field encode no text. -/
  | notUtf8 (name : Text)
  deriving DecidableEq, Repr

def SyntaxFault.message : SyntaxFault → String
  | .notText => "Bad URI syntax: not a string"
  | .illegalCharacter c index =>
    s!"Bad URI syntax: illegal character {String.ofList (Text.quoted [c])} at index {index}"
  | .malformedEscape index => s!"Bad URI syntax: malformed escape at index {index}"
  | .noScheme uri => s!"Unrecognisable URI format: {String.ofList uri}"
  | .tooManyQueries uri => s!"Too many question marks in URI '{String.ofList uri}'"
  | .noSeparator token => s!"Malformed URI - no separator in '{String.ofList token}'"
  | .emptyName token => s!"Malformed URI - empty name '{String.ofList token}'"
  | .notUtf8 name =>
    s!"Malformed URI - '{String.ofList name}' is not valid UTF-8 once decoded"

/-- Why a datum is not a payment URI. -/
inductive Refusal where
  | malformed (fault : SyntaxFault)
  /-- No currency is asked for under the scheme. -/
  | unsupportedScheme (scheme : Text)
  /-- The address is one of no candidate. -/
  | invalidAddress (token : Text)
  /-- The name occurs twice. -/
  | duplicateField (name : Text)
  /-- The field is required and nobody knows what it means. -/
  | unknownRequirement (name : Text)
  /-- There is neither an address nor a place to fetch one from. -/
  | noDestination
  /-- The amount is none of the currency. -/
  | amount (cause : Amount.Refusal)
  /-- The amount is below zero. -/
  | negativeAmount (token : Text)
  /-- There is an amount but no currency. -/
  | noCurrency (token : Text)
  /-- A number of too many digits is to be recorded. -/
  | unrecorded

def Refusal.message : Refusal → String
  | .malformed fault => fault.message
  | .unsupportedScheme scheme => s!"Unsupported URI scheme: {String.ofList scheme}"
  | .invalidAddress token => s!"Bad address: {String.ofList token}"
  | .duplicateField name => s!"'{String.ofList name}' is duplicated, URI is invalid"
  | .unknownRequirement name =>
    s!"'{String.ofList name}' is required but not known, this URI is not valid"
  | .noDestination => "No address and no r= parameter found"
  | .amount cause => cause.message
  | .negativeAmount token => s!"'{String.ofList token}' Negative coins specified"
  | .noCurrency token =>
    s!"Cannot parse amount '{String.ofList token}' without an address or an explicit currency"
  | .unrecorded => Text.unwritable

/-- The refusal is one of a payment URI. What is refused about the units of an amount, or about a
number that cannot be written, is not the fault of a text: whoever asks whether a datum
states a payment request gets no answer then. -/
def Refusal.isParseError : Refusal → Bool
  | .amount .notWhole => false
  | .amount .outOfRange => false
  | .amount .unshown => false
  | .unrecorded => false
  | _ => true

end PaymentUri.Request
