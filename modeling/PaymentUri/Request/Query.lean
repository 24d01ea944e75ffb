import PaymentUri.Request.Parts
import PaymentUri.Text.Percent
/-!
# The fields of a payment URI

Fields are read in order, each from a name and a value with an equals sign
between them. Names are compared in lower case. The amount is read in the
currency of the request; a name that begins with the mark of a requirement is
refused, since none is known; a field without a value has no effect; and the
value of any other field is free text, which is decoded here and not earlier.
-/

namespace PaymentUri.Request

def requirementMark : Text := "req-".toList

/-- The amount of a field, in the currency of the request. -/
def amountField? (currency? : Option Currency) (value : Text) : Except Refusal Amount :=
  match currency? with
  | none => .error (.noCurrency value)
  | some c =>
    match Amount.ofText? c value with
    | .error cause => .error (.amount cause)
    | .ok a => if a.units < 0 then .error (.negativeAmount value) else .ok a

/-- The fields with one more, under a name that must be free. -/
def putField? (fields : Fields) (name : Text) (value : FieldValue) : Except Refusal Fields :=
  match fields.put? name value with
  | some fields' => .ok fields'
  | none => .error (.duplicateField name)

/-- The fields with one more of a name and a value. An amount is looked at before its name
is known to be free, and an empty value is dropped before it could be a duplicate. -/
def addField? (currency? : Option Currency) (fields : Fields) (name value : Text) :
    Except Refusal Fields :=
  if name = Fields.amountName then do
    let a ← amountField? currency? value
    putField? fields name (.amount a)
  else if requirementMark.isPrefixOf name then .error (.unknownRequirement name)
  else if value = [] then .ok fields
  else
    match Text.percentDecode? value with
    | some t => putField? fields name (.text t)
    | none => .error (.malformed (.notUtf8 name))

def splitToken? (token : Text) : Except SyntaxFault (Text × Text) :=
  match Text.cut? '=' token with
  | none => .error (.noSeparator token)
  | some ([], _) => .error (.emptyName token)
  | some (name, value) => .ok (Text.lowercase name, value)

/-- The fields with one more as it is written. -/
def addToken? (currency? : Option Currency) (fields : Fields) (token : Text) :
    Except Refusal Fields :=
  match splitToken? token with
  | .error fault => .error (.malformed fault)
  | .ok (name, value) => addField? currency? fields name value

/-- The fields with all those that are written, in order. The first that is refused
decides. -/
def addTokens? (currency? : Option Currency) : Fields → List Text → Except Refusal Fields
  | fields, [] => .ok fields
  | fields, token :: tokens =>
    match addToken? currency? fields token with
    | .error cause => .error cause
    | .ok fields' => addTokens? currency? fields' tokens

@[simp] theorem addTokens?_nil (currency? : Option Currency) (fields : Fields) :
    addTokens? currency? fields [] = .ok fields := rfl

end PaymentUri.Request
