import PaymentUri.Address
import PaymentUri.Amount.Basic
/-!
# Payment requests

What a payment URI says: a currency, if it is known, and named fields in the
order in which they were stated. A name has at most one field. The address and
the amount are values of their own; every other field is free text.
-/

namespace PaymentUri

inductive FieldValue where
  | address (a : Address)
  | amount (a : Amount)
  | text (t : Text)
  deriving DecidableEq

namespace FieldValue

def display : FieldValue → Text
  | .address a => a.text
  | .amount a => a.display
  | .text t => t

/-- The value has a text in a listing, where numbers of too many digits are not written. -/
def isShown : FieldValue → Bool
  | .amount a => a.format?.isSome
  | _ => true

def same : FieldValue → FieldValue → Bool
  | .address a, .address b => a.same b
  | .amount a, .amount b => a.same b
  | .text s, .text t => s == t
  | _, _ => false

end FieldValue

/-- Named values in the order in which they were put. -/
abbrev Fields := List (Text × FieldValue)

namespace Fields

def addressName : Text := "address".toList

def amountName : Text := "amount".toList

def labelName : Text := "label".toList

def messageName : Text := "message".toList

/-- The name of the field that says where a full request may be fetched. -/
def urlName : Text := "r".toList

def find? (fields : Fields) (name : Text) : Option FieldValue := fields.lookup name

/-- The fields with one more at the end, unless the name is taken. -/
def put? (fields : Fields) (name : Text) (value : FieldValue) : Option Fields :=
  if (fields.find? name).isSome then none else some (fields ++ [(name, value)])

@[simp] theorem find?_nil (name : Text) : find? [] name = none := rfl

theorem find?_append (fields more : Fields) (name : Text) :
    find? (fields ++ more) name = (find? fields name).or (find? more name) := by
  simp [find?, List.lookup_append]

/-- A field is put exactly under a name that is free. -/
theorem put?_eq_some {fields fields' : Fields} {name : Text} {value : FieldValue} :
    put? fields name value = some fields' ↔
      find? fields name = none ∧ fields' = fields ++ [(name, value)] := by
  unfold put?
  cases find? fields name <;> simp [eq_comm]

end Fields

/-- A payment request as it was read. The fields keep the order in which they were stated,
which is also the order in which a request is listed and compared. -/
structure Request where
  /-- The currency of the address, or the one the reader was told. -/
  currency : Option Currency
  fields : Fields
  deriving DecidableEq

namespace Request

def find? (r : Request) (name : Text) : Option FieldValue := r.fields.find? name

def address? (r : Request) : Option Address :=
  match r.find? Fields.addressName with
  | some (.address a) => some a
  | _ => none

def amount? (r : Request) : Option Amount :=
  match r.find? Fields.amountName with
  | some (.amount a) => some a
  | _ => none

def text? (r : Request) (name : Text) : Option Text :=
  match r.find? name with
  | some (.text t) => some t
  | _ => none

def label? (r : Request) : Option Text := r.text? Fields.labelName

def message? (r : Request) : Option Text := r.text? Fields.messageName

def url? (r : Request) : Option Text := r.text? Fields.urlName

/-- Currencies that are the same, or both absent. -/
def sameCurrency : Option Currency → Option Currency → Bool
  | none, none => true
  | some a, some b => a.same b
  | _, _ => false

/-- Fields of the same names and values in the same order. -/
def sameFields : Fields → Fields → Bool
  | [], [] => true
  | (m, v) :: fs, (n, w) :: gs => m == n && v.same w && sameFields fs gs
  | _, _ => false

def same (a b : Request) : Bool :=
  sameCurrency a.currency b.currency && sameFields a.fields b.fields

def fieldListing (f : Text × FieldValue) : Text :=
  '\'' :: f.1 ++ "'='".toList ++ f.2.display ++ ['\'']

def display (r : Request) : Text :=
  "CoinURI[".toList ++ [','].intercalate (r.fields.map fieldListing) ++ [']']

/-- The request has a listing: every value in it has a text. -/
def isShown (r : Request) : Bool := r.fields.all fun f => f.2.isShown

def listing (r : Request) : Text :=
  "CoinURI(".toList ++ (match r.currency with
    | some c => c.listing
    | none => "None".toList) ++ ", ".toList ++ r.display ++ [')']

end Request

end PaymentUri
