import PaymentUri.Binary64.Notation
import PaymentUri.Text.Integer
/-!
# Data of any kind

A caller may hand in a value that is not the text or the number an operation
expects. Such a value is a datum: nothing, a truth value, a number, a text, or a
collection of data. A datum is refused by what it is and named in the refusal,
so it has a text of its own, and its kind has a name. Only a whole number of too
many digits, on its own or inside a collection, leaves a datum without a text.
-/

namespace PaymentUri

/-- A value of any kind. -/
inductive Datum where
  | absent
  | flag (b : Bool)
  | whole (n : Int)
  /-- A number with a fraction, or with a part for one. -/
  | fraction (x : Binary64)
  | text (t : Text)
  | items (ds : List Datum)
  | entries (es : List (Text × Datum))
  deriving Repr, Inhabited

namespace Datum

mutual

/-- The text of a datum inside a message or a collection, where a text is quoted. -/
def quoted : Datum → Text
  | .absent => "None".toList
  | .flag true => "True".toList
  | .flag false => "False".toList
  | .whole n => Text.ofInt n
  | .fraction x => x.text
  | .text t => Text.quoted t
  | .items ds => '[' :: quotedItems ds ++ [']']
  | .entries es => '\x7b' :: quotedEntries es ++ ['\x7d']

def quotedItems : List Datum → Text
  | [] => []
  | [d] => quoted d
  | d :: ds => quoted d ++ ", ".toList ++ quotedItems ds

def quotedEntries : List (Text × Datum) → Text
  | [] => []
  | [(name, d)] => Text.quoted name ++ ": ".toList ++ quoted d
  | (name, d) :: es =>
    Text.quoted name ++ ": ".toList ++ quoted d ++ ", ".toList ++ quotedEntries es

end

mutual

/-- All whole numbers in a datum, however deep inside collections. -/
def wholes : Datum → List Int
  | .whole n => [n]
  | .items ds => wholesOfItems ds
  | .entries es => wholesOfEntries es
  | _ => []

def wholesOfItems : List Datum → List Int
  | [] => []
  | d :: ds => wholes d ++ wholesOfItems ds

def wholesOfEntries : List (Text × Datum) → List Int
  | [] => []
  | (_, d) :: es => wholes d ++ wholesOfEntries es

end

/-- The datum has a text: no whole number in it has too many digits. -/
def isShown (d : Datum) : Bool := d.wholes.all fun n => n.natAbs < Text.integerBound

def display : Datum → Text
  | .text t => t
  | d => d.quoted

def kind : Datum → String
  | .absent => "NoneType"
  | .flag _ => "bool"
  | .whole _ => "int"
  | .fraction _ => "float"
  | .text _ => "str"
  | .items _ => "list"
  | .entries _ => "dict"

/-- A datum counts as true unless it is nothing, false, zero or empty. -/
def isTrue : Datum → Bool
  | .absent => false
  | .flag b => b
  | .whole n => n != 0
  | .fraction x => x.mantissa != 0
  | .text t => !t.isEmpty
  | .items ds => !ds.isEmpty
  | .entries es => !es.isEmpty

@[simp] theorem display_text (t : Text) : display (.text t) = t := rfl

@[simp] theorem isShown_text (t : Text) : isShown (.text t) = true := rfl

theorem isShown_iff {d : Datum} :
    d.isShown = true ↔ ∀ n ∈ d.wholes, n.natAbs < Text.integerBound := by
  simp [isShown]

end Datum

end PaymentUri
