import PaymentUri.Radix
import PaymentUri.Text.Blank
import PaymentUri.Text.Digit
import PaymentUri.Text.Quoted
/-!
# Integers

The numerals of whole numbers: an optional sign and decimal digits of any script,
where single underscores may stand between digits. White space around the numeral
is passed over, but not the information separators, which count as blank
elsewhere. A numeral of too many digits is refused, leading zeros included, and
that is noticed before anything that follows the digits. A number of too many digits
is not written either.
-/

namespace PaymentUri.Text

/-- The most digits that a whole number may be read or written with. -/
def maxIntegerDigits : Nat := 4300

inductive IntegerRefusal where
  /-- The text is no numeral. -/
  | notNumeral (t : Text)
  /-- The numeral has too many digits. -/
  | tooLong (digits : Nat)
  deriving DecidableEq, Repr

/-- How much of a text is shown when it is no numeral. -/
def shownLength : Nat := 200

def IntegerRefusal.message : IntegerRefusal → String
  | .notNumeral t =>
    s!"invalid literal for int() with base 10: {String.ofList ((quoted t).take shownLength)}"
  | .tooLong digits =>
    s!"Exceeds the limit ({maxIntegerDigits} digits) for integer string conversion: " ++
      s!"value has {digits} digits; use sys.set_int_max_str_digits() to increase the limit"

/-- The least number that has too many digits to be written. It is irreducible, since nothing is
ever found out by computing it. -/
@[irreducible] def integerBound : Nat := Nat.pow 10 maxIntegerDigits

theorem integerBound_le_pow {k : Nat} (h : maxIntegerDigits ≤ k) : integerBound ≤ Nat.pow 10 k := by
  unfold integerBound
  generalize maxIntegerDigits = d at h ⊢
  exact Nat.pow_le_pow_right (by decide) h

/-- The digits of a number, unless there are too many. A library that shows a number to a person
or records it fails at this point, whatever it was about to say. -/
def digits? (n : Nat) : Option Text := if n < integerBound then some (Nat.toDigits 10 n) else none

/-- The wording of a refusal to write a number, which does not say how many digits it has. -/
def unwritable : String :=
  s!"Exceeds the limit ({maxIntegerDigits} digits) for integer string conversion; " ++
    "use sys.set_int_max_str_digits() to increase the limit"

/-- The white space that may surround a numeral. -/
def isNumeralSpace (c : Char) : Bool :=
  isBlank c && !(0x1c ≤ c.toNat && c.toNat ≤ 0x1f)

def isNumeralChar (c : Char) : Bool := (digitValue? c).isSome || c == '_'

/-- The values of digits with single underscores between them. -/
def digitValues? : Text → Option (List Nat)
  | [] => none
  | c :: cs =>
    match digitValue? c with
    | none => none
    | some d =>
      match cs with
      | [] => some [d]
      | '_' :: rest => (digitValues? rest).map (d :: ·)
      | rest => (digitValues? rest).map (d :: ·)

/-- The whole number that a text without a sign denotes. The whole text is given
for the refusal. -/
def natural? (whole t : Text) : Except IntegerRefusal Nat :=
  match digitValues? (t.takeWhile isNumeralChar) with
  | none => .error (.notNumeral whole)
  | some digits =>
    if maxIntegerDigits < digits.length then .error (.tooLong digits.length)
    else if t.dropWhile isNumeralChar = [] then .ok (Radix.value 10 digits)
    else .error (.notNumeral whole)

def integer? (t : Text) : Except IntegerRefusal Int :=
  match trim isNumeralSpace t with
  | '-' :: cs => (natural? t cs).map fun n => -(n : Int)
  | '+' :: cs => (natural? t cs).map fun n => (n : Int)
  | cs => (natural? t cs).map fun n => (n : Int)

end PaymentUri.Text
