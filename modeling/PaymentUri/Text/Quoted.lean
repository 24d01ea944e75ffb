import PaymentUri.Text.Digit
import PaymentUri.Text.Printable
/-!
# Quoted text

How a text is shown inside a message. It stands between single quotes, or
between double quotes when it holds a single quote and no double one. The quote
and the backslash are escaped, line feed, carriage return and tab have escapes
of their own, and every other character that is not printable is shown by its
code point in two, four or eight hexadecimal digits.
-/

namespace PaymentUri.Text

def hexDigits : Nat → Nat → Text
  | 0, _ => []
  | count + 1, n => hexDigits count (n / 16) ++ [lowerHex (n % 16)]

/-- The escape of a code point: the shortest of the three widths that holds it. -/
def codeEscape (n : Nat) : Text :=
  if n < 0x100 then '\\' :: 'x' :: hexDigits 2 n
  else if n < 0x10000 then '\\' :: 'u' :: hexDigits 4 n
  else '\\' :: 'U' :: hexDigits 8 n

/-- The quotation mark around a text. -/
def quoteFor (t : Text) : Char :=
  if t.contains '\'' && !t.contains '"' then '"' else '\''

/-- One character between quotation marks. -/
def quoteChar (mark c : Char) : Text :=
  if c = mark ∨ c = '\\' then ['\\', c]
  else if c = '\n' then ['\\', 'n']
  else if c = '\r' then ['\\', 'r']
  else if c = '\t' then ['\\', 't']
  else if isPrintable c then [c]
  else codeEscape c.toNat

def quoted (t : Text) : Text :=
  let mark := quoteFor t
  mark :: t.flatMap (quoteChar mark) ++ [mark]

end PaymentUri.Text
