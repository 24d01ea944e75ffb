import PaymentUri.Text.Ranges
/-!
# Blank characters

The white space of Unicode together with the four information separators.
Settings are trimmed with this class; it is wider than the white space of a URI
and than `Char.isWhitespace`.
-/

namespace PaymentUri.Text

def blanks : Ranges :=
  [
    (0x9, 0xd), (0x1c, 0x20), (0x85, 0x85), (0xa0, 0xa0), (0x1680, 0x1680), (0x2000, 0x200a),
    (0x2028, 0x2029), (0x202f, 0x202f), (0x205f, 0x205f), (0x3000, 0x3000)]

/-- White space or an information separator. -/
def isBlank (c : Char) : Bool := blanks.contains c

def trimRight (t : Text) : Text := dropRightWhile isBlank t

def trimBlank (t : Text) : Text := trim isBlank t

end PaymentUri.Text
