import PaymentUri.Text.Digit
import PaymentUri.Text.Utf8
/-!
# Percent coding of free text

The form in which a label or a message stands in a URI. Encoding leaves letters,
digits and `.`, `_`, `-`, `*` as they are and writes every other character as the
escapes of its octets, so no separator of a URI is ever produced.

Decoding takes a plus sign for a space and an escape for its octet. It reads a
value run by run: between two characters that are not ASCII the octets are
decoded on their own, so an escape never completes a sequence that a raw
character has begun.
-/

namespace PaymentUri.Text

/-- The characters that stand for themselves in encoded text. -/
def isUnreserved (c : Char) : Bool :=
  c.isAlphanum || c == '.' || c == '_' || c == '-' || c == '*'

def escape (b : UInt8) : Text := ['%', upperHex (b.toNat / 16), upperHex (b.toNat % 16)]

def percentEncodeChar (c : Char) : Text :=
  if isUnreserved c then [c] else (String.utf8EncodeChar c).flatMap escape

def percentEncode (t : Text) : Text := t.flatMap percentEncodeChar

/-- What a piece of encoded text stands for. Escapes and characters are kept apart, because
the octets of a character that is not ASCII never join those of an escape. -/
inductive Piece where
  /-- An octet, from an escape. -/
  | octet (b : UInt8)
  /-- A character, from itself. -/
  | char (c : Char)
  deriving DecidableEq, Repr

/-- The octet of an escape, from its two digits. -/
def escaped? (hi lo : Char) : Option UInt8 :=
  match hexValue? hi, hexValue? lo with
  | some x, some y => some (UInt8.ofNat (16 * x + y))
  | _, _ => none

/-- The pieces of encoded text. A plus sign is a space; a percent sign without
two digits is itself. -/
def pieces : Text → List Piece
  | [] => []
  | '%' :: hi :: lo :: cs =>
    match escaped? hi lo with
    | some b => .octet b :: pieces cs
    | none => .char '%' :: pieces (hi :: lo :: cs)
  | c :: cs => .char (if c = '+' then ' ' else c) :: pieces cs

/-- The octets that a piece contributes. -/
def Piece.bytes : Piece → List UInt8
  | .octet b => [b]
  | .char c => String.utf8EncodeChar c

def formBytes (t : Text) : List UInt8 := (pieces t).flatMap Piece.bytes

/-- The pieces as runs of octets: the first run, then every character that is not
ASCII with the run after it. -/
def runs : List Piece → List UInt8 × List (Char × List UInt8)
  | [] => ([], [])
  | .octet b :: ps => (b :: (runs ps).1, (runs ps).2)
  | .char c :: ps =>
    if c.toNat < 128 then (UInt8.ofNat c.toNat :: (runs ps).1, (runs ps).2)
    else ([], (c, (runs ps).1) :: (runs ps).2)

/-- The text of the runs after the first. -/
def decodeRuns? : List (Char × List UInt8) → Option Text
  | [] => some []
  | (c, run) :: rest => do
    let t ← decodeUtf8? run
    let u ← decodeRuns? rest
    some (c :: t ++ u)

/-- The text that an encoded text stands for, if every run is the encoding of one. -/
def percentDecode? (t : Text) : Option Text := do
  let r := runs (pieces t)
  let head ← decodeUtf8? r.1
  let tail ← decodeRuns? r.2
  some (head ++ tail)

@[simp] theorem percentEncode_nil : percentEncode [] = [] := rfl

@[simp] theorem percentEncode_cons (c : Char) (t : Text) :
    percentEncode (c :: t) = percentEncodeChar c ++ percentEncode t := rfl

/-- Encoding goes character by character. -/
@[simp] theorem percentEncode_append (s t : Text) :
    percentEncode (s ++ t) = percentEncode s ++ percentEncode t := by
  simp [percentEncode]

@[simp] theorem pieces_nil : pieces [] = [] := by simp [pieces]

theorem escaped?_upperHex (b : UInt8) :
    escaped? (upperHex (b.toNat / 16)) (upperHex (b.toNat % 16)) = some b := by
  have hb := b.toNat_lt
  have h₁ : b.toNat / 16 < 16 := by omega
  have h₂ : b.toNat % 16 < 16 := by omega
  have h₃ : 16 * (b.toNat / 16) + b.toNat % 16 = b.toNat := by omega
  simp [escaped?, hexValue?_upperHex _ h₁, hexValue?_upperHex _ h₂, h₃]

/-- An escape is read back as its octet. -/
theorem pieces_escape (b : UInt8) (t : Text) :
    pieces (escape b ++ t) = .octet b :: pieces t := by
  simp [escape, pieces, escaped?_upperHex]

end PaymentUri.Text
