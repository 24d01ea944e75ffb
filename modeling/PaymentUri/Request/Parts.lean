import PaymentUri.Reference.Scheme
import PaymentUri.Registry
import PaymentUri.Request.Refusal
/-!
# The parts of a payment URI

A URI is taken apart before anything in it is decoded, so an escaped separator
inside a label separates nothing. The scheme decides which currencies are
candidates; the text to take off the front is the scheme of the first of them, in
its own spelling, with two slashes after the colon or without.
-/

namespace PaymentUri.Request

/-- The characters that never stand unescaped in a URI. -/
def isIllegal (c : Char) : Bool :=
  c.toNat ≤ 0x20 || c.toNat == 0x7f || c == '"' || c == '<' || c == '>' || c == '\\' ||
    c == '^' || c.toNat == 0x60 || c == '\x7b' || c == '|' || c == '\x7d'

/-- The first illegal character at or after an index. -/
def illegalFrom? (index : Nat) : Text → Option (Char × Nat)
  | [] => none
  | c :: cs => if isIllegal c then some (c, index) else illegalFrom? (index + 1) cs

/-- The text begins with two hexadecimal digits. -/
def startsWithEscape : Text → Bool
  | x :: y :: _ => Text.isHex x && Text.isHex y
  | _ => false

/-- The first percent sign at or after an index that begins no escape. -/
def badEscapeFrom? (index : Nat) : Text → Option Nat
  | [] => none
  | c :: cs =>
    if c = '%' ∧ !startsWithEscape cs then some index else badEscapeFrom? (index + 1) cs

/-- The scheme of a text that is written like a URI. -/
def schemeOf? (uri : Text) : Except SyntaxFault Text :=
  match illegalFrom? 0 uri with
  | some (c, index) => .error (.illegalCharacter c index)
  | none =>
    match badEscapeFrom? 0 uri with
    | some index => .error (.malformedEscape index)
    | none =>
      match Text.cut? ':' uri with
      | some (scheme, _) =>
        if Reference.isScheme scheme then .ok scheme else .error (.noScheme uri)
      | none => .error (.noScheme uri)

/-- What comes after a scheme and its colon, and after two slashes if they follow. Here case
counts: the scheme has to be spelled as it is given. -/
def withoutScheme? (scheme uri : Text) : Option Text :=
  match (scheme ++ "://".toList).isPrefixOf? uri with
  | some rest => some rest
  | none => (scheme ++ [':']).isPrefixOf? uri

/-- A URI taken apart. -/
structure Parts where
  /-- The currencies that the address may belong to, in order. -/
  candidates : List Currency
  /-- The address, possibly empty. -/
  address : Text
  /-- The fields as they are written. -/
  tokens : List Text
  deriving DecidableEq, Repr

namespace Parts

/-- The currencies to try, and the scheme to take off: those of the registry that
claim the scheme, or the one that the reader was told. -/
def candidates? (registry : Registry) (currency? : Option Currency) (scheme : Text) :
    Except Refusal (List Currency × Text) :=
  match currency? with
  | some c => .ok ([c], c.scheme)
  | none =>
    match registry.claiming scheme with
    | [] => .error (.unsupportedScheme scheme)
    | c :: cs => .ok (c :: cs, c.scheme)

/-- The address and the fields of what comes after the scheme. -/
def splitRest? (uri rest : Text) : Except Refusal (Text × List Text) :=
  match rest.splitOn '?' with
  | [] => .ok ([], [])
  | [address] => .ok (address, [])
  | [address, query] => .ok (address, if query = [] then [] else query.splitOn '&')
  | _ => .error (.malformed (.tooManyQueries uri))

def ofUri? (registry : Registry) (currency? : Option Currency) (uri : Text) :
    Except Refusal Parts :=
  match schemeOf? uri with
  | .error fault => .error (.malformed fault)
  | .ok scheme => do
    let (candidates, prefixed) ← candidates? registry currency? scheme
    match withoutScheme? prefixed uri with
    | none => throw (.unsupportedScheme scheme)
    | some rest =>
      let (address, tokens) ← splitRest? uri rest
      return ⟨candidates, address, tokens⟩

end Parts

end PaymentUri.Request
