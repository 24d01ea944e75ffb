import PaymentUri.Reference.Host
import PaymentUri.Text.Lowercase
import PaymentUri.Text.Quoted
/-!
# The scheme of a reference

The scheme of a text that may be any reference, not only a payment request.
Leading controls and spaces are passed over, and tabs and line ends are taken out
wherever they stand. What comes before the first colon is the scheme if it is
written like one. A reference with an authority is refused when the authority is
not well formed, even though only the scheme is wanted.
-/

namespace PaymentUri.Reference

inductive Refusal where
  /-- The brackets of the authority do not enclose a host. -/
  | brackets
  /-- The host is a version mark without what belongs to it. -/
  | future
  /-- The host is a dotted address in brackets. -/
  | dotted
  /-- The host is no address at all. -/
  | host (name : Text)
  /-- The authority holds a character that is equivalent to a delimiter. -/
  | delimiter (authority : Text)
  deriving DecidableEq, Repr

def Refusal.message : Refusal → String
  | .brackets => "Invalid IPv6 URL"
  | .future => "IPvFuture address is invalid"
  | .dotted => "An IPv4 address cannot be in brackets"
  | .host name =>
    s!"{String.ofList (Text.quoted name)} does not appear to be an IPv4 or IPv6 address"
  | .delimiter authority =>
    s!"netloc '{String.ofList authority}' contains invalid characters under NFKC normalization"

/-- A letter, a digit, or one of the three marks that a scheme may hold. -/
def isSchemeChar (c : Char) : Bool := c.isAlphanum || c == '+' || c == '.' || c == '-'

/-- The text is written like a scheme: scheme characters, of which the first is a letter. -/
def isScheme : Text → Bool
  | [] => false
  | c :: cs => c.isAlpha && cs.all isSchemeChar

/-- The characters whose compatibility form holds a delimiter of a reference. -/
def delimiterLikes : Text.Ranges :=
  [(0x2047, 0x2049), (0x2100, 0x2101), (0x2105, 0x2106), (0x2a74, 0x2a74), (0xfe13, 0xfe13),
    (0xfe16, 0xfe16), (0xfe55, 0xfe56), (0xfe5f, 0xfe5f), (0xfe6b, 0xfe6b), (0xff03, 0xff03),
    (0xff0f, 0xff0f), (0xff1a, 0xff1a), (0xff1f, 0xff20)]

/-- A host that stands in brackets, or would. -/
def checkHost (host : Text) : Except Refusal Unit :=
  if host.head? = some 'v' then
    if isFuture host then .ok () else .error .future
  else if isDotted host then .error .dotted
  else if isColoned host then .ok ()
  else .error (.host host)

/-- The part of an authority after the last at sign. -/
def afterUser (authority : Text) : Text :=
  (authority.reverse.takeWhile (· != '@')).reverse

/-- An authority that holds brackets. -/
def checkBracketed (authority : Text) : Except Refusal Unit :=
  let server := afterUser authority
  match server.dropWhile (· != '[') with
  | _ :: bracketed =>
    let rest := (bracketed.dropWhile (· != ']')).drop 1
    if server.head? ≠ some '[' then .error .brackets
    else if rest ≠ [] ∧ rest.head? ≠ some ':' then .error .brackets
    else checkHost (bracketed.takeWhile (· != ']'))
  | [] => checkHost (server.takeWhile (· != ':'))

/-- An authority: brackets come in pairs and enclose a host, and no character is
equivalent to a delimiter. -/
def checkAuthority (authority : Text) : Except Refusal Unit := do
  if authority.contains '[' != authority.contains ']' then throw .brackets
  if authority.contains '[' then checkBracketed authority
  if authority.any delimiterLikes.contains then throw (.delimiter authority)

/-- The text as it is taken apart: leading controls and spaces, tabs and line ends removed. -/
def cleaned (t : Text) : Text :=
  (t.dropWhile fun c => c.toNat ≤ 0x20).filter fun c => c != '\t' && c != '\r' && c != '\n'

/-- The scheme, if the text has one, and what comes after it. -/
def splitScheme (t : Text) : Option Text × Text :=
  match Text.cut? ':' t with
  | some (scheme, rest) => if isScheme scheme then (some scheme, rest) else (none, t)
  | none => (none, t)

/-- The authority of what follows a scheme, if there is one. -/
def authority? : Text → Option Text
  | '/' :: '/' :: t => some (t.takeWhile fun c => c != '/' && c != '?' && c != '#')
  | _ => none

/-- The scheme of a reference in lower case, if it has one. -/
def scheme? (t : Text) : Except Refusal (Option Text) := do
  let (scheme, rest) := splitScheme (cleaned t)
  match authority? rest with
  | some authority => checkAuthority authority
  | none => pure ()
  return scheme.map Text.lowercase

end PaymentUri.Reference
