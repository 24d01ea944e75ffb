import PaymentUri.Base58.Check
import PaymentUri.Currency
import PaymentUri.Datum
import PaymentUri.Digest.Sha256
/-!
# Addresses

An address is a hash of twenty octets with a version that says what kind of hash
it is. Different currencies may use the same version, so the same text may be an
address of several of them; an address value always belongs to one.
-/

namespace PaymentUri

/-- An address of a currency. That the version is one of the currency and the hash has its
length is part of the value, so what takes an address does not look at it again. -/
structure Address where
  currency : Currency
  version : UInt8
  /-- The hash of a key or of a script. -/
  hash : List UInt8
  version_mem : version ∈ currency.versions
  length_hash : hash.length = 20
  deriving DecidableEq

namespace Address

inductive Refusal where
  /-- The datum is no text, or the empty one. -/
  | empty
  /-- The text has no version and payload. -/
  | encoding (cause : Base58Check.Refusal)
  /-- The text has a version of another currency. -/
  | foreignVersion (currency : Text)
  /-- The text has a payload that is not a hash. -/
  | payloadLength
  /-- The number is not a version of the currency. -/
  | unusedVersion (version : Int) (currency : Text)
  /-- The octets are not a hash. -/
  | hashLength
  deriving DecidableEq, Repr

def Refusal.message : Refusal → String
  | .empty => "Empty address"
  | .encoding cause => cause.message
  | .foreignVersion id =>
    s!"Wrong address version for {String.ofList id}. Testnet/mainnet confused?"
  | .payloadLength => "Address has correct checksum but wrong length."
  | .unusedVersion version id => s!"Version {version} is not used by {String.ofList id}"
  | .hashLength => "Address has wrong length."

/-- The text of an address. -/
def text (a : Address) : Text := Base58Check.encode .doubleSha256 a.version a.hash

/-- The version and the payload that a text states, whatever the currency. -/
def contents? (t : Text) : Except Refusal (UInt8 × List UInt8) :=
  if t = [] then .error .empty
  else (Base58Check.decode? .doubleSha256 t).mapError .encoding

/-- The address of a version and a payload. -/
def ofContents? (c : Currency) (version : UInt8) (payload : List UInt8) :
    Except Refusal Address :=
  if hv : version ∈ c.versions then
    if hl : payload.length = 20 then .ok ⟨c, version, payload, hv, hl⟩
    else .error .payloadLength
  else .error (.foreignVersion c.id)

/-- The address that a text states for a currency. -/
def ofText? (c : Currency) (t : Text) : Except Refusal Address :=
  match contents? t with
  | .error cause => .error cause
  | .ok (version, payload) => ofContents? c version payload

/-- The text of a datum that may state an address. -/
def textOf? : Datum → Except Refusal Text
  | .text t => .ok t
  | _ => .error .empty

/-- The address that a datum states for a currency. -/
def ofDatum? (c : Currency) (d : Datum) : Except Refusal Address :=
  match textOf? d with
  | .error cause => .error cause
  | .ok t => ofText? c t

def isAddress (c : Currency) (d : Datum) : Bool := (ofDatum? c d).isOk

/-- The address of a hash under a version of the currency, which may be any number. -/
def ofVersion? (c : Currency) (version : Int) (hash : List UInt8) : Except Refusal Address :=
  match c.versions.find? (fun v => (v.toNat : Int) == version) with
  | none => .error (.unusedVersion version c.id)
  | some v =>
    if hv : v ∈ c.versions then
      if hl : hash.length = 20 then .ok ⟨c, v, hash, hv, hl⟩ else .error .hashLength
    else .error (.unusedVersion version c.id)

/-- The address of the hash of a key, or of a script. -/
def ofHash? (c : Currency) (hash : List UInt8) (script : Bool) : Except Refusal Address :=
  if hl : hash.length = 20 then
    .ok ⟨c, if script then c.scriptVersion else c.keyVersion, hash,
      by cases script <;> simp [Currency.versions], hl⟩
  else .error .hashLength

def paysToScript (a : Address) : Bool := a.version == a.currency.scriptVersion

def listing (a : Address) : Text :=
  "CoinAddress(".toList ++ a.currency.id ++ ", ".toList ++ a.text ++ [')']

/-- The same hash under the same version of the same currency. -/
def same (a b : Address) : Bool :=
  a.currency.same b.currency && a.version == b.version && a.hash == b.hash

@[simp] theorem same_iff {a b : Address} :
    a.same b = true ↔ a.currency.id = b.currency.id ∧ a.version = b.version ∧ a.hash = b.hash := by
  simp [same, and_assoc]

theorem isAddress_iff {c : Currency} {d : Datum} :
    isAddress c d = true ↔ ∃ a, ofDatum? c d = .ok a := by
  unfold isAddress
  cases ofDatum? c d <;> simp [Except.isOk, Except.toBool]

end Address

end PaymentUri
