import PaymentUri.Currency
import PaymentUri.Log.Console
import PaymentUri.Text.Lowercase
/-!
# The registry of currencies

Currencies in the order of their registration. The order matters: currencies may
share a scheme, and they are tried in this order. A currency is looked up by its
id, or with the others that claim a scheme, where case does not count.
-/

namespace PaymentUri

/-- The registered currencies, the oldest first. The order decides which currency an address
belongs to when several accept it, so it is never changed but by adding and removing. -/
structure Registry where
  currencies : List Currency
  deriving DecidableEq, Repr

namespace Registry

inductive Refusal where
  /-- No currency has the id. -/
  | unknownCurrency (id : Text)
  /-- A currency has the id already. -/
  | alreadyRegistered (id : Text)
  /-- No currency claims the scheme. -/
  | unclaimedScheme (scheme : Text)
  deriving DecidableEq, Repr

def Refusal.message : Refusal → String
  | .unknownCurrency id => s!"Unknown currency: {String.ofList id}"
  | .alreadyRegistered id => s!"Currency {String.ofList id} is already registered"
  | .unclaimedScheme scheme => s!"Unsupported URI scheme: {String.ofList scheme}"

def ids (r : Registry) : List Text := r.currencies.map (·.id)

/-- The currency with an id. -/
def find? (r : Registry) (id : Text) : Option Currency := r.currencies.find? (·.id == id)

/-- The currency with an id, or a refusal. -/
def get (r : Registry) (id : Text) : Except Refusal Currency :=
  match r.find? id with
  | some c => .ok c
  | none => .error (.unknownCurrency id)

def append (r : Registry) (c : Currency) : Registry := ⟨r.currencies ++ [c]⟩

def register (r : Registry) (c : Currency) : Except Refusal Registry :=
  if r.currencies.any (·.id == c.id) then .error (.alreadyRegistered c.id) else .ok (r.append c)

def registered (c : Currency) : Log.Record where
  level := .debug
  message := s!"Registered currency {String.ofList c.id} for scheme {String.ofList c.scheme}"

/-- The registry without the first currency of an id. -/
def erase (r : Registry) (id : Text) : Registry := ⟨r.currencies.eraseP (·.id == id)⟩

/-- The currency with an id, and the registry without it. -/
def unregister (r : Registry) (id : Text) : Except Refusal (Currency × Registry) :=
  match r.find? id with
  | some c => .ok (c, r.erase id)
  | none => .error (.unknownCurrency id)

/-- The currencies that claim a scheme, in order. Schemes are compared in lower case, by the
lower case of all scripts, since a currency may spell its own as it likes. -/
def claiming (r : Registry) (scheme : Text) : List Currency :=
  r.currencies.filter fun c => Text.lowercase c.scheme == Text.lowercase scheme

/-- The currencies that claim a scheme, or a refusal if there are none. -/
def ofScheme (r : Registry) (scheme : Text) : Except Refusal (List Currency) :=
  match r.claiming scheme with
  | [] => .error (.unclaimedScheme scheme)
  | cs => .ok cs

/-- The currencies that every registry begins with. -/
def builtin : Registry where
  currencies :=
    [ ⟨"bitcoin.main".toList, "Bitcoin".toList, "BTC".toList, "bitcoin".toList, 8, 0, 5⟩,
      ⟨"bitcoin.test".toList, "Bitcoin Test".toList, "BTCTEST".toList, "bitcoin".toList,
        8, 111, 196⟩,
      ⟨"litecoin.main".toList, "Litecoin".toList, "LTC".toList, "litecoin".toList, 8, 48, 5⟩,
      ⟨"litecoin.test".toList, "Litecoin Test".toList, "LTCTEST".toList, "litecoin".toList,
        8, 111, 196⟩,
      ⟨"dogecoin.main".toList, "Dogecoin".toList, "DOGE".toList, "dogecoin".toList, 8, 30, 22⟩,
      ⟨"peercoin.main".toList, "Peercoin".toList, "PPC".toList, "peercoin".toList, 6, 55, 117⟩,
      ⟨"parkbyte.test".toList, "Parkbyte Test".toList, "PKBTEST".toList, "parkbyte".toList,
        6, 111, 196⟩ ]

theorem mem_claiming {r : Registry} {scheme : Text} {c : Currency} :
    c ∈ r.claiming scheme ↔
      c ∈ r.currencies ∧ Text.lowercase c.scheme = Text.lowercase scheme := by
  simp [claiming]

/-- What is looked up by an id has that id and is registered. -/
theorem find?_eq_some {r : Registry} {id : Text} {c : Currency} (h : r.find? id = some c) :
    c.id = id ∧ c ∈ r.currencies :=
  ⟨by simpa using List.find?_some h, List.mem_of_find?_eq_some h⟩

@[simp] theorem ids_append (r : Registry) (c : Currency) :
    (r.append c).ids = r.ids ++ [c.id] := by
  simp [ids, append]

end Registry

end PaymentUri
