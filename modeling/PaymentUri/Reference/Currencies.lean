import PaymentUri.Reference.Scheme
import PaymentUri.Registry
/-!
# The currencies of a reference

The registered currencies that claim the scheme of a text that may be any
reference.
-/

namespace PaymentUri.Reference

inductive LookupRefusal where
  /-- The reference is not well formed. -/
  | reference (cause : Refusal)
  /-- The reference has no scheme. -/
  | noScheme (t : Text)
  /-- No currency claims the scheme. -/
  | registry (cause : Registry.Refusal)
  deriving DecidableEq, Repr

def LookupRefusal.message : LookupRefusal → String
  | .reference cause => cause.message
  | .noScheme t => s!"No URI scheme in: {String.ofList t}"
  | .registry cause => cause.message

/-- The currencies that claim the scheme of a reference, in order. -/
def currencies? (registry : Registry) (t : Text) : Except LookupRefusal (List Currency) :=
  match scheme? t with
  | .error cause => .error (.reference cause)
  | .ok none => .error (.noScheme t)
  | .ok (some scheme) =>
    match registry.ofScheme scheme with
    | .ok cs => .ok cs
    | .error cause => .error (.registry cause)

end PaymentUri.Reference
