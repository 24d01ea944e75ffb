import PaymentUri.Proofs.RegistryGrowth
import PaymentUri.Proofs.RoundTrip
/-!
# Readings persist

A currency that is registered later is tried later, so it does not change how a text is
read that was accepted before, not even when it claims the same scheme and uses the same
versions: what settles the address stands before it.
-/

namespace PaymentUri

namespace Request

variable {registry registry' : Registry} {currency? : Option Currency} {uri t : Text}
variable {parts : Parts} {r : Request}

/-- More candidates are not looked at once the address is found. -/
theorem resolve?_append {cs : List Currency} {a : Address} (h : (resolve? t cs).1 = some a)
    (more : List Currency) : resolve? t (cs ++ more) = resolve? t cs := by
  induction cs with
  | nil => contradiction
  | cons c cs ih =>
      rw [List.cons_append, resolve?, resolve?]
      cases hread : Address.ofText? c t with
      | ok b => rfl
      | error cause =>
          rw [resolve?, hread] at h
          rw [ih h]

theorem ofParts_append (h : (ofParts currency? parts).outcome = .ok r) (more : List Currency) :
    ofParts currency? { parts with candidates := parts.candidates ++ more } =
      ofParts currency? parts := by
  obtain ⟨address?, hsettles, -⟩ := outcome_ofParts_eq_ok.mp h
  cases address? with
  | none =>
      have hempty := settles_none.mp hsettles
      rw [ofParts, if_pos hempty, ofParts, if_pos hempty]
  | some a => rw [ofParts, resolve?_append (resolve?_eq_some.mpr hsettles), ofParts]

/-- A registry that extends another takes the same parts out of a URI, with more candidates
behind those that were there. -/
theorem TakenApart.extends (h : TakenApart registry none uri parts)
    (hextends : registry.Extends registry') :
    ∃ more, TakenApart registry' none uri
      { parts with candidates := parts.candidates ++ more } := by
  obtain ⟨hlegal, hformed, hcolon, hclaimed, hfollows, haddress, hquery⟩ := h
  obtain ⟨more, hmore⟩ := hextends.claiming _
  have hclaimed' := hmore.symm.trans (congrArg (· ++ more) hclaimed)
  exact ⟨more, .intro hlegal hformed hcolon hclaimed' hfollows haddress hquery⟩

/-- What a registry accepts is read in the same way, and recorded in the same way, by every
registry that extends it. -/
theorem read_of_extends (hextends : registry.Extends registry')
    (hread : ofText? registry none uri = .ok r) :
    read registry' none (.text uri) = read registry none (.text uri) := by
  obtain ⟨parts, address?, happart, hsettles, hcomplete⟩ := ofText?_eq_ok.mp hread
  obtain ⟨more, hmore⟩ := happart.extends hextends
  have hparts := outcome_ofParts_eq_ok.mpr ⟨address?, hsettles, hcomplete⟩
  simp only [read, unfinished, ofUri?_eq_ok.mpr happart, ofUri?_eq_ok.mpr hmore,
    ofParts_append hparts]

end Request

namespace Session.State

open Request

/-- A text that is accepted as a payment request stays accepted, as the same request of the
same currency with the same fields, and is read with the same records, whatever happens to
the session other than that a currency is unregistered. -/
theorem ofText?_afterAll {s : State} {events : List Event} {uri : Text} {r : Request}
    (hkept : ∀ id, .command (.unregister id) ∉ events)
    (hread : ofText? s.registry none uri = .ok r) :
    ofText? (s.afterAll events).registry none uri = .ok r ∧
      read (s.afterAll events).registry none (.text uri) = read s.registry none (.text uri) := by
  have hsame := read_of_extends (s.extends_afterAll hkept) hread
  refine ⟨?_, hsame⟩
  rw [ofText?, hsame]
  exact hread

/-- A currency with the scheme and the versions of the first one, but with other decimal
places, is registered, and the settings are loaded. -/
def rivalEvents : List Event :=
  [.command (.register (.described "bitcoin.rival".toList "Rival".toList "RVL".toList
      "bitcoin".toList 2 0 5) nofun),
    .command (.load [])]

theorem ofText?_afterAll_rivalEvents :
    ∃ uri r, ofText? ((initial false).afterAll rivalEvents).registry none uri = .ok r ∧
      r.address? = some zeroAddress ∧
      r.amount? = some ⟨zeroAddress.currency, 2030000000, by decide⟩ ∧
      ∃ c ∈ ((initial false).afterAll rivalEvents).registry.claiming zeroAddress.currency.scheme,
        zeroAddress.version ∈ c.versions ∧ c.exponent = 2 := by
  have hamount : ∀ v ∈ some (⟨zeroAddress.currency, 2030000000, by decide⟩ : Amount),
      v.currency = zeroAddress.currency ∧ 0 ≤ v.units ∧ v.IsShort := by
    rintro v ⟨⟩
    exact ⟨rfl, by decide, Amount.isShort_of_exponent_le (by decide)⟩
  have hread := leadsTo_zeroAddress.ofText?_assemble none none (by decide) hamount
  have hkept : ∀ id, .command (.unregister id) ∉ rivalEvents := by
    intro id
    simp [rivalEvents]
  obtain ⟨hafter, -⟩ := ofText?_afterAll (s := initial false) hkept hread
  exact ⟨_, _, hafter, address?_stating, amount?_stating, by decide⟩

end Session.State

end PaymentUri
