import PaymentUri.Proofs.Loading
import PaymentUri.Proofs.RegistryLookup
import PaymentUri.Session.Step
/-!
# What commands ask of the registry

A command asks for certain changes of the registry, in a certain order, and does nothing
else to it, whether it succeeds or fails. What it asks for is known from the command, the
files and, where a currency is named by its id, from the registry: a registration asks for
one currency, settings ask for all that they describe up to the first faulty section.
-/

namespace PaymentUri

namespace Registry

theorem foldl_change_map_add (r : Registry) (cs : List Currency) :
    (cs.map Change.add).foldl change r = r.enrol cs :=
  List.foldl_map

end Registry

namespace Session.State

variable {s : State}

@[simp] theorem registry_noteAll (s : State) (rs : List Log.Record) :
    (s.noteAll rs).registry = s.registry := by
  rw [noteAll_eq]

@[simp] theorem registry_readDatum (s : State) (currency? : Option Currency) (uri : Datum) :
    (s.readDatum currency? uri).2.registry = s.registry :=
  registry_noteAll _ _

@[simp] theorem registry_readUri (s : State) (u : UriRef) :
    (s.readUri u).2.registry = s.registry := by
  rw [readUri]
  split
  · rfl
  · exact registry_readDatum _ _ _

@[simp] theorem registry_readBoth (s : State) (u v : UriRef) :
    (s.readBoth u v).2.registry = s.registry := by
  have hfirst := s.registry_readUri u
  rw [readBoth]
  split
  · next hread => rwa [hread] at hfirst
  · next s₁ hread =>
      rw [hread] at hfirst
      have hsecond := s₁.registry_readUri v
      split
      · next hread' =>
          rw [hread'] at hsecond
          exact hsecond.trans hfirst
      · next hread' =>
          rw [hread'] at hsecond
          exact hsecond.trans hfirst

@[simp] theorem registry_roundTrip (s : State) (f : FormRef) (c : CurrencyRef) :
    (s.roundTrip f c).2.registry = s.registry := by
  rw [roundTrip]
  split
  · rfl
  · split
    · rfl
    · exact registry_readDatum _ _ _

theorem register_of_mem {c : Currency} (h : c.id ∈ s.registry.ids) :
    s.register c = (.error (.registry (.alreadyRegistered c.id)), s) := by
  rw [register, Registry.register_of_mem h]

theorem register_of_not_mem {c : Currency} (h : c.id ∉ s.registry.ids) :
    s.register c = (.ok (.currency c),
      { s with registry := s.registry.append c }.note (Registry.registered c)) := by
  rw [register, Registry.register_of_not_mem h]

theorem unregister_of_not_mem {id : Text} (h : id ∉ s.registry.ids) :
    s.unregister id = (.error (.registry (.unknownCurrency id)), s) := by
  rw [unregister, Registry.unregister_of_not_mem h]

theorem registry_register (s : State) (c : Currency) :
    (s.register c).2.registry = s.registry.offer c := by
  by_cases h : c.id ∈ s.registry.ids
  · rw [register_of_mem h, Registry.offer_of_mem h]
  · rw [register_of_not_mem h, Registry.offer_of_not_mem h]
    rfl

theorem registry_unregister (s : State) (id : Text) :
    (s.unregister id).2.registry = s.registry.erase id := by
  by_cases h : id ∈ s.registry.ids
  · obtain ⟨c, hc⟩ := Option.isSome_iff_exists.mp (Registry.isSome_find?_iff.mpr h)
    rw [unregister, Registry.unregister, hc]
  · rw [unregister_of_not_mem h, Registry.erase_of_not_mem h]

/-- The state with the currencies of any settings registered. -/
def registerSettings (s : State) (d : Settings.Document) : State :=
  let r := Settings.registerCurrencies d s.registry
  { s with registry := r.registry }.noteAll r.records

theorem registry_registerSettings (s : State) (d : Settings.Document) :
    (s.registerSettings d).registry = s.registry.enrol d.currencies := by
  rw [registerSettings, registry_noteAll, Settings.registry_registerCurrencies]

theorem registry_loadPath (s : State) (path : Text) :
    (s.loadPath path).2.registry = s.registry.enrol (s.loading path).currencies :=
  s.registry_load path

/-- The changes that a command asks of the registry. -/
def changes (s : State) : Command → List Registry.Change
  | .register c _ =>
    match c.get "id" s.registry with
    | .ok c => [.add c]
    | .error _ => []
  | .unregister id => [.remove id]
  | .registerText source content =>
    match documentOf? source content with
    | .ok d => d.currencies.map .add
    | .error _ => []
  | .loadText name content => ((s.save name content).loading name).currencies.map .add
  | .load path => (s.loading path).currencies.map .add
  | _ => []

/-- A command does to the registry what it asks for, and nothing else. -/
theorem registry_step (s : State) (command : Command) :
    (s.step command).2.registry = (s.changes command).foldl Registry.change s.registry := by
  cases command with
  | ask q => rfl
  | read u => exact registry_readUri _ _
  | isRequest u =>
      rw [step]
      split
      · rfl
      · exact registry_noteAll _ _
  | fields u names => exact registry_readUri _ _
  | compareRequests u v => exact registry_readBoth _ _ _
  | roundTrip f c => exact registry_roundTrip _ _ _
  | register c _ =>
      rw [step, changes]
      cases c.get "id" s.registry with
      | error cause => rfl
      | ok c => exact registry_register s c
  | unregister id => exact registry_unregister s id
  | registerText source content =>
      rw [step, registerText, changes]
      cases documentOf? source content with
      | error cause => rfl
      | ok d =>
          rw [Registry.foldl_change_map_add]
          exact s.registry_registerSettings d
  | loadText name content =>
      rw [changes, Registry.foldl_change_map_add]
      exact (s.save name content).registry_loadPath name
  | load path =>
      rw [changes, Registry.foldl_change_map_add]
      exact s.registry_loadPath path
  | setThreshold d =>
      rw [step]
      split
      · rfl
      · rfl
  | setColor on => rfl
  | note level message => rfl

end Session.State

end PaymentUri
