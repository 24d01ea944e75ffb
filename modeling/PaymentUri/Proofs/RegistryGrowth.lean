import PaymentUri.Proofs.RegistryChanges
/-!
# The registry in the course of a session

Only one command takes a currency out of the registry. Everything else that may happen to
a session, whether it succeeds or ends early, leaves the registry as it is or puts
currencies of new ids behind those that are there.
-/

namespace PaymentUri

namespace Registry

variable {r r' r'' : Registry} {c : Currency}

/-- The registry after currencies of new ids were registered, one behind the other. -/
inductive Extends : Registry → Registry → Prop
  | refl (r : Registry) : Extends r r
  | append {r r' : Registry} {c : Currency} (fresh : ∀ d ∈ r.currencies, d.id ≠ c.id)
      (more : Extends (r.append c) r') : Extends r r'

theorem Extends.trans (h : r.Extends r') (h' : r'.Extends r'') : r.Extends r'' := by
  induction h with
  | refl => exact h'
  | append hfresh _ ih => exact .append hfresh (ih h')

theorem Extends.isPrefix (h : r.Extends r') : r.currencies <+: r'.currencies := by
  induction h with
  | refl => exact List.prefix_refl _
  | append _ _ ih => exact (List.prefix_append _ _).trans ih

theorem Extends.claiming (h : r.Extends r') (scheme : Text) :
    r.claiming scheme <+: r'.claiming scheme :=
  h.isPrefix.filter _

theorem extends_append (hfresh : ∀ d ∈ r.currencies, d.id ≠ c.id) : r.Extends (r.append c) :=
  .append hfresh (.refl _)

theorem extends_offer (r : Registry) (c : Currency) : r.Extends (r.offer c) := by
  by_cases h : c.id ∈ r.ids
  · rw [offer_of_mem h]
    exact .refl _
  · rw [offer_of_not_mem h]
    apply extends_append
    intro d hd hid
    exact h (List.mem_map.mpr ⟨d, hd, hid⟩)

/-- Currencies are put behind those that are registered, or passed over. -/
theorem extends_enrol (r : Registry) (cs : List Currency) : r.Extends (r.enrol cs) := by
  induction cs generalizing r with
  | nil => exact .refl _
  | cons c cs ih => exact (r.extends_offer c).trans (ih (r.offer c))

end Registry

namespace Session

namespace State

variable {s : State} {command : Command}

/-- Only one command asks for a currency to be taken away. -/
theorem exists_changes_eq_map_add (h : ∀ id, command ≠ .unregister id) :
    ∃ cs : List Currency, s.changes command = cs.map .add := by
  cases command with
  | register c _ =>
      rw [changes]
      cases c.get "id" s.registry with
      | error cause => exact ⟨[], rfl⟩
      | ok c => exact ⟨[c], rfl⟩
  | unregister id => exact absurd rfl (h id)
  | registerText source content =>
      rw [changes]
      cases documentOf? source content with
      | error cause => exact ⟨[], rfl⟩
      | ok d => exact ⟨_, rfl⟩
  | loadText name content => exact ⟨_, rfl⟩
  | load path => exact ⟨_, rfl⟩
  | _ => exact ⟨[], rfl⟩

theorem extends_step (h : ∀ id, command ≠ .unregister id) :
    s.registry.Extends (s.step command).2.registry := by
  obtain ⟨cs, hcs⟩ := exists_changes_eq_map_add h
  rw [registry_step, hcs, Registry.foldl_change_map_add]
  exact s.registry.extends_enrol cs

theorem extends_registerSettings (s : State) (d : Settings.Document) :
    s.registry.Extends (s.registerSettings d).registry := by
  rw [registry_registerSettings]
  exact s.registry.extends_enrol _

end State

/-- What may happen to a session: a command is answered, or the currencies of settings that
come from elsewhere are registered. -/
inductive Event where
  | command (c : Command)
  | settings (d : Settings.Document)

namespace State

/-- The state that an event leaves, whether it succeeds or fails. -/
def after (s : State) : Event → State
  | .command c => (s.step c).2
  | .settings d => s.registerSettings d

/-- The state that events leave, one after the other. -/
def afterAll (s : State) (events : List Event) : State := events.foldl after s

theorem extends_after (s : State) {event : Event}
    (h : ∀ id, event ≠ .command (.unregister id)) :
    s.registry.Extends (s.after event).registry := by
  cases event with
  | command c =>
      apply extends_step
      rintro id rfl
      exact h id rfl
  | settings d => exact s.extends_registerSettings d

/-- As long as no currency is taken away, whatever happens only extends the registry. -/
theorem extends_afterAll (s : State) {events : List Event}
    (h : ∀ id, .command (.unregister id) ∉ events) :
    s.registry.Extends (s.afterAll events).registry := by
  induction events generalizing s with
  | nil => exact .refl _
  | cons event events ih =>
      have hfirst : ∀ id, event ≠ .command (.unregister id) := by
        rintro id rfl
        exact h id List.mem_cons_self
      have hothers : ∀ id, .command (.unregister id) ∉ events :=
        fun id hmem => h id (List.mem_cons_of_mem _ hmem)
      exact (s.extends_after hfirst).trans (ih (s.after event) hothers)

end State

end Session

end PaymentUri
