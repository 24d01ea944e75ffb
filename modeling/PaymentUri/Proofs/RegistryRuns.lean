import PaymentUri.Proofs.RegistryGrowth
/-!
# The registry after a whole session

Every session begins with the built-in currencies, and whatever happens to it only asks for
changes of the registry. Which of them take effect is known from those before, so the
registry after a session is known from what was asked for.
-/

namespace PaymentUri.Session

open Registry

namespace State

/-- The changes that an event asks of the registry. -/
def asked (s : State) : Event → List Change
  | .command c => s.changes c
  | .settings d => d.currencies.map .add

theorem registry_after (s : State) (event : Event) :
    (s.after event).registry = (s.asked event).foldl change s.registry := by
  cases event with
  | command c => exact s.registry_step c
  | settings d =>
      rw [asked, foldl_change_map_add]
      exact s.registry_registerSettings d

/-- The changes that events ask of the registry, one after the other. -/
def askedAll (s : State) : List Event → List Change
  | [] => []
  | event :: events => s.asked event ++ (s.after event).askedAll events

theorem registry_afterAll (s : State) (events : List Event) :
    (s.afterAll events).registry = (s.askedAll events).foldl change s.registry := by
  induction events generalizing s with
  | nil => rfl
  | cons event events ih =>
      rw [askedAll, List.foldl_append, ← registry_after]
      exact ih (s.after event)

end State

/-- The changes that took effect since there is a registry: the built-in currencies were
added, and then what the events of a session asked for, as far as it was not passed over. -/
def history (terminal : Bool) (events : List Event) : List Change :=
  ((State.initial terminal).askedAll events).foldl noted (builtin.currencies.map .add)

theorem standing_builtin : standing (builtin.currencies.map .add) = builtin.currencies :=
  standing_map_add (by decide)

/-- The currencies that stand are those that are registered. -/
theorem currencies_afterAll (terminal : Bool) (events : List Event) :
    ((State.initial terminal).afterAll events).registry.currencies =
      standing (history terminal events) := by
  rw [State.registry_afterAll]
  exact currencies_foldl_change standing_builtin.symm _

/-- What is true of a session whose registry has a history. -/
structure Keeps (s : State) (history : List Change) : Prop where
  registry : s.registry.Follows history
  /-- The built-in currencies that were never removed come first, in their order. -/
  builtin_first :
    builtin.currencies.filter (fun c => .remove c.id ∉ history) <+: s.registry.currencies
  /-- A currency of a new id is put behind the others. -/
  register_new : ∀ c, c.id ∉ s.registry.ids →
    (s.register c).1 = .ok (.currency c) ∧
      (s.register c).2.registry.currencies = s.registry.currencies ++ [c]
  register_taken : ∀ c, c.id ∈ s.registry.ids →
    s.register c = (.error (.registry (.alreadyRegistered c.id)), s)
  /-- A currency that is taken away leaves the others in their order. -/
  unregister_present : ∀ before c after, s.registry.currencies = before ++ c :: after →
    s.unregister c.id = (.ok (.currency c), { s with registry := ⟨before ++ after⟩ })
  unregister_absent : ∀ id, id ∉ s.registry.ids →
    s.unregister id = (.error (.registry (.unknownCurrency id)), s)

/-- After every session, whatever was asked for and refused in it, the registry is what
its history says, and answers and changes accordingly. -/
theorem keeps_afterAll (terminal : Bool) (events : List Event) :
    Keeps ((State.initial terminal).afterAll events) (history terminal events) := by
  have hcurrencies := currencies_afterAll terminal events
  have hfollows := follows_of_currencies hcurrencies
  refine ⟨hfollows, ?builtin, ?new, fun c => State.register_of_mem, ?present,
    fun id => State.unregister_of_not_mem⟩
  case builtin =>
    rw [hcurrencies]
    apply isPrefix_foldl_noted
    have hnone : ∀ id, Change.remove id ∉ builtin.currencies.map Change.add := by simp
    have hall := List.filter_eq_self.mpr fun c (_ : c ∈ builtin.currencies) =>
      decide_eq_true (hnone c.id)
    simp only [standing_builtin, hall, List.prefix_rfl]
  case new =>
    intro c hc
    rw [State.register_of_not_mem hc]
    exact ⟨rfl, rfl⟩
  case present =>
    intro before c after hsplit
    rw [State.unregister, unregister_append hfollows.nodup_ids hsplit]

end PaymentUri.Session
