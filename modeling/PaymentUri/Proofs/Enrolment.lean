import PaymentUri.Settings.Currency
/-!
# What sections put into the registry

A registration goes through sections up to the first that describes no currency. What it
leaves depends only on the currencies that are described before that: each is put behind
the others unless its id is taken. Afterwards all their ids are taken, so the same
registration again changes nothing.
-/

namespace PaymentUri

namespace Registry

variable {r : Registry} {c : Currency} {cs : List Currency} {id : Text}

theorem isSome_find?_iff : (r.find? id).isSome = true ↔ id ∈ r.ids := by
  simp [find?, ids]

/-- The registry with a currency, unless its id is taken. -/
def offer (r : Registry) (c : Currency) : Registry :=
  if c.id ∈ r.ids then r else r.append c

theorem offer_of_mem (h : c.id ∈ r.ids) : r.offer c = r := if_pos h

theorem offer_of_not_mem (h : c.id ∉ r.ids) : r.offer c = r.append c := if_neg h

theorem mem_ids_offer : id ∈ (r.offer c).ids ↔ id ∈ r.ids ∨ c.id = id := by
  by_cases h : c.id ∈ r.ids
  · rw [offer_of_mem h]
    constructor
    · exact .inl
    · rintro (hid | rfl)
      · exact hid
      · exact h
  · rw [offer_of_not_mem h, ids_append, List.mem_append, List.mem_singleton, eq_comm (a := id)]

/-- The registry with currencies, each unless its id is taken when its turn comes. -/
def enrol (r : Registry) (cs : List Currency) : Registry := cs.foldl offer r

@[simp] theorem enrol_nil (r : Registry) : r.enrol [] = r := rfl

@[simp] theorem enrol_cons (r : Registry) (c : Currency) (cs : List Currency) :
    r.enrol (c :: cs) = (r.offer c).enrol cs := rfl

/-- The ids that are taken afterwards are those that were, and those of the currencies. -/
theorem mem_ids_enrol : id ∈ (r.enrol cs).ids ↔ id ∈ r.ids ∨ ∃ c ∈ cs, c.id = id := by
  induction cs generalizing r with
  | nil => simp
  | cons c cs ih =>
      rw [enrol_cons, ih, mem_ids_offer, or_assoc]
      simp

theorem enrol_of_forall_mem (h : ∀ c ∈ cs, c.id ∈ r.ids) : r.enrol cs = r := by
  induction cs with
  | nil => rfl
  | cons c cs ih =>
      obtain ⟨hc, hrest⟩ := List.forall_mem_cons.mp h
      rw [enrol_cons, offer_of_mem hc]
      exact ih hrest

/-- Currencies that were enrolled are not enrolled again. -/
theorem enrol_enrol (r : Registry) (cs : List Currency) : (r.enrol cs).enrol cs = r.enrol cs :=
  enrol_of_forall_mem fun c hc => mem_ids_enrol.mpr (.inr ⟨c, hc, rfl⟩)

end Registry

namespace Settings

variable {d : Document} {place : Text}

namespace Document

/-- The currencies that sections describe, up to the first that describes none. -/
def described (d : Document) : List Text → List Currency
  | [] => []
  | place :: places =>
    match d.currency? place with
    | .ok c => c :: d.described places
    | .error _ => []

def currencies (d : Document) : List Currency := d.described d.currencySections

/-- Whether all sections describe currencies, and otherwise why the first that does not
describes none. -/
def examine (d : Document) : List Text → Except CurrencyRefusal Unit
  | [] => .ok ()
  | place :: places =>
    match d.currency? place with
    | .ok _ => d.examine places
    | .error cause => .error cause

end Document

/-- The registry after a registration is enrolled with what the sections describe. -/
theorem registry_registerSections (d : Document) (r : Registry) (new : List Currency)
    (places : List Text) :
    (registerSections d r new places).registry = r.enrol (d.described places) := by
  induction places generalizing r new with
  | nil => rfl
  | cons place places ih =>
      rw [registerSections, Document.described]
      cases d.currency? place with
      | error cause => rfl
      | ok c =>
          simp only [Registry.isSome_find?_iff, Registry.enrol_cons]
          split
          · next hmem => rw [ih, Registry.offer_of_mem hmem]
          · next hnew => rw [ih, Registry.offer_of_not_mem hnew]

theorem registry_registerCurrencies (d : Document) (r : Registry) :
    (registerCurrencies d r).registry = r.enrol d.currencies :=
  registry_registerSections d r [] _

/-- How a registration ends does not depend on what is registered. -/
theorem outcome_registerSections (d : Document) (r : Registry) (new : List Currency)
    (places : List Text) :
    ((registerSections d r new places).outcome.map fun _ => ()) = d.examine places := by
  induction places generalizing r new with
  | nil => rfl
  | cons place places ih =>
      rw [registerSections, Document.examine]
      cases d.currency? place with
      | error cause => rfl
      | ok c =>
          dsimp only
          split
          · exact ih r new
          · exact ih (r.append c) (new ++ [c])

end Settings

end PaymentUri
