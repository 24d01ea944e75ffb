import PaymentUri.Proofs.Enrolment
/-!
# The registry and its history

Whoever only knows which changes were asked for, and in which order, knows the registry.
A change takes effect or is passed over, which is decided by the currencies that stand at
that moment; and a currency stands when it was added and no later change concerns its id.
What stands, in the order of the additions, is what is registered.
-/

namespace PaymentUri

namespace Registry

/-- A change that is asked of a registry. -/
inductive Change where
  /-- A currency is to be put behind the others. -/
  | add (c : Currency)
  /-- The currency of an id is to be taken away. -/
  | remove (id : Text)
  deriving DecidableEq

def Change.id : Change → Text
  | .add c => c.id
  | .remove id => id

variable {r : Registry} {c : Currency} {id : Text} {history : List Change} {x : Change}

/-- The currency was added, and nothing that happened later concerns its id. -/
def Stands (history : List Change) (c : Currency) : Prop :=
  ∃ before after, history = before ++ .add c :: after ∧ ∀ x ∈ after, x.id ≠ c.id

/-- The currencies that stand after changes took effect, in the order of their addition. -/
def standing : List Change → List Currency
  | [] => []
  | .add c :: later =>
    if ∃ x ∈ later, x.id = c.id then standing later else c :: standing later
  | .remove _ :: later => standing later

theorem stands_cons {later : List Change} :
    Stands (x :: later) c ↔ (x = .add c ∧ ∀ y ∈ later, y.id ≠ c.id) ∨ Stands later c := by
  constructor
  · rintro ⟨before, after, hsplit, hlater⟩
    cases before with
    | nil =>
        obtain ⟨rfl, rfl⟩ := List.cons.inj hsplit
        exact .inl ⟨rfl, hlater⟩
    | cons y before =>
        obtain ⟨rfl, rfl⟩ := List.cons.inj hsplit
        exact .inr ⟨before, after, rfl, hlater⟩
  · rintro (⟨rfl, hlater⟩ | ⟨before, after, rfl, hlater⟩)
    · exact ⟨[], later, rfl, hlater⟩
    · exact ⟨x :: before, after, rfl, hlater⟩

theorem mem_standing : c ∈ standing history ↔ Stands history c := by
  induction history with
  | nil => simp [standing, Stands]
  | cons x later ih =>
      rw [stands_cons, ← ih]
      cases x with
      | remove id => simp [standing]
      | add d =>
          rw [standing]
          split
          · next hlater =>
              refine ⟨.inr, ?_⟩
              rintro (⟨heq, hnone⟩ | hmem)
              · obtain rfl := Change.add.inj heq
                obtain ⟨y, hy, hid⟩ := hlater
                exact absurd hid (hnone y hy)
              · exact hmem
          · next hlater =>
              rw [List.mem_cons, Change.add.injEq]
              constructor
              · rintro (rfl | hmem)
                · exact .inl ⟨rfl, fun y hy hid => hlater ⟨y, hy, hid⟩⟩
                · exact .inr hmem
              · rintro (⟨rfl, -⟩ | hmem)
                · exact .inl rfl
                · exact .inr hmem

/-- No two currencies that stand have the same id. -/
theorem nodup_ids_standing (history : List Change) :
    ((standing history).map (·.id)).Nodup := by
  induction history with
  | nil => exact List.nodup_nil
  | cons x later ih =>
      cases x with
      | remove id => exact ih
      | add c =>
          rw [standing]
          split
          · exact ih
          · next hlater =>
              refine List.nodup_cons.mpr ⟨?_, ih⟩
              intro hmem
              obtain ⟨d, hd, hid⟩ := List.mem_map.mp hmem
              obtain ⟨before, after, rfl, -⟩ := mem_standing.mp hd
              exact hlater ⟨.add d, by simp, hid⟩

/-- One more change leaves what has another id, and adds what it adds. -/
theorem standing_append (history : List Change) (x : Change) :
    standing (history ++ [x]) =
      (standing history).filter (fun c => c.id != x.id) ++ standing [x] := by
  induction history with
  | nil => rfl
  | cons y later ih =>
      cases y with
      | remove id => exact ih
      | add c =>
          have hexists : (∃ y ∈ later ++ [x], y.id = c.id) ↔
              (∃ y ∈ later, y.id = c.id) ∨ x.id = c.id := by
            simp [or_and_right, exists_or]
          rw [List.cons_append, standing, standing, ih]
          simp only [hexists]
          by_cases hlater : ∃ y ∈ later, y.id = c.id
          · rw [if_pos (.inl hlater), if_pos hlater]
          · rw [if_neg hlater]
            by_cases hid : x.id = c.id
            · rw [if_pos (.inr hid), List.filter_cons_of_neg (by simp [hid])]
            · rw [if_neg (not_or.mpr ⟨hlater, hid⟩),
                List.filter_cons_of_pos (by simpa using Ne.symm hid), List.cons_append]

/-- A change takes effect: an addition where no other currency of its id stands, and a
removal where there is something to remove. -/
def TakesEffect (history : List Change) : Change → Prop
  | .add c => c.id ∉ (standing history).map (·.id)
  | .remove id => id ∈ (standing history).map (·.id)

instance (history : List Change) (x : Change) : Decidable (TakesEffect history x) :=
  match x with
  | .add c => inferInstanceAs (Decidable (c.id ∉ (standing history).map (·.id)))
  | .remove id => inferInstanceAs (Decidable (id ∈ (standing history).map (·.id)))

/-- The history after one more change was asked for. -/
def noted (history : List Change) (x : Change) : List Change :=
  if TakesEffect history x then history ++ [x] else history

/-- Where no currency has an id, to leave that id out makes no difference. -/
theorem filter_of_not_mem {cs : List Currency} (h : id ∉ cs.map (·.id)) :
    cs.filter (·.id != id) = cs := by
  rw [List.filter_eq_self]
  intro c hc
  rw [bne_iff_ne]
  intro hid
  exact h (List.mem_map.mpr ⟨c, hc, hid⟩)

/-- What is added stands behind the others. -/
theorem standing_append_add (h : TakesEffect history (.add c)) :
    standing (history ++ [.add c]) = standing history ++ [c] := by
  rw [standing_append, Change.id, filter_of_not_mem h]
  rfl

/-- What is removed leaves the others in their order. -/
theorem standing_append_remove (history : List Change) (id : Text) :
    standing (history ++ [.remove id]) = (standing history).filter (·.id != id) := by
  rw [standing_append]
  exact List.append_nil _

theorem noted_of_takesEffect (h : TakesEffect history x) : noted history x = history ++ [x] :=
  if_pos h

theorem noted_of_not_takesEffect (h : ¬ TakesEffect history x) : noted history x = history :=
  if_neg h

/-- The registry after a change was asked for. -/
def change (r : Registry) : Change → Registry
  | .add c => r.offer c
  | .remove id => r.erase id

theorem erase_of_not_mem (h : id ∉ r.ids) : r.erase id = r := by
  rw [erase, List.eraseP_of_forall_not]
  intro c hc hid
  exact h (List.mem_map.mpr ⟨c, hc, by simpa using hid⟩)

/-- Where no id occurs twice, the first currency of an id is the only one. -/
theorem eraseP_eq_filter {cs : List Currency} (h : (cs.map (·.id)).Nodup) (id : Text) :
    cs.eraseP (·.id == id) = cs.filter (·.id != id) := by
  induction cs with
  | nil => rfl
  | cons c cs ih =>
      obtain ⟨hfirst, hrest⟩ := List.nodup_cons.mp h
      by_cases hid : c.id = id
      · rw [List.eraseP_cons_of_pos (by simpa using hid),
          List.filter_cons_of_neg (by simp [hid]), filter_of_not_mem (hid ▸ hfirst)]
      · rw [List.eraseP_cons_of_neg (by simpa using hid),
          List.filter_cons_of_pos (by simpa using hid), ih hrest]

theorem takesEffect_add (h : r.currencies = standing history) :
    TakesEffect history (.add c) ↔ c.id ∉ r.ids := by
  rw [ids, h]
  rfl

theorem takesEffect_remove (h : r.currencies = standing history) :
    TakesEffect history (.remove id) ↔ id ∈ r.ids := by
  rw [ids, h]
  rfl

theorem currencies_offer (h : r.currencies = standing history) (c : Currency) :
    (r.offer c).currencies = standing (noted history (.add c)) := by
  by_cases hmem : c.id ∈ r.ids
  · have hidle : ¬ TakesEffect history (.add c) :=
      fun heffect => (takesEffect_add h).mp heffect hmem
    rw [offer_of_mem hmem, noted_of_not_takesEffect hidle, h]
  · have heffect := (takesEffect_add h).mpr hmem
    rw [offer_of_not_mem hmem, noted_of_takesEffect heffect, standing_append_add heffect, append, h]

theorem currencies_erase (h : r.currencies = standing history) (id : Text) :
    (r.erase id).currencies = standing (noted history (.remove id)) := by
  by_cases hmem : id ∈ r.ids
  · have heffect := (takesEffect_remove h).mpr hmem
    rw [noted_of_takesEffect heffect, standing_append_remove, erase, h,
      eraseP_eq_filter (nodup_ids_standing history)]
  · have hidle := mt (takesEffect_remove h).mp hmem
    rw [noted_of_not_takesEffect hidle, erase_of_not_mem hmem, h]

/-- A change does to the registry what it does to the history. -/
theorem currencies_change (h : r.currencies = standing history) (x : Change) :
    (r.change x).currencies = standing (noted history x) := by
  cases x with
  | add c => exact currencies_offer h c
  | remove id => exact currencies_erase h id

/-- Changes, one after the other, do to the registry what they do to the history. -/
theorem currencies_foldl_change (h : r.currencies = standing history) (xs : List Change) :
    (xs.foldl change r).currencies = standing (xs.foldl noted history) := by
  induction xs generalizing r history with
  | nil => exact h
  | cons x xs ih => exact ih (currencies_change h x)

/-- Before anything is asked for, what stands is what is registered. -/
theorem standing_map_add {cs : List Currency} (h : (cs.map (·.id)).Nodup) :
    standing (cs.map .add) = cs := by
  induction cs with
  | nil => rfl
  | cons c cs ih =>
      obtain ⟨hfirst, hrest⟩ := List.nodup_cons.mp h
      have hlater : ¬ ∃ x ∈ cs.map Change.add, x.id = c.id := by
        rintro ⟨x, hx, hid⟩
        obtain ⟨d, hd, rfl⟩ := List.mem_map.mp hx
        exact hfirst (List.mem_map.mpr ⟨d, hd, hid⟩)
      rw [List.map_cons, standing, if_neg hlater, ih hrest]

/-- Currencies that were in front and were not removed stay in front. -/
theorem isPrefix_noted {first : List Currency} (x : Change)
    (h : first.filter (fun c => .remove c.id ∉ history) <+: standing history) :
    first.filter (fun c => .remove c.id ∉ noted history x) <+: standing (noted history x) := by
  by_cases heffect : TakesEffect history x
  · rw [noted_of_takesEffect heffect]
    cases x with
    | add c =>
        rw [standing_append_add heffect]
        simpa using h.trans (List.prefix_append _ [c])
    | remove id =>
        rw [standing_append_remove]
        have hboth : first.filter (fun c => .remove c.id ∉ history ++ [.remove id]) =
            (first.filter fun c => .remove c.id ∉ history).filter (·.id != id) := by
          rw [List.filter_filter]
          refine List.filter_congr fun c _ => ?_
          rw [Bool.eq_iff_iff]
          simp [and_comm]
        rw [hboth]
        exact h.filter _
  · rwa [noted_of_not_takesEffect heffect]

theorem isPrefix_foldl_noted {first : List Currency} (xs : List Change)
    (h : first.filter (fun c => .remove c.id ∉ history) <+: standing history) :
    first.filter (fun c => .remove c.id ∉ xs.foldl noted history) <+:
      standing (xs.foldl noted history) := by
  induction xs generalizing history with
  | nil => exact h
  | cons x xs ih => exact ih (isPrefix_noted x h)

end Registry

end PaymentUri
