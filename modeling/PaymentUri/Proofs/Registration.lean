import PaymentUri.Proofs.CurrencySections
/-!
# What a registration leaves, answers and records

The sections of a document have different names, and the id of a currency is what comes
after the mark in the name of its section. Within one document no currency can therefore
stand in the way of another: whether a section adds its currency depends only on what was
registered before, and so do the answer and the records.
-/

namespace PaymentUri.Settings

variable {d : Document} {r : Registry} {place : Text} {places : List Text}
variable {new : List Currency} {sound : List (Text × Currency)}
variable {ending : Except CurrencyRefusal Unit}

namespace Document

/-- The document was read from settings texts: it is empty, or what a text left of such a
document, whether the text was accepted or not. -/
inductive IsRead : Document → Prop
  | empty : IsRead .empty
  | read {d : Document} (before : IsRead d) (source text : Text) : IsRead (d.read source text).1

theorem IsRead.nodup_names (h : d.IsRead) : d.names.Nodup := by
  induction h with
  | empty => exact List.nodup_nil
  | read _ source text ih => exact nodup_names_read ih source text

/-- The sections from the front that describe currencies, each with its own, and how they
end: with all sections, or before the first that describes none. -/
inductive Divides (d : Document) :
    List Text → List (Text × Currency) → Except CurrencyRefusal Unit → Prop
  | nil : Divides d [] [] (.ok ())
  | described {place : Text} {places : List Text} {c : Currency} {sound : List (Text × Currency)}
      {ending : Except CurrencyRefusal Unit} (described : d.currency? place = .ok c)
      (others : Divides d places sound ending) :
      Divides d (place :: places) ((place, c) :: sound) ending
  | refused {place : Text} {places : List Text} {cause : CurrencyRefusal}
      (refused : d.currency? place = .error cause) : Divides d (place :: places) [] (.error cause)

theorem exists_divides (d : Document) (places : List Text) :
    ∃ sound ending, d.Divides places sound ending := by
  induction places with
  | nil => exact ⟨[], _, .nil⟩
  | cons place places ih =>
      cases hplace : d.currency? place with
      | error cause => exact ⟨[], _, .refused hplace⟩
      | ok c =>
          obtain ⟨sound, ending, hothers⟩ := ih
          exact ⟨_, ending, .described hplace hothers⟩

theorem Divides.isPrefix (h : d.Divides places sound ending) : sound.map Prod.fst <+: places := by
  induction h with
  | nil => exact List.prefix_rfl
  | described _ _ ih => exact List.cons_prefix_cons.mpr ⟨rfl, ih⟩
  | refused => exact List.nil_prefix

theorem Divides.currency? (h : d.Divides places sound ending) :
    ∀ p ∈ sound, d.currency? p.1 = .ok p.2 := by
  induction h with
  | nil => simp
  | described hplace _ ih => exact List.forall_mem_cons.mpr ⟨hplace, ih⟩
  | refused => simp

/-- An examination of the sections finds out how they end. -/
theorem Divides.examine (h : d.Divides places sound ending) : d.examine places = ending := by
  induction h with
  | nil => rfl
  | described hplace _ ih =>
      rw [Document.examine, hplace]
      exact ih
  | refused hplace => rw [Document.examine, hplace]

/-- The id of a currency is the rest of the name of its section. -/
theorem id_of_currency? {c : Currency} (h : d.currency? place = .ok c) :
    c.id = place.drop currencyMark.length :=
  (currency?_eq_ok.mp h).2.id

theorem eq_append_drop_of_mem (h : place ∈ d.currencySections) :
    place = currencyMark ++ place.drop currencyMark.length := by
  have hmark := (List.mem_filter.mp h).2
  exact List.prefix_iff_eq_append.mp (List.isPrefixOf_iff_prefix.mp hmark) |>.symm

/-- Sections of different names describe currencies of different ids. -/
theorem Divides.nodup_ids (h : d.Divides d.currencySections sound ending) (hd : d.names.Nodup) :
    (sound.map fun p => p.2.id).Nodup := by
  have hids : (sound.map fun p => p.2.id) =
      (sound.map Prod.fst).map (List.drop currencyMark.length) := by
    rw [List.map_map]
    exact List.map_congr_left fun p hp => id_of_currency? (h.currency? p hp)
  have hplaces : (sound.map Prod.fst).Nodup := (hd.filter _).sublist h.isPrefix.sublist
  rw [hids]
  refine hplaces.map_on fun place hplace other hother hdrop => ?_
  rw [eq_append_drop_of_mem (h.isPrefix.subset hplace),
    eq_append_drop_of_mem (h.isPrefix.subset hother), hdrop]

end Document

def newAmong (r : Registry) (sound : List (Text × Currency)) : List Currency :=
  (sound.map Prod.snd).filter fun c => !r.ids.contains c.id

/-- What is recorded for a section: that its currency is registered, or that it was before. -/
def recordOf (r : Registry) (p : Text × Currency) : Log.Record :=
  if r.ids.contains p.2.id then ignored p.2 p.1 else Registry.registered p.2

/-- What a registration leaves, answers and records that finds such sections after some that
were registered before. -/
structure Registers (r : Registry) (new : List Currency) (sound : List (Text × Currency))
    (ending : Except CurrencyRefusal Unit) (result : Registration) : Prop where
  registry : result.registry.currencies = r.currencies ++ newAmong r sound
  outcome : result.outcome = ending.map fun _ => new ++ newAmong r sound
  records : result.records = sound.map (recordOf r)

section Step

variable {c : Currency}

theorem newAmong_cons_of_mem (h : c.id ∈ r.ids) :
    newAmong r ((place, c) :: sound) = newAmong r sound := by
  simp [newAmong, h]

theorem newAmong_cons_of_not_mem (h : c.id ∉ r.ids) :
    newAmong r ((place, c) :: sound) = c :: newAmong r sound := by
  simp [newAmong, h]

/-- A currency that is appended makes no difference to sections of other ids. -/
theorem contains_ids_append {p : Text × Currency} (hp : p ∈ sound)
    (h : c.id ∉ sound.map fun p => p.2.id) :
    (r.append c).ids.contains p.2.id = r.ids.contains p.2.id := by
  have hne : p.2.id ≠ c.id := by
    intro hid
    exact h (List.mem_map.mpr ⟨p, hp, hid⟩)
  simp [hne]

theorem newAmong_append (h : c.id ∉ sound.map fun p => p.2.id) :
    newAmong (r.append c) sound = newAmong r sound := by
  rw [newAmong, newAmong, List.filter_congr]
  intro d hd
  obtain ⟨p, hp, rfl⟩ := List.mem_map.mp hd
  rw [contains_ids_append hp h]

theorem map_recordOf_append (h : c.id ∉ sound.map fun p => p.2.id) :
    sound.map (recordOf (r.append c)) = sound.map (recordOf r) := by
  refine List.map_congr_left fun p hp => ?_
  rw [recordOf, recordOf, contains_ids_append hp h]

theorem registers_of_mem {rest : Registration} (hmem : c.id ∈ r.ids)
    (h : Registers r new sound ending rest) :
    Registers r new ((place, c) :: sound) ending
      { rest with records := ignored c place :: rest.records } := by
  have hrecord : recordOf r (place, c) = ignored c place :=
    if_pos (List.contains_iff_mem.mpr hmem)
  refine ⟨?_, ?_, ?_⟩
  · rw [newAmong_cons_of_mem hmem]
    exact h.registry
  · rw [newAmong_cons_of_mem hmem]
    exact h.outcome
  · rw [List.map_cons, hrecord, h.records]

theorem registers_of_not_mem {rest : Registration} (hnew : c.id ∉ r.ids)
    (hothers : c.id ∉ sound.map fun p => p.2.id)
    (h : Registers (r.append c) (new ++ [c]) sound ending rest) :
    Registers r new ((place, c) :: sound) ending
      { rest with records := Registry.registered c :: rest.records } := by
  have hrecord : recordOf r (place, c) = Registry.registered c :=
    if_neg (mt List.contains_iff_mem.mp hnew)
  obtain ⟨hregistry, houtcome, hrecords⟩ := h
  rw [newAmong_append hothers] at hregistry houtcome
  rw [map_recordOf_append hothers] at hrecords
  refine ⟨?_, ?_, ?_⟩
  · rw [newAmong_cons_of_not_mem hnew]
    simpa [Registry.append] using hregistry
  · rw [newAmong_cons_of_not_mem hnew]
    simpa using houtcome
  · rw [List.map_cons, hrecord, hrecords]

end Step

/-- Sections of different ids are registered independently of each other. -/
theorem registers_registerSections (h : d.Divides places sound ending)
    (hids : (sound.map fun p => p.2.id).Nodup) (r : Registry) (new : List Currency) :
    Registers r new sound ending (registerSections d r new places) := by
  induction h generalizing r new with
  | nil =>
      have hnone : newAmong r [] = [] := rfl
      rw [registerSections]
      refine ⟨?_, ?_, rfl⟩
      · rw [hnone, List.append_nil]
      · rw [hnone, List.append_nil]
        rfl
  | described hplace _ ih =>
      obtain ⟨hothers, hids⟩ := List.nodup_cons.mp hids
      rw [registerSections, hplace]
      simp only [Registry.isSome_find?_iff]
      split
      · next hmem => exact registers_of_mem hmem (ih hids r new)
      · next hnew => exact registers_of_not_mem hnew hothers (ih hids _ _)
  | refused hplace =>
      rw [registerSections, hplace]
      exact ⟨by simp [newAmong], rfl, rfl⟩

/-- The currencies that a document offers are enrolled behind those that are there, without
those of registered ids. -/
theorem currencies_enrol (hd : d.IsRead) (r : Registry)
    (h : d.Divides d.currencySections sound ending) :
    (r.enrol d.currencies).currencies = r.currencies ++ newAmong r sound := by
  rw [← registry_registerCurrencies]
  exact (registers_registerSections h (h.nodup_ids hd.nodup_names) r []).registry

/-- The warnings among the records are those about currencies that were registered before. -/
theorem filter_map_recordOf (r : Registry) (sound : List (Text × Currency)) :
    (sound.map (recordOf r)).filter (·.level = .warning) =
      (sound.filter fun p => r.ids.contains p.2.id).map fun p => ignored p.2 p.1 := by
  induction sound with
  | nil => rfl
  | cons p sound ih =>
      by_cases h : p.2.id ∈ r.ids
      · simp [recordOf, h, ignored, ih]
      · simp [recordOf, h, Registry.registered, ih]

/-- The currencies of a document that was read are registered behind those that are there,
section after section, up to the first that describes none, and those of registered ids are
passed over with a warning each. To do it again adds nothing. -/
theorem registerCurrencies_appends (hd : d.IsRead) (r : Registry) :
    ∃ sound ending, d.Divides d.currencySections sound ending ∧
      (registerCurrencies d r).registry.currencies = r.currencies ++ newAmong r sound ∧
      (registerCurrencies d r).outcome = ending.map (fun _ => newAmong r sound) ∧
      (registerCurrencies d r).records.filter (·.level = .warning) =
        (sound.filter fun p => r.ids.contains p.2.id).map (fun p => ignored p.2 p.1) ∧
      (registerCurrencies d (registerCurrencies d r).registry).registry =
        (registerCurrencies d r).registry := by
  obtain ⟨sound, ending, hdivides⟩ := d.exists_divides d.currencySections
  obtain ⟨hregistry, houtcome, hrecords⟩ :=
    registers_registerSections hdivides (hdivides.nodup_ids hd.nodup_names) r []
  refine ⟨sound, ending, hdivides, hregistry, houtcome, ?_, ?_⟩
  · rw [registerCurrencies, hrecords, filter_map_recordOf]
  · rw [registry_registerCurrencies, registry_registerCurrencies, Registry.enrol_enrol]

/-- Settings of three currencies: one whose id the built-in currencies have, a new one, and
one without an id. -/
def threeSections : Document where
  everywhere :=
    [("name".toList, "N".toList), ("symbol".toList, "N".toList), ("uri_scheme".toList, "n".toList),
      ("unit_exponent".toList, "3".toList), ("address_header".toList, "4".toList),
      ("p2sh_header".toList, "5".toList)]
  sections :=
    [("COIN:bitcoin.main".toList, []), ("COIN:new".toList, []), ("COIN:".toList, [])]

theorem isRead_threeSections : threeSections.IsRead :=
  .read .empty [] <|
    "[DEFAULT]\nname=N\nsymbol=N\nuri_scheme=n\nunit_exponent=3\naddress_header=4".toList ++
      "\np2sh_header=5\n[COIN:bitcoin.main]\n[COIN:new]\n[COIN:]".toList

def commonCurrency (id : Text) : Currency :=
  ⟨id, "N".toList, "N".toList, "n".toList, 3, 4, 5⟩

theorem registerCurrencies_threeSections :
    registerCurrencies threeSections .builtin =
      ⟨.error (.noId "COIN:".toList), Registry.builtin.append (commonCurrency "new".toList),
        [ignored (commonCurrency "bitcoin.main".toList) "COIN:bitcoin.main".toList,
          Registry.registered (commonCurrency "new".toList)]⟩ :=
  rfl

theorem registerCurrencies_appends_threeSections :
    threeSections.IsRead ∧
      ∃ sound, newAmong .builtin sound = [commonCurrency "new".toList] ∧
        threeSections.Divides threeSections.currencySections sound
          (.error (.noId "COIN:".toList)) := by
  obtain ⟨sound, ending, hdivides, hregistry, houtcome, -, -⟩ :=
    registerCurrencies_appends isRead_threeSections .builtin
  rw [registerCurrencies_threeSections] at hregistry houtcome
  have hnew := List.append_cancel_left hregistry
  cases ending with
  | ok => cases houtcome
  | error cause =>
      obtain rfl := Except.error.inj houtcome
      exact ⟨isRead_threeSections, sound, hnew.symm, hdivides⟩

end PaymentUri.Settings
