import PaymentUri.Proofs.Document
import PaymentUri.Proofs.Integer
import PaymentUri.Proofs.RegistryLookup
import PaymentUri.Session.Step
/-!
# Which sections describe a currency

A section describes a currency exactly when its name goes on behind the mark, all six options
can be seen from it, the references in their values can be followed, and the three that are
numbers are numerals of numbers in their ranges. Since the options are known to be there before
any is read, a value can only be missing because of a reference in it; every other refusal
names the section.
-/

namespace PaymentUri.Settings

variable {d : Document} {place option : Text} {c : Currency}

namespace Document

theorem isSome_section?_iff : (d.section? place).isSome = true ↔ place ∈ d.names := by
  rw [section?, List.lookup_isSome_iff, names, List.mem_map]
  simp only [beq_iff_eq, eq_comm (a := place)]

/-- The section sets the option, or the option is set everywhere and the section is there. The
options that are set everywhere make up a section of their own. -/
def Offers (d : Document) (place option : Text) : Prop :=
  d.Sets place option ∨
    (place ∈ d.names ∨ place = everywhereName) ∧ option ∈ d.everywhere.names

/-- An option is offered by a section when it is found among what is visible there. -/
theorem offers_iff :
    d.Offers place option ↔
      ∃ visible, d.scope? place = some visible ∧ (visible.find? option).isSome = true := by
  have happend : ∀ own : Options, (Options.find? (own ++ d.everywhere) option).isSome = true ↔
      option ∈ own.names ∨ option ∈ d.everywhere.names := by
    intro own
    rw [Options.isSome_find?_iff, Options.names, List.map_append, List.mem_append]
    rfl
  rw [Offers, Sets, scope?, ← isSome_section?_iff]
  cases d.section? place with
  | some own => simp [happend]
  | none => simp [Options.isSome_find?_iff]

theorem has_iff_offers (h : place ≠ []) : d.has place option = true ↔ d.Offers place option := by
  rw [offers_iff, has, if_neg h]
  cases d.scope? place <;> simp

/-- No option is missing from a section that offers them all. -/
theorem find?_eq_none_iff_offers (h : place ≠ []) :
    currencyOptions.find? (fun option => !d.has place option) = none ↔
      ∀ option ∈ currencyOptions, d.Offers place option := by
  simp only [List.find?_eq_none, Bool.not_eq_true, Bool.not_eq_false', has_iff_offers h]

/-- The value of the option is, with its references followed, the numeral of a number. -/
def Holds (d : Document) (place option : Text) (n : Int) : Prop :=
  ∃ t, d.get place option = .ok t ∧ Text.IsInteger t n

/-- The section says everything about a currency, in the ranges that there are. -/
structure IsComplete (d : Document) (place : Text) : Prop where
  id : place.drop currencyMark.length ≠ []
  offers : ∀ option ∈ currencyOptions, d.Offers place option
  values : ∀ option ∈ currencyOptions, ∃ t, d.get place option = .ok t
  exponent : ∃ n, d.Holds place "unit_exponent".toList n ∧ 0 ≤ n
  keyVersion : ∃ n, d.Holds place "address_header".toList n ∧ 0 ≤ n ∧ n ≤ 255
  scriptVersion : ∃ n, d.Holds place "p2sh_header".toList n ∧ 0 ≤ n ∧ n ≤ 255

/-- What the section says is the currency. -/
structure Describes (d : Document) (place : Text) (c : Currency) : Prop where
  id : c.id = place.drop currencyMark.length
  name : d.get place "name".toList = .ok c.name
  symbol : d.get place "symbol".toList = .ok c.symbol
  scheme : d.get place "uri_scheme".toList = .ok c.scheme
  exponent : d.Holds place "unit_exponent".toList c.exponent
  keyVersion : d.Holds place "address_header".toList c.keyVersion.toNat
  scriptVersion : d.Holds place "p2sh_header".toList c.scriptVersion.toNat

theorem currencyText?_eq_ok {option : String} {t : Text} :
    d.currencyText? place option = .ok t ↔ d.get place option.toList = .ok t := by
  rw [currencyText?]
  cases d.get place option.toList <;> simp

theorem currencyInteger?_eq_ok {option : String} {n : Int} :
    d.currencyInteger? place option = .ok n ↔ d.Holds place option.toList n := by
  rw [currencyInteger?, bind_eq_ok]
  constructor
  · rintro ⟨t, ht, h⟩
    split at h
    · next m hm =>
        obtain rfl := Except.ok.inj h
        exact ⟨t, currencyText?_eq_ok.mp ht, Text.integer?_eq_ok.mp hm⟩
    · contradiction
  · rintro ⟨t, ht, hn⟩
    refine ⟨t, currencyText?_eq_ok.mpr ht, ?_⟩
    rw [Text.integer?_eq_ok.mpr hn]
    rfl

/-- What is done once the section is known to offer everything. -/
theorem currency?_eq_ok_iff :
    d.currency? place = .ok c ↔
      place.drop currencyMark.length ≠ [] ∧ (∀ option ∈ currencyOptions, d.Offers place option) ∧
        ∃ name, d.get place "name".toList = .ok name ∧
        ∃ symbol, d.get place "symbol".toList = .ok symbol ∧
        ∃ scheme, d.get place "uri_scheme".toList = .ok scheme ∧
        ∃ exponent, d.Holds place "unit_exponent".toList exponent ∧
        ∃ keyVersion, d.Holds place "address_header".toList keyVersion ∧
        ∃ scriptVersion, d.Holds place "p2sh_header".toList scriptVersion ∧
          Currency.ofParts? (place.drop currencyMark.length) name symbol scheme exponent keyVersion
            scriptVersion = .ok c := by
  rw [currency?]
  by_cases hid : place.drop currencyMark.length = []
  · simp [hid]
  · have hplace : place ≠ [] := by
      rintro rfl
      exact hid rfl
    rw [if_neg hid, and_iff_right hid]
    cases hfind : currencyOptions.find? (fun option => !d.has place option) with
    | some option =>
        refine iff_of_false (fun h => ?_) ?_
        · contradiction
        · rintro ⟨hoffers, -⟩
          rw [(find?_eq_none_iff_offers hplace).mpr hoffers] at hfind
          contradiction
    | none =>
        rw [and_iff_right ((find?_eq_none_iff_offers hplace).mp hfind)]
        simp only [bind_eq_ok, currencyText?_eq_ok, currencyInteger?_eq_ok]
        constructor
        · rintro ⟨name, hname, symbol, hsymbol, scheme, hscheme, exponent, hexponent, keyVersion,
            hkey, scriptVersion, hscript, h⟩
          refine ⟨name, hname, symbol, hsymbol, scheme, hscheme, exponent, hexponent, keyVersion,
            hkey, scriptVersion, hscript, ?_⟩
          split at h
          · next made hmade =>
              obtain rfl := Except.ok.inj h
              exact hmade
          · contradiction
        · rintro ⟨name, hname, symbol, hsymbol, scheme, hscheme, exponent, hexponent, keyVersion,
            hkey, scriptVersion, hscript, hmade⟩
          refine ⟨name, hname, symbol, hsymbol, scheme, hscheme, exponent, hexponent, keyVersion,
            hkey, scriptVersion, hscript, ?_⟩
          rw [hmade]
          rfl

theorem Holds.get {n : Int} (h : d.Holds place option n) : ∃ t, d.get place option = .ok t := by
  obtain ⟨t, ht, -⟩ := h
  exact ⟨t, ht⟩

/-- A number in the range of an octet is the number of that octet. -/
theorem toNat_octet {n : Int} (h : 0 ≤ n ∧ n ≤ 255) : ((UInt8.ofNat n.toNat).toNat : Int) = n := by
  rw [UInt8.toNat_ofNat', Nat.mod_eq_of_lt (by omega), Int.toNat_of_nonneg h.1]

/-- The currency is the one that a complete section describes. -/
theorem currency?_eq_ok : d.currency? place = .ok c ↔ d.IsComplete place ∧ d.Describes place c := by
  rw [currency?_eq_ok_iff]
  constructor
  · rintro ⟨hid, hoffers, name, hname, symbol, hsymbol, scheme, hscheme, exponent, hexponent,
      keyVersion, hkey, scriptVersion, hscript, hmade⟩
    obtain ⟨hnonneg, hkeyRange, hscriptRange, rfl⟩ := Currency.ofParts?_eq_ok.mp hmade
    refine ⟨⟨hid, hoffers, ?values, ⟨_, hexponent, hnonneg⟩, ⟨_, hkey, hkeyRange⟩,
      ⟨_, hscript, hscriptRange⟩⟩, ⟨rfl, hname, hsymbol, hscheme, ?exponent, ?key, ?script⟩⟩
    case values =>
      simp only [currencyOptions, List.forall_mem_map, List.forall_mem_cons]
      exact ⟨⟨_, hname⟩, ⟨_, hsymbol⟩, ⟨_, hscheme⟩, hexponent.get, hkey.get, hscript.get,
        List.forall_mem_nil _⟩
    case exponent => rwa [Int.toNat_of_nonneg hnonneg]
    case key => rwa [toNat_octet hkeyRange]
    case script => rwa [toNat_octet hscriptRange]
  · rintro ⟨hcomplete, hdescribes⟩
    refine ⟨hcomplete.id, hcomplete.offers, _, hdescribes.name, _, hdescribes.symbol, _,
      hdescribes.scheme, _, hdescribes.exponent, _, hdescribes.keyVersion, _,
      hdescribes.scriptVersion, ?_⟩
    rw [← hdescribes.id]
    exact c.ofParts?_self

/-- A complete section describes a currency. -/
theorem exists_currency?_iff : (∃ c, d.currency? place = .ok c) ↔ d.IsComplete place := by
  constructor
  · rintro ⟨c, hc⟩
    exact (currency?_eq_ok.mp hc).1
  · rintro ⟨hid, hoffers, hvalues, ⟨exponent, hexponent, hnonneg⟩, ⟨keyVersion, hkey, hkeyRange⟩,
      ⟨scriptVersion, hscript, hscriptRange⟩⟩
    obtain ⟨name, hname⟩ := hvalues "name".toList (by decide)
    obtain ⟨symbol, hsymbol⟩ := hvalues "symbol".toList (by decide)
    obtain ⟨scheme, hscheme⟩ := hvalues "uri_scheme".toList (by decide)
    simp only [currency?_eq_ok_iff]
    exact ⟨_, hid, hoffers, name, hname, symbol, hsymbol, scheme, hscheme, exponent, hexponent,
      keyVersion, hkey, scriptVersion, hscript,
      Currency.ofParts?_eq_ok.mpr ⟨hnonneg, hkeyRange, hscriptRange, rfl⟩⟩

theorem Offers.get (h : d.Offers place (Text.lowercase option)) :
    (∃ t, d.get place option = .ok t) ∨
      ∃ fault raw, d.get place option =
        .error (.reference fault (Text.lowercase option) place raw) := by
  obtain ⟨visible, hscope, hfound⟩ := offers_iff.mp h
  exact get_of_visible hscope hfound

end Document

theorem lowercase_of_mem_currencyOptions :
    ∀ option ∈ currencyOptions, Text.lowercase option = option := by
  decide

/-- The refusal is that of a reference in the section, or its wording names the section. -/
inductive CurrencyRefusal.Explains (place : Text) : CurrencyRefusal → Prop
  | reference (fault : ReferenceFault) (option raw : Text) :
      Explains place (.setting (.reference fault option place raw))
  | named {cause : CurrencyRefusal} (other : ∀ setting, cause ≠ .setting setting)
      (names : place <:+: cause.message.toList) : Explains place cause

section Wording

variable {t : Text} {a b : String}

theorem infix_ofList (t : Text) : t <:+: (String.ofList t).toList := by
  simp

theorem infix_append_left (h : t <:+: a.toList) : t <:+: (a ++ b).toList := by
  rw [String.toList_append]
  exact h.trans (List.prefix_append _ _).isInfix

theorem infix_append_right (h : t <:+: b.toList) : t <:+: (a ++ b).toList := by
  rw [String.toList_append]
  exact h.trans (List.suffix_append _ _).isInfix

end Wording

namespace CurrencyRefusal

theorem explains_noId (place : Text) : Explains place (.noId place) :=
  .named (fun _ h => by contradiction) <|
    infix_append_left (infix_append_right (infix_ofList place))

theorem explains_missingOption (option place : Text) :
    Explains place (.missingOption option place) :=
  .named (fun _ h => by contradiction) <|
    infix_append_right (infix_append_left (infix_append_right (infix_ofList place)))

theorem explains_integer (cause : Text.IntegerRefusal) (place : Text) :
    Explains place (.integer cause place) :=
  .named (fun _ h => by contradiction) <|
    infix_append_left (infix_append_left (infix_append_right (infix_ofList place)))

theorem explains_currency (cause : Currency.Refusal) (place : Text) :
    Explains place (.currency cause place) :=
  .named (fun _ h => by contradiction) <|
    infix_append_left (infix_append_left (infix_append_right (infix_ofList place)))

end CurrencyRefusal

section Explained

variable {α β : Type}

/-- Whatever is refused, the refusal explains it. -/
def Explained (place : Text) (x : Except CurrencyRefusal α) : Prop :=
  ∀ cause, x = .error cause → cause.Explains place

theorem explained_ok (place : Text) (a : α) : Explained place (.ok a) := by
  rintro cause ⟨⟩

theorem explained_error {cause : CurrencyRefusal} (h : cause.Explains place) :
    Explained place (.error cause : Except CurrencyRefusal α) := by
  rintro cause' ⟨⟩
  exact h

theorem Explained.bind {x : Except CurrencyRefusal α} {f : α → Except CurrencyRefusal β}
    (hx : Explained place x) (hf : ∀ a, Explained place (f a)) : Explained place (x >>= f) := by
  cases x with
  | error cause => exact explained_error (hx cause rfl)
  | ok a => exact hf a

namespace Document

/-- The value of an option that the section offers is only refused for a reference. -/
theorem explained_currencyText? {option : String} (hmem : option.toList ∈ currencyOptions)
    (h : d.Offers place option.toList) : Explained place (d.currencyText? place option) := by
  rw [← lowercase_of_mem_currencyOptions _ hmem] at h
  rw [currencyText?]
  rcases h.get with ⟨t, ht⟩ | ⟨fault, raw, href⟩
  · rw [ht]
    exact explained_ok place t
  · rw [href]
    exact explained_error (.reference fault _ raw)

theorem explained_currencyInteger? {option : String} (hmem : option.toList ∈ currencyOptions)
    (h : d.Offers place option.toList) : Explained place (d.currencyInteger? place option) := by
  refine (explained_currencyText? hmem h).bind fun t => ?_
  split
  · exact explained_ok place _
  · exact explained_error (CurrencyRefusal.explains_integer _ place)

theorem explained_currency? (d : Document) (place : Text) :
    Explained place (d.currency? place) := by
  rw [currency?]
  split
  · exact explained_error (CurrencyRefusal.explains_noId place)
  · next hid =>
      have hplace : place ≠ [] := by
        rintro rfl
        exact hid rfl
      split
      · next option _ => exact explained_error (CurrencyRefusal.explains_missingOption option place)
      · next hfind =>
          have hoffers := (find?_eq_none_iff_offers hplace).mp hfind
          have htext : ∀ option : String, option.toList ∈ currencyOptions →
              Explained place (d.currencyText? place option) :=
            fun option hmem => explained_currencyText? hmem (hoffers _ hmem)
          have hinteger : ∀ option : String, option.toList ∈ currencyOptions →
              Explained place (d.currencyInteger? place option) :=
            fun option hmem => explained_currencyInteger? hmem (hoffers _ hmem)
          refine (htext "name" (by decide)).bind fun name => ?_
          refine (htext "symbol" (by decide)).bind fun symbol => ?_
          refine (htext "uri_scheme" (by decide)).bind fun scheme => ?_
          refine (hinteger "unit_exponent" (by decide)).bind fun exponent => ?_
          refine (hinteger "address_header" (by decide)).bind fun keyVersion => ?_
          refine (hinteger "p2sh_header" (by decide)).bind fun scriptVersion => ?_
          split
          · exact explained_ok place _
          · exact explained_error (CurrencyRefusal.explains_currency _ place)

/-- A section describes a currency exactly when it is complete, and then the one that it
describes. Otherwise the refusal explains itself. Nothing of a session changes either way. -/
theorem currency?_exact (d : Document) (place : Text) :
    ((∃ c, d.currency? place = .ok c) ↔ d.IsComplete place) ∧
      (∀ c, d.currency? place = .ok c → d.Describes place c) ∧
      (∀ cause, d.currency? place = .error cause → cause.Explains place) ∧
      ∀ (s : Session.State) (source content : Text),
        (s.step (.ask (.currencyOfText source content place))).2 = s :=
  ⟨exists_currency?_iff, fun _ h => (currency?_eq_ok.mp h).2, d.explained_currency? place,
    fun _ _ _ => rfl⟩

end Document

end Explained

/-- Two currencies that share most of their options. The name of the second one refers to an
option that is not there. -/
def sharedOptions : Document where
  everywhere :=
    [("symbol".toList, "%(name)s!".toList), ("uri_scheme".toList, "n".toList),
      ("unit_exponent".toList, " +1_0".toList), ("address_header".toList, "٤".toList),
      ("p2sh_header".toList, "005".toList)]
  sections :=
    [("COIN:new".toList, [("name".toList, "N".toList)]),
      ("COIN:bad".toList, [("name".toList, "%(title)s".toList)])]

theorem currency?_exact_sharedOptions :
    sharedOptions.IsComplete "COIN:new".toList ∧
      sharedOptions.Describes "COIN:new".toList
        ⟨"new".toList, "N".toList, "N!".toList, "n".toList, 10, 4, 5⟩ ∧
      CurrencyRefusal.Explains "COIN:bad".toList
        (.setting (.reference (.unknown "title".toList) "name".toList "COIN:bad".toList
          "%(title)s".toList)) := by
  obtain ⟨hcomplete, hdescribes, -, -⟩ := sharedOptions.currency?_exact "COIN:new".toList
  obtain ⟨-, -, hexplains, -⟩ := sharedOptions.currency?_exact "COIN:bad".toList
  exact ⟨hcomplete.mp ⟨_, rfl⟩, hdescribes _ rfl, hexplains _ rfl⟩

end PaymentUri.Settings
