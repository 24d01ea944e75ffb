import PaymentUri.Registry
import PaymentUri.Settings.Template
import PaymentUri.Text.Integer
/-!
# Currencies in settings

A section whose name begins with a mark describes a currency, and the rest of the
name is its id. All six options have to be there before any is read. The sections
are registered in order; a currency that is registered already stays as it is,
and a section that describes none ends the registration, though what was
registered before it remains.
-/

namespace PaymentUri.Settings

def currencyMark : Text := "COIN:".toList

def currencyOptions : List Text :=
  ["name", "symbol", "uri_scheme", "unit_exponent", "address_header", "p2sh_header"].map
    String.toList

inductive CurrencyRefusal where
  /-- Nothing comes after the mark. -/
  | noId (place : Text)
  /-- An option is not there. -/
  | missingOption (option place : Text)
  /-- The value of an option cannot be had. -/
  | setting (cause : SettingRefusal)
  /-- The value of an option is not read as a whole number. -/
  | integer (cause : Text.IntegerRefusal) (place : Text)
  /-- The numbers describe no currency. -/
  | currency (cause : Currency.Refusal) (place : Text)
  deriving DecidableEq, Repr

def CurrencyRefusal.message : CurrencyRefusal → String
  | .noId place => s!"Config section '{String.ofList place}' has no coin id"
  | .missingOption option place =>
    s!"Config file does not contain the required option '{String.ofList option}' in section " ++
      s!"'{String.ofList place}'."
  | .setting cause => cause.message
  | .integer cause place =>
    s!"Invalid currency in section '{String.ofList place}': {cause.message}"
  | .currency cause place =>
    s!"Invalid currency in section '{String.ofList place}': {cause.message}"

namespace Document

/-- The value of an option of a currency section. -/
def currencyText? (d : Document) (place : Text) (option : String) : Except CurrencyRefusal Text :=
  match d.get place option.toList with
  | .ok t => .ok t
  | .error cause => .error (.setting cause)

def currencyInteger? (d : Document) (place : Text) (option : String) :
    Except CurrencyRefusal Int := do
  let t ← d.currencyText? place option
  match Text.integer? t with
  | .ok n => return n
  | .error cause => throw (.integer cause place)

/-- The currency that a section describes. That every option is there is checked before any
of them is read, so a missing option is named even if another one is faulty. -/
def currency? (d : Document) (place : Text) : Except CurrencyRefusal Currency :=
  let id := place.drop currencyMark.length
  if id = [] then .error (.noId place)
  else
    match currencyOptions.find? (fun option => !d.has place option) with
    | some option => .error (.missingOption option place)
    | none => do
      let name ← d.currencyText? place "name"
      let symbol ← d.currencyText? place "symbol"
      let scheme ← d.currencyText? place "uri_scheme"
      let exponent ← d.currencyInteger? place "unit_exponent"
      let keyVersion ← d.currencyInteger? place "address_header"
      let scriptVersion ← d.currencyInteger? place "p2sh_header"
      match Currency.ofParts? id name symbol scheme exponent keyVersion scriptVersion with
      | .ok c => return c
      | .error cause => throw (.currency cause place)

/-- The names of the sections that describe currencies. -/
def currencySections (d : Document) : List Text :=
  d.names.filter currencyMark.isPrefixOf

end Document

/-- What a registration answers, leaves and records. -/
structure Registration where
  /-- The currencies that were new, or why the registration ended. -/
  outcome : Except CurrencyRefusal (List Currency)
  registry : Registry
  records : List Log.Record

def ignored (c : Currency) (place : Text) : Log.Record where
  level := .warning
  message :=
    s!"Currency {String.ofList c.id} is already registered, ignoring section {String.ofList place}"

/-- The sections registered in order, after some that were registered before. A faulty
section ends the registration, and the currencies before it stay registered. -/
def registerSections (d : Document) (registry : Registry) (new : List Currency) :
    List Text → Registration
  | [] => ⟨.ok new, registry, []⟩
  | place :: places =>
    match d.currency? place with
    | .error cause => ⟨.error cause, registry, []⟩
    | .ok c =>
      if (registry.find? c.id).isSome then
        let rest := registerSections d registry new places
        { rest with records := ignored c place :: rest.records }
      else
        let rest := registerSections d (registry.append c) (new ++ [c]) places
        { rest with records := Registry.registered c :: rest.records }

/-- The currencies of a document, registered. -/
def registerCurrencies (d : Document) (registry : Registry) : Registration :=
  registerSections d registry [] d.currencySections

end PaymentUri.Settings
