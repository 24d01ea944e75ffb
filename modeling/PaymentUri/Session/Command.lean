import PaymentUri.Operand
import PaymentUri.Log.Console
import PaymentUri.Request.Canonical
/-!
# Commands of a session

Everything that can be asked of a session, and everything that it answers. A
command names a currency by its id or describes it in full, and states amounts
and addresses in terms of such currencies; what these refer to depends on the
registry at that moment.
-/

namespace PaymentUri.Session

/-- A currency, registered under an id or described in full, or none. -/
inductive CurrencyRef where
  | absent
  | registered (id : Text)
  | described (id name symbol scheme : Text) (exponent keyVersion scriptVersion : Int)
  deriving DecidableEq, Repr

/-- An amount, by its units, which are given as a numeral or as any datum, or as it
is written in whole coins. -/
inductive AmountRef where
  | counted (currency : CurrencyRef) (units : Text)
  | units (currency : CurrencyRef) (n : Datum)
  | written (currency : CurrencyRef) (d : Datum)

/-- An address, as it is written or by its hash. -/
inductive AddressRef where
  | written (currency : CurrencyRef) (d : Datum)
  | versioned (currency : CurrencyRef) (hash : List UInt8) (version : Int)
  | hashed (currency : CurrencyRef) (hash : List UInt8) (script : Bool)

structure FormRef where
  address : Option AddressRef
  amount : Option AmountRef
  label : Option Text
  message : Option Text

structure UriRef where
  currency : CurrencyRef
  uri : Datum

/-- What is answered from the registry and the settings, and leaves no trace. -/
inductive Query where
  /-- Write a payment URI. -/
  | form (f : FormRef)
  /-- Encode free text. -/
  | encodeText (t : Text)
  | amount (a : AmountRef)
  /-- The amount of a currency that a datum states in whole coins. -/
  | amountOf (currency : CurrencyRef) (d : Datum)
  /-- Write an amount in whole coins. -/
  | writeAmount (a : AmountRef)
  | compareAmounts (a b : Operand AmountRef)
  | encodeBase58 (payload : List UInt8) (version : Int)
  | decodeBase58 (t : Text)
  | address (a : AddressRef)
  | isAddress (currency : CurrencyRef) (d : Datum)
  | compareAddresses (a b : Operand AddressRef)
  | currency (c : CurrencyRef)
  | compareCurrencies (a b : Operand CurrencyRef)
  /-- All registered currencies. -/
  | currencies
  | currenciesOfScheme (scheme : Text)
  | currenciesOfReference (t : Text)
  | setting (place option : Text)
  /-- The currency of one section of a settings text. -/
  | currencyOfText (source content place : Text)

inductive Command where
  | ask (q : Query)
  /-- Read a payment URI. -/
  | read (u : UriRef)
  /-- Whether a datum is a payment URI. -/
  | isRequest (u : UriRef)
  /-- Values of the fields of a payment URI. -/
  | fields (u : UriRef) (names : List Text)
  | compareRequests (u v : UriRef)
  /-- Write a payment URI and read it again. -/
  | roundTrip (f : FormRef) (currency : CurrencyRef)
  /-- Register a currency, which has to be one. -/
  | register (c : CurrencyRef) (present : c ≠ .absent)
  | unregister (id : Text)
  /-- Register the currencies of a settings text. -/
  | registerText (source content : Text)
  /-- Write a file and load its settings. -/
  | loadText (name content : Text)
  | load (path : Text)
  | setThreshold (d : Datum)
  | setColor (on : Bool)
  | note (level : Log.Level) (message : String)

inductive Answer where
  | done
  | text (t : Text)
  | flag (b : Bool)
  | currency (c : Currency)
  | currencies (cs : List Currency)
  /-- Currencies of which only the ids are shown. -/
  | candidates (cs : List Currency)
  | amount (a : Amount)
  | address (a : Address)
  | payload (version : UInt8) (bytes : List UInt8)
  | request (r : Request)
  | fields (vs : List (Option FieldValue))
  | equality (same : Bool)
  | ordering (same : Bool) (x y : Operand Amount)
  /-- A URI, the request it was read as, and whether address, amount, label and
  message came back. -/
  | roundTrip (uri : Text) (r : Request) (address amount label message : Bool)
  /-- The names of the sections that were loaded. -/
  | sections (names : List Text)

end PaymentUri.Session
