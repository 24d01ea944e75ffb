import PaymentUri.Reference.Currencies
import PaymentUri.Request.Canonical
import PaymentUri.Session.Load
/-!
# Failures of a session

The causes for which a command is not answered, one for each part of the library
that may refuse.
-/

namespace PaymentUri.Session

inductive Failure where
  | request (cause : Request.Refusal)
  | form (cause : Request.FormRefusal)
  | amount (cause : Amount.Refusal)
  | address (cause : Address.Refusal)
  | base58 (cause : Base58Check.Refusal)
  /-- The number is no version octet. -/
  | version (n : Int)
  | currency (cause : Currency.Refusal)
  | registry (cause : Registry.Refusal)
  | lookup (cause : Reference.LookupRefusal)
  | settingsText (cause : Settings.TextRefusal)
  | setting (cause : Settings.SettingRefusal)
  | settingsCurrency (cause : Settings.CurrencyRefusal)
  | load (cause : LoadRefusal)
  | threshold (cause : Log.Threshold.Refusal)
  /-- The text is not read as a whole number. -/
  | integer (cause : Text.IntegerRefusal)
  /-- There is no currency that could have the part. -/
  | noCurrency (part : String)
  /-- A number has too many digits to be written. -/
  | tooLong
  /-- A collection cannot be counted as one of two values. -/
  | collection (kind : String)

def Failure.message : Failure → String
  | .request cause => cause.message
  | .form cause => cause.message
  | .amount cause => cause.message
  | .address cause => cause.message
  | .base58 cause => cause.message
  | .version _ => ""
  | .currency cause => cause.message
  | .registry cause => cause.message
  | .lookup cause => cause.message
  | .settingsText cause => cause.message
  | .setting cause => cause.message
  | .settingsCurrency cause => cause.message
  | .load cause => cause.message
  | .threshold cause => cause.message
  | .integer cause => cause.message
  | .noCurrency part => s!"'NoneType' object has no attribute '{part}'"
  | .tooLong => Text.unwritable
  | .collection kind => s!"unhashable type: '{kind}'"

end PaymentUri.Session
