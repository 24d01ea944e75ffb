import PaymentUri.Session.State
import PaymentUri.Settings.Currency
import PaymentUri.Settings.Reader
/-!
# Loading settings

Loading replaces the settings by the built-in ones, overlaid with those of a
file, and then applies them: first the threshold of the console, then its colour,
then the currencies. A word that names no threshold is recorded and otherwise
passed over, and a word that is no truth value turns colour off. Any other
trouble ends the loading, and what was done before it stays done.
-/

namespace PaymentUri.Session

open Settings

def loggingName : Text := "LOGGING".toList

def thresholdName : Text := "console_log_level".toList

def colorName : Text := "color".toList

/-- The settings that hold unless a file says otherwise. -/
def builtinSettings : Document where
  everywhere := []
  sections :=
    [(loggingName, [(thresholdName, "INFO".toList), (colorName, "true".toList)])]

inductive LoadRefusal where
  /-- There is no file under the path. -/
  | noFile (path : Text)
  /-- The file is not a settings text. -/
  | text (cause : TextRefusal)
  /-- A setting of the console cannot be had. -/
  | setting (cause : SettingRefusal)
  /-- A section describes no currency. -/
  | currency (cause : CurrencyRefusal)
  deriving DecidableEq, Repr

def LoadRefusal.message : LoadRefusal → String
  | .noFile path => s!"Config file not found: {String.ofList path}"
  | .text cause => cause.message
  | .setting cause => cause.message
  | .currency cause => cause.message

def loaded (path : Text) : Log.Record where
  level := .debug
  message := s!"Loaded config file {String.ofList path}"

def badThreshold : Log.Record where
  level := .error
  message := "Failed to set logging level, must be DEBUG, INFO, WARNING, ERROR"

namespace State

/-- The state with the threshold that a word names. A word that names none is recorded and
passed over, and the loading goes on. -/
def applyThreshold (s : State) (word : Text) : State :=
  match Log.Threshold.ofText? word with
  | .ok t => s.setThreshold t
  | .error _ => s.note badThreshold

/-- The state with the colour that the settings ask for. A word that is no truth value means
no colour, but a reference that cannot be followed ends the loading. -/
def applyColor (s : State) : Except SettingRefusal State :=
  match s.settings.get loggingName colorName with
  | .ok word => .ok (s.setColored ((truthOf? word).getD false))
  | .error (.noOption ..) => .ok (s.setColored false)
  | .error cause => .error cause

def applyCurrencies (s : State) : Except CurrencyRefusal Unit × State :=
  let r := registerCurrencies s.settings s.registry
  (r.outcome.map fun _ => (), { s with registry := r.registry }.noteAll r.records)

def applySettings (s : State) : Except LoadRefusal Unit × State :=
  match s.settings.get loggingName thresholdName with
  | .error cause => (.error (.setting cause), s)
  | .ok word =>
    let s := s.applyThreshold word
    match s.applyColor with
    | .error cause => (.error (.setting cause), s)
    | .ok s =>
      let (outcome, s) := s.applyCurrencies
      (outcome.mapError .currency, s)

/-- The settings of a path, loaded. The empty path stands for no file, and a
directory says nothing. The settings that held before are given up first, so they are gone
even where the loading ends early. -/
def load (s : State) (path : Text) : Except LoadRefusal Unit × State :=
  let s := { s with settings := builtinSettings }
  if path = [] then s.applySettings
  else match s.target path with
    | .nothing => (.error (.noFile path), s)
    | .directory => (s.note (loaded path)).applySettings
    | .file content =>
      let (settings, refusal) := s.settings.read path content.unifyNewlines
      let s := { s with settings }
      match refusal with
      | some cause => (.error (.text cause), s)
      | none => (s.note (loaded path)).applySettings

end State

end PaymentUri.Session
