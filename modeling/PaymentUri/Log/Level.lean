import PaymentUri.Datum
/-!
# Levels of log records

Every record has one of five levels, and the console has a threshold that a
record's level has to reach. A threshold is set by a number or by the name of a
level; two levels have a second name, and one name stands for no threshold.
-/

namespace PaymentUri.Log

inductive Level where
  | debug
  | info
  | warning
  | error
  | critical
  deriving DecidableEq, Repr

def Level.number : Level → Int
  | .debug => 10
  | .info => 20
  | .warning => 30
  | .error => 40
  | .critical => 50

def Level.name : Level → String
  | .debug => "DEBUG"
  | .info => "INFO"
  | .warning => "WARNING"
  | .error => "ERROR"
  | .critical => "CRITICAL"

/-- What a record's level has to reach: a number, or a truth value that counts as one. -/
inductive Threshold where
  | number (n : Int)
  | flag (b : Bool)
  deriving DecidableEq, Repr

namespace Threshold

/-- The number that levels are compared with. -/
def value : Threshold → Int
  | .number n => n
  | .flag b => if b then 1 else 0

/-- A record of the level reaches the threshold. -/
def admits (t : Threshold) (l : Level) : Bool := t.value ≤ l.number

def named? (name : Text) : Option Int :=
  [("CRITICAL", 50), ("FATAL", 50), ("ERROR", 40), ("WARN", 30), ("WARNING", 30), ("INFO", 20),
    ("DEBUG", 10), ("NOTSET", 0)].findSome? fun (n, value) =>
      if n.toList = name then some value else none

/-- Why a datum is no threshold. -/
inductive Refusal where
  /-- The text is not the name of a threshold. -/
  | unknownName (name : Text)
  /-- The datum is neither a number nor a text. -/
  | unsuitable (d : Datum)
  /-- The datum is neither a number nor a text, and it has no text to be named by. -/
  | unshown

def Refusal.message : Refusal → String
  | .unknownName name => s!"Unknown level: {String.ofList (Text.quoted name)}"
  | .unsuitable d => s!"Level not an integer or a valid string: {String.ofList d.quoted}"
  | .unshown => Text.unwritable

def ofText? (name : Text) : Except Refusal Threshold :=
  match named? name with
  | some n => .ok (.number n)
  | none => .error (.unknownName name)

def ofDatum? : Datum → Except Refusal Threshold
  | .whole n => .ok (.number n)
  | .flag b => .ok (.flag b)
  | .text name => ofText? name
  | d => .error (if d.isShown then .unsuitable d else .unshown)

end Threshold

end PaymentUri.Log
