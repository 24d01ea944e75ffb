import PaymentUri.Log.Level
/-!
# The console

Records are written to the console when their level reaches its threshold. On a
terminal the level and the message are coloured by level, unless colour is off.
What the console is set to never changes what is recorded.

How a terminal is told to show a colour is not known here: a console comes with a way
to paint a part of a line, and nothing is assumed of it.
-/

namespace PaymentUri.Log

structure Record where
  level : Level
  message : String
  deriving DecidableEq, Repr

/-- The settings of the console. Colour may be asked for where there is no terminal, so the
two are kept apart. -/
structure Console where
  threshold : Threshold
  colored : Bool
  /-- The console is a terminal that shows colour. -/
  terminal : Bool
  /-- A part of a line as it is sent to a terminal to be shown in the colour of a level. -/
  paint : Level → String → String

namespace Console

/-- The console before anything is set. It is no terminal, so nothing is painted. -/
def initial : Console where
  threshold := .number 20
  colored := true
  terminal := false
  paint _ s := s

/-- A part of a line, in colour if the console shows colour. -/
def shown (c : Console) (l : Level) (s : String) : String :=
  if c.colored && c.terminal then c.paint l s else s

/-- The line of a record, whether or not it is written. -/
def line (c : Console) (r : Record) : String :=
  "[" ++ c.shown r.level r.level.name ++ "]  " ++ c.shown r.level r.message

/-- The line that is written for a record, if its level reaches the threshold. -/
def line? (c : Console) (r : Record) : Option String :=
  if c.threshold.admits r.level then some (c.line r) else none

end Console

end PaymentUri.Log
