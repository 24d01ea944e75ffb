import PaymentUri.Registry
import PaymentUri.Settings.Document
/-!
# The state of a session

What later answers can depend on: the registry, the settings that were loaded
last, the console, the files that were written, and the transcript of what was
recorded. A record is written to the console as it is set at that moment, so the
transcript keeps each record with its line, if it had one.

What a path leads to is a matter of the machine and not of a session. A state says how
paths are followed, no command changes that, and nothing is assumed of it.
-/

namespace PaymentUri.Session

/-- A record, with the line that was written for it. The line is kept because it cannot be
had again: the console may be set otherwise when the transcript is looked at. -/
structure Entry where
  record : Log.Record
  line : Option String
  deriving DecidableEq, Repr

/-- What a path leads to. -/
inductive Target where
  | nothing
  | directory
  | file (content : Text)
  deriving DecidableEq, Repr

abbrev Files := List (Text × Text)

/-- What a path leads to in a working directory that holds certain files and nothing else.
Empty steps and dots stay where they are, so from the working directory they lead to itself,
and two dots lead to a directory above. -/
def Files.inDirectory (files : Files) (path : Text) : Target :=
  let steps := path.splitOn '/'
  let moves := steps.filter fun step => step != [] && step != ['.']
  if moves.all (· == ['.', '.']) then .directory
  else if steps.head? = some [] ∨ steps.getLast? ≠ moves.getLast? then .nothing
  else match moves with
    | [name] => match files.lookup name with
      | some content => .file content
      | none => .nothing
    | _ => .nothing

/-- The state of a session. How paths are followed is a part of it and not a parameter of
each command, so that a run is determined by the state it begins in. -/
structure State where
  registry : Registry
  settings : Settings.Document
  console : Log.Console
  /-- The files that were written. -/
  files : Files
  /-- What a path leads to once certain files were written. -/
  follow : Files → Text → Target
  /-- Everything recorded so far, the oldest first. -/
  transcript : List Entry

namespace State

/-- The state in which a session begins, in a working directory without files. -/
def initial (terminal : Bool) : State where
  registry := .builtin
  settings := .empty
  console := { Log.Console.initial with terminal }
  files := []
  follow := Files.inDirectory
  transcript := []

/-- What a path leads to. The empty path stands for no file, so there is no more behind it than
behind a directory. -/
def target (s : State) (path : Text) : Target :=
  if path = [] then .directory else s.follow s.files path

def note (s : State) (r : Log.Record) : State :=
  { s with transcript := s.transcript ++ [⟨r, s.console.line? r⟩] }

def noteAll (s : State) (rs : List Log.Record) : State := rs.foldl note s

def setThreshold (s : State) (t : Log.Threshold) : State :=
  { s with console := { s.console with threshold := t } }

def setColored (s : State) (on : Bool) : State :=
  { s with console := { s.console with colored := on } }

/-- The state with a file written. -/
def save (s : State) (name content : Text) : State :=
  { s with files := (name, content) :: s.files.filter (·.1 != name) }

def lines (s : State) : List String := s.transcript.filterMap (·.line)

/-- What was recorded. -/
def records (s : State) : List Log.Record := s.transcript.map (·.record)

/-- Recording goes through the console and changes nothing but the transcript. -/
theorem noteAll_eq (s : State) (rs : List Log.Record) :
    s.noteAll rs =
      { s with transcript := s.transcript ++ rs.map fun r => ⟨r, s.console.line? r⟩ } := by
  induction rs generalizing s with
  | nil => simp [noteAll]
  | cons r rs ih =>
    have h : s.noteAll (r :: rs) = (s.note r).noteAll rs := rfl
    rw [h, ih]
    simp [note]

end State

end PaymentUri.Session
