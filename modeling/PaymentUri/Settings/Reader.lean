import PaymentUri.Settings.Document
import PaymentUri.Text.Blank
import PaymentUri.Text.Lowercase
import PaymentUri.Text.Quoted
/-!
# Reading settings

A settings text is read line by line into a document that may hold settings
already. A header in brackets opens a section. An option is a name and a value
with an equals sign or a colon between them. A line that is indented deeper than
the line of the option continues its value, and so does an empty line, though
blanks at the end of a value do not count. Lines that begin with a number sign or
a semicolon are comments.

A line before the first header that is no comment ends the reading. Other lines
that cannot be understood are passed over and reported together, and what the
rest says is kept.
-/

namespace PaymentUri.Settings

inductive TextRefusal where
  /-- The first line that says something is not a header. -/
  | noHeader (source : Text) (number : Nat) (line : Text)
  /-- Lines that say nothing understandable. -/
  | faultyLines (source : Text) (faults : List (Nat × Text))
  deriving DecidableEq, Repr

/-- The wording of one faulty line. -/
def faultMessage (fault : Nat × Text) : String :=
  let number := String.ofList (Text.padLeft 2 ' ' (Nat.toDigits 10 fault.1))
  s!"\n\t[line {number}]: {String.ofList (Text.quoted fault.2)}"

def TextRefusal.message : TextRefusal → String
  | .noHeader source number line =>
    let name := String.ofList (Text.quoted source)
    let shown := String.ofList (Text.quoted line)
    s!"File contains no section headers.\nfile: {name}, line: {number}\n{shown}"
  | .faultyLines source faults =>
    s!"Source contains parsing errors: {String.ofList (Text.quoted source)}" ++
      String.join (faults.map faultMessage)

/-- How far the reading has come. A faulty line inside a place is passed over and reported at
the end, so what was read around it stays in the document. -/
structure Reader where
  document : Document
  /-- The place that was opened last. -/
  place : Option Place
  /-- The option that the next line may continue. -/
  option : Option Text
  /-- The indentation of the last line that was not a continuation. -/
  indent : Nat
  /-- The number of lines read. -/
  count : Nat
  /-- The lines that were passed over, the first first. -/
  faults : List (Nat × Text)
  deriving DecidableEq, Repr

/-- What a line says. -/
inductive Line where
  | comment
  | blank
  /-- Something that is not blank, with its indentation. -/
  | content (value : Text) (indent : Nat)
  deriving DecidableEq, Repr

/-- What a line says. -/
def Line.of (line : Text) : Line :=
  match Text.trimBlank line with
  | [] => .blank
  | c :: cs =>
    if c = '#' ∨ c = ';' then .comment
    else .content (c :: cs) (line.takeWhile Text.isBlank).length

/-- The name in a header: what stands between the opening bracket and the last
closing one. -/
def header? : Text → Option Text
  | '[' :: rest =>
    match Text.dropRightWhile (· != ']') rest with
    | [] => none
    | [_] => none
    | name => some name.dropLast
  | _ => none

def isDelimiter (c : Char) : Bool := c == '=' || c == ':'

/-- The name and the value of an option, each without blanks around it. -/
def option? (value : Text) : Option (Text × Text) :=
  match value.dropWhile (fun c => !isDelimiter c) with
  | [] => none
  | _ :: rest =>
    some (Text.trimRight (value.takeWhile fun c => !isDelimiter c), Text.trimBlank rest)

namespace Reader

def start (d : Document) : Reader := ⟨d, none, none, 0, 0, []⟩

/-- The line is passed over and remembered. -/
def fault (r : Reader) (line : Text) : Reader :=
  { r with faults := r.faults ++ [(r.count, line)] }

/-- The line continues the value of the current option. A blank line does so as well: whether
it ends the value is known only when the next line comes, so it is taken off at the end. -/
def continueWith (r : Reader) (line : Text) : Reader :=
  match r.place, r.option with
  | some place, some name =>
    { r with document := r.document.update place (Options.extend name line) }
  | _, _ => r

/-- A header opens its place. -/
def openPlace (r : Reader) (name : Text) : Reader :=
  let place := Place.ofHeader name
  { r with document := r.document.enter place, place := some place, option := none }

/-- An option is set. Without a name it is a fault, and nothing continues it. -/
def setOption (r : Reader) (place : Place) (line name value : Text) : Reader :=
  let r := if name = [] then r.fault line else r
  let name := Text.lowercase name
  { r with
    document := r.document.update place (Options.put name value)
    option := if name = [] then none else some name }

/-- A line that is neither blank nor a comment nor a continuation. -/
def takeContent (r : Reader) (line value : Text) : Except (Nat × Text) Reader :=
  match header? value with
  | some name => .ok (r.openPlace name)
  | none =>
    match r.place with
    | none => .error (r.count, line)
    | some place =>
      match option? value with
      | some (name, setting) => .ok (r.setOption place line name setting)
      | none => .ok (r.fault line)

/-- The reader after one more line, or the line at which the reading ends. -/
def takeLine (r : Reader) (line : Text) : Except (Nat × Text) Reader :=
  let r := { r with count := r.count + 1 }
  match Line.of line with
  | .comment => .ok r
  | .blank => .ok (r.continueWith [])
  | .content value indent =>
    if r.place.isSome ∧ r.option.isSome ∧ r.indent < indent then .ok (r.continueWith value)
    else { r with indent := indent }.takeContent line value

/-- The reader after lines, and the line at which the reading ended early. -/
def takeLines (r : Reader) : List Text → Reader × Option (Nat × Text)
  | [] => (r, none)
  | line :: lines =>
    match r.takeLine line with
    | .ok r' => takeLines r' lines
    | .error stop => (r, some stop)

end Reader

/-- The document with the settings of a text, and why the text is not accepted as a whole. -/
def Document.read (d : Document) (source text : Text) : Document × Option TextRefusal :=
  let (r, stop) := (Reader.start d).takeLines text.lines
  let document := r.document.mapValues Text.trimRight
  match stop with
  | some (number, line) => (document, some (.noHeader source number line))
  | none =>
    (document, if r.faults = [] then none else some (.faultyLines source r.faults))

end PaymentUri.Settings
