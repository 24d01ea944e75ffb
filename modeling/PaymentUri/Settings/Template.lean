import PaymentUri.Settings.Document
import PaymentUri.Text.Lowercase
import PaymentUri.Text.Quoted
/-!
# Values with references

A value may refer to other options that are visible where it stands: a percent
sign, the name in parentheses, and an `s`. A doubled percent sign stands for one.
References are followed ten deep, so a value that refers to itself is refused.
What is wrong with a value is found from left to right.
-/

namespace PaymentUri.Settings

/-- A part of a value. -/
inductive Part where
  | char (c : Char)
  | reference (name : Text)
  /-- A percent sign that begins nothing, with everything after it. -/
  | stray (rest : Text)
  /-- A reference that is not written like one, with everything after it. -/
  | broken (rest : Text)
  deriving DecidableEq, Repr

mutual

/-- The parts of a value. -/
def parts : Text → List Part
  | [] => []
  | '%' :: '%' :: t => .char '%' :: parts t
  | '%' :: '(' :: t => partsIn [] t
  | '%' :: t => [.stray ('%' :: t)]
  | c :: t => .char c :: parts t

/-- The parts of a value from inside a reference, of whose name some is known. -/
def partsIn (name : Text) : Text → List Part
  | [] => [.broken ('%' :: '(' :: name)]
  | c :: t =>
    if c = ')' then
      match t with
      | 's' :: t' =>
        if name = [] then [.broken ('%' :: '(' :: c :: t)] else .reference name :: parts t'
      | _ => [.broken ('%' :: '(' :: name ++ c :: t)]
    else partsIn (name ++ [c]) t

end

inductive ReferenceFault where
  | stray (rest : Text)
  | broken (rest : Text)
  /-- No option has the name. -/
  | unknown (name : Text)
  /-- The references go too deep. -/
  | tooDeep
  deriving DecidableEq, Repr

/-- The text of parts, given the text of every reference. The first part that has no text
decides, so a reference is followed even where a later part is broken. -/
def joinParts (follow : Text → Except ReferenceFault Text) : List Part → Except ReferenceFault Text
  | [] => .ok []
  | .char c :: ps => (joinParts follow ps).map (c :: ·)
  | .reference name :: ps => do
    let t ← follow name
    let u ← joinParts follow ps
    return t ++ u
  | .stray rest :: _ => .error (.stray rest)
  | .broken rest :: _ => .error (.broken rest)

/-- How deep references are followed. -/
def maxDepth : Nat := 10

/-- The text of a value, with references followed to a depth. The recursion is on the depth,
which also ends references that lead back to themselves. -/
def expand (options : Options) : Nat → Text → Except ReferenceFault Text
  | 0, _ => .error .tooDeep
  | depth + 1, value =>
    joinParts
      (fun name =>
        match options.find? (Text.lowercase name) with
        | none => .error (.unknown (Text.lowercase name))
        | some v => if v.contains '%' then expand options depth v else .ok v)
      (parts value)

inductive SettingRefusal where
  | noSection (name : Text)
  | noOption (option name : Text)
  /-- References of the value cannot be followed. -/
  | reference (fault : ReferenceFault) (option name raw : Text)
  deriving DecidableEq, Repr

def SettingRefusal.message : SettingRefusal → String
  | .noSection name => s!"No section: {String.ofList (Text.quoted name)}"
  | .noOption option name =>
    s!"No option {String.ofList (Text.quoted option)} in section: " ++
      String.ofList (Text.quoted name)
  | .reference fault option name raw =>
    let option := String.ofList (Text.quoted option)
    let place := String.ofList (Text.quoted name)
    let raw := String.ofList (Text.quoted raw)
    match fault with
    | .stray rest =>
      s!"'%' must be followed by '%' or '(', found: {String.ofList (Text.quoted rest)}"
    | .broken rest =>
      s!"bad interpolation variable reference {String.ofList (Text.quoted rest)}"
    | .unknown wanted =>
      let key := String.ofList (Text.quoted wanted)
      s!"Bad value substitution: option {option} in section {place} contains an " ++
        s!"interpolation key {key} which is not a valid option name. Raw value: {raw}"
    | .tooDeep =>
      s!"Recursion limit exceeded in value substitution: option {option} in section {place} " ++
        s!"contains an interpolation key which cannot be substituted in {maxDepth} steps. " ++
        s!"Raw value: {raw}"

/-- The value of an option in a section, with its references followed. -/
def Document.get (d : Document) (name option : Text) : Except SettingRefusal Text :=
  match d.scope? name with
  | none => .error (.noSection name)
  | some options =>
    let option := Text.lowercase option
    match options.find? option with
    | none => .error (.noOption option name)
    | some raw =>
      match expand options maxDepth raw with
      | .ok t => .ok t
      | .error fault => .error (.reference fault option name raw)

/-- The truth value of a word, in any case. -/
def truthOf? (word : Text) : Option Bool :=
  let word := Text.lowercase word
  if ["1", "yes", "true", "on"].any (·.toList == word) then some true
  else if ["0", "no", "false", "off"].any (·.toList == word) then some false
  else none

end PaymentUri.Settings
