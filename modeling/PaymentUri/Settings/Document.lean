import PaymentUri.Text.Basic
/-!
# Settings documents

Named sections of named options, with options that hold in every section. A
section keeps its place when it is opened again, and an option its place when it
is set again, so the order is that of first mention.
-/

namespace PaymentUri.Settings

abbrev Options := List (Text × Text)

namespace Options

def find? (options : Options) (name : Text) : Option Text := options.lookup name

def put (name value : Text) : Options → Options
  | [] => [(name, value)]
  | (n, v) :: rest => if n = name then (n, value) :: rest else (n, v) :: put name value rest

/-- The options with a line added to the value of one. -/
def extend (name line : Text) (options : Options) : Options :=
  options.map fun (n, v) => (n, if n = name then v ++ '\n' :: line else v)

def mapValues (f : Text → Text) (options : Options) : Options :=
  options.map fun (n, v) => (n, f v)

@[simp] theorem find?_nil (name : Text) : find? [] name = none := rfl

theorem find?_cons (n v : Text) (rest : Options) (name : Text) :
    find? ((n, v) :: rest) name = if name = n then some v else find? rest name := by
  by_cases h : name = n
  · simp [find?, h]
  · simp [find?, List.lookup_cons, h, beq_eq_false_iff_ne.2 h]

/-- Setting an option changes its value and no other. -/
theorem find?_put (options : Options) (name value other : Text) :
    (options.put name value).find? other =
      if other = name then some value else options.find? other := by
  induction options with
  | nil => simp [put, find?_cons]
  | cons o rest ih =>
    obtain ⟨n, v⟩ := o
    by_cases hn : n = name
    · subst hn
      by_cases h : other = n <;> simp [put, find?_cons, h]
    · by_cases h : other = n
      · subst h
        simp [put, hn, find?_cons]
      · simp [put, hn, find?_cons, h, ih]

end Options

/-- Where options are set. -/
inductive Place where
  /-- For every section. -/
  | everywhere
  /-- In one section. -/
  | named (name : Text)
  deriving DecidableEq, Repr

/-- The name that stands for every section. -/
def everywhereName : Text := "DEFAULT".toList

/-- The place that a header opens. -/
def Place.ofHeader (name : Text) : Place :=
  if name = everywhereName then .everywhere else .named name

/-- Options that hold everywhere, and sections in the order in which they were opened. -/
structure Document where
  everywhere : Options
  sections : List (Text × Options)
  deriving DecidableEq, Repr

namespace Document

def empty : Document := ⟨[], []⟩

def names (d : Document) : List Text := d.sections.map (·.1)

/-- The options of a section, without those that hold everywhere. -/
def section? (d : Document) (name : Text) : Option Options := d.sections.lookup name

/-- The document with a place opened. -/
def enter (d : Document) : Place → Document
  | .everywhere => d
  | .named name =>
    if (d.section? name).isSome then d else { d with sections := d.sections ++ [(name, [])] }

def update (d : Document) (place : Place) (f : Options → Options) : Document :=
  match place with
  | .everywhere => { d with everywhere := f d.everywhere }
  | .named name =>
    { d with sections := d.sections.map fun (n, os) => (n, if n = name then f os else os) }

def mapValues (d : Document) (f : Text → Text) : Document where
  everywhere := d.everywhere.mapValues f
  sections := d.sections.map fun (n, os) => (n, os.mapValues f)

/-- The options that are visible in a section: its own, then those that hold everywhere. The
first of a name is found, so a section overrides what holds everywhere. -/
def scope? (d : Document) (name : Text) : Option Options :=
  match d.section? name with
  | some own => some (own ++ d.everywhere)
  | none => if name = everywhereName then some d.everywhere else none

/-- The option is visible in the section, where no name at all means everywhere. -/
def has (d : Document) (name option : Text) : Bool :=
  let scope := if name = [] then some d.everywhere else d.scope? name
  match scope with
  | some options => (options.find? option).isSome
  | none => false

@[simp] theorem names_update (d : Document) (place : Place) (f : Options → Options) :
    (d.update place f).names = d.names := by
  cases place <;> simp [update, names, Function.comp_def]

@[simp] theorem names_mapValues (d : Document) (f : Text → Text) :
    (d.mapValues f).names = d.names := by
  simp [mapValues, names, Function.comp_def]

end Document

end PaymentUri.Settings
