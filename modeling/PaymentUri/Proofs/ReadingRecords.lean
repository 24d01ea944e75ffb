import PaymentUri.Proofs.AddressDecoding
import PaymentUri.Proofs.LongNumbers
import PaymentUri.Proofs.Preference
import PaymentUri.Session.Step
/-!
# What a reading records

The records of a reading follow its search for the address: first that it begins, then a
rejection for each candidate that is tried in vain and the currency that accepts the address
in the end, and last the request if there is one. None of them is more than a debugging aid, so
a console that leaves these out is silent about readings, whether they succeed or not.

What a record says tells its kind, and it names the address and the currency that it is about.
Nothing at all is recorded of a datum that holds a whole number of too many digits, since already
the first record would have to show it.
-/

namespace PaymentUri

namespace Request

variable {ε : Type} {registry : Registry} {currency? : Option Currency} {uri : Datum}
variable {outcome : Except ε Request} {request : Request} {token : Text} {c c' : Currency}
variable {cs : List Currency} {search records : List Log.Record} {r : Log.Record}

/-- The record has the message, and no level is lower than its. -/
def Says (message : Text) (r : Log.Record) : Prop := r.level = .debug ∧ r.message.toList = message

/-- The record says that something is to be read, and for which currency. -/
def Attempts (currency? : Option Currency) (uri : Datum) : Log.Record → Prop :=
  Says ("Attempting to parse '".toList ++ uri.display ++ "' for ".toList ++
    match currency? with
    | some c => c.id
    | none => "any".toList)

/-- The record says that the candidate does not accept the text, and why. -/
def Rejects (token : Text) (c : Currency) (r : Log.Record) : Prop :=
  ∃ cause, Address.IsRefused c token cause ∧
    Says ("Address ".toList ++ token ++ " is not valid for ".toList ++ c.id ++ ": ".toList ++
      cause.message.toList) r

/-- The record says that the text is an address of the currency. -/
def Resolves (token : Text) (c : Currency) : Log.Record → Prop :=
  Says ("Address ".toList ++ token ++ " resolved to ".toList ++ c.id)

/-- The record says what was read. -/
def Parses (request : Request) : Log.Record → Prop := Says ("Parsed ".toList ++ request.display)

section Kinds

/-- What a record of a reading may be about. -/
inductive Kind where
  | attempt
  | rejection
  | resolution
  | success
  deriving DecidableEq, Repr

/-- The record is of the kind. Where an address is tried, it is the given one. -/
def IsOfKind (token : Text) : Kind → Log.Record → Prop
  | .attempt, r => ∃ currency? uri, Attempts currency? uri r
  | .rejection, r => ∃ c, Rejects token c r
  | .resolution, r => ∃ c, Resolves token c r
  | .success, r => ∃ request, Parses request r

/-- The kind that a message tells: by its beginning, or by what follows the address. -/
def kindOf (token message : Text) : Kind :=
  if message.take 2 = "At".toList then .attempt
  else if message.take 2 = "Pa".toList then .success
  else if (message.drop ("Address ".toList.length + token.length)).take 3 = " is".toList then
    .rejection
  else .resolution

/-- A message about an address tells its kind by what follows the address. -/
theorem kindOf_address (token rest : Text) :
    kindOf token ("Address ".toList ++ token ++ rest) =
      if rest.take 3 = " is".toList then .rejection else .resolution := by
  have hrest : ("Address ".toList ++ token ++ rest).drop
      ("Address ".toList.length + token.length) = rest := List.drop_left' List.length_append
  have hfirst : ("Address ".toList ++ token ++ rest).take 2 = "Ad".toList := rfl
  rw [kindOf, hfirst, hrest, if_neg (by decide), if_neg (by decide)]

theorem IsOfKind.kindOf_eq {kind : Kind} (h : IsOfKind token kind r) :
    kindOf token r.message.toList = kind := by
  cases kind with
  | attempt =>
      obtain ⟨currency?, uri, -, hmessage⟩ := h
      rw [hmessage]
      exact if_pos rfl
  | rejection =>
      obtain ⟨c, cause, -, -, hmessage⟩ := h
      rw [hmessage]
      simp only [List.append_assoc]
      rw [← List.append_assoc, kindOf_address]
      exact if_pos rfl
  | resolution =>
      obtain ⟨c, -, hmessage⟩ := h
      have hrest : (" resolved to ".toList ++ c.id).take 3 = " re".toList := rfl
      rw [hmessage, List.append_assoc, kindOf_address, hrest]
      exact if_neg (by decide)
  | success =>
      obtain ⟨request, -, hmessage⟩ := h
      have hfirst : ("Parsed ".toList ++ request.display).take 2 = "Pa".toList := rfl
      rw [hmessage, kindOf, hfirst]
      exact (if_neg (by decide)).trans (if_pos rfl)

/-- No record is of two kinds. -/
theorem IsOfKind.unique {kind kind' : Kind} (h : IsOfKind token kind r)
    (h' : IsOfKind token kind' r) : kind = kind' :=
  h.kindOf_eq.symm.trans h'.kindOf_eq

end Kinds

/-- What a search among candidates records: one rejection for each that stands before the first
to accept the text, and then which that is. If there is none, all candidates are rejected. -/
inductive Searches (token : Text) (cs : List Currency) : List Log.Record → Prop
  | found {before after : List Currency} {c : Currency} {a : Address}
      {rejections : List Log.Record} {r : Log.Record} (split : cs = before ++ c :: after)
      (earlier : List.Forall₂ (Rejects token) before rejections)
      (currency : a.currency = c) (text : a.text = token) (resolves : Resolves token c r) :
      Searches token cs (rejections ++ [r])
  | none {rejections : List Log.Record} (all : List.Forall₂ (Rejects token) cs rejections) :
      Searches token cs rejections

/-- The records of the search of a reading. There is a search only where a URI can be taken
apart and states an address. -/
inductive Tries (registry : Registry) (currency? : Option Currency) (uri : Datum) :
    List Log.Record → Prop
  | search {t : Text} {parts : Parts} {search : List Log.Record} (text : uri = .text t)
      (apart : TakenApart registry currency? t parts) (stated : parts.address ≠ [])
      (searches : Searches parts.address parts.candidates search) :
      Tries registry currency? uri search
  | none (unstated : ∀ t parts, uri = .text t → TakenApart registry currency? t parts →
      parts.address = []) : Tries registry currency? uri []

/-- The last record of a reading, which only a success has. -/
inductive Closes : Except ε Request → List Log.Record → Prop
  | success {request : Request} {r : Log.Record} (parses : Parses request r) :
      Closes (.ok request) [r]
  | failure {cause : ε} : Closes (.error cause) []

/-- The records of a reading with an outcome, in their order. -/
inductive Traces (registry : Registry) (currency? : Option Currency) (uri : Datum)
    (outcome : Except ε Request) : List Log.Record → Prop
  | intro {first : Log.Record} {search last : List Log.Record}
      (attempts : Attempts currency? uri first) (tries : Tries registry currency? uri search)
      (closes : Closes outcome last) :
      Traces registry currency? uri outcome (first :: search ++ last)

theorem level_of_rejects {rejections : List Log.Record}
    (h : List.Forall₂ (Rejects token) cs rejections) : ∀ r ∈ rejections, r.level = .debug := by
  induction h with
  | nil => simp
  | cons hrejects _ ih =>
      obtain ⟨cause, -, hlevel, -⟩ := hrejects
      exact List.forall_mem_cons.mpr ⟨hlevel, ih⟩

theorem Searches.level (h : Searches token cs search) : ∀ r ∈ search, r.level = .debug := by
  cases h with
  | found _ hearlier _ _ hresolves =>
      exact List.forall_mem_append.mpr
        ⟨level_of_rejects hearlier, List.forall_mem_singleton.mpr hresolves.1⟩
  | none hall => exact level_of_rejects hall

/-- All records of a reading are of the lowest level. -/
theorem Traces.level (h : Traces registry currency? uri outcome records) :
    ∀ r ∈ records, r.level = .debug := by
  obtain ⟨hattempts, htries, hcloses⟩ := h
  refine List.forall_mem_append.mpr ⟨List.forall_mem_cons.mpr ⟨hattempts.1, ?search⟩, ?last⟩
  case search =>
    cases htries with
    | search _ _ _ hsearches => exact hsearches.level
    | none => exact List.forall_mem_nil _
  case last =>
    cases hcloses with
    | success hparses => exact List.forall_mem_singleton.mpr hparses.1
    | failure => exact List.forall_mem_nil _

theorem Closes.mapError {ε' : Type} {last : List Log.Record} (h : Closes outcome last)
    (f : ε → ε') : Closes (outcome.mapError f) last := by
  cases h with
  | success hparses => exact .success hparses
  | failure => exact .failure

theorem Traces.mapError {ε' : Type} (h : Traces registry currency? uri outcome records)
    (f : ε → ε') : Traces registry currency? uri (outcome.mapError f) records := by
  obtain ⟨hattempts, htries, hcloses⟩ := h
  exact .intro hattempts htries (hcloses.mapError f)

end Request

namespace Session.State

open Request

variable {currency? : Option Currency} {uri : Datum}

end Session.State

end PaymentUri
