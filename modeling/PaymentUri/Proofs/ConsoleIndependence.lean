import PaymentUri.Proofs.Loading
import PaymentUri.Session.Step
/-!
# Answers without the console

Many commands write to the console and some set it, but nothing that is answered depends on it.
Two sessions with the same registry, the same settings and the same files answer every command
alike and are left alike, whatever their consoles are set to and whatever was recorded. Commands
that only concern the console may therefore stand anywhere in a run, or be left out of it.
-/

namespace PaymentUri.Session

/-- The command sets the console or has something recorded, and is there for nothing else. -/
def Command.isLogging : Command → Bool
  | .setThreshold _ | .setColor _ | .note .. => true
  | _ => false

variable {s s' : State}

namespace State

/-- The state without the console and without what was recorded. -/
def mute (s : State) : State := { s with console := Log.Console.initial, transcript := [] }

theorem mute_eq_iff :
    s.mute = s'.mute ↔
      s.registry = s'.registry ∧ s.settings = s'.settings ∧ s.files = s'.files ∧
        s.follow = s'.follow := by
  simp [mute]

@[simp] theorem mute_noteAll (s : State) (rs : List Log.Record) : (s.noteAll rs).mute = s.mute := by
  rw [noteAll_eq]
  rfl

theorem mute_withRegistry (h : s.mute = s'.mute) (r : Registry) :
    { s with registry := r }.mute = { s' with registry := r }.mute := by
  obtain ⟨-, hsettings, hfiles⟩ := mute_eq_iff.mp h
  exact mute_eq_iff.mpr ⟨rfl, hsettings, hfiles⟩

theorem mute_save (h : s.mute = s'.mute) (name content : Text) :
    (s.save name content).mute = (s'.save name content).mute := by
  obtain ⟨hregistry, hsettings, hfiles, hfollow⟩ := mute_eq_iff.mp h
  refine mute_eq_iff.mpr ⟨hregistry, hsettings, ?_, hfollow⟩
  rw [save, save, hfiles]

end State

/-- The same outcome, in states that differ at most in the console and in what was recorded. -/
structure Agree {α : Type} (x y : α × State) : Prop where
  outcome : x.1 = y.1
  state : x.2.mute = y.2.mute

theorem Agree.map {α β : Type} {x y : α × State} (h : Agree x y) (f : α → β) :
    Agree (f x.1, x.2) (f y.1, y.2) :=
  ⟨congrArg f h.outcome, h.state⟩

theorem Agree.exists_eq {α : Type} {x y : α × State} (h : Agree x y) :
    ∃ a t t', x = (a, t) ∧ y = (a, t') ∧ t.mute = t'.mute :=
  ⟨y.1, x.2, y.2, Prod.ext h.outcome rfl, rfl, h.state⟩

namespace State

theorem query_mute (s : State) (q : Query) : s.mute.query q = s.query q := by
  cases q <;> rfl

theorem agree_readDatum (h : s.mute = s'.mute) (currency? : Option Currency) (uri : Datum) :
    Agree (s.readDatum currency? uri) (s'.readDatum currency? uri) := by
  have hregistry := (mute_eq_iff.mp h).1
  rw [readDatum, readDatum, hregistry]
  refine ⟨rfl, ?_⟩
  rw [mute_noteAll, mute_noteAll, h]

theorem agree_asksDatum (h : s.mute = s'.mute) (currency? : Option Currency) (uri : Datum) :
    Agree (s.asksDatum currency? uri) (s'.asksDatum currency? uri) := by
  have hregistry := (mute_eq_iff.mp h).1
  rw [asksDatum, asksDatum, hregistry]
  refine ⟨rfl, ?_⟩
  rw [mute_noteAll, mute_noteAll, h]

theorem agree_readUri (h : s.mute = s'.mute) (u : UriRef) :
    Agree (s.readUri u) (s'.readUri u) := by
  have hregistry := (mute_eq_iff.mp h).1
  rw [readUri, readUri, hregistry]
  cases u.currency.get? s'.registry with
  | error cause => exact ⟨rfl, h⟩
  | ok currency? => exact agree_readDatum h currency? u.uri

theorem agree_readBoth (h : s.mute = s'.mute) (u v : UriRef) :
    Agree (s.readBoth u v) (s'.readBoth u v) := by
  obtain ⟨first, t, t', hfirst, hfirst', hmid⟩ := (agree_readUri h u).exists_eq
  rw [readBoth, readBoth, hfirst, hfirst']
  cases first with
  | error cause => exact ⟨rfl, hmid⟩
  | ok a =>
      obtain ⟨second, r, r', hsecond, hsecond', hend⟩ := (agree_readUri hmid v).exists_eq
      dsimp only
      rw [hsecond, hsecond']
      cases second <;> exact ⟨rfl, hend⟩

theorem agree_roundTrip (h : s.mute = s'.mute) (f : FormRef) (c : CurrencyRef) :
    Agree (s.roundTrip f c) (s'.roundTrip f c) := by
  have hregistry := (mute_eq_iff.mp h).1
  rw [roundTrip, roundTrip, hregistry]
  cases f.write s'.registry with
  | error cause => exact ⟨rfl, h⟩
  | ok form =>
      dsimp only
      cases c.get? s'.registry with
      | error cause => exact ⟨rfl, h⟩
      | ok currency? => exact (agree_readDatum h currency? (.text form.2.2)).map _

theorem agree_register (h : s.mute = s'.mute) (c : Currency) :
    Agree (s.register c) (s'.register c) := by
  have hregistry := (mute_eq_iff.mp h).1
  rw [register, register, hregistry]
  cases s'.registry.register c with
  | error cause => exact ⟨rfl, h⟩
  | ok registry => exact ⟨rfl, mute_withRegistry h registry⟩

theorem agree_unregister (h : s.mute = s'.mute) (id : Text) :
    Agree (s.unregister id) (s'.unregister id) := by
  have hregistry := (mute_eq_iff.mp h).1
  rw [unregister, unregister, hregistry]
  cases s'.registry.unregister id with
  | error cause => exact ⟨rfl, h⟩
  | ok removal => exact ⟨rfl, mute_withRegistry h removal.2⟩

theorem agree_registerText (h : s.mute = s'.mute) (source content : Text) :
    Agree (s.registerText source content) (s'.registerText source content) := by
  have hregistry := (mute_eq_iff.mp h).1
  rw [registerText, registerText, hregistry]
  cases documentOf? source content with
  | error cause => exact ⟨rfl, h⟩
  | ok d =>
      refine ⟨rfl, ?_⟩
      dsimp only
      rw [mute_noteAll, mute_noteAll]
      exact mute_withRegistry h _

/-- What a loading does is known from the path and the files, so two loadings of a path differ
in nothing but the console and the records. -/
theorem agree_load (h : s.mute = s'.mute) (path : Text) : Agree (s.load path) (s'.load path) := by
  obtain ⟨hregistry, -, hfiles, hfollow⟩ := mute_eq_iff.mp h
  have hload := s.describes_load path
  have hload' := s'.describes_load path
  rw [loading_eq_of_files hfiles hfollow] at hload
  refine ⟨hload.outcome.trans hload'.outcome.symm, ?_⟩
  have hquiet : ∀ t : State, t.mute = t.quiet.mute := fun _ => rfl
  rw [hquiet, hload.state, hquiet (s'.load path).2, hload'.state]
  refine mute_eq_iff.mpr ⟨?_, rfl, hfiles, hfollow⟩
  exact congrArg (Registry.enrol · (s'.loading path).currencies) hregistry

theorem agree_loadPath (h : s.mute = s'.mute) (path : Text) :
    Agree (s.loadPath path) (s'.loadPath path) := by
  obtain ⟨outcome, t, t', hload, hload', hend⟩ := (agree_load h path).exists_eq
  have hsettings := (mute_eq_iff.mp hend).2.1
  rw [loadPath, loadPath, hload, hload']
  refine ⟨?_, hend⟩
  dsimp only
  rw [hsettings]

/-- One step: the same answer, whatever the console is set to. -/
theorem agree_step (h : s.mute = s'.mute) (command : Command) :
    Agree (s.step command) (s'.step command) := by
  have hregistry := (mute_eq_iff.mp h).1
  cases command with
  | ask q =>
      refine ⟨?_, h⟩
      rw [step, step, ← query_mute, h, query_mute]
  | read u => exact (agree_readUri h u).map _
  | isRequest u =>
      rw [step, step, hregistry]
      cases u.currency.get? s'.registry with
      | error cause => exact ⟨rfl, h⟩
      | ok currency? => exact agree_asksDatum h currency? u.uri
  | fields u names => exact (agree_readUri h u).map _
  | compareRequests u v => exact (agree_readBoth h u v).map _
  | roundTrip f c => exact agree_roundTrip h f c
  | register c _ =>
      rw [step, step, hregistry]
      cases c.get "id" s'.registry with
      | error cause => exact ⟨rfl, h⟩
      | ok c => exact agree_register h c
  | unregister id => exact agree_unregister h id
  | registerText source content => exact agree_registerText h source content
  | loadText name content => exact agree_loadPath (mute_save h name content) name
  | load path => exact agree_loadPath h path
  | setThreshold d =>
      rw [step, step]
      cases Log.Threshold.ofDatum? d with
      | error cause => exact ⟨rfl, h⟩
      | ok t => exact ⟨rfl, h⟩
  | setColor on => exact ⟨rfl, h⟩
  | note level message => exact ⟨rfl, h⟩

/-- A command that concerns the console changes nothing else. -/
theorem mute_step_of_isLogging {command : Command} (h : command.isLogging = true) :
    (s.step command).2.mute = s.mute := by
  cases command with
  | setThreshold d =>
      rw [step]
      split <;> rfl
  | setColor on => rfl
  | note level message => rfl
  | _ => contradiction

/-- What the commands answer that do more than concern the console, each with the registry and
the settings that it leaves. -/
def answered (s : State) (commands : List Command) :
    List (Result × Registry × Settings.Document) :=
  (commands.zip (s.run commands)).filterMap fun (command, result, after) =>
    if command.isLogging then none else some (result, after.registry, after.settings)

theorem answered_cons_of_isLogging {command : Command} (h : command.isLogging = true)
    (commands : List Command) :
    s.answered (command :: commands) = (s.step command).2.answered commands := by
  simp [answered, run, h]

theorem answered_cons {command : Command} (h : command.isLogging = false)
    (commands : List Command) :
    s.answered (command :: commands) =
      ((s.step command).1, (s.step command).2.registry, (s.step command).2.settings) ::
        (s.step command).2.answered commands := by
  simp [answered, run, h]

theorem answered_eq_of_mute (h : s.mute = s'.mute) (commands : List Command) :
    s.answered commands = s'.answered commands := by
  induction commands generalizing s s' with
  | nil => rfl
  | cons command commands ih =>
      have hstep := agree_step h command
      have hothers := ih hstep.state
      cases hlogging : command.isLogging with
      | true => rwa [answered_cons_of_isLogging hlogging, answered_cons_of_isLogging hlogging]
      | false =>
          obtain ⟨hregistry, hsettings, -⟩ := mute_eq_iff.mp hstep.state
          rw [answered_cons hlogging, answered_cons hlogging, hothers, hstep.outcome, hregistry,
            hsettings]

/-- Whatever else is put into a run that only concerns the console, the other commands are
answered as they are without. -/
theorem answered_filter (s : State) (commands : List Command) :
    s.answered (commands.filter fun command => !command.isLogging) = s.answered commands := by
  induction commands generalizing s with
  | nil => rfl
  | cons command commands ih =>
      cases hlogging : command.isLogging with
      | true =>
          rw [List.filter_cons_of_neg (by simp [hlogging]), answered_cons_of_isLogging hlogging,
            ← ih, answered_eq_of_mute (mute_step_of_isLogging hlogging)]
      | false =>
          rw [List.filter_cons_of_pos (by simp [hlogging]), answered_cons hlogging,
            answered_cons hlogging, ih]

end State

end PaymentUri.Session
