import PaymentUri.Proofs.Enrolment
import PaymentUri.Session.Load
/-!
# Loading the same settings again

What a loading does depends only on the path and the files, not on what was registered or
set before: it leaves certain settings, sets the threshold or the colour or neither, offers
certain currencies to the registry, and ends in a certain way. All this can be done twice
without a difference, also when the loading ends early. Only the records differ: where the
first loading records new currencies, the second records that they are registered.
-/

namespace PaymentUri.Session

open Settings

/-- What a loading does, apart from what it records. -/
structure Loading where
  settings : Document
  /-- The threshold that it sets, if it sets one. -/
  threshold? : Option Log.Threshold
  /-- The colour that it sets, if it comes that far. -/
  colored? : Option Bool
  /-- The currencies that it offers to the registry. -/
  currencies : List Currency
  outcome : Except LoadRefusal Unit

/-- The colour that settings ask for. -/
def colorOf? (d : Document) : Except SettingRefusal Bool :=
  match d.get loggingName colorName with
  | .ok word => .ok ((truthOf? word).getD false)
  | .error (.noOption ..) => .ok false
  | .error cause => .error cause

namespace Loading

/-- A loading that ends before any setting is applied. -/
def refused (d : Document) (cause : LoadRefusal) : Loading :=
  ⟨d, none, none, [], .error cause⟩

def ofSettings (d : Document) : Loading :=
  match d.get loggingName thresholdName with
  | .error cause => refused d (.setting cause)
  | .ok word =>
    let threshold? := (Log.Threshold.ofText? word).toOption
    match colorOf? d with
    | .error cause => ⟨d, threshold?, none, [], .error (.setting cause)⟩
    | .ok on =>
      ⟨d, threshold?, some on, d.currencies, (d.examine d.currencySections).mapError .currency⟩

/-- What the loading of a path does that leads to a target. -/
def ofTarget (path : Text) : Target → Loading
  | .nothing => refused builtinSettings (.noFile path)
  | .directory => ofSettings builtinSettings
  | .file content =>
    match builtinSettings.read path content.unifyNewlines with
    | (d, some cause) => refused d (.text cause)
    | (d, none) => ofSettings d

def on (l : Loading) (s : State) : State where
  registry := s.registry.enrol l.currencies
  settings := l.settings
  console :=
    { s.console with
      threshold := l.threshold?.getD s.console.threshold
      colored := l.colored?.getD s.console.colored }
  files := s.files
  follow := s.follow
  transcript := s.transcript

/-- To do the same once more makes no difference. -/
theorem on_on (l : Loading) (s : State) : l.on (l.on s) = l.on s := by
  have hgetD : ∀ {α : Type} (o : Option α) (x : α), o.getD (o.getD x) = o.getD x := by
    intro α o x
    cases o <;> rfl
  simp only [on, Registry.enrol_enrol, hgetD]

end Loading

namespace State

/-- The state without what was recorded. -/
def quiet (s : State) : State := { s with transcript := [] }

@[simp] theorem quiet_note (s : State) (r : Log.Record) : (s.note r).quiet = s.quiet := rfl

@[simp] theorem quiet_noteAll (s : State) (rs : List Log.Record) :
    (s.noteAll rs).quiet = s.quiet := by
  rw [noteAll_eq]
  rfl

@[simp] theorem quiet_setColored (s : State) (on : Bool) :
    (s.setColored on).quiet = s.quiet.setColored on := rfl

theorem quiet_eq_iff {s s' : State} :
    s.quiet = s'.quiet ↔
      s.registry = s'.registry ∧ s.settings = s'.settings ∧ s.console = s'.console ∧
        s.files = s'.files ∧ s.follow = s'.follow := by
  simp [quiet]

def enrolSettings (s : State) : State :=
  { s with registry := s.registry.enrol s.settings.currencies }

end State

/-- A call that ends as the loading says and leaves what the loading does, apart from
records. -/
structure Loading.Describes (l : Loading) (s : State) (call : Except LoadRefusal Unit × State) :
    Prop where
  outcome : call.1 = l.outcome
  state : call.2.quiet = l.on s.quiet

namespace State

variable (s : State) (path : Text)

theorem applyColor_eq : s.applyColor = (colorOf? s.settings).map s.setColored := by
  rw [applyColor, colorOf?]
  cases s.settings.get loggingName colorName with
  | ok word => rfl
  | error cause => cases cause <;> rfl

@[simp] theorem settings_applyThreshold (word : Text) :
    (s.applyThreshold word).settings = s.settings := by
  rw [applyThreshold]
  split <;> rfl

/-- The threshold changes where a word names one, and nothing else does. -/
theorem quiet_applyThreshold (word : Text) :
    (s.applyThreshold word).quiet =
      s.quiet.setThreshold
        ((Log.Threshold.ofText? word).toOption.getD s.console.threshold) := by
  rw [applyThreshold]
  cases Log.Threshold.ofText? word <;> rfl

theorem outcome_applyCurrencies :
    s.applyCurrencies.1 = s.settings.examine s.settings.currencySections :=
  outcome_registerSections _ _ _ _

theorem quiet_applyCurrencies : s.applyCurrencies.2.quiet = s.quiet.enrolSettings := by
  rw [applyCurrencies, quiet_noteAll, registry_registerCurrencies]
  rfl

theorem describes_applySettings :
    (Loading.ofSettings s.settings).Describes s s.applySettings := by
  rw [Loading.ofSettings, applySettings]
  cases s.settings.get loggingName thresholdName with
  | error cause => exact ⟨rfl, rfl⟩
  | ok word =>
      have hthreshold := s.quiet_applyThreshold word
      simp only [applyColor_eq, settings_applyThreshold]
      cases colorOf? s.settings with
      | error cause => exact ⟨rfl, hthreshold⟩
      | ok on =>
          have hsettings : ((s.applyThreshold word).setColored on).settings = s.settings :=
            s.settings_applyThreshold word
          have houtcome := ((s.applyThreshold word).setColored on).outcome_applyCurrencies
          have hstate := ((s.applyThreshold word).setColored on).quiet_applyCurrencies
          rw [hsettings] at houtcome
          rw [quiet_setColored, hthreshold] at hstate
          exact ⟨congrArg (Except.mapError LoadRefusal.currency) houtcome, hstate⟩

/-- The settings that are applied are those that were put in, whatever was recorded. -/
theorem describes_applySettings_of_quiet {s s' : State} {d : Document}
    (h : s'.quiet = { s with settings := d }.quiet) :
    (Loading.ofSettings d).Describes s s'.applySettings := by
  obtain ⟨-, hsettings, -⟩ := quiet_eq_iff.mp h
  obtain ⟨houtcome, hstate⟩ := s'.describes_applySettings
  rw [h] at hstate
  rw [hsettings] at houtcome hstate
  exact ⟨houtcome, hstate⟩

/-- What the loading of a path does in a state. -/
def loading : Loading :=
  if path = [] then .ofSettings builtinSettings else .ofTarget path (s.target path)

/-- What a loading does is known from the path and the files. -/
theorem loading_eq_of_files {s s' : State} (hfiles : s'.files = s.files)
    (hfollow : s'.follow = s.follow) (path : Text) : s'.loading path = s.loading path := by
  rw [loading, loading, target, target, hfiles, hfollow]

theorem describes_load : (s.loading path).Describes s (s.load path) := by
  have hsame : { s with settings := builtinSettings }.target path = s.target path := rfl
  rw [loading, load]
  split
  · exact describes_applySettings_of_quiet rfl
  · simp only [hsame]
    cases s.target path with
    | nothing => exact ⟨rfl, rfl⟩
    | directory =>
        rw [Loading.ofTarget]
        exact describes_applySettings_of_quiet (quiet_note _ _)
    | file content =>
        rw [Loading.ofTarget]
        dsimp only
        split
        · next d cause hread =>
            rw [hread]
            exact ⟨rfl, rfl⟩
        · next d hread =>
            rw [hread]
            exact describes_applySettings_of_quiet rfl

theorem registry_load :
    (s.load path).2.registry = s.registry.enrol (s.loading path).currencies := by
  have hregistry := congrArg State.registry (s.describes_load path).state
  exact hregistry

theorem files_load : (s.load path).2.files = s.files := by
  have hfiles := congrArg State.files (s.describes_load path).state
  exact hfiles

theorem follow_load : (s.load path).2.follow = s.follow := by
  have hfollow := congrArg State.follow (s.describes_load path).state
  exact hfollow

/-- To load the same path once more ends in the same way and leaves the settings, the
console and the registry as the first loading left them. The first loading leaves the
files alone, so the second finds them as they were. -/
theorem load_load :
    (s.load path).2.files = s.files ∧
      ((s.load path).2.load path).1 = (s.load path).1 ∧
      ((s.load path).2.load path).2.settings = (s.load path).2.settings ∧
      ((s.load path).2.load path).2.console = (s.load path).2.console ∧
      ((s.load path).2.load path).2.registry = (s.load path).2.registry ∧
      ((s.load path).2.load path).2.files = (s.load path).2.files := by
  have hfirst := s.describes_load path
  have hsecond := (s.load path).2.describes_load path
  rw [loading_eq_of_files (s.files_load path) (s.follow_load path)] at hsecond
  have hstate : ((s.load path).2.load path).2.quiet = (s.load path).2.quiet := by
    rw [hsecond.state, hfirst.state, Loading.on_on]
  obtain ⟨hregistry, hsettings, hconsole, hagain, -⟩ := quiet_eq_iff.mp hstate
  have houtcome := hsecond.outcome.trans hfirst.outcome.symm
  exact ⟨s.files_load path, houtcome, hsettings, hconsole, hregistry, hagain⟩

end State

end PaymentUri.Session
