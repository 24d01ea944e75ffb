import PaymentUri.Proofs.Registration
import PaymentUri.Proofs.RegistryGrowth
/-!
# What a loading leaves behind

A loading goes through four stages: it finds the settings of a path, sets the threshold of
the console, then its colour, and registers the currencies. It can end in each of them, and
what the stages before have done stays done while nothing of the later ones happens. A word
that names no threshold and a word that is no truth value end no stage. The settings of the
console are built in, so they are always there, and only a reference in them can be wrong.
-/

namespace PaymentUri.Session

open Settings

/-- The threshold where a word is to name one, which stays as it was when it does not. -/
def thresholdAfter (word : Text) (before : Log.Threshold) : Log.Threshold :=
  match Log.Threshold.named? word with
  | some n => .number n
  | none => before

theorem getD_ofText? (word : Text) (before : Log.Threshold) :
    (Log.Threshold.ofText? word).toOption.getD before = thresholdAfter word before := by
  rw [Log.Threshold.ofText?, thresholdAfter]
  cases Log.Threshold.named? word <;> rfl

namespace State

variable (s : State) (path : Text) {cause : LoadRefusal}

/-- The built-in settings overlaid with those of a path, as far as these can be read. -/
def overlaid : Document :=
  match s.target path with
  | .file content => (builtinSettings.read path content.unifyNewlines).1
  | _ => builtinSettings

/-- Why a path leads to no settings that are accepted. -/
def refusal? : Option LoadRefusal :=
  match s.target path with
  | .nothing => some (.noFile path)
  | .directory => none
  | .file content => (builtinSettings.read path content.unifyNewlines).2.map .text

theorem overlaid_of_nothing (h : s.target path = .nothing) : s.overlaid path = builtinSettings := by
  rw [overlaid, h]

theorem refusal?_of_nothing (h : s.target path = .nothing) :
    s.refusal? path = some (.noFile path) := by
  rw [refusal?, h]

/-- The empty path is treated like a directory. -/
theorem loading_eq_ofTarget : s.loading path = .ofTarget path (s.target path) := by
  rw [loading]
  split
  · next h =>
      subst h
      rfl
  · rfl

/-- A loading is refused for the reason that there is, and otherwise applies the settings. -/
theorem loading_eq :
    s.loading path =
      match s.refusal? path with
      | some cause => .refused (s.overlaid path) cause
      | none => .ofSettings (s.overlaid path) := by
  rw [loading_eq_ofTarget, refusal?, overlaid]
  cases s.target path with
  | nothing => rfl
  | directory => rfl
  | file content =>
      dsimp only [Loading.ofTarget]
      obtain ⟨d, fault?⟩ := builtinSettings.read path content.unifyNewlines
      cases fault? <;> rfl

theorem loading_of_refusal (h : s.refusal? path = some cause) :
    s.loading path = .refused (s.overlaid path) cause := by
  rw [loading_eq, h]

theorem loading_of_accepted (h : s.refusal? path = none) :
    s.loading path = .ofSettings (s.overlaid path) := by
  rw [loading_eq, h]

theorem settings_load : (s.load path).2.settings = (s.loading path).settings := by
  have hsettings := congrArg State.settings (s.describes_load path).state
  exact hsettings

/-- What is set for the console by the built-in settings is set whatever a file says. -/
theorem sets_overlaid {option : Text} (h : builtinSettings.Sets loggingName option) :
    (s.overlaid path).Sets loggingName option := by
  rw [overlaid]
  split
  · exact h.read _ _
  · exact h

end State

def consoleOptions : List Text := [thresholdName, colorName]

theorem lowercase_of_mem_consoleOptions :
    ∀ option ∈ consoleOptions, Text.lowercase option = option := by
  decide

theorem sets_builtinSettings : ∀ option ∈ consoleOptions, builtinSettings.Sets loggingName option :=
  fun _ h => ⟨_, rfl, h⟩

/-- The built-in settings are what a settings text says. -/
theorem isRead_builtinSettings : builtinSettings.IsRead :=
  .read .empty [] "[LOGGING]\nconsole_log_level = INFO\ncolor = true".toList

theorem State.isRead_overlaid (s : State) (path : Text) : (s.overlaid path).IsRead := by
  rw [overlaid]
  split
  · exact .read isRead_builtinSettings _ _
  · exact isRead_builtinSettings

/-- A setting of the console can be read, or a reference in it cannot be followed. -/
theorem State.get_overlaid (s : State) (path : Text) {option : Text} (h : option ∈ consoleOptions) :
    (∃ t, (s.overlaid path).get loggingName option = .ok t) ∨
      ∃ fault raw, (s.overlaid path).get loggingName option =
        .error (.reference fault option loggingName raw) := by
  have hsets := s.sets_overlaid path (sets_builtinSettings option h)
  have hlower := lowercase_of_mem_consoleOptions option h
  rw [← hlower] at hsets
  have hget := hsets.get
  rwa [hlower] at hget

/-- Registry, console and files are as they were, and paths lead where they led. -/
structure Untouched (s after : State) : Prop where
  registry : after.registry = s.registry
  console : after.console = s.console
  files : after.files = s.files
  follow : after.follow = s.follow

/-- What is true of a loading, however it ends: of what it answers and the state that it
leaves. -/
structure Leaves (s : State) (path : Text) (outcome : Except LoadRefusal Unit) (after : State) :
    Prop where
  settings : after.settings = s.overlaid path
  registry : s.registry.currencies <+: after.registry.currencies
  files : after.files = s.files
  missing : s.target path = .nothing →
    outcome = .error (.noFile path) ∧ after.settings = builtinSettings ∧ Untouched s after
  /-- Settings that are not accepted are kept as far as they were read, and not applied. -/
  refused : ∀ cause, s.refusal? path = some cause → outcome = .error cause ∧ Untouched s after
  /-- Only references can keep a setting of the console from being read. -/
  unreadable : ∀ option ∈ consoleOptions, ∀ cause,
    (s.overlaid path).get loggingName option = .error cause →
      ∃ fault raw, cause = .reference fault option loggingName raw
  no_threshold : ∀ cause, s.refusal? path = none →
    (s.overlaid path).get loggingName thresholdName = .error cause →
      outcome = .error (.setting cause) ∧ Untouched s after
  no_color : ∀ level cause, s.refusal? path = none →
    (s.overlaid path).get loggingName thresholdName = .ok level →
    (s.overlaid path).get loggingName colorName = .error cause →
      outcome = .error (.setting cause) ∧ after.registry = s.registry ∧
        after.console =
          { s.console with threshold := thresholdAfter level s.console.threshold }
  /-- Whatever the words are, the currencies are registered up to the first section that
  describes none, and only that section can end the loading. -/
  applied : ∀ level color, s.refusal? path = none →
    (s.overlaid path).get loggingName thresholdName = .ok level →
    (s.overlaid path).get loggingName colorName = .ok color →
      after.console =
          { s.console with
            threshold := thresholdAfter level s.console.threshold
            colored := (truthOf? color).getD false } ∧
        ∃ sound ending,
          (s.overlaid path).Divides (s.overlaid path).currencySections sound ending ∧
          outcome = ending.mapError .currency ∧
          after.registry.currencies = s.registry.currencies ++ newAmong s.registry sound
  /-- Another threshold is one whose name the settings say. -/
  threshold : after.console.threshold ≠ s.console.threshold → ∃ level n,
    (s.overlaid path).get loggingName thresholdName = .ok level ∧
      Log.Threshold.named? level = some n ∧ after.console.threshold = .number n

namespace State

variable {s : State} {path : Text} {d : Document} {level color : Text}

theorem load_of_loading {l : Loading} (h : s.loading path = l) :
    (s.load path).1 = l.outcome ∧
      (s.load path).2.registry = s.registry.enrol l.currencies ∧
      (s.load path).2.console =
        { s.console with
          threshold := l.threshold?.getD s.console.threshold
          colored := l.colored?.getD s.console.colored } := by
  obtain ⟨houtcome, hstate⟩ := s.describes_load path
  rw [h] at houtcome hstate
  have hregistry := congrArg State.registry hstate
  have hconsole := congrArg State.console hstate
  exact ⟨houtcome, hregistry, hconsole⟩

/-- A loading that is refused applies nothing. -/
theorem load_of_refused {cause : LoadRefusal} (h : s.loading path = .refused d cause) :
    (s.load path).1 = .error cause ∧ Untouched s (s.load path).2 := by
  obtain ⟨houtcome, hregistry, hconsole⟩ := load_of_loading h
  exact ⟨houtcome, hregistry, hconsole, s.files_load path, s.follow_load path⟩

theorem load_of_no_threshold {cause : SettingRefusal} (haccepted : s.refusal? path = none)
    (hlevel : (s.overlaid path).get loggingName thresholdName = .error cause) :
    (s.load path).1 = .error (.setting cause) ∧ Untouched s (s.load path).2 := by
  have hloading := s.loading_of_accepted path haccepted
  rw [Loading.ofSettings, hlevel] at hloading
  exact load_of_refused hloading

theorem colorOf?_of_reference {fault : ReferenceFault} {option name raw : Text}
    (h : d.get loggingName colorName = .error (.reference fault option name raw)) :
    colorOf? d = .error (.reference fault option name raw) := by
  rw [colorOf?, h]

theorem load_of_no_color {cause : SettingRefusal} (haccepted : s.refusal? path = none)
    (hlevel : (s.overlaid path).get loggingName thresholdName = .ok level)
    (hcolor : (s.overlaid path).get loggingName colorName = .error cause) :
    (s.load path).1 = .error (.setting cause) ∧ (s.load path).2.registry = s.registry ∧
      (s.load path).2.console =
        { s.console with threshold := thresholdAfter level s.console.threshold } := by
  have hoption : colorName ∈ consoleOptions := List.mem_cons_of_mem _ List.mem_cons_self
  rcases s.get_overlaid path hoption with ⟨t, ht⟩ | ⟨fault, raw, href⟩
  · rw [ht] at hcolor
    cases hcolor
  · rw [href] at hcolor
    obtain rfl := Except.error.inj hcolor
    have hloading := s.loading_of_accepted path haccepted
    rw [Loading.ofSettings, hlevel] at hloading
    dsimp only at hloading
    rw [colorOf?_of_reference href] at hloading
    obtain ⟨houtcome, hregistry, hconsole⟩ := load_of_loading hloading
    refine ⟨houtcome, hregistry, ?_⟩
    rw [hconsole, ← getD_ofText?]
    rfl

theorem load_of_readable (haccepted : s.refusal? path = none)
    (hlevel : (s.overlaid path).get loggingName thresholdName = .ok level)
    (hcolor : (s.overlaid path).get loggingName colorName = .ok color) :
    (s.load path).2.console =
        { s.console with
          threshold := thresholdAfter level s.console.threshold
          colored := (truthOf? color).getD false } ∧
      ∃ sound ending,
        (s.overlaid path).Divides (s.overlaid path).currencySections sound ending ∧
        (s.load path).1 = ending.mapError .currency ∧
        (s.load path).2.registry.currencies =
          s.registry.currencies ++ newAmong s.registry sound := by
  have hloading := s.loading_of_accepted path haccepted
  have hcolored : colorOf? (s.overlaid path) = .ok ((truthOf? color).getD false) := by
    rw [colorOf?, hcolor]
  rw [Loading.ofSettings, hlevel] at hloading
  dsimp only at hloading
  rw [hcolored] at hloading
  obtain ⟨houtcome, hregistry, hconsole⟩ := load_of_loading hloading
  obtain ⟨sound, ending, hdivides⟩ := (s.overlaid path).exists_divides
    (s.overlaid path).currencySections
  refine ⟨?_, sound, ending, hdivides, ?_, ?_⟩
  · rw [hconsole, ← getD_ofText?]
    rfl
  · rw [houtcome, ← hdivides.examine]
  · rw [hregistry]
    exact currencies_enrol (s.isRead_overlaid path) s.registry hdivides

theorem threshold_load (haccepted : s.refusal? path = none)
    (hlevel : (s.overlaid path).get loggingName thresholdName = .ok level) :
    (s.load path).2.console.threshold = thresholdAfter level s.console.threshold := by
  cases hcolor : (s.overlaid path).get loggingName colorName with
  | error cause => rw [(load_of_no_color haccepted hlevel hcolor).2.2]
  | ok color => rw [(load_of_readable haccepted hlevel hcolor).1]

/-- The threshold changes in no other way than by a name in the settings. -/
theorem exists_named_of_ne (h : (s.load path).2.console.threshold ≠ s.console.threshold) :
    ∃ level n, (s.overlaid path).get loggingName thresholdName = .ok level ∧
      Log.Threshold.named? level = some n ∧ (s.load path).2.console.threshold = .number n := by
  cases hrefusal : s.refusal? path with
  | some cause =>
      obtain ⟨-, huntouched⟩ := load_of_refused (s.loading_of_refusal path hrefusal)
      exact absurd (congrArg Log.Console.threshold huntouched.console) h
  | none =>
      cases hlevel : (s.overlaid path).get loggingName thresholdName with
      | error cause =>
          obtain ⟨-, huntouched⟩ := load_of_no_threshold hrefusal hlevel
          exact absurd (congrArg Log.Console.threshold huntouched.console) h
      | ok level =>
          have hthreshold := threshold_load hrefusal hlevel
          rw [thresholdAfter] at hthreshold
          cases hnamed : Log.Threshold.named? level with
          | none =>
              rw [hnamed] at hthreshold
              exact absurd hthreshold h
          | some n =>
              rw [hnamed] at hthreshold
              exact ⟨level, n, rfl, hnamed, hthreshold⟩

theorem settings_ofSettings (d : Document) : (Loading.ofSettings d).settings = d := by
  rw [Loading.ofSettings]
  split
  · rfl
  · dsimp only
    split <;> rfl

theorem settings_load_eq_overlaid (s : State) (path : Text) :
    (s.load path).2.settings = s.overlaid path := by
  rw [settings_load]
  cases hrefusal : s.refusal? path with
  | some cause =>
      rw [s.loading_of_refusal path hrefusal]
      rfl
  | none => rw [s.loading_of_accepted path hrefusal, settings_ofSettings]

end State

/-- However a loading ends, the stages before have done all that they do, and nothing else
has happened. -/
theorem leaves_load (s : State) (path : Text) :
    Leaves s path (s.load path).1 (s.load path).2 where
  settings := s.settings_load_eq_overlaid path
  registry := by
    rw [s.registry_load path]
    exact (s.registry.extends_enrol _).isPrefix
  files := s.files_load path
  missing h := by
    obtain ⟨houtcome, huntouched⟩ :=
      State.load_of_refused (s.loading_of_refusal path (s.refusal?_of_nothing path h))
    refine ⟨houtcome, ?_, huntouched⟩
    rw [s.settings_load_eq_overlaid path, s.overlaid_of_nothing path h]
  refused _ h := State.load_of_refused (s.loading_of_refusal path h)
  unreadable option hoption cause h := by
    rcases s.get_overlaid path hoption with ⟨t, ht⟩ | ⟨fault, raw, href⟩
    · rw [ht] at h
      cases h
    · rw [href] at h
      exact ⟨fault, raw, (Except.error.inj h).symm⟩
  no_threshold _ := State.load_of_no_threshold
  no_color _ _ := State.load_of_no_color
  applied _ _ := State.load_of_readable
  threshold := State.exists_named_of_ne

/-- The threshold is set before the colour turns out to be unreadable. -/
example : (((State.initial true).save "f".toList
    "[LOGGING]\nconsole_log_level=DEBUG\ncolor=%(x)s\n[COIN:]".toList).load "f".toList).2.console =
      ⟨.number 10, true, true, fun _ t => t⟩ := rfl

end PaymentUri.Session
