import PaymentUri.Proofs.ConsoleIndependence
import PaymentUri.Proofs.RegistryGrowth
/-!
# What the console shows

Every record goes through the console as it is set at that moment. A step that sets the console
records some things before that and some things after it, but nothing in between, so each of its
records goes through the console as it was before the step or as it is after it. While the
threshold stays the same, the lines on the console are those of the records that reach it.
-/

namespace PaymentUri.Session

variable {s t after : State}

/-- Records with the lines that a console writes for them. -/
def entriesOf (c : Log.Console) (rs : List Log.Record) : List Entry :=
  rs.map fun r => ⟨r, c.line? r⟩

theorem entriesOf_append (c : Log.Console) (rs rs' : List Log.Record) :
    entriesOf c (rs ++ rs') = entriesOf c rs ++ entriesOf c rs' :=
  List.map_append

theorem line_of_mem_entriesOf {c : Log.Console} {rs : List Log.Record} {e : Entry}
    (h : e ∈ entriesOf c rs) : e.line = c.line? e.record := by
  obtain ⟨r, -, rfl⟩ := List.mem_map.mp h
  rfl

/-- The console stayed as it was, and what was recorded went through it. -/
def Writes (s after : State) : Prop :=
  after.console = s.console ∧
    ∃ rs, after.transcript = s.transcript ++ entriesOf s.console rs

/-- What was recorded first went through the console as it was, and the rest through the console
as it is now. -/
def Logs (s after : State) : Prop :=
  ∃ early late, after.transcript =
    s.transcript ++ entriesOf s.console early ++ entriesOf after.console late

theorem Writes.refl (s : State) : Writes s s :=
  ⟨rfl, [], (List.append_nil _).symm⟩

theorem Writes.trans (h : Writes s t) (h' : Writes t after) : Writes s after := by
  obtain ⟨hconsole, rs, hrs⟩ := h
  obtain ⟨hconsole', rs', hrs'⟩ := h'
  refine ⟨hconsole'.trans hconsole, rs ++ rs', ?_⟩
  rw [hrs', hrs, hconsole, entriesOf_append, List.append_assoc]

theorem writes_noteAll (s : State) (rs : List Log.Record) : Writes s (s.noteAll rs) := by
  rw [State.noteAll_eq]
  exact ⟨rfl, rs, rfl⟩

/-- The console may be set between what it wrote first and what it writes then. -/
theorem Writes.logs_of_eq {early : List Log.Record}
    (hearly : t.transcript = s.transcript ++ entriesOf s.console early) (h : Writes t after) :
    Logs s after := by
  obtain ⟨hconsole, late, hlate⟩ := h
  exact ⟨early, late, by rw [hlate, hearly, hconsole]⟩

theorem logs_of_transcript_eq (h : after.transcript = s.transcript) : Logs s after :=
  ⟨[], [], by simp [h, entriesOf]⟩

theorem Writes.logs (h : Writes s after) : Logs s after := by
  obtain ⟨-, rs, hrs⟩ := h
  exact ⟨rs, [], hrs.trans (List.append_nil _).symm⟩

theorem Writes.trans_logs (h : Writes s t) (h' : Logs t after) : Logs s after := by
  obtain ⟨hconsole, rs, hrs⟩ := h
  obtain ⟨early, late, h'⟩ := h'
  refine ⟨rs ++ early, late, ?_⟩
  rw [h', hrs, hconsole, entriesOf_append, ← List.append_assoc]

namespace State

theorem writes_readUri (s : State) (u : UriRef) : Writes s (s.readUri u).2 := by
  rw [readUri]
  split
  · exact .refl s
  · exact writes_noteAll s _

theorem writes_readBoth (s : State) (u v : UriRef) : Writes s (s.readBoth u v).2 := by
  have hfirst := s.writes_readUri u
  rw [readBoth]
  split
  · next hread => rwa [hread] at hfirst
  · next t hread =>
      rw [hread] at hfirst
      have hsecond := t.writes_readUri v
      split
      · next hread' =>
          rw [hread'] at hsecond
          exact hfirst.trans hsecond
      · next hread' =>
          rw [hread'] at hsecond
          exact hfirst.trans hsecond

theorem writes_roundTrip (s : State) (f : FormRef) (c : CurrencyRef) :
    Writes s (s.roundTrip f c).2 := by
  rw [roundTrip]
  split
  · exact .refl s
  · split
    · exact .refl s
    · exact writes_noteAll s _

theorem writes_register (s : State) (c : Currency) : Writes s (s.register c).2 := by
  rw [register]
  split
  · exact .refl s
  · next registry _ => exact writes_noteAll { s with registry } [Registry.registered c]

theorem writes_unregister (s : State) (id : Text) : Writes s (s.unregister id).2 := by
  rw [unregister]
  split
  · exact .refl s
  · next registry _ => exact Writes.refl { s with registry }

theorem writes_registerText (s : State) (source content : Text) :
    Writes s (s.registerText source content).2 := by
  rw [registerText]
  split
  · exact .refl s
  · exact writes_noteAll { s with registry := _ } _

theorem writes_applyCurrencies (s : State) : Writes s s.applyCurrencies.2 :=
  writes_noteAll { s with registry := _ } _

/-- A word that names no threshold is recorded, and then nothing is set. -/
theorem exists_transcript_applyThreshold (s : State) (word : Text) :
    ∃ rs, (s.applyThreshold word).transcript = s.transcript ++ entriesOf s.console rs := by
  rw [applyThreshold]
  split
  · exact ⟨[], (List.append_nil _).symm⟩
  · exact ⟨[badThreshold], rfl⟩

/-- The threshold and the colour are both set before any currency is registered. -/
theorem logs_applySettings (s : State) : Logs s s.applySettings.2 := by
  rw [applySettings]
  split
  · exact (Writes.refl s).logs
  · next word _ =>
      obtain ⟨early, hearly⟩ := s.exists_transcript_applyThreshold word
      simp only [applyColor_eq]
      cases colorOf? (s.applyThreshold word).settings with
      | error cause => exact (Writes.refl _).logs_of_eq hearly
      | ok on =>
          exact Writes.logs_of_eq (t := (s.applyThreshold word).setColored on) hearly
            (writes_applyCurrencies _)

theorem logs_load (s : State) (path : Text) : Logs s (s.load path).2 := by
  have happlied : ∀ d : Settings.Document, Logs s
      ({ s with settings := d }.note (loaded path)).applySettings.2 := fun d =>
    (writes_noteAll { s with settings := d } [loaded path]).trans_logs (logs_applySettings _)
  rw [load]
  split
  · exact logs_applySettings { s with settings := builtinSettings }
  · split
    · exact logs_of_transcript_eq rfl
    · exact happlied builtinSettings
    · dsimp only
      split
      · exact logs_of_transcript_eq rfl
      · exact happlied _

theorem logs_step (s : State) (command : Command) : Logs s (s.step command).2 := by
  cases command with
  | ask q => exact (Writes.refl s).logs
  | read u => exact (s.writes_readUri u).logs
  | isRequest u =>
      rw [step]
      split
      · exact (Writes.refl s).logs
      · exact (writes_noteAll s _).logs
  | fields u names => exact (s.writes_readUri u).logs
  | compareRequests u v => exact (s.writes_readBoth u v).logs
  | roundTrip f c => exact (s.writes_roundTrip f c).logs
  | register c _ =>
      rw [step]
      split
      · exact (Writes.refl s).logs
      · exact (s.writes_register _).logs
  | unregister id => exact (s.writes_unregister id).logs
  | registerText source content => exact (s.writes_registerText source content).logs
  | loadText name content => exact (s.save name content).logs_load name
  | load path => exact s.logs_load path
  | setThreshold d =>
      rw [step]
      split
      · exact logs_of_transcript_eq rfl
      · exact (Writes.refl s).logs
  | setColor on => exact logs_of_transcript_eq rfl
  | note level message => exact (writes_noteAll s [⟨level, message⟩]).logs

/-- The console as it is at first and as each command leaves it. -/
def consoles (s : State) (commands : List Command) : List Log.Console :=
  s.console :: (s.run commands).map (·.2.console)

theorem consoles_cons (s : State) (command : Command) (commands : List Command) :
    s.consoles (command :: commands) = s.console :: (s.step command).2.consoles commands := rfl

/-- What is recorded in a run goes through one of the consoles of the run. -/
theorem exists_entries_afterAll (s : State) (commands : List Command) :
    ∃ entries, (s.afterAll (commands.map .command)).transcript = s.transcript ++ entries ∧
      ∀ e ∈ entries, ∃ c ∈ s.consoles commands, e.line = c.line? e.record := by
  induction commands generalizing s with
  | nil => exact ⟨[], (List.append_nil _).symm, List.forall_mem_nil _⟩
  | cons command commands ih =>
      obtain ⟨early, late, hstep⟩ := s.logs_step command
      obtain ⟨entries, hothers, hlines⟩ := ih (s.step command).2
      refine ⟨entriesOf s.console early ++ entriesOf (s.step command).2.console late ++ entries,
        ?_, ?_⟩
      · rw [hstep, List.append_assoc, List.append_assoc] at hothers
        rw [List.append_assoc]
        exact hothers
      · simp only [List.forall_mem_append, consoles_cons]
        refine ⟨⟨?early, ?late⟩, ?others⟩
        case early =>
          intro e he
          exact ⟨_, List.mem_cons_self, line_of_mem_entriesOf he⟩
        case late =>
          intro e he
          exact ⟨_, List.mem_cons_of_mem _ List.mem_cons_self, line_of_mem_entriesOf he⟩
        case others =>
          intro e he
          obtain ⟨c, hc, hline⟩ := hlines e he
          exact ⟨c, List.mem_cons_of_mem _ hc, hline⟩

end State

/-- Entries that went through consoles of one threshold have lines where their records reach
it, and only there. -/
theorem forall₂_line_of_threshold {cs : List Log.Console} {n : Int} {entries : List Entry}
    (hthreshold : ∀ c ∈ cs, c.threshold.value = n)
    (hlines : ∀ e ∈ entries, ∃ c ∈ cs, e.line = c.line? e.record) :
    List.Forall₂ (fun r line => ∃ c ∈ cs, line = c.line r)
      ((entries.map (·.record)).filter fun r => n ≤ r.level.number)
      (entries.filterMap (·.line)) := by
  induction entries with
  | nil => exact .nil
  | cons e entries ih =>
      obtain ⟨⟨c, hc, hline⟩, hothers⟩ := List.forall_mem_cons.mp hlines
      rw [Log.Console.line?, Log.Threshold.admits, hthreshold c hc] at hline
      rw [List.map_cons, List.filter_cons]
      split
      · next hreaches =>
          rw [if_pos hreaches] at hline
          rw [List.filterMap_cons_some hline]
          exact .cons ⟨c, hc, rfl⟩ (ih hothers)
      · next hreaches =>
          rw [if_neg hreaches] at hline
          rw [List.filterMap_cons_none hline]
          exact ih hothers

namespace State

/-- Whatever the console is set to at first, and whatever is put into a run that only concerns
the console, the other commands are answered as they are without and leave the same registry
and the same settings. While the threshold is the same, the lines that are written in a run are
those of the records that reach it, in their order. -/
theorem console_only_shows (s : State) (commands : List Command) :
    (∀ c : Log.Console, { s with console := c }.answered commands =
        s.answered (commands.filter fun command => !command.isLogging)) ∧
      ∀ n : Int, (∀ c ∈ s.consoles commands, c.threshold.value = n) →
        ∃ records lines,
          (s.afterAll (commands.map .command)).records = s.records ++ records ∧
          (s.afterAll (commands.map .command)).lines = s.lines ++ lines ∧
          List.Forall₂ (fun r line => ∃ c ∈ s.consoles commands, line = c.line r)
            (records.filter fun r => n ≤ r.level.number) lines := by
  constructor
  · intro c
    rw [answered_filter]
    apply answered_eq_of_mute
    rfl
  · intro n hthreshold
    obtain ⟨entries, htranscript, hlines⟩ := s.exists_entries_afterAll commands
    refine ⟨entries.map (·.record), entries.filterMap (·.line), ?_, ?_,
      forall₂_line_of_threshold hthreshold hlines⟩
    · rw [State.records, htranscript, List.map_append, State.records]
    · rw [State.lines, htranscript, List.filterMap_append, State.lines]

/-- A question among commands that set the console, to a threshold that has no name and to
another colour, or write to it. -/
def noisy : List Command :=
  [.setThreshold (.text "LOUD".toList), .note .info "a", .ask .currencies, .setColor false,
    .note .debug "b", .note .warning "c"]

theorem console_only_shows_noisy :
    (initial true).answered noisy = (initial false).answered [.ask .currencies] ∧
      ((initial false).afterAll (noisy.map .command)).lines = ["[INFO]  a", "[WARNING]  c"] := by
  constructor
  · exact ((initial false).console_only_shows noisy).1 (initial true).console
  · obtain ⟨records, lines, hrecords, hlines, hshown⟩ :=
      ((initial false).console_only_shows noisy).2 20 (by decide)
    obtain rfl : records = [⟨.info, "a"⟩, ⟨.debug, "b"⟩, ⟨.warning, "c"⟩] := hrecords.symm
    have hfirst : ∀ c ∈ (initial false).consoles noisy, c.line ⟨.info, "a"⟩ = "[INFO]  a" := by
      decide
    have hlast : ∀ c ∈ (initial false).consoles noisy, c.line ⟨.warning, "c"⟩ = "[WARNING]  c" := by
      decide
    obtain ⟨_, others, ⟨c, hc, rfl⟩, hothers, rfl⟩ := List.forall₂_cons_left_iff.mp hshown
    obtain ⟨_, none, ⟨c', hc', rfl⟩, hnone, rfl⟩ := List.forall₂_cons_left_iff.mp hothers
    obtain rfl := List.forall₂_nil_left_iff.mp hnone
    rw [hlines, hfirst c hc, hlast c' hc']
    rfl

end State

end PaymentUri.Session
