import Mathlib.Data.List.Nodup
import Mathlib.Logic.Relation
import PaymentUri.Settings.Reader
import PaymentUri.Settings.Template
/-!
# What reading does to a document

However a settings text looks, and wherever its reading ends, each of its lines only opens a
place, sets an option or continues one, and in the end blanks are taken off the values. None
of this gives a second section the name of one that is there, and none of it takes a section
or an option away. What a document has before a text is read into it, it has afterwards.
-/

namespace PaymentUri.Settings

open Relation (ReflTransGen)

variable {name n value line : Text}

namespace Options

variable {options : Options}

def names (options : Options) : List Text := options.map Prod.fst

theorem isSome_find?_iff : (options.find? name).isSome = true ↔ name ∈ options.names := by
  rw [find?, List.lookup_isSome_iff, names, List.mem_map]
  simp only [beq_iff_eq, eq_comm (a := name)]

theorem mem_names_put (h : name ∈ options.names) : name ∈ (options.put n value).names := by
  rw [← isSome_find?_iff, find?_put]
  split
  · rfl
  · exact isSome_find?_iff.mpr h

@[simp] theorem names_extend : (options.extend n line).names = options.names := by
  simp [extend, names, Function.comp_def]

@[simp] theorem names_mapValues (f : Text → Text) :
    (options.mapValues f).names = options.names := by
  simp [mapValues, names, Function.comp_def]

end Options

namespace Document

variable {d d' d'' : Document} {place : Place} {option : Text}

/-- Where every value is changed, what is found is changed. -/
theorem lookup_map (f : Text → Options → Options) (sections : List (Text × Options)) (name : Text) :
    (sections.map fun p => (p.1, f p.1 p.2)).lookup name = (sections.lookup name).map (f name) := by
  induction sections with
  | nil => rfl
  | cons p sections ih =>
      rw [List.map_cons, List.lookup_cons, List.lookup_cons]
      by_cases h : name = p.1
      · simp [h]
      · simpa [beq_eq_false_iff_ne.mpr h] using ih

theorem section?_update (f : Options → Options) :
    (d.update (.named n) f).section? name =
      (d.section? name).map fun os => if name = n then f os else os :=
  lookup_map (fun m os => if m = n then f os else os) d.sections name

theorem section?_mapValues (f : Text → Text) :
    (d.mapValues f).section? name = (d.section? name).map (Options.mapValues f) :=
  lookup_map (fun _ os => os.mapValues f) d.sections name

/-- A section that is there is found as it is when another place is opened. -/
theorem section?_enter {own : Options} (h : d.section? name = some own) :
    (d.enter place).section? name = some own := by
  cases place with
  | everywhere => exact h
  | named n =>
      rw [enter]
      split
      · exact h
      · rw [section?, List.lookup_append]
        exact congrArg (Option.or · _) h

def Sets (d : Document) (name option : Text) : Prop :=
  ∃ own, d.section? name = some own ∧ option ∈ own.names

/-- An option that can be seen from a section can be read, or refers to what cannot be
followed. -/
theorem get_of_visible {visible : Options} (hscope : d.scope? name = some visible)
    (hfound : (visible.find? (Text.lowercase option)).isSome = true) :
    (∃ t, d.get name option = .ok t) ∨
      ∃ fault raw, d.get name option =
        .error (.reference fault (Text.lowercase option) name raw) := by
  obtain ⟨raw, hraw⟩ := Option.isSome_iff_exists.mp hfound
  rw [Document.get, hscope]
  simp only [hraw]
  cases expand visible maxDepth raw with
  | ok t => exact .inl ⟨t, rfl⟩
  | error fault => exact .inr ⟨fault, raw, rfl⟩

theorem Sets.get (h : d.Sets name (Text.lowercase option)) :
    (∃ t, d.get name option = .ok t) ∨
      ∃ fault raw, d.get name option =
        .error (.reference fault (Text.lowercase option) name raw) := by
  obtain ⟨own, hown, hmem⟩ := h
  have hscope : d.scope? name = some (own ++ d.everywhere) := by
    rw [scope?, hown]
  refine get_of_visible hscope (Options.isSome_find?_iff.mpr ?_)
  rw [Options.names, List.map_append]
  exact List.mem_append_left _ hmem

/-- One change that the reading of a text makes to a document. -/
inductive Edits (d : Document) : Document → Prop
  | enter (place : Place) : Edits d (d.enter place)
  | put (place : Place) (name value : Text) : Edits d (d.update place (Options.put name value))
  | extend (place : Place) (name line : Text) :
      Edits d (d.update place (Options.extend name line))
  | mapValues (f : Text → Text) : Edits d (d.mapValues f)

theorem nodup_names_enter (h : d.names.Nodup) (place : Place) : (d.enter place).names.Nodup := by
  cases place with
  | everywhere => exact h
  | named n =>
      rw [enter]
      split
      · exact h
      · next hnew =>
          have hfresh : n ∉ d.names := by
            intro hmem
            obtain ⟨p, hp, rfl⟩ := List.mem_map.mp hmem
            exact hnew (List.lookup_isSome_iff.mpr ⟨p, hp, by simp⟩)
          have happend : names { d with sections := d.sections ++ [(n, [])] } = d.names ++ [n] := by
            simp [names]
          rw [happend]
          exact h.append (List.nodup_singleton n) (List.disjoint_singleton.mpr hfresh)

/-- No change gives two sections the same name. -/
theorem Edits.nodup_names (hedits : d.Edits d') (h : d.names.Nodup) : d'.names.Nodup := by
  cases hedits with
  | enter place => exact nodup_names_enter h place
  | put place name value => rwa [names_update]
  | extend place name line => rwa [names_update]
  | mapValues f => rwa [names_mapValues]

theorem Sets.update {f : Options → Options} (h : d.Sets name option)
    (hkept : ∀ os : Options, option ∈ os.names → option ∈ (f os).names) :
    (d.update place f).Sets name option := by
  obtain ⟨own, hown, hmem⟩ := h
  cases place with
  | everywhere => exact ⟨own, hown, hmem⟩
  | named n =>
      refine ⟨_, (section?_update f).trans (congrArg (Option.map _) hown), ?_⟩
      dsimp only
      split
      · exact hkept own hmem
      · exact hmem

/-- No change takes an option away. -/
theorem Edits.sets (hedits : d.Edits d') (h : d.Sets name option) : d'.Sets name option := by
  cases hedits with
  | enter place =>
      obtain ⟨own, hown, hmem⟩ := h
      exact ⟨own, section?_enter hown, hmem⟩
  | put place n value => exact h.update fun _ => Options.mem_names_put
  | extend place n line => exact h.update fun os hmem => by rwa [Options.names_extend]
  | mapValues f =>
      obtain ⟨own, hown, hmem⟩ := h
      refine ⟨_, (section?_mapValues f).trans (congrArg (Option.map _) hown), ?_⟩
      rwa [Options.names_mapValues]

end Document

namespace Reader

variable {r r' : Reader} {line value : Text}

theorem reaches_continueWith (r : Reader) (line : Text) :
    ReflTransGen Document.Edits r.document (r.continueWith line).document := by
  rw [continueWith]
  split
  · exact .single (.extend _ _ _)
  · exact .refl

theorem reaches_setOption (r : Reader) (place : Place) (line name value : Text) :
    ReflTransGen Document.Edits r.document (r.setOption place line name value).document := by
  rw [setOption]
  split
  · exact .single (.put _ _ _)
  · exact .single (.put _ _ _)

theorem reaches_takeContent (h : r.takeContent line value = .ok r') :
    ReflTransGen Document.Edits r.document r'.document := by
  rw [takeContent] at h
  split at h
  · next name _ =>
      obtain rfl := Except.ok.inj h
      exact .single (.enter _)
  · split at h
    · contradiction
    · next place _ =>
        split at h
        · next name setting _ =>
            obtain rfl := Except.ok.inj h
            exact reaches_setOption r place line name setting
        · obtain rfl := Except.ok.inj h
          exact .refl

theorem reaches_takeLine (h : r.takeLine line = .ok r') :
    ReflTransGen Document.Edits r.document r'.document := by
  rw [takeLine] at h
  dsimp only at h
  split at h
  · obtain rfl := Except.ok.inj h
    exact .refl
  · obtain rfl := Except.ok.inj h
    exact reaches_continueWith { r with count := r.count + 1 } []
  · next value indent _ =>
      split at h
      · obtain rfl := Except.ok.inj h
        exact reaches_continueWith { r with count := r.count + 1 } value
      · exact reaches_takeContent (r := { r with count := r.count + 1, indent }) h

/-- Lines change a document one after the other, also when the reading ends early. -/
theorem reaches_takeLines (r : Reader) (lines : List Text) :
    ReflTransGen Document.Edits r.document (r.takeLines lines).1.document := by
  induction lines generalizing r with
  | nil => exact .refl
  | cons line lines ih =>
      rw [takeLines]
      split
      · next r' hline => exact (reaches_takeLine hline).trans (ih r')
      · exact .refl

end Reader

namespace Document

variable {d : Document}

theorem reaches_read (d : Document) (source text : Text) :
    ReflTransGen Edits d (d.read source text).1 := by
  have hlines := Reader.reaches_takeLines (Reader.start d) text.lines
  have hread : (d.read source text).1 =
      ((Reader.start d).takeLines text.lines).1.document.mapValues Text.trimRight := by
    rw [read]
    obtain ⟨r, stop⟩ := (Reader.start d).takeLines text.lines
    cases stop <;> rfl
  rw [hread]
  exact hlines.tail (.mapValues _)

/-- What no change takes away, no text does. -/
theorem read_induction {P : Document → Prop} (hkept : ∀ d d', Edits d d' → P d → P d') (h : P d)
    (source text : Text) : P (d.read source text).1 := by
  have hreaches := d.reaches_read source text
  generalize (d.read source text).1 = d' at hreaches ⊢
  induction hreaches with
  | refl => exact h
  | tail _ hedits ih => exact hkept _ _ hedits ih

theorem nodup_names_read (h : d.names.Nodup) (source text : Text) :
    (d.read source text).1.names.Nodup :=
  read_induction (fun _ _ hedits => hedits.nodup_names) h source text

theorem Sets.read {name option : Text} (h : d.Sets name option) (source text : Text) :
    (d.read source text).1.Sets name option :=
  read_induction (P := fun d => d.Sets name option) (fun _ _ hedits => hedits.sets) h source text

end Document

end PaymentUri.Settings
