import Mathlib
import PluginDiscovery.Config.Load
import PluginDiscovery.Proofs.SettingFields

/-!
# The fields of a configuration

A configuration has ten fields in two sections. Each has a name in its section, a way its setting is
read, and a value that stands for it where nothing is set; and reading a configuration from settings
is reading the ten fields, each for itself.

* `ConfigField`: the fields, with `part`, `name`, `read`, `absent` and `get`;
* `ConfigField.value`: the value of a setting that may be absent; `readIn`, `valueIn`: the same in any
  dialect;
* `config_eq_ok_iff`: in a dialect settings give a configuration whose fields are those values;
  `layered_config_eq_ok_iff`: the dialect of files and the environment.
-/

namespace PluginDiscovery

/-! ## 1. The fields -/

/-- The fields of a configuration. -/
inductive ConfigField where
  | directory
  | buildLayout
  | buildOutput
  | version
  | personalDirectory
  | exclude
  | reportFailures
  | types
  | level
  | format
  deriving DecidableEq, Repr

namespace ConfigField

/-- The section of a field. -/
def part : ConfigField → String
  | .level | .format => "logging"
  | _ => "plugins"

/-- The name of a field in its section. -/
def name : ConfigField → String
  | .directory => "directory"
  | .buildLayout => "build_layout"
  | .buildOutput => "build_output_subdir"
  | .version => "version"
  | .personalDirectory => "personal_directory"
  | .exclude => "exclude"
  | .reportFailures => "report_load_failures"
  | .types => "types"
  | .level => "level"
  | .format => "format"

/-- What the values of a field are. -/
@[reducible] def Value : ConfigField → Type
  | .directory | .version | .personalDirectory => Option String
  | .buildLayout | .reportFailures => Bool
  | .buildOutput | .level | .format => String
  | .exclude => List String
  | .types => List TypeEntry

/-- How the setting of a field is read. -/
def read : (f : ConfigField) → Setting → Except ReadError f.Value
  | .directory | .version | .personalDirectory => Dialect.layered.text?
  | .buildLayout | .reportFailures => Dialect.layered.boolean
  | .buildOutput | .level | .format => Dialect.layered.text
  | .exclude => Dialect.sequence Dialect.layered.text
  | .types => Dialect.sequence Dialect.layered.typeEntry

/-- The value of a field where nothing is set. -/
def absent : (f : ConfigField) → f.Value
  | .directory => Default.directory
  | .buildLayout => Default.buildLayout
  | .buildOutput => Default.buildOutput
  | .version | .personalDirectory => none
  | .exclude => []
  | .reportFailures => Default.reportFailures
  | .types => Default.types
  | .level => Default.level
  | .format => Default.format

/-- The value of a field in a configuration. -/
def get (c : AppConfig) : (f : ConfigField) → f.Value
  | .directory => c.plugins.directory
  | .buildLayout => c.plugins.buildLayout
  | .buildOutput => c.plugins.buildOutput
  | .version => c.plugins.version
  | .personalDirectory => c.plugins.personalDirectory
  | .exclude => c.plugins.exclude
  | .reportFailures => c.plugins.reportFailures
  | .types => c.plugins.types
  | .level => c.logging.level
  | .format => c.logging.format

/-- The configuration with these values. -/
def build (values : (f : ConfigField) → f.Value) : AppConfig where
  plugins :=
    { directory := values .directory
      buildLayout := values .buildLayout
      buildOutput := values .buildOutput
      version := values .version
      personalDirectory := values .personalDirectory
      exclude := values .exclude
      reportFailures := values .reportFailures
      types := values .types }
  logging := { level := values .level, format := values .format }

@[simp] theorem get_build (values : (f : ConfigField) → f.Value) (f : ConfigField) :
    f.get (build values) = values f := by
  cases f <;> rfl

/-- The configuration in which nothing is set has the value for that in each field. -/
theorem get_standard (f : ConfigField) : f.get .standard = f.absent := by
  cases f <;> rfl

/-- Whether the values of a field are lists. -/
def isList : ConfigField → Bool
  | .exclude | .types => true
  | _ => false

/-- The value of a field whose setting may be absent. -/
def value (f : ConfigField) (s : Option Setting) : Except ReadError f.Value :=
  s.elim (.ok f.absent) f.read

/-- How the setting of a field is read in a dialect. -/
def readIn (d : Dialect) : (f : ConfigField) → Setting → Except ReadError f.Value
  | .directory | .version | .personalDirectory => d.text?
  | .buildLayout | .reportFailures => d.boolean
  | .buildOutput | .level | .format => d.text
  | .exclude => Dialect.sequence d.text
  | .types => Dialect.sequence d.typeEntry

/-- The value of a field in a dialect, where its setting may be absent. -/
def valueIn (d : Dialect) (f : ConfigField) (s : Option Setting) : Except ReadError f.Value :=
  s.elim (.ok f.absent) (f.readIn d)

theorem valueIn_layered (f : ConfigField) (s : Option Setting) :
    f.valueIn .layered s = f.value s := by
  cases f <;> rfl

/-- No field is read from a table. -/
theorem read_table_ne_ok (f : ConfigField) (origin : Option String)
    (entries : List (String × Setting)) (a : f.Value) :
    f.read (.table origin entries) ≠ .ok a := by
  cases f <;> simp [read, Dialect.text?, Dialect.layered, Dialect.layeredText,
    Dialect.layeredBoolean, Dialect.sequence, Setting.wrong, Setting.isNothing, Except.map]

/-- Only a field whose values are lists is read from a list. -/
theorem read_list_ne_ok {f : ConfigField} (noList : f.isList = false) (origin : Option String)
    (items : List Setting) (a : f.Value) : f.read (.list origin items) ≠ .ok a := by
  cases f <;> simp [isList] at noList <;> simp [read, Dialect.text?, Dialect.layered,
    Dialect.layeredText, Dialect.layeredBoolean, Setting.wrong, Setting.isNothing, Except.map]

end ConfigField

/-! ## 2. Readings -/

theorem Except.bind_eq_ok {ε α β : Type} {x : Except ε α} {f : α → Except ε β} {b : β} :
    x >>= f = .ok b ↔ ∃ a, x = .ok a ∧ f a = .ok b := by
  cases x with
  | error e => simp [bind, Except.bind]
  | ok a => simp [bind, Except.bind]

theorem under_eq_ok {α : Type} {step : KeyStep} {r : Except ReadError α} {a : α} :
    under step r = .ok a ↔ r = .ok a := by
  cases r <;> simp [under, Except.mapError]

namespace Dialect

theorem Slot.readOr_eq_ok {α : Type} {step : KeyStep} {s : Option Setting}
    {read : Setting → Except ReadError α} {absent a : α} :
    (⟨step, s⟩ : Slot).readOr read absent = .ok a ↔ s.elim (.ok absent) read = .ok a := by
  cases s with
  | none => rfl
  | some s => exact under_eq_ok

variable (d : Dialect) {origin : Option String} {entries : List (String × Setting)}

/-- **A section for plugins is read field by field.** -/
theorem plugins_eq_ok_iff {c : PluginConfig} :
    d.plugins (.table origin entries) = .ok c ↔
      ∀ f : ConfigField, f.part = "plugins" →
        f.valueIn d (entries.lookup f.name) = .ok (f.get ⟨c, .standard⟩) := by
  simp only [plugins, slots, checkLength, Except.bind_eq_ok, Slot.readOr_eq_ok, pure, Except.pure,
    Except.ok.injEq, exists_eq_left', exists_const, true_and]
  constructor
  · rintro ⟨directory, hdirectory, buildLayout, hbuildLayout, buildOutput, hbuildOutput, version,
      hversion, personal, hpersonal, exclude, hexclude, report, hreport, types, htypes, rfl⟩ f hf
    cases f with
    | directory => exact hdirectory
    | buildLayout => exact hbuildLayout
    | buildOutput => exact hbuildOutput
    | version => exact hversion
    | personalDirectory => exact hpersonal
    | exclude => exact hexclude
    | reportFailures => exact hreport
    | types => exact htypes
    | level => exact absurd hf (by decide)
    | format => exact absurd hf (by decide)
  · intro h
    exact ⟨_, h .directory rfl, _, h .buildLayout rfl, _, h .buildOutput rfl, _, h .version rfl, _,
      h .personalDirectory rfl, _, h .exclude rfl, _, h .reportFailures rfl, _, h .types rfl, rfl⟩

/-- A section for the log is read field by field. -/
theorem logging_eq_ok_iff {c : LoggingConfig} :
    d.logging (.table origin entries) = .ok c ↔
      ∀ f : ConfigField, f.part = "logging" →
        f.valueIn d (entries.lookup f.name) = .ok (f.get ⟨.standard, c⟩) := by
  simp only [logging, slots, checkLength, Except.bind_eq_ok, Slot.readOr_eq_ok, pure, Except.pure,
    Except.ok.injEq, exists_eq_left', exists_const, true_and]
  constructor
  · rintro ⟨level, hlevel, format, hformat, rfl⟩ f hf
    cases f with
    | level => exact hlevel
    | format => exact hformat
    | _ => exact absurd hf (by decide)
  · intro h
    exact ⟨_, h .level rfl, _, h .format rfl, rfl⟩

theorem plugins_emptyTable : d.plugins .emptyTable = .ok .standard :=
  rfl

theorem logging_emptyTable : d.logging .emptyTable = .ok .standard :=
  rfl

/-- A section that may be absent is read field by field. -/
theorem plugins_elim_eq_ok_iff {root : Setting} (table : root.HasTable "plugins")
    {c : PluginConfig} :
    (root.get? "plugins").elim (.ok .standard) d.plugins = .ok c ↔
      ∀ f : ConfigField, f.part = "plugins" →
        f.valueIn d (root.field? "plugins" f.name) = .ok (f.get ⟨c, .standard⟩) := by
  unfold Setting.field?
  cases h : root.get? "plugins" with
  | none => exact d.plugins_emptyTable ▸ d.plugins_eq_ok_iff
  | some s =>
    cases s with
    | scalar origin value => cases table _ h
    | list origin items => cases table _ h
    | table origin entries => exact d.plugins_eq_ok_iff

theorem logging_elim_eq_ok_iff {root : Setting} (table : root.HasTable "logging")
    {c : LoggingConfig} :
    (root.get? "logging").elim (.ok .standard) d.logging = .ok c ↔
      ∀ f : ConfigField, f.part = "logging" →
        f.valueIn d (root.field? "logging" f.name) = .ok (f.get ⟨.standard, c⟩) := by
  unfold Setting.field?
  cases h : root.get? "logging" with
  | none => exact d.logging_emptyTable ▸ d.logging_eq_ok_iff
  | some s =>
    cases s with
    | scalar origin value => cases table _ h
    | list origin items => cases table _ h
    | table origin entries => exact d.logging_eq_ok_iff

/-- **A configuration is read field by field.** -/
theorem config_eq_ok_iff {root : Setting} (table : root.isTable = true)
    (sections : ∀ f : ConfigField, root.HasTable f.part) {c : AppConfig} :
    d.config root = .ok c ↔
      ∀ f : ConfigField, f.valueIn d (root.field? f.part f.name) = .ok (f.get c) := by
  obtain ⟨p, l⟩ := c
  have parts : d.config root = .ok ⟨p, l⟩ ↔
      (root.get? "plugins").elim (.ok .standard) d.plugins = .ok p ∧
      (root.get? "logging").elim (.ok .standard) d.logging = .ok l := by
    cases root with
    | scalar origin value => cases table
    | list origin items => cases table
    | table origin entries =>
      simp only [config, slots, checkLength, Except.bind_eq_ok, Slot.readOr_eq_ok, pure,
        Except.pure, Except.ok.injEq, exists_eq_left', exists_const, true_and,
        AppConfig.mk.injEq]
      constructor
      · rintro ⟨p', hp, l', hl, rfl, rfl⟩
        exact ⟨hp, hl⟩
      · rintro ⟨hp, hl⟩
        exact ⟨p, hp, l, hl, rfl, rfl⟩
  rw [parts, d.plugins_elim_eq_ok_iff (sections .directory),
    d.logging_elim_eq_ok_iff (sections .level)]
  constructor
  · rintro ⟨plugins, logging⟩ f
    cases f with
    | level => exact logging .level rfl
    | format => exact logging .format rfl
    | _ => exact plugins _ rfl
  · intro all
    refine ⟨fun f hf => ?_, fun f hf => ?_⟩
    · have here := all f
      rw [hf] at here
      rw [here]
      cases f <;> first | rfl | exact absurd hf (by decide)
    · have here := all f
      rw [hf] at here
      rw [here]
      cases f <;> first | rfl | exact absurd hf (by decide)

/-- A configuration of the layered dialect is read field by field. -/
theorem layered_config_eq_ok_iff {root : Setting} (table : root.isTable = true)
    (sections : ∀ f : ConfigField, root.HasTable f.part) {c : AppConfig} :
    layered.config root = .ok c ↔
      ∀ f : ConfigField, f.value (root.field? f.part f.name) = .ok (f.get c) := by
  simp only [layered.config_eq_ok_iff table sections, ConfigField.valueIn_layered]

end Dialect

end PluginDiscovery
