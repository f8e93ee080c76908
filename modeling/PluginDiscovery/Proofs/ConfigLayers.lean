import Mathlib
import PluginDiscovery.Proofs.ConfigFields

/-!
# The layers of a configuration

A configuration is loaded from a base file, an overlay and the variables of the environment. Each of
its fields is decided for itself: by the variable that names it, or else by the overlay, or else by
the base file, or else it has the value for a field that nothing sets. A list is one value among the
others and is taken whole, as long as no key leads to an element of it.

* `Source.setting?`: the value that a source gives a field; `Environment.setting?`: the same for
  variables, read off their names;
* `Source.HasSections`, `Splits`, `Typed`: what is assumed of sources;
* `value_of_config`, `config_of_typed`: the fields of a configuration that was read, and that
  well-typed sources have one;
* `configuration_layers`: all of it for the loading of a configuration;
* `element_key_mixes_lists`: a key that leads to an element of a list mixes two lists.
-/

namespace PluginDiscovery

open Setting

/-! ## 1. What a source gives a field -/

/-- The value that a source gives a field, the strongest one if it gives several. -/
def Source.setting? (source : Source) (f : ConfigField) : Option Setting :=
  strongest? (source.touches f.part f.name)

/-- The sections are tables in the source. -/
def Source.HasSections (source : Source) : Prop :=
  source.KeepsTable "plugins" ∧ source.KeepsTable "logging"

instance (source : Source) : Decidable source.HasSections :=
  inferInstanceAs (Decidable (_ ∧ _))

theorem Source.HasSections.keepsTable {source : Source} (h : source.HasSections)
    (f : ConfigField) : source.KeepsTable f.part := by
  cases f <;> first | exact h.1 | exact h.2

/-- Whether a path leads to an element of a field, or below one. -/
def ConfigField.hasElementAt (f : ConfigField) (path : KeyPath) : Bool :=
  match path.steps with
  | .key name :: .index _ :: _ => path.root = f.part && name = f.name
  | _ => false

/-- A key of the source leads to an element of the field. -/
def Source.Splits (source : Source) (f : ConfigField) : Prop :=
  ∃ e ∈ source, f.hasElementAt (KeyPath.ofText e.1) = true

instance (source : Source) (f : ConfigField) : Decidable (source.Splits f) :=
  inferInstanceAs (Decidable (∃ e ∈ source, f.hasElementAt (KeyPath.ofText e.1) = true))

/-- The sections are tables in the source, and what it says of a field is a whole value of its type. -/
structure Source.Typed (source : Source) : Prop where
  sections : source.HasSections
  whole (f : ConfigField) : ∀ t ∈ source.touches f.part f.name, t.steps = []
  read (f : ConfigField) : ∀ t ∈ source.touches f.part f.name, ∃ a, f.read t.value = .ok a

/-- Whether a variable names a field. -/
def ConfigField.isNamedBy (f : ConfigField) (name : String) : Bool :=
  (Variable.key? name).map KeyPath.ofText = some ⟨f.part, [.key f.name]⟩

/-- The value of a variable. -/
def Variable.setting (text : String) : Setting :=
  .scalar (some Environment.originName) (Variable.read text)

/-- The value that variables give a field: that of the last one that names it. -/
def Environment.setting? (vars : Environment) (f : ConfigField) : Option Setting :=
  ((vars.filter fun e => f.isNamedBy e.1).getLast?).map fun e => Variable.setting e.2

/-- A scalar is the value of the field that its key spells the path of, and of no other. -/
theorem whole_touchesOf_scalar (part name key : String) (origin : Option String) (s : Scalar) :
    (touchesOf part name key (.scalar origin s)).filterMap Touch.whole? =
      if KeyPath.ofText key = ⟨part, [.key name]⟩ then [.scalar origin s] else [] := by
  unfold touchesOf
  obtain ⟨root, steps⟩ := KeyPath.ofText key
  by_cases h : root = part
  · subst h
    cases steps with
    | nil => simp [asTable]
    | cons step below =>
      cases step with
      | index i => simp
      | key n =>
        by_cases hn : n = name
        · cases below <;> simp [hn, Touch.whole?]
        · simp [hn]
  · simp [h]

/-- **Variables set the fields that they name.** -/
theorem Environment.setting?_source (vars : Environment) (f : ConfigField) :
    vars.source.setting? f = vars.setting? f := by
  have values : (vars.source.touches f.part f.name).filterMap Touch.whole? =
      (vars.filter fun e => f.isNamedBy e.1).map fun e => Variable.setting e.2 := by
    induction vars with
    | nil => rfl
    | cons e rest ih =>
      obtain ⟨name, text⟩ := e
      have named : f.isNamedBy name = ((Variable.key? name).map KeyPath.ofText =
          some ⟨f.part, [.key f.name]⟩ : Bool) := rfl
      unfold Source.touches Environment.source at ih ⊢
      cases key : Variable.key? name with
      | none =>
        rw [key] at named
        simp [key, named, ih]
      | some k =>
        rw [key] at named
        rw [List.filterMap_cons_some (b := (k, Variable.setting text)) (by simp [key, Variable.setting]),
          List.flatMap_cons, List.filterMap_append, ih, Variable.setting, whole_touchesOf_scalar]
        by_cases spelled : KeyPath.ofText k = ⟨f.part, [.key f.name]⟩
        · simp [named, spelled, Variable.setting]
        · simp [named, spelled]
  rw [Source.setting?, strongest?, values, List.getLast?_map]
  rfl

/-! ## 2. What merged sources give the fields -/

section Merging

variable {sources : List Source}

/-- What the sources do to a field, the weakest one first. -/
def touchesOfAll (sources : List Source) (f : ConfigField) : List Touch :=
  sources.flatMap fun source => source.touches f.part f.name

theorem strongest?_touchesOfAll (below above vars : Source) (f : ConfigField) :
    strongest? (touchesOfAll [below, above, vars] f) =
      (vars.setting? f).or ((above.setting? f).or (below.setting? f)) := by
  simp [touchesOfAll, strongest?_append, Source.setting?, Option.or_assoc]

/-- A touch that begins with an index comes from a key that leads to an element. -/
theorem splits_of_touch {source : Source} {f : ConfigField} {t : Touch}
    (touch : t ∈ source.touches f.part f.name) {i : Int} {below : List KeyStep}
    (element : t.steps = .index i :: below) : source.Splits f := by
  obtain ⟨e, he, touch⟩ := List.mem_flatMap.mp touch
  refine ⟨e, he, ?_⟩
  unfold touchesOf at touch
  generalize KeyPath.ofText e.1 = path at touch ⊢
  obtain ⟨root, steps⟩ := path
  split at touch
  · rename_i h
    cases steps with
    | nil =>
      obtain ⟨e', -, rfl⟩ := List.mem_map.mp touch
      cases element
    | cons step rest =>
      cases step with
      | index j => cases touch
      | key n =>
        by_cases hn : n = f.name
        · simp only [hn, if_true, List.mem_singleton] at touch
          subst touch
          rw [show rest = .index i :: below from element]
          simp_all [ConfigField.hasElementAt]
        · simp [hn] at touch
  · cases touch

/-- Reading merged sources is reading what their touches make of each field. -/
theorem config_ofSources_eq_ok_iff (sections : ∀ source ∈ sources, source.HasSections)
    {c : AppConfig} :
    Dialect.layered.config (ofSources sources) = .ok c ↔
      ∀ f : ConfigField, f.value ((touchesOfAll sources f).foldl Touch.apply none) =
        .ok (f.get c) := by
  have keeps (f : ConfigField) : ∀ source ∈ sources, source.KeepsTable f.part :=
    fun source h => (sections source h).keepsTable f
  rw [Dialect.layered_config_eq_ok_iff (isTable_ofSources sources)
    fun f => hasTable_ofSources (keeps f)]
  refine forall_congr' fun f => ?_
  rw [field?_ofSources f.name (keeps f), touchesOfAll]

/-- **The strongest value decides a field of a configuration that was read**, and takes a list whole
    if the last touch is not one of an element. -/
theorem value_of_config (sections : ∀ source ∈ sources, source.HasSections) {c : AppConfig}
    (read : Dialect.layered.config (ofSources sources) = .ok c) (f : ConfigField)
    (unsplit : f.isList = true → ∀ t ∈ (touchesOfAll sources f).getLast?,
      ∀ i below, t.steps ≠ .index i :: below) :
    f.value (strongest? (touchesOfAll sources f)) = .ok (f.get c) := by
  have value := (config_ofSources_eq_ok_iff sections).mp read f
  generalize touchesOfAll sources f = touches at value unsplit ⊢
  rcases List.eq_nil_or_concat touches with rfl | ⟨before, t, rfl⟩
  · exact value
  rw [List.concat_eq_append] at value unsplit ⊢
  have left := value
  rw [List.foldl_append, List.foldl_cons, List.foldl_nil] at left
  -- reading succeeded, so the last touch left no table, and a list only where lists are read
  rcases apply_cases t (before.foldl Touch.apply none) with
    ⟨whole, scalar, _⟩ | ⟨origin, entries, table⟩ | ⟨i, below, origin, items, element, list⟩
  · rwa [foldl_apply_of_last (by simp [whole, scalar])] at value
  · rw [table] at left
    exact absurd left (f.read_table_ne_ok origin entries _)
  · rw [list] at left
    cases isList : f.isList with
    | false => exact absurd left (ConfigField.read_list_ne_ok isList origin items _)
    | true => exact absurd element (unsplit isList t (by simp) i below)

/-- If from the strongest source on down to the one that gives a field no key leads to an element of
    it, then neither does the last touch. -/
theorem last_touch_of_unsplit {below above vars : Source} {f : ConfigField}
    (unsplit : ¬ vars.Splits f ∧ (vars.setting? f = none → ¬ above.Splits f ∧
      (above.setting? f = none → ¬ below.Splits f))) :
    ∀ t ∈ (touchesOfAll [below, above, vars] f).getLast?,
      ∀ i rest, t.steps ≠ .index i :: rest := by
  intro t last i rest element
  have touch {source : Source} (h : (source.touches f.part f.name).getLast? = some t) :
      source.Splits f := splits_of_touch (List.mem_of_getLast? h) element
  have silent {source : Source} (h : (source.touches f.part f.name).getLast? = none) :
      source.setting? f = none := by
    rw [Source.setting?, List.getLast?_eq_none_iff.mp h]
    rfl
  simp only [touchesOfAll, List.flatMap_cons, List.flatMap_nil, List.append_nil,
    List.getLast?_append] at last
  -- the last touch is that of the strongest source that touches the field at all
  cases hvars : (vars.touches f.part f.name).getLast? with
  | some t' =>
    rw [hvars, Option.some_or, Option.some_or, Option.mem_some_iff] at last
    exact unsplit.1 (touch (last ▸ hvars))
  | none =>
    have later := unsplit.2 (silent hvars)
    rw [hvars, Option.none_or] at last
    cases habove : (above.touches f.part f.name).getLast? with
    | some t' =>
      rw [habove, Option.some_or, Option.mem_some_iff] at last
      exact later.1 (touch (last ▸ habove))
    | none =>
      rw [habove, Option.none_or] at last
      exact later.2 (silent habove) (touch last)

/-- **Well-typed sources have a configuration**, and the strongest values decide its fields. -/
theorem config_of_typed (typed : ∀ source ∈ sources, source.Typed) :
    ∃ c, Dialect.layered.config (ofSources sources) = .ok c ∧
      ∀ f : ConfigField, f.value (strongest? (touchesOfAll sources f)) = .ok (f.get c) := by
  have touch (f : ConfigField) : ∀ t ∈ touchesOfAll sources f,
      t.steps = [] ∧ ∃ a, f.read t.value = .ok a := fun t h => by
    obtain ⟨source, member, touched⟩ := List.mem_flatMap.mp h
    exact ⟨(typed source member).whole f t touched, (typed source member).read f t touched⟩
  have folded (f : ConfigField) : (touchesOfAll sources f).foldl Touch.apply none =
      strongest? (touchesOfAll sources f) := by
    refine foldl_apply_of_last fun t last => ?_
    obtain ⟨whole, a, read⟩ := touch f t (List.mem_of_getLast? last)
    refine ⟨whole, ?_⟩
    obtain ⟨steps, value⟩ := t
    cases value with
    | scalar origin s => rfl
    | list origin items => rfl
    | table origin entries => exact absurd read (f.read_table_ne_ok origin entries a)
  have valued (f : ConfigField) : ∃ a, f.value (strongest? (touchesOfAll sources f)) = .ok a := by
    cases strongest : strongest? (touchesOfAll sources f) with
    | none => exact ⟨f.absent, rfl⟩
    | some s =>
      obtain ⟨t, member, whole⟩ := List.mem_filterMap.mp (List.mem_of_getLast? strongest)
      rw [Touch.whole?, if_pos (touch f t member).1] at whole
      cases whole
      exact (touch f t member).2
  choose values hvalues using valued
  refine ⟨ConfigField.build values, (config_ofSources_eq_ok_iff fun source h =>
    (typed source h).sections).mpr fun f => ?_, fun f => ?_⟩
  · rw [folded, hvalues, ConfigField.get_build]
  · rw [hvalues, ConfigField.get_build]

end Merging

/-! ## 3. Loading -/

namespace AppConfig

/-- The configuration that the files and the variables give, before it is validated. -/
def merged? (fs : FileSystem) (working : Path) (vars : Environment) (base env : String) :
    Option AppConfig :=
  (sources? fs working vars base env).bind fun sources =>
    (Dialect.layered.config (ofSources sources)).toOption

variable {fs : FileSystem} {working : Path} {vars : Environment} {base env : String}

theorem checked_eq_ok_iff {c c' : AppConfig} : c.checked = .ok c' ↔ c = c' ∧ c.defect? = none := by
  unfold checked validate
  cases c.defect? <;> simp [Except.map]

theorem load_of_merged? {c : AppConfig} (h : merged? fs working vars base env = some c) :
    load fs working vars base env = c.checked := by
  unfold merged? at h
  obtain ⟨sources, found, read⟩ := Option.bind_eq_some_iff.mp h
  unfold load
  rw [found]
  cases config : Dialect.layered.config (ofSources sources) with
  | error e =>
    rw [config] at read
    cases read
  | ok c' =>
    rw [config] at read
    cases read
    simp only [config]

/-- Without a merged configuration loading fails, and not because of validation. -/
theorem load_of_merged?_none (h : merged? fs working vars base env = none) :
    ∃ e, load fs working vars base env = .error e ∧ e.kind = .configuration := by
  unfold merged? at h
  unfold load
  cases found : sources? fs working vars base env with
  | none => exact ⟨_, rfl, rfl⟩
  | some sources =>
    rw [found, Option.bind_some] at h
    cases config : Dialect.layered.config (ofSources sources) with
    | error e =>
      simp only [config]
      exact ⟨_, rfl, rfl⟩
    | ok c =>
      rw [config] at h
      cases h

theorem load_eq_ok_iff {c : AppConfig} :
    load fs working vars base env = .ok c ↔
      merged? fs working vars base env = some c ∧ c.defect? = none := by
  cases h : merged? fs working vars base env with
  | none =>
    obtain ⟨e, failed, -⟩ := load_of_merged?_none h
    simp [failed]
  | some c' =>
    rw [load_of_merged? h, checked_eq_ok_iff]
    constructor
    · rintro ⟨rfl, sound⟩
      exact ⟨rfl, sound⟩
    · rintro ⟨same, sound⟩
      cases same
      exact ⟨rfl, sound⟩

/-- **Validation is what rejects a merged configuration with a defect**, and nothing else is. -/
theorem load_validation_iff {e : AppError} :
    (load fs working vars base env = .error e ∧ e.kind = .validation) ↔
      ∃ c d, merged? fs working vars base env = some c ∧ c.defect? = some d ∧
        e = .plain .validation d.message := by
  cases h : merged? fs working vars base env with
  | none =>
    obtain ⟨e', failed, kind⟩ := load_of_merged?_none h
    rw [failed]
    constructor
    · rintro ⟨same, validation⟩
      cases same
      rw [kind] at validation
      cases validation
    · rintro ⟨c, d, none, -⟩
      cases none
  | some c =>
    rw [load_of_merged? h, checked, validate]
    cases defect : c.defect? with
    | none => simp [Except.map, defect]
    | some d =>
      simp only [Except.map, Except.error.injEq, Option.some.injEq]
      constructor
      · rintro ⟨rfl, -⟩
        exact ⟨c, d, rfl, defect, rfl⟩
      · rintro ⟨c', d', rfl, defect', rfl⟩
        rw [defect] at defect'
        cases defect'
        exact ⟨rfl, rfl⟩

/-- A configuration is put together only from files that were read. -/
theorem read_of_merged? {c : AppConfig} (h : merged? fs working vars base env = some c) :
    ∃ below above, FileSource.read fs working (Path.ofString base) = some below ∧
      FileSource.read fs working (overlayPath base env) = some above := by
  obtain ⟨sources, found, -⟩ := Option.bind_eq_some_iff.mp h
  unfold sources? at found
  obtain ⟨below, first, found⟩ := Option.bind_eq_some_iff.mp found
  obtain ⟨above, second, -⟩ := Option.bind_eq_some_iff.mp found
  exact ⟨below, above, first, second⟩

/-- From files that were read it is what their sources give, with the variables over them. -/
theorem merged?_eq_some_iff {below above : Source} {c : AppConfig}
    (first : FileSource.read fs working (Path.ofString base) = some below)
    (second : FileSource.read fs working (overlayPath base env) = some above) :
    merged? fs working vars base env = some c ↔
      Dialect.layered.config (ofSources [below, above, vars.source]) = .ok c := by
  have sources : sources? fs working vars base env = some [below, above, vars.source] := by
    rw [sources?, first, second]
    rfl
  rw [merged?, sources, Option.bind_some]
  cases Dialect.layered.config (ofSources [below, above, vars.source]) with
  | error e => exact ⟨nofun, nofun⟩
  | ok c' => simp [Except.toOption]

end AppConfig

/-! ## 4. All of it -/

/-- **Each field of a loaded configuration comes from the strongest layer that sets it.** With
    sections that are tables this is the environment if a variable names the field, or else the
    overlay, or else the base file, and a field that none of them sets has its default. Lists are
    taken whole, if from the environment down to the layer that gives the list no key leads to an
    element of it. A configuration is loaded only from files that were read, a missing one sets
    nothing, and loading fails in validation exactly if the merged configuration has a defect.
    Well-typed sources always give a merged configuration. -/
theorem configuration_layers (fs : FileSystem) (working : Path) (vars : Environment)
    (base env : String) :
    (∀ below above c, FileSource.read fs working (Path.ofString base) = some below →
      FileSource.read fs working (AppConfig.overlayPath base env) = some above →
      (∀ source ∈ [below, above, vars.source], source.HasSections) →
      AppConfig.load fs working vars base env = .ok c →
      ∀ f : ConfigField,
        (f.isList = true → ¬ vars.source.Splits f ∧ (vars.setting? f = none →
          ¬ above.Splits f ∧ (above.setting? f = none → ¬ below.Splits f))) →
        f.value ((vars.setting? f).or ((above.setting? f).or (below.setting? f))) =
          .ok (f.get c)) ∧
    (∀ c, AppConfig.load fs working vars base env = .ok c →
      ∃ below above, FileSource.read fs working (Path.ofString base) = some below ∧
        FileSource.read fs working (AppConfig.overlayPath base env) = some above) ∧
    (∀ name, FileSource.find fs working name = none →
      FileSource.read fs working name = some []) ∧
    (∀ e, (AppConfig.load fs working vars base env = .error e ∧ e.kind = .validation) ↔
      ∃ c d, AppConfig.merged? fs working vars base env = some c ∧ c.defect? = some d ∧
        e = .plain .validation d.message) ∧
    (∀ below above, FileSource.read fs working (Path.ofString base) = some below →
      FileSource.read fs working (AppConfig.overlayPath base env) = some above →
      (∀ source ∈ [below, above, vars.source], source.Typed) →
      ∃ c, AppConfig.merged? fs working vars base env = some c ∧
        AppConfig.load fs working vars base env = c.checked ∧
        ∀ f : ConfigField,
          f.value ((vars.setting? f).or ((above.setting? f).or (below.setting? f))) =
            .ok (f.get c)) := by
  have layers (below above : Source) (f : ConfigField) :
      strongest? (touchesOfAll [below, above, vars.source] f) =
        (vars.setting? f).or ((above.setting? f).or (below.setting? f)) := by
    rw [strongest?_touchesOfAll, vars.setting?_source]
  refine ⟨fun below above c first second sections loaded f unsplit => ?_, fun c loaded => ?_,
    fun name missing => ?_, fun e => AppConfig.load_validation_iff,
    fun below above first second typed => ?_⟩
  · have read := (AppConfig.merged?_eq_some_iff first second).mp
      (AppConfig.load_eq_ok_iff.mp loaded).1
    rw [← layers]
    refine value_of_config sections read f fun isList => last_touch_of_unsplit ?_
    rw [vars.setting?_source]
    exact unsplit isList
  · exact AppConfig.read_of_merged? (AppConfig.load_eq_ok_iff.mp loaded).1
  · rw [FileSource.read, missing]
  · obtain ⟨c, read, fields⟩ := config_of_typed typed
    have merged : AppConfig.merged? fs working vars base env = some c :=
      (AppConfig.merged?_eq_some_iff first second).mpr read
    exact ⟨c, merged, AppConfig.load_of_merged? merged, fun f => layers below above f ▸ fields f⟩

/-! ### A base file, an overlay and a variable -/

/-- A base file that sets four fields. -/
def baseText : String :=
  "[plugins]\ndirectory = \"base\"\nversion = \"1.0\"\nexclude = [\"a.so\", \"b.so\"]\n" ++
    "[logging]\nlevel = \"warn\"\n"

/-- An overlay that sets two of them again. -/
def overlayText : String :=
  "[plugins]\nexclude = [\"c.so\"]\n[logging]\nlevel = \"debug\"\n"

/-- The directory `c` with the base file alone. -/
def baseOnly : FileSystem :=
  ⟨.directory [(Utf8.encode "c", .directory
    [(Utf8.encode "default.toml", .file (.bytes (Utf8.encode baseText)))])], [], []⟩

/-- The directory `c` with the base file and the overlay for `staging`. -/
def baseAndOverlay : FileSystem :=
  ⟨.directory [(Utf8.encode "c", .directory
    [(Utf8.encode "default.toml", .file (.bytes (Utf8.encode baseText))),
     (Utf8.encode "staging.toml", .file (.bytes (Utf8.encode overlayText)))])], [], []⟩

/-- A text that a file gives. -/
def fileText (file text : String) : Setting :=
  .scalar (some file) (.text text)

/-- What the base file gives. -/
def baseSource : Source :=
  let file := "c/default.toml"
  [("plugins", .table (some file)
    [("directory", fileText file "base"), ("version", fileText file "1.0"),
     ("exclude", .list (some file) [fileText file "a.so", fileText file "b.so"])]),
   ("logging", .table (some file) [("level", fileText file "warn")])]

/-- What the overlay gives. -/
def overlaySource : Source :=
  let file := "c/staging.toml"
  [("plugins", .table (some file) [("exclude", .list (some file) [fileText file "c.so"])]),
   ("logging", .table (some file) [("level", fileText file "debug")])]

/-- Reading a TOML file, by its steps. -/
theorem read_toml {fs : FileSystem} {working name file : Path} {text origin : String}
    {fields : List (String × Json)} (found : FileSource.find fs working name = some (file, .toml))
    (content : fs.read file = .ok (.bytes (Utf8.encode text)))
    (decoded : FileSource.textOf (Utf8.encode text) = text)
    (parsed : Toml.parse? text = some fields)
    (shown : (file.relativeTo working).shown = origin) :
    FileSource.read fs working name = some (Setting.ofFields (some origin) fields) := by
  rw [FileSource.read, found]
  simp only [content, FileFormat.parse?, decoded, parsed, shown, Option.map_some]

theorem parse?_baseText : Toml.parse? baseText = some
    [("plugins", .object [("directory", .text "base"), ("version", .text "1.0"),
      ("exclude", .array [.text "a.so", .text "b.so"])]),
     ("logging", .object [("level", .text "warn")])] := by
  cbv

theorem parse?_overlayText : Toml.parse? overlayText = some
    [("plugins", .object [("exclude", .array [.text "c.so"])]),
     ("logging", .object [("level", .text "debug")])] := by
  cbv

theorem textOf_baseText : FileSource.textOf (Utf8.encode baseText) = baseText := by
  cbv

theorem read_baseOnly :
    FileSource.read baseOnly (Path.ofString "/") (Path.ofString "c/default.toml") =
      some baseSource := by
  have file : FileSource.find baseOnly (Path.ofString "/") (Path.ofString "c/default.toml") =
      some (Path.ofString "/c/default.toml", .toml) := by cbv
  have content : baseOnly.read (Path.ofString "/c/default.toml") =
      .ok (.bytes (Utf8.encode baseText)) := by cbv
  exact read_toml file content textOf_baseText parse?_baseText (by cbv)

theorem read_baseAndOverlay :
    FileSource.read baseAndOverlay (Path.ofString "/") (Path.ofString "c/default.toml") =
      some baseSource := by
  have file : FileSource.find baseAndOverlay (Path.ofString "/")
      (Path.ofString "c/default.toml") = some (Path.ofString "/c/default.toml", .toml) := by cbv
  have content : baseAndOverlay.read (Path.ofString "/c/default.toml") =
      .ok (.bytes (Utf8.encode baseText)) := by cbv
  exact read_toml file content textOf_baseText parse?_baseText (by cbv)

theorem read_overlay :
    FileSource.read baseAndOverlay (Path.ofString "/")
      (AppConfig.overlayPath "c/default.toml" "staging") = some overlaySource := by
  have file : FileSource.find baseAndOverlay (Path.ofString "/")
      (AppConfig.overlayPath "c/default.toml" "staging") =
      some (Path.ofString "/c/staging.toml", .toml) := by cbv
  have content : baseAndOverlay.read (Path.ofString "/c/staging.toml") =
      .ok (.bytes (Utf8.encode overlayText)) := by cbv
  exact read_toml file content (by cbv) parse?_overlayText (by cbv)

theorem read_noOverlay :
    FileSource.read baseOnly (Path.ofString "/")
      (AppConfig.overlayPath "c/default.toml" "staging") = some [] := by
  cbv

/-- A variable that names the version. -/
def versionVariable : Environment :=
  [("PLUGSCAN__PLUGINS__VERSION", "v2")]

/-- What the three layers give: the version of the variable, the list and the level of the overlay,
    the directory of the base file, and everything else as where nothing is set. -/
def layeredConfig : AppConfig where
  plugins := { PluginConfig.standard with
    directory := some "base", version := some "v2", exclude := ["c.so"] }
  logging := { LoggingConfig.standard with level := "debug" }

theorem source_versionVariable :
    versionVariable.source = [("plugins.version", Variable.setting "v2")] := by
  have key : Variable.key? "PLUGSCAN__PLUGINS__VERSION" = some "plugins.version" := by cbv
  simp only [versionVariable, Environment.source, List.filterMap_cons, key, Option.map_some,
    List.filterMap_nil, Variable.setting]

theorem load_layers :
    AppConfig.load baseAndOverlay (Path.ofString "/") versionVariable "c/default.toml" "staging" =
      .ok layeredConfig := by
  refine AppConfig.load_eq_ok_iff.mpr ⟨?_, by decide +kernel⟩
  rw [AppConfig.merged?_eq_some_iff read_baseAndOverlay read_overlay, source_versionVariable]
  decide +kernel

/-- The three layers decide the fields of the configuration, each field for itself. -/
theorem configuration_layers_three :
    ∀ f : ConfigField, f.value ((versionVariable.setting? f).or
      ((overlaySource.setting? f).or (baseSource.setting? f))) = .ok (f.get layeredConfig) := by
  intro f
  have all := configuration_layers baseAndOverlay (Path.ofString "/") versionVariable
    "c/default.toml" "staging"
  rw [source_versionVariable] at all
  refine all.1 baseSource overlaySource layeredConfig read_baseAndOverlay read_overlay ?_
    load_layers f fun _ => ?_
  · decide +kernel
  · cases f <;> decide +kernel

/-! ### A variable that leads to an element -/

/-- A variable whose name leads to the first name that is left out. -/
def elementVariable : Environment :=
  [("PLUGSCAN__PLUGINS__EXCLUDE[0]", "first.so")]

/-- What the base file and the variable give. -/
def mixedConfig : AppConfig where
  plugins := { PluginConfig.standard with
    directory := some "base", version := some "1.0", exclude := ["first.so", "b.so"] }
  logging := { LoggingConfig.standard with level := "warn" }

theorem source_elementVariable :
    elementVariable.source = [("plugins.exclude[0]", Variable.setting "first.so")] := by
  have key : Variable.key? "PLUGSCAN__PLUGINS__EXCLUDE[0]" = some "plugins.exclude[0]" := by cbv
  simp only [elementVariable, Environment.source, List.filterMap_cons, key, Option.map_some,
    List.filterMap_nil, Variable.setting]

/-- A key that leads to an element mixes two lists: the value is one for an element and the
    configuration is loaded, and what it leaves out is the list of no source, nor is it the
    default. -/
theorem element_key_mixes_lists :
    FileSource.read baseOnly (Path.ofString "/") (Path.ofString "c/default.toml") =
      some baseSource ∧
    FileSource.read baseOnly (Path.ofString "/")
      (AppConfig.overlayPath "c/default.toml" "staging") = some [] ∧
    (∀ source ∈ [baseSource, [], elementVariable.source], source.HasSections) ∧
    Dialect.layered.text (Variable.setting "first.so") = .ok "first.so" ∧
    AppConfig.load baseOnly (Path.ofString "/") elementVariable "c/default.toml" "staging" =
      .ok mixedConfig ∧
    (∀ source ∈ [baseSource, [], elementVariable.source],
      ConfigField.exclude.value (source.setting? .exclude) ≠ .ok mixedConfig.plugins.exclude) ∧
    ConfigField.exclude.value ((elementVariable.setting? .exclude).or
      ((Source.setting? [] .exclude).or (baseSource.setting? .exclude))) ≠
        .ok mixedConfig.plugins.exclude := by
  rw [← elementVariable.setting?_source, source_elementVariable]
  refine ⟨read_baseOnly, read_noOverlay, by decide +kernel, by decide +kernel, ?_,
    by decide +kernel, by decide +kernel⟩
  refine AppConfig.load_eq_ok_iff.mpr ⟨?_, by decide +kernel⟩
  rw [AppConfig.merged?_eq_some_iff read_baseOnly read_noOverlay, source_elementVariable]
  decide +kernel

end PluginDiscovery
