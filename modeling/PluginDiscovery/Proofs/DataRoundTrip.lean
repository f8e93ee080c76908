import PluginDiscovery.Config.Load
import PluginDiscovery.Proofs.ConfigFields

/-!
# A configuration as data, and back

The data of a configuration have a key for each section and, in it, a key for each field. Read again
they give the configuration, and where keys are missing, the value for nothing set stands in each of
the fields that are gone, whether their own key is missing or that of their section.

* `Json.without`: a value without the keys at some paths;
* `ConfigField.toJson`, `field?_toJson`: what stands under the keys of a field;
* `ConfigField.read_toJson`: each field is read back from its data;
* `AppConfig.fallBack`: a configuration with the value for nothing set in some fields;
* `data_roundtrip`: reading the data of a configuration, with any of the keys missing.
-/

namespace PluginDiscovery

/-! ## 1. Missing keys -/

namespace Json

mutual

/-- The value that stands at a path, without the keys whose paths are gone. Items of a list have no
    path and stay as they are. -/
def pruned (gone : List String → Bool) (path : List String) : Json → Json
  | .object fields => .object (prunedFields gone path fields)
  | .null => .null
  | .boolean b => .boolean b
  | .integer i => .integer i
  | .float x => .float x
  | .text s => .text s
  | .array items => .array items

/-- The fields of an object that stands at a path, without the keys whose paths are gone. -/
def prunedFields (gone : List String → Bool) (path : List String) :
    List (String × Json) → List (String × Json)
  | [] => []
  | (key, j) :: rest =>
    if gone (path ++ [key]) then prunedFields gone path rest
    else (key, pruned gone (path ++ [key]) j) :: prunedFields gone path rest

end

/-- The value without the keys whose paths are gone. -/
def without (gone : List String → Bool) (j : Json) : Json :=
  j.pruned gone []

mutual

/-- Where no key is gone the value stays as it is. -/
theorem pruned_of_kept (path : List String) : (j : Json) → j.pruned (fun _ => false) path = j
  | .object fields => congrArg Json.object (prunedFields_of_kept path fields)
  | .null => rfl
  | .boolean _ => rfl
  | .integer _ => rfl
  | .float _ => rfl
  | .text _ => rfl
  | .array _ => rfl

theorem prunedFields_of_kept (path : List String) :
    (fields : List (String × Json)) → prunedFields (fun _ => false) path fields = fields
  | [] => rfl
  | (key, j) :: rest => by
    rw [prunedFields, if_neg Bool.false_ne_true, pruned_of_kept, prunedFields_of_kept]

end

theorem lookup_prunedFields (gone : List String → Bool) (path : List String)
    (fields : List (String × Json)) (key : String) :
    (prunedFields gone path fields).lookup key =
      if gone (path ++ [key]) then none
      else (fields.lookup key).map (pruned gone (path ++ [key])) := by
  induction fields with
  | nil => simp [prunedFields]
  | cons field rest ih =>
    obtain ⟨k, j⟩ := field
    by_cases same : key = k
    · subst same
      rw [prunedFields]
      split
      · rename_i missing
        rw [ih, if_pos missing]
      · simp
    · have other : (key == k) = false := beq_eq_false_iff_ne.mpr same
      rw [prunedFields, List.lookup_cons, other]
      split
      · exact ih
      · rw [List.lookup_cons, other]
        exact ih

theorem field?_pruned (gone : List String → Bool) (path : List String) (j : Json) (key : String) :
    (j.pruned gone path).field? key =
      if gone (path ++ [key]) then none else (j.field? key).map (pruned gone (path ++ [key])) := by
  cases j with
  | object fields => exact lookup_prunedFields gone path fields key
  | _ => simp [pruned, field?]

end Json

/-! ## 2. Data as settings -/

namespace Setting

theorem lookup_ofFields (origin : Option String) (fields : List (String × Json)) (key : String) :
    (ofFields origin fields).lookup key = (fields.lookup key).map (ofJson origin) := by
  induction fields with
  | nil => rfl
  | cons field rest ih =>
    obtain ⟨k, j⟩ := field
    rw [ofFields, List.lookup_cons, List.lookup_cons]
    cases key == k
    · exact ih
    · rfl

/-- Under the keys of data stand the same settings as in the data. -/
theorem get?_ofJson (origin : Option String) (j : Json) (key : String) :
    (ofJson origin j).get? key = (j.field? key).map (ofJson origin) := by
  cases j with
  | object fields => exact lookup_ofFields origin fields key
  | _ => rfl

theorem field?_ofJson (origin : Option String) (j : Json) (part name : String) :
    (ofJson origin j).field? part name =
      ((j.field? part).bind (·.field? name)).map (ofJson origin) := by
  unfold field?
  rw [get?_ofJson]
  cases j.field? part with
  | none => rfl
  | some below => exact get?_ofJson origin below name

end Setting

/-! ## 3. Fields -/

namespace ConfigField

/-- The data of a value of a field. -/
def toJson : (f : ConfigField) → f.Value → Json
  | .directory | .version | .personalDirectory => Json.ofText?
  | .buildLayout | .reportFailures => .boolean
  | .buildOutput | .level | .format => .text
  | .exclude => Json.ofTexts
  | .types => fun types => .array (types.map TypeEntry.toJson)

/-- The data of a configuration have those of each field under its two keys. -/
theorem field?_toJson (c : AppConfig) (f : ConfigField) :
    (c.toJson.field? f.part).bind (·.field? f.name) = some (f.toJson (f.get c)) := by
  cases f <;> rfl

/-- The data of a field have no keys. -/
theorem pruned_toJson (gone : List String → Bool) (path : List String) (f : ConfigField)
    (v : f.Value) : (f.toJson v).pruned gone path = f.toJson v := by
  cases f with
  | directory | version | personalDirectory => cases v <;> rfl
  | _ => rfl

/-- A list is read back if its elements are. -/
theorem elements_ofItems {α : Type} {read : Setting → Except ReadError α} {data : α → Json}
    (each : ∀ a, read (.ofJson none (data a)) = .ok a) (index : Nat) (as : List α) :
    Dialect.elements read index (Setting.ofItems none (as.map data)) = .ok as := by
  induction as generalizing index with
  | nil => rfl
  | cons a rest ih =>
    rw [List.map_cons, Setting.ofItems, Dialect.elements, each, ih]
    rfl

/-- **The value of a field is read back from its data.** -/
theorem read_toJson (f : ConfigField) (v : f.Value) :
    f.readIn .strict (.ofJson none (f.toJson v)) = .ok v := by
  cases f with
  | directory | version | personalDirectory => cases v <;> rfl
  | buildLayout | reportFailures => rfl
  | buildOutput | level | format => rfl
  | exclude => exact elements_ofItems (fun _ => rfl) 0 v
  | types => exact elements_ofItems (fun _ => rfl) 0 v

/-- A field is gone if its key or that of its section is. -/
def isGone (gone : List String → Bool) (f : ConfigField) : Bool :=
  gone [f.part] || gone [f.part, f.name]

/-- In the data without some keys stand the data of the fields that are not gone. -/
theorem field?_without (gone : List String → Bool) (c : AppConfig) (f : ConfigField) :
    ((c.toJson.without gone).field? f.part).bind (·.field? f.name) =
      if f.isGone gone then none else some (f.toJson (f.get c)) := by
  have kept := field?_toJson c f
  rw [Json.without, Json.field?_pruned, isGone, List.nil_append]
  cases gone [f.part] with
  | true => rfl
  | false =>
    obtain ⟨part, hpart, hfield⟩ := Option.bind_eq_some_iff.mp kept
    simp only [Bool.false_eq_true, if_false, Bool.false_or, hpart, Option.map_some,
      Option.bind_some, Json.field?_pruned, hfield, pruned_toJson]
    rfl

end ConfigField

/-! ## 4. Configurations -/

namespace AppConfig

/-- The configuration with the value for nothing set in the fields that are gone. -/
def fallBack (c : AppConfig) (gone : List String → Bool) : AppConfig :=
  ConfigField.build fun f => if f.isGone gone then f.get .standard else f.get c

@[simp] theorem get_fallBack (c : AppConfig) (gone : List String → Bool) (f : ConfigField) :
    f.get (c.fallBack gone) = if f.isGone gone then f.get .standard else f.get c :=
  ConfigField.get_build _ f

theorem isTable_without (c : AppConfig) (gone : List String → Bool) :
    (Setting.ofJson none (c.toJson.without gone)).isTable = true :=
  rfl

/-- The sections that are left are tables. -/
theorem hasTable_without (c : AppConfig) (gone : List String → Bool) (f : ConfigField) :
    (Setting.ofJson none (c.toJson.without gone)).HasTable f.part := by
  intro s found
  rw [Setting.get?_ofJson, Json.without, Json.field?_pruned] at found
  split at found
  · cases found
  · cases f <;> cases found <;> rfl

/-- **Data with missing keys are read as the configuration with nothing set in the fields that are
    gone.** -/
theorem config_without (c : AppConfig) (gone : List String → Bool) :
    Dialect.strict.config (.ofJson none (c.toJson.without gone)) = .ok (c.fallBack gone) := by
  rw [Dialect.strict.config_eq_ok_iff (c.isTable_without gone) (c.hasTable_without gone)]
  intro f
  rw [Setting.field?_ofJson, ConfigField.field?_without, get_fallBack, ConfigField.valueIn]
  cases f.isGone gone with
  | true => exact congrArg Except.ok f.get_standard.symm
  | false => exact f.read_toJson (f.get c)

/-- A whole section that is missing is as if each of its fields were. -/
theorem fallBack_section (c : AppConfig) (gone : List String → Bool) (part : String) :
    c.fallBack (fun path => gone path || path == [part]) =
      c.fallBack fun path => gone path || path.dropLast == [part] := by
  refine congrArg ConfigField.build (funext fun f => ?_)
  have same : f.isGone (fun path => gone path || path == [part]) =
      f.isGone fun path => gone path || path.dropLast == [part] := by
    simp only [ConfigField.isGone, List.dropLast]
    cases gone [f.part] <;> cases gone [f.part, f.name] <;> simp
  rw [same]

end AppConfig

/-- **A configuration is read back from its data, whatever keys with a default are missing.** The
    data of a configuration give the configuration again; a text that is absent is written as null,
    which is read as absent, also where a text is the default. Without any of the keys of sections and
    of fields the data are still read: a field has its default if its key or that of its section is
    missing, and otherwise its value. So a section that is missing is as if each of its fields
    were. -/
theorem data_roundtrip (c : AppConfig) :
    Dialect.strict.config (.ofJson none c.toJson) = .ok c ∧
    (∀ f : ConfigField, (c.toJson.field? f.part).bind (·.field? f.name) =
      some (f.toJson (f.get c))) ∧
    ConfigField.directory.toJson none = .null ∧
    ConfigField.directory.get AppConfig.standard ≠ none ∧
    (∀ gone : List String → Bool,
      (∀ f : ConfigField, ((c.toJson.without gone).field? f.part).bind (·.field? f.name) =
        if gone [f.part] || gone [f.part, f.name] then none else some (f.toJson (f.get c))) ∧
      ∃ c' : AppConfig, Dialect.strict.config (.ofJson none (c.toJson.without gone)) = .ok c' ∧
        AppConfig.ofJson (c.toJson.without gone) = c'.checked ∧
        ∀ f : ConfigField, f.get c' =
          if gone [f.part] || gone [f.part, f.name] then f.get .standard else f.get c) ∧
    (∀ (gone : List String → Bool) (part : String),
      Dialect.strict.config (.ofJson none
          (c.toJson.without fun path => gone path || path == [part])) =
        Dialect.strict.config (.ofJson none
          (c.toJson.without fun path => gone path || path.dropLast == [part]))) := by
  refine ⟨?_, ConfigField.field?_toJson c, rfl, nofun, fun gone =>
    ⟨ConfigField.field?_without gone c, c.fallBack gone, c.config_without gone, ?_,
      c.get_fallBack gone⟩, fun gone part => ?_⟩
  · rw [← Json.pruned_of_kept [] c.toJson]
    exact c.config_without fun _ => false
  · rw [AppConfig.ofJson, c.config_without]
  · rw [c.config_without, c.config_without, c.fallBack_section]

end PluginDiscovery
