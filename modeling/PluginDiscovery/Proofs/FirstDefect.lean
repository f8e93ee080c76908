import PluginDiscovery.Config.Schema
import PluginDiscovery.Proofs.TrimmedText

/-!
# The first defect of a configuration

A configuration is examined place by place: the types by their index, the name of each before its
symbol, and the format of the log at the end. It is refused for the defect at the first place that
has one, and accepted if there is none.

* `DefectPlace`, `before`: the places and their order;
* `AppConfig.Has`: what is a defect at a place, and `FirstDefect`, none before which there is another;
* `typeDefect?_eq_some_iff`: the examination of a list of types, from any index on;
* `defect?_eq_some_iff`, `validate_eq_ok_iff`: the whole configuration;
* `validate_first_defect`: what is accepted, and which error is given.
-/

namespace PluginDiscovery

/-! ## 1. Places -/

/-- Where a configuration can have a defect. -/
inductive DefectPlace where
  | name (index : Nat)
  | symbol (index : Nat)
  | format
  deriving DecidableEq, Repr

namespace DefectPlace

/-- The order in which the places are examined. -/
def before : DefectPlace → DefectPlace → Prop
  | .name i, .name j => i < j
  | .name i, .symbol j => i ≤ j
  | .symbol i, .name j => i < j
  | .symbol i, .symbol j => i < j
  | .name _, .format | .symbol _, .format => True
  | .format, _ => False

/-- Of two places one comes before the other, and only one. -/
theorem before_or_eq_or_before (p q : DefectPlace) :
    (p.before q ∧ p ≠ q ∧ ¬q.before p) ∨ p = q ∨ (q.before p ∧ p ≠ q ∧ ¬p.before q) := by
  cases p <;> cases q <;> simp [before] <;> omega

end DefectPlace

/-! ## 2. Defects -/

/-- A type that has a name and a symbol. -/
def TypeEntry.Sound (t : TypeEntry) : Prop :=
  Blank.HasContent t.name ∧ Blank.HasContent t.symbol

/-- A format that the log can be written in. -/
def LoggingConfig.KnowsFormat (c : LoggingConfig) : Prop :=
  c.format = "json" ∨ c.format = "pretty"

namespace AppConfig

/-- What is a defect at a place. -/
inductive Has (c : AppConfig) : DefectPlace → Defect → Prop where
  | name {i : Nat} {t : TypeEntry} (at_i : c.plugins.types[i]? = some t)
      (empty : ¬Blank.HasContent t.name) : Has c (.name i) (.emptyName i)
  | symbol {i : Nat} {t : TypeEntry} (at_i : c.plugins.types[i]? = some t)
      (empty : ¬Blank.HasContent t.symbol) : Has c (.symbol i) (.emptySymbol t.name)
  | format (unknown : ¬c.logging.KnowsFormat) : Has c .format (.unknownFormat c.logging.format)

/-- The defect at the first place that has one. -/
def FirstDefect (c : AppConfig) (d : Defect) : Prop :=
  ∃ place, c.Has place d ∧ ∀ earlier e, c.Has earlier e → ¬earlier.before place

/-- A type that is not sound is a defect at its index. -/
theorem exists_has_of_not_sound {c : AppConfig} {i : Nat} {t : TypeEntry}
    (at_i : c.plugins.types[i]? = some t) (unsound : ¬t.Sound) :
    ∃ place d, c.Has place d ∧ (place = .name i ∨ place = .symbol i) := by
  rcases not_and_or.mp unsound with name | symbol
  · exact ⟨_, _, .name at_i name, .inl rfl⟩
  · exact ⟨_, _, .symbol at_i symbol, .inr rfl⟩

end AppConfig

/-! ## 3. The examination -/

/-- What is found in a type that stands at an index. -/
def TypeEntry.Finds (t : TypeEntry) (index : Nat) (d : Defect) : Prop :=
  (¬Blank.HasContent t.name ∧ d = .emptyName index) ∨
    (Blank.HasContent t.name ∧ ¬Blank.HasContent t.symbol ∧ d = .emptySymbol t.name)

theorem typeDefect?_cons (index : Nat) (t : TypeEntry) (rest : List TypeEntry) :
    (t.Sound ∧ typeDefect? index (t :: rest) = typeDefect? (index + 1) rest) ∨
      (¬t.Sound ∧ ∃ d, t.Finds index d ∧ typeDefect? index (t :: rest) = some d) := by
  unfold TypeEntry.Sound TypeEntry.Finds
  simp only [← Blank.isEmptyText_eq_false_iff, typeDefect?]
  cases Blank.isEmptyText t.name <;> cases Blank.isEmptyText t.symbol <;> simp

/-- No defect is found in sound types, and in no others. -/
theorem typeDefect?_eq_none_iff {index : Nat} {types : List TypeEntry} :
    typeDefect? index types = none ↔ ∀ t ∈ types, t.Sound := by
  induction types generalizing index with
  | nil => simp [typeDefect?]
  | cons t rest ih =>
    rcases typeDefect?_cons index t rest with ⟨sound, onward⟩ | ⟨unsound, d, -, found⟩
    · rw [onward, ih, List.forall_mem_cons]
      exact ⟨fun later => ⟨sound, later⟩, And.right⟩
    · rw [found, List.forall_mem_cons]
      exact ⟨nofun, fun all => absurd all.1 unsound⟩

/-- **The defect that is found is that of the first type that is not sound.** -/
theorem typeDefect?_eq_some_iff {index : Nat} {types : List TypeEntry} {d : Defect} :
    typeDefect? index types = some d ↔
      ∃ (i : Nat) (t : TypeEntry), types[i]? = some t ∧ t.Finds (index + i) d ∧
        ∀ (j : Nat) (u : TypeEntry), j < i → types[j]? = some u → u.Sound := by
  induction types generalizing index with
  | nil => simp [typeDefect?]
  | cons t rest ih =>
    rcases typeDefect?_cons index t rest with ⟨sound, onward⟩ | ⟨unsound, d', finds, found⟩
    · rw [onward, ih]
      constructor
      · rintro ⟨i, u, at_i, finds, earlier⟩
        refine ⟨i + 1, u, at_i, by rwa [← Nat.add_assoc, Nat.add_right_comm], fun j w hj at_j => ?_⟩
        cases j with
        | zero => exact Option.some.inj at_j ▸ sound
        | succ j => exact earlier j w (Nat.lt_of_succ_lt_succ hj) at_j
      · rintro ⟨i, u, at_i, finds, earlier⟩
        cases i with
        | zero =>
          obtain rfl := Option.some.inj at_i
          rcases finds with ⟨empty, -⟩ | ⟨-, empty, -⟩
          · exact absurd sound.1 empty
          · exact absurd sound.2 empty
        | succ i =>
          exact ⟨i, u, at_i, by rwa [Nat.add_assoc, Nat.add_comm 1], fun j w hj at_j =>
            earlier (j + 1) w (Nat.succ_lt_succ hj) at_j⟩
    · rw [found, Option.some.injEq]
      constructor
      · rintro rfl
        exact ⟨0, t, rfl, finds, fun j u hj => absurd hj (Nat.not_lt_zero j)⟩
      · rintro ⟨i, u, at_i, finds', earlier⟩
        cases i with
        | succ i => exact absurd (earlier 0 t (Nat.succ_pos i) rfl) unsound
        | zero =>
          obtain rfl := Option.some.inj at_i
          rcases finds with ⟨empty, rfl⟩ | ⟨full, -, rfl⟩ <;>
            rcases finds' with ⟨empty', rfl⟩ | ⟨full', -, rfl⟩
          · rfl
          · exact absurd full' empty
          · exact absurd full empty'
          · rfl

namespace AppConfig

variable {c : AppConfig}

theorem defect?_eq_none_iff :
    c.defect? = none ↔ (∀ t ∈ c.plugins.types, t.Sound) ∧ c.logging.KnowsFormat := by
  rw [defect?, Option.or_eq_none_iff, typeDefect?_eq_none_iff, LoggingConfig.KnowsFormat]
  simp [or_iff_not_imp_left]

/-- **The defect of a configuration is the one at the first place that has one.** -/
theorem defect?_eq_some_iff {d : Defect} : c.defect? = some d ↔ c.FirstDefect d := by
  have format : (if c.logging.format = "json" ∨ c.logging.format = "pretty" then none
      else some (.unknownFormat c.logging.format)) = some d ↔
        ¬c.logging.KnowsFormat ∧ d = .unknownFormat c.logging.format := by
    unfold LoggingConfig.KnowsFormat
    split <;> simp_all [eq_comm]
  rw [defect?, Option.or_eq_some_iff, typeDefect?_eq_some_iff, typeDefect?_eq_none_iff, format]
  simp only [Nat.zero_add]
  constructor
  · rintro (⟨i, t, at_i, ⟨empty, rfl⟩ | ⟨full, empty, rfl⟩, sound⟩ | ⟨sound, unknown, rfl⟩)
    · refine ⟨.name i, .name at_i empty, fun earlier e has hb => ?_⟩
      cases has with
      | name at_j empty => exact empty (sound _ _ hb at_j).1
      | symbol at_j empty => exact empty (sound _ _ hb at_j).2
      | format => exact hb
    · refine ⟨.symbol i, .symbol at_i empty, fun earlier e has hb => ?_⟩
      cases has with
      | name at_j empty =>
        rcases Nat.lt_or_eq_of_le hb with lt | rfl
        · exact empty (sound _ _ lt at_j).1
        · exact empty (Option.some.inj (at_j.symm.trans at_i) ▸ full)
      | symbol at_j empty => exact empty (sound _ _ hb at_j).2
      | format => exact hb
    · refine ⟨.format, .format unknown, fun earlier e has hb => ?_⟩
      cases has with
      | name at_j empty => exact empty (sound _ (List.mem_of_getElem? at_j)).1
      | symbol at_j empty => exact empty (sound _ (List.mem_of_getElem? at_j)).2
      | format => exact hb
  · rintro ⟨place, has, first⟩
    -- before the first place every type is sound
    have sound {j : Nat} {u : TypeEntry} (at_j : c.plugins.types[j]? = some u)
        (hn : (DefectPlace.name j).before place) (hs : (DefectPlace.symbol j).before place) :
        u.Sound := by
      by_contra unsound
      obtain ⟨p, e, has, rfl | rfl⟩ := exists_has_of_not_sound at_j unsound
      · exact first _ e has hn
      · exact first _ e has hs
    cases has with
    | @name i t at_i empty =>
      exact .inl ⟨i, t, at_i, .inl ⟨empty, rfl⟩, fun j u hj at_j => sound at_j hj hj⟩
    | @symbol i t at_i empty =>
      have full : Blank.HasContent t.name := by
        by_contra none
        exact first _ _ (.name at_i none) (Nat.le_refl i)
      exact .inl ⟨i, t, at_i, .inr ⟨full, empty, rfl⟩, fun j u hj at_j =>
        sound at_j (Nat.le_of_lt hj) hj⟩
    | format unknown =>
      refine .inr ⟨fun t ht => ?_, unknown, rfl⟩
      obtain ⟨i, at_i⟩ := List.mem_iff_getElem?.mp ht
      exact sound at_i trivial trivial

theorem validate_eq_ok_iff : c.validate = .ok () ↔ c.defect? = none := by
  unfold validate
  cases c.defect? <;> simp

theorem validate_eq_error_iff {e : AppError} :
    c.validate = .error e ↔ ∃ d, c.defect? = some d ∧ e = .plain .validation d.message := by
  unfold validate
  cases c.defect? <;> simp [eq_comm]

end AppConfig

/-- **Exactly the sound configurations are accepted, and the others refused for their first defect.**
    A configuration is accepted if the name and the symbol of every type have a character that is not
    white space and the format of the log is one of two. Otherwise the error is about validation and
    tells the defect at the first place that has one; of any two places one is before the other. A
    name without content is told with its index, a symbol with the name of its type. -/
theorem validate_first_defect (c : AppConfig) :
    (c.validate = .ok () ↔
      (∀ t ∈ c.plugins.types, Blank.HasContent t.name ∧ Blank.HasContent t.symbol) ∧
      (c.logging.format = "json" ∨ c.logging.format = "pretty")) ∧
    (∀ e, c.validate = .error e ↔ ∃ d, c.FirstDefect d ∧ e = ⟨.validation, d.message, none⟩) ∧
    (∀ p q : DefectPlace,
      (p.before q ∧ p ≠ q ∧ ¬q.before p) ∨ p = q ∨ (q.before p ∧ p ≠ q ∧ ¬p.before q)) ∧
    (∀ index, (Defect.emptyName index).message =
      "plugins.types[" ++ toString index ++ "] has an empty name") ∧
    (∀ name, (Defect.emptySymbol name).message =
      "plugin type '" ++ name ++ "' has an empty symbol") ∧
    (∀ format, (Defect.unknownFormat format).message =
      "logging.format must be 'json' or 'pretty', got '" ++ format ++ "'") := by
  refine ⟨?_, fun e => ?_, DefectPlace.before_or_eq_or_before, fun _ => rfl, fun _ => rfl,
    fun _ => rfl⟩
  · exact AppConfig.validate_eq_ok_iff.trans AppConfig.defect?_eq_none_iff
  · rw [AppConfig.validate_eq_error_iff]
    simp only [AppConfig.defect?_eq_some_iff]
    rfl

end PluginDiscovery
