import Mathlib
import PluginDiscovery.Proofs.ConfigLayers

/-!
# The text of a variable in a setting

The text of a variable is first read as a truth value, a whole number or a number where it spells
one, and a field that holds a text gets what that value is written as. A text comes through
unchanged exactly if it is written as values are: `3.10` is a number and becomes `3.1`, `007`
becomes `7` and `TRUE` becomes `true`.

* `Variable.printed`: the text a field gets; `Variable.Canonical`: the texts that values are
  written as; `printed_eq_iff`: these and no others come through;
* `TextField`: the fields that hold a text of any kind;
* `load_with_variable`: a variable changes its field and no other one;
* `environment_text_printed`: what a variable does to the configuration.
-/

namespace PluginDiscovery

open Setting

/-! ## 1. Whole numbers -/

namespace Variable

theorem isDigit_of_mem_toDigits {n : Nat} {c : Char} (h : c ∈ Nat.toDigits 10 n) :
    KeyPath.isDigit c = true := by
  have digit : c.isDigit = true := Nat.isDigit_of_mem_toDigits (by decide) (by decide) h
  simp only [Char.isDigit, Bool.and_eq_true, decide_eq_true_iff] at digit
  simp only [KeyPath.isDigit, Bool.and_eq_true, decide_eq_true_iff]
  exact digit

theorem digits?_toDigits (n : Nat) : digits? (Nat.toDigits 10 n) = some n := by
  have full : (Nat.toDigits 10 n).isEmpty = false := by
    simp
  have digits : (Nat.toDigits 10 n).all KeyPath.isDigit = true :=
    List.all_eq_true.mpr fun c h => isDigit_of_mem_toDigits h
  have value : (Nat.toDigits 10 n).foldl (fun v c => v * 10 + (c.toNat - 48)) 0 = n := by
    have fold := Nat.ofDigitChars_ten_toDigits (n := n)
    simpa [Nat.ofDigitChars, Nat.mul_comm] using fold
  rw [digits?, full, digits, value]
  rfl

theorem toList_toString_ofNat (n : Nat) : (toString (n : Int)).toList = Nat.toDigits 10 n := by
  rw [Int.toString_eq_repr]
  exact Nat.toList_repr

theorem toList_toString_negSucc (n : Nat) :
    (toString (Int.negSucc n)).toList = '-' :: Nat.toDigits 10 (n + 1) := by
  rw [Int.toString_eq_repr, Int.repr, String.toList_append, Nat.toList_repr]
  rfl

theorem sign_toDigits (n : Nat) : sign (Nat.toDigits 10 n) = (false, Nat.toDigits 10 n) := by
  obtain ⟨c, cs, digits⟩ := List.exists_cons_of_ne_nil (Nat.toDigits_ne_nil (n := n) (b := 10))
  have digit : KeyPath.isDigit c = true :=
    isDigit_of_mem_toDigits (n := n) (by rw [digits]; exact List.mem_cons_self)
  rw [digits]
  unfold sign
  split
  · rename_i plus
    cases plus
    cases digit
  · rename_i minus
    cases minus
    cases digit
  · rfl

/-- A text that is a sign and digits spells a whole number if that has 64 bits. -/
theorem integer?_of_digits {s : String} {negative : Bool} {rest : List Char} {n : Nat}
    (signed : sign s.toList = (negative, rest)) (digits : digits? rest = some n) {i : Int}
    (value : (if negative then -(n : Int) else n) = i) (low : -(Int.pow 2 63) ≤ i)
    (high : i < Int.pow 2 63) : integer? s = some i := by
  subst value
  unfold integer?
  rw [signed]
  simp only [digits, Option.bind_eq_bind, Option.bind_some]
  exact if_pos ⟨low, high⟩

/-- A whole number that a text spells has 64 bits. -/
theorem range_of_integer? {s : String} {i : Int} (h : integer? s = some i) :
    -(Int.pow 2 63) ≤ i ∧ i < Int.pow 2 63 := by
  unfold integer? at h
  generalize sign s.toList = signed at h
  obtain ⟨negative, rest⟩ := signed
  obtain ⟨n, -, bounded⟩ := Option.bind_eq_some_iff.mp h
  by_cases range : -(Int.pow 2 63) ≤ (if negative then -(n : Int) else n) ∧
      (if negative then -(n : Int) else n) < Int.pow 2 63
  · rw [if_pos range] at bounded
    exact Option.some.inj bounded ▸ range
  · rw [if_neg range] at bounded
    cases bounded

/-- **A whole number of 64 bits is read back from its digits.** -/
theorem integer?_toString {i : Int} (low : -(Int.pow 2 63) ≤ i) (high : i < Int.pow 2 63) :
    integer? (toString i) = some i := by
  cases i with
  | ofNat n =>
    have signed : sign (toString (n : Int)).toList = (false, Nat.toDigits 10 n) := by
      rw [toList_toString_ofNat, sign_toDigits]
    exact integer?_of_digits signed (digits?_toDigits n) rfl low high
  | negSucc n =>
    have signed : sign (toString (Int.negSucc n)).toList = (true, Nat.toDigits 10 (n + 1)) := by
      rw [toList_toString_negSucc]
      rfl
    exact integer?_of_digits signed (digits?_toDigits (n + 1)) rfl low high

end Variable

/-! ## 2. Texts that spell no value -/

namespace LowerCase

/-- No mapping begins before the capital letters. -/
theorem simple_of_lt {c : Char} (h : c.toNat < 65) : simple c = c := by
  have first : ∀ e ∈ table, 65 ≤ e.1 := by decide +kernel
  unfold simple
  split
  · rename_i found
    have begins := first _ (List.mem_of_find?_eq_some found)
    have within := List.find?_some found
    simp only [Bool.and_eq_true, decide_eq_true_iff] at within begins
    omega
  · rfl

/-- A character before the capital letters stays. -/
theorem mem_lowerAfter {c : Char} (h : c.toNat < 65) {before cs : List Char} (mem : c ∈ cs) :
    c ∈ lowerAfter before cs := by
  induction cs generalizing before with
  | nil => cases mem
  | cons d rest ih =>
    rw [lowerAfter]
    rcases List.mem_cons.mp mem with rfl | later
    · -- of the characters that do not map one to one, none comes before the capital letters
      have sigma : c ≠ 'Σ' := fun same => by
        subst same
        revert h
        decide
      have dotted : c ≠ 'İ' := fun same => by
        subst same
        revert h
        decide
      rw [if_neg sigma, if_neg dotted, simple_of_lt h]
      exact List.mem_append_left _ (List.mem_singleton_self c)
    · exact List.mem_append_right _ (ih later)

/-- The same for a whole text. -/
theorem mem_lower {c : Char} (h : c.toNat < 65) {s : String} (mem : c ∈ s.toList) :
    c ∈ (lower s).toList := by
  rw [lower, String.toList_ofList]
  exact mem_lowerAfter h mem

end LowerCase

namespace Variable

/-- A text with a character before the capital letters spells no truth value. -/
theorem lower_ne {c : Char} (h : c.toNat < 65) {s : String} (mem : c ∈ s.toList) :
    LowerCase.lower s ≠ "true" ∧ LowerCase.lower s ≠ "false" := by
  have member := LowerCase.mem_lower h mem
  have letters : ∀ word : String, (∀ d ∈ word.toList, 65 ≤ d.toNat) →
      LowerCase.lower s ≠ word := fun word all same => by
    have := all c (same ▸ member)
    omega
  exact ⟨letters _ (by simp), letters _ (by simp)⟩

/-- A whole number of 64 bits is read as one. -/
theorem read_toString {i : Int} (low : -(Int.pow 2 63) ≤ i) (high : i < Int.pow 2 63) :
    read (toString i) = .integer i := by
  obtain ⟨c, mem, small⟩ : ∃ c ∈ (toString i).toList, c.toNat < 65 := by
    have digit {n : Nat} {c : Char} (h : c ∈ Nat.toDigits 10 n) : c.toNat < 65 := by
      have bounds := isDigit_of_mem_toDigits h
      simp only [KeyPath.isDigit, Bool.and_eq_true, decide_eq_true_iff, Char.le_def,
        UInt32.le_iff_toNat_le] at bounds
      exact Nat.lt_of_le_of_lt bounds.2 (by decide)
    cases i with
    | ofNat n =>
      obtain ⟨c, cs, digits⟩ := List.exists_cons_of_ne_nil (Nat.toDigits_ne_nil (n := n) (b := 10))
      have mem : c ∈ Nat.toDigits 10 n := digits ▸ List.mem_cons_self
      exact ⟨c, by rw [← toList_toString_ofNat] at mem; exact mem, digit mem⟩
    | negSucc n => exact ⟨'-', by rw [toList_toString_negSucc]; exact List.mem_cons_self, by decide⟩
  rw [read, if_neg (lower_ne small mem).1, if_neg (lower_ne small mem).2,
    integer?_toString low high]

section Alien

variable {c : Char}

theorem digits?_of_mem (noDigit : KeyPath.isDigit c = false) {cs : List Char} (mem : c ∈ cs) :
    digits? cs = none := by
  have fails : cs.all KeyPath.isDigit = false :=
    List.all_eq_false.mpr ⟨c, mem, by simp [noDigit]⟩
  simp [digits?, fails]

theorem mem_sign (plus : c ≠ '+') (minus : c ≠ '-') {cs : List Char} (mem : c ∈ cs) :
    c ∈ (sign cs).2 := by
  unfold sign
  split
  · exact List.mem_of_ne_of_mem plus mem
  · exact List.mem_of_ne_of_mem minus mem
  · exact mem

theorem integer?_of_mem (noDigit : KeyPath.isDigit c = false) (plus : c ≠ '+') (minus : c ≠ '-')
    {s : String} (mem : c ∈ s.toList) : integer? s = none := by
  have digits := digits?_of_mem noDigit (mem_sign plus minus mem)
  unfold integer?
  generalize sign s.toList = signed at digits
  obtain ⟨negative, rest⟩ := signed
  simp only at digits
  simp [digits]

theorem mem_whole_or_fraction (point : c ≠ '.') {body : List Char} (mem : c ∈ body) :
    c ∈ body.takeWhile (· ≠ '.') ++ (body.dropWhile (· ≠ '.')).drop 1 := by
  rw [← List.takeWhile_append_dropWhile (p := fun d => decide (d ≠ '.')) (l := body)] at mem
  rcases List.mem_append.mp mem with whole | fraction
  · exact List.mem_append_left _ whole
  · refine List.mem_append_right _ ?_
    cases rest : body.dropWhile (· ≠ '.') with
    | nil =>
      rw [rest] at fraction
      cases fraction
    | cons d ds =>
      have dot : d = '.' := by
        have head := List.head?_dropWhile_not (fun d => decide (d ≠ '.')) body
        rw [rest] at head
        simpa using head
      rw [rest] at fraction
      rw [dot] at fraction
      exact List.mem_of_ne_of_mem point fraction

theorem float?_of_mem_slash {s : String} (mem : '/' ∈ s.toList) : float? s = none := by
  have mem : '/' ∈ (sign s.toList).2 := mem_sign (by decide) (by decide) mem
  unfold float?
  generalize sign s.toList = signed at mem
  obtain ⟨negative, rest⟩ := signed
  simp only at mem
  have lowered : '/' ∈ rest.map Char.toLower := List.mem_map.mpr ⟨'/', mem, by decide⟩
  have word (w : List Char) (letters : '/' ∉ w) : rest.map Char.toLower ≠ w :=
    fun same => letters (same ▸ lowered)
  have split := mem
  rw [← List.takeWhile_append_dropWhile (p := fun d : Char => !(d = 'e' || d = 'E')) (l := rest)]
    at split
  simp only [word _ (show '/' ∉ "inf".toList by simp),
    word _ (show '/' ∉ "infinity".toList by simp), word _ (show '/' ∉ "nan".toList by simp),
    or_self, if_false]
  -- the separator is no digit, whether it stands before the exponent mark or after it
  rcases List.mem_append.mp split with body | tail
  · rw [digits?_of_mem (by decide) (mem_whole_or_fraction (by decide) body)]
    rfl
  · cases exponent : rest.dropWhile fun d : Char => !(d = 'e' || d = 'E') with
    | nil =>
      rw [exponent] at tail
      cases tail
    | cons m more =>
      have mark : m = 'e' ∨ m = 'E' := by
        have head := List.head?_dropWhile_not (fun d : Char => !(d = 'e' || d = 'E')) rest
        rw [exponent] at head
        simpa [Classical.or_iff_not_imp_left] using head
      rw [exponent] at tail
      have more : '/' ∈ more := by
        rcases mark with rfl | rfl
        · exact List.mem_of_ne_of_mem (by decide) tail
        · exact List.mem_of_ne_of_mem (by decide) tail
      have digits := digits?_of_mem (show KeyPath.isDigit '/' = false by decide)
        (mem_sign (by decide) (by decide) more)
      simp [digits]

/-- A path with a separator is read as the text that it is. -/
theorem read_of_mem_slash {s : String} (mem : '/' ∈ s.toList) : read s = .text s := by
  have noTruth := lower_ne (by decide) mem
  rw [read, if_neg noTruth.1, if_neg noTruth.2,
    integer?_of_mem (by decide) (by decide) (by decide) mem, float?_of_mem_slash mem]

end Alien

end Variable

/-! ## 3. What a text is printed as -/

namespace Variable

/-- What the value that a text spells is written as. -/
def printed (v : String) : String :=
  match read v with
  | .text t => t
  | .boolean b => toString b
  | .integer i => toString i
  | .float x => FloatText.setting.write x
  | .nothing => ""

/-- The texts that values are written as: a truth value, a whole number of 64 bits, a number that is
    written as it was spelled, or a text that spells none of them. -/
inductive Canonical : String → Prop where
  | truth (b : Bool) : Canonical (toString b)
  | whole (i : Int) (low : -(Int.pow 2 63) ≤ i) (high : i < Int.pow 2 63) : Canonical (toString i)
  | number (v : String) (x : Binary64) (spelled : read v = .float x)
      (written : FloatText.setting.write x = v) : Canonical v
  | other (v : String) (text : read v = .text v) : Canonical v

/-- How a text can be read, and what it spells then. -/
theorem read_cases (v : String) :
    (∃ b, read v = .boolean b) ∨
    (∃ i, read v = .integer i ∧ -(Int.pow 2 63) ≤ i ∧ i < Int.pow 2 63) ∨
    (∃ x, read v = .float x) ∨ read v = .text v := by
  unfold read
  simp only
  split
  · exact Or.inl ⟨true, rfl⟩
  · split
    · exact Or.inl ⟨false, rfl⟩
    · split
      · rename_i i spelled
        exact Or.inr (Or.inl ⟨i, rfl, range_of_integer? spelled⟩)
      · split
        · exact Or.inr (Or.inr (Or.inl ⟨_, rfl⟩))
        · exact Or.inr (Or.inr (Or.inr rfl))

/-- **Exactly the texts that values are written as come through unchanged.** -/
theorem printed_eq_iff (v : String) : printed v = v ↔ Canonical v := by
  constructor
  · intro kept
    unfold printed at kept
    rcases read_cases v with ⟨b, read⟩ | ⟨i, read, low, high⟩ | ⟨x, read⟩ | read
    · rw [read] at kept
      exact kept ▸ .truth b
    · rw [read] at kept
      exact kept ▸ .whole i low high
    · rw [read] at kept
      exact .number v x read kept
    · exact .other v read
  · intro canonical
    unfold printed
    cases canonical with
    | truth b => cases b <;> decide +kernel
    | whole i low high => rw [read_toString low high]
    | number _ x spelled written => rw [spelled]; exact written
    | other _ text => rw [text]

/-- A setting that holds a text gets what the variable is printed as. -/
theorem layeredText_setting (v : String) :
    Dialect.layeredText (Variable.setting v) = .ok (printed v) := by
  unfold Variable.setting printed
  rcases read_cases v with ⟨b, read⟩ | ⟨i, read, -⟩ | ⟨x, read⟩ | read <;> rw [read] <;> rfl

theorem layered_text?_setting (v : String) :
    Dialect.layered.text? (Variable.setting v) = .ok (some (printed v)) := by
  have given : (Variable.setting v).isNothing = false := by
    unfold Variable.setting
    rcases read_cases v with ⟨b, read⟩ | ⟨i, read, -⟩ | ⟨x, read⟩ | read <;> rw [read] <;> rfl
  rw [Dialect.text?, given]
  simp [Dialect.layered, layeredText_setting, Except.map]

end Variable

/-! ## 4. Fields that hold a text -/

/-- The fields that hold a text of any kind. -/
inductive TextField where
  | directory
  | version
  | personalDirectory
  | buildOutput
  | level
  deriving DecidableEq, Repr

namespace TextField

/-- The field of the configuration. -/
def field : TextField → ConfigField
  | .directory => .directory
  | .version => .version
  | .personalDirectory => .personalDirectory
  | .buildOutput => .buildOutput
  | .level => .level

/-- The variable that names the field. -/
def envName : TextField → String
  | .directory => "PLUGSCAN__PLUGINS__DIRECTORY"
  | .version => "PLUGSCAN__PLUGINS__VERSION"
  | .personalDirectory => "PLUGSCAN__PLUGINS__PERSONAL_DIRECTORY"
  | .buildOutput => "PLUGSCAN__PLUGINS__BUILD_OUTPUT_SUBDIR"
  | .level => "PLUGSCAN__LOGGING__LEVEL"

/-- The text that the field holds, if it is set. -/
def text? (c : AppConfig) : TextField → Option String
  | .directory => c.plugins.directory
  | .version => c.plugins.version
  | .personalDirectory => c.plugins.personalDirectory
  | .buildOutput => some c.plugins.buildOutput
  | .level => some c.logging.level

/-- The configuration with a text in the field. -/
def put (t : TextField) (c : AppConfig) (v : String) : AppConfig :=
  match t with
  | .directory => { c with plugins := { c.plugins with directory := some v } }
  | .version => { c with plugins := { c.plugins with version := some v } }
  | .personalDirectory => { c with plugins := { c.plugins with personalDirectory := some v } }
  | .buildOutput => { c with plugins := { c.plugins with buildOutput := v } }
  | .level => { c with logging := { c.logging with level := v } }

@[simp] theorem text?_put (t : TextField) (c : AppConfig) (v : String) :
    t.text? (t.put c v) = some v := by
  cases t <;> rfl

@[simp] theorem defect?_put (t : TextField) (c : AppConfig) (v : String) :
    (t.put c v).defect? = c.defect? := by
  cases t <;> rfl

theorem get_put_of_ne {t : TextField} {f : ConfigField} (other : f ≠ t.field) (c : AppConfig)
    (v : String) : f.get (t.put c v) = f.get c := by
  cases t <;> cases f <;> first | rfl | exact absurd rfl other

/-- The field of a variable is read as the text it is printed as. -/
theorem read_setting (t : TextField) (c : AppConfig) (v : String) :
    t.field.read (Variable.setting v) = .ok (t.field.get (t.put c (Variable.printed v))) := by
  cases t with
  | directory => exact Variable.layered_text?_setting v
  | version => exact Variable.layered_text?_setting v
  | personalDirectory => exact Variable.layered_text?_setting v
  | buildOutput => exact Variable.layeredText_setting v
  | level => exact Variable.layeredText_setting v

theorem isNamedBy_envName (t : TextField) : t.field.isNamedBy t.envName = true := by
  cases t <;> decide +kernel

end TextField

/-! ## 5. One more variable -/

namespace ConfigField

theorem name_injective {f g : ConfigField} (same : f.name = g.name) : f = g := by
  cases f <;> cases g <;> first | rfl | exact absurd same (by decide)

/-- Whether a variable leads to a field, or below it. -/
def isReachedBy (f : ConfigField) (name : String) : Bool :=
  match (Variable.key? name).map KeyPath.ofText with
  | some ⟨root, .key n :: _⟩ => root = f.part && n = f.name
  | _ => false

theorem exists_key_of_isNamedBy {f : ConfigField} {name : String} (named : f.isNamedBy name = true) :
    ∃ key, Variable.key? name = some key ∧ KeyPath.ofText key = ⟨f.part, [.key f.name]⟩ :=
  Option.map_eq_some_iff.mp (of_decide_eq_true named)

end ConfigField

section Insertion

variable {f g : ConfigField} {key : String}

/-- A value whose key spells the path of a field does nothing to another one. -/
theorem touchesOf_named (path : KeyPath.ofText key = ⟨f.part, [.key f.name]⟩) (s : Setting) :
    touchesOf g.part g.name key s = if f = g then [⟨[], s⟩] else [] := by
  unfold touchesOf
  rw [path]
  by_cases same : f = g
  · subst same
    simp
  · have names : f.name ≠ g.name := fun h => same (ConfigField.name_injective h)
    simp [same, names]

/-- A variable that does not lead to a field does nothing to it. -/
theorem touches_source_of_unreached {vars : Environment}
    (unreached : ∀ e ∈ vars, f.isReachedBy e.1 = false) :
    vars.source.touches f.part f.name = [] := by
  refine List.flatMap_eq_nil_iff.mpr fun e he => ?_
  obtain ⟨⟨name, text⟩, member, given⟩ := List.mem_filterMap.mp he
  obtain ⟨key, hkey, rfl⟩ := Option.map_eq_some_iff.mp given
  have apart := unreached _ member
  unfold ConfigField.isReachedBy at apart
  simp only [hkey, Option.map_some] at apart
  unfold touchesOf
  generalize KeyPath.ofText key = path at apart ⊢
  obtain ⟨root, steps⟩ := path
  by_cases h : root = f.part
  · subst h
    cases steps with
    | nil => simp [asTable]
    | cons step below =>
      cases step with
      | index i => simp
      | key n => simp_all
  · simp [h]

variable {before after : Environment} {name : String}

theorem source_insert (hkey : Variable.key? name = some key) (v : String) :
    Environment.source (before ++ (name, v) :: after) =
      before.source ++ (key, Variable.setting v) :: after.source := by
  unfold Environment.source
  simp [hkey, Variable.setting]

theorem source_append (before after : Environment) :
    Environment.source (before ++ after) = before.source ++ after.source :=
  List.filterMap_append

theorem touches_append (first second : Source) (part name : String) :
    Source.touches (first ++ second) part name =
      first.touches part name ++ second.touches part name :=
  List.flatMap_append

/-- What variables with one more that names a field do to any field. -/
theorem touches_insert (hkey : Variable.key? name = some key)
    (path : KeyPath.ofText key = ⟨f.part, [.key f.name]⟩) (v : String) (g : ConfigField) :
    (Environment.source (before ++ (name, v) :: after)).touches g.part g.name =
      before.source.touches g.part g.name ++
        ((if f = g then [⟨[], Variable.setting v⟩] else []) ++
          after.source.touches g.part g.name) := by
  rw [source_insert hkey, touches_append, ← touchesOf_named path]
  rfl

/-- A variable that names a field leaves the sections tables. -/
theorem hasSections_insert (hkey : Variable.key? name = some key)
    (path : KeyPath.ofText key = ⟨f.part, [.key f.name]⟩) (v : String)
    (sections : (Environment.source (before ++ after)).HasSections) :
    (Environment.source (before ++ (name, v) :: after)).HasSections := by
  have keeps (part : String) : KeepsTable part key (Variable.setting v) := by
    intro _
    rw [path]
    rfl
  rw [source_append] at sections
  rw [source_insert hkey]
  have insert (part : String) (rest : Source.KeepsTable (before.source ++ after.source) part) :
      Source.KeepsTable (before.source ++ (key, Variable.setting v) :: after.source) part := by
    intro e he
    rcases List.mem_append.mp he with old | new
    · exact rest e (List.mem_append_left _ old)
    · rcases List.mem_cons.mp new with rfl | old
      · exact keeps part
      · exact rest e (List.mem_append_right _ old)
  exact ⟨insert _ sections.1, insert _ sections.2⟩

end Insertion

/-- **A variable that names a text field changes this field and nothing else.** It is the last one
    that leads there, and without it the configuration is loaded. -/
theorem load_with_variable {fs : FileSystem} {working : Path} {before after : Environment}
    {base env : String} {below above : Source} {t : TextField} {name : String} {c : AppConfig}
    (first : FileSource.read fs working (Path.ofString base) = some below)
    (second : FileSource.read fs working (AppConfig.overlayPath base env) = some above)
    (sections : ∀ source ∈ [below, above, (before ++ after).source], source.HasSections)
    (named : t.field.isNamedBy name = true)
    (last : ∀ e ∈ after, t.field.isReachedBy e.1 = false)
    (valid : AppConfig.load fs working (before ++ after) base env = .ok c) (v : String) :
    AppConfig.load fs working (before ++ (name, v) :: after) base env =
      .ok (t.put c (Variable.printed v)) := by
  obtain ⟨key, hkey, path⟩ := ConfigField.exists_key_of_isNamedBy named
  obtain ⟨merged, sound⟩ := AppConfig.load_eq_ok_iff.mp valid
  refine AppConfig.load_eq_ok_iff.mpr ⟨?_, by rw [TextField.defect?_put, sound]⟩
  rw [AppConfig.merged?_eq_some_iff first second] at merged ⊢
  have sections' : ∀ source ∈
      [below, above, Environment.source (before ++ (name, v) :: after)], source.HasSections := by
    simp only [List.forall_mem_cons] at sections ⊢
    exact ⟨sections.1, sections.2.1, hasSections_insert hkey path v sections.2.2.1, nofun⟩
  have old := (config_ofSources_eq_ok_iff sections).mp merged
  refine (config_ofSources_eq_ok_iff sections').mpr fun f => ?_
  have here := old f
  simp only [touchesOfAll, List.flatMap_cons, List.flatMap_nil, List.append_nil, source_append,
    touches_append] at here
  simp only [touchesOfAll, List.flatMap_cons, List.flatMap_nil, List.append_nil,
    touches_insert hkey path]
  by_cases same : t.field = f
  · -- the value of the variable takes the place of whatever was there
    subst same
    rw [if_pos rfl, touches_source_of_unreached last, List.append_nil]
    simp only [← List.append_assoc]
    rw [List.foldl_append]
    exact t.read_setting c v
  · rw [if_neg same, List.nil_append, TextField.get_put_of_ne (Ne.symm same)]
    exact here

/-! ## 6. All of it -/

/-- **A text field gets what the text of its variable is printed as.** If a configuration is loaded
    without the variable, then one is with it: the field holds the text as the value that it spells
    is written, and no other field changes. The text comes through unchanged exactly if it is written
    as values are, which a path with a separator always is. -/
theorem environment_text_printed (fs : FileSystem) (working : Path) (before after : Environment)
    (base env : String) (below above : Source) (t : TextField) (name : String) (c : AppConfig)
    (first : FileSource.read fs working (Path.ofString base) = some below)
    (second : FileSource.read fs working (AppConfig.overlayPath base env) = some above)
    (sections : ∀ source ∈ [below, above, (before ++ after).source], source.HasSections)
    (named : t.field.isNamedBy name = true)
    (last : ∀ e ∈ after, t.field.isReachedBy e.1 = false)
    (valid : AppConfig.load fs working (before ++ after) base env = .ok c) (v : String) :
    AppConfig.load fs working (before ++ (name, v) :: after) base env =
      .ok (t.put c (Variable.printed v)) ∧
    t.text? (t.put c (Variable.printed v)) = some (Variable.printed v) ∧
    (∀ f : ConfigField, f ≠ t.field → f.get (t.put c (Variable.printed v)) = f.get c) ∧
    (Variable.printed v = v ↔ Variable.Canonical v) ∧
    ('/' ∈ v.toList → Variable.Canonical v) ∧
    t.field.isNamedBy t.envName = true :=
  ⟨load_with_variable first second sections named last valid v, t.text?_put c _,
    fun _ other => TextField.get_put_of_ne other c _, Variable.printed_eq_iff v,
    fun slash => .other v (Variable.read_of_mem_slash slash), t.isNamedBy_envName⟩

/-- The configuration of the base file. -/
def baseConfig : AppConfig where
  plugins := { PluginConfig.standard with
    directory := some "base", version := some "1.0", exclude := ["a.so", "b.so"] }
  logging := { LoggingConfig.standard with level := "warn" }

theorem load_baseOnly :
    AppConfig.load baseOnly (Path.ofString "/") [] "c/default.toml" "staging" = .ok baseConfig := by
  refine AppConfig.load_eq_ok_iff.mpr ⟨?_, by decide +kernel⟩
  rw [AppConfig.merged?_eq_some_iff read_baseOnly read_noOverlay]
  decide +kernel

/-- The version `3.10` of a variable becomes another version. -/
theorem environment_text_printed_version :
    AppConfig.load baseOnly (Path.ofString "/") [("PLUGSCAN__PLUGINS__VERSION", "3.10")]
      "c/default.toml" "staging" = .ok (TextField.version.put baseConfig "3.1") ∧
    ¬ Variable.Canonical "3.10" := by
  have printed : Variable.printed "3.10" = "3.1" := by decide +kernel
  have all := environment_text_printed baseOnly (Path.ofString "/") [] [] "c/default.toml"
    "staging" baseSource [] .version "PLUGSCAN__PLUGINS__VERSION" baseConfig read_baseOnly
    read_noOverlay (by decide +kernel) (TextField.isNamedBy_envName .version) nofun load_baseOnly
    "3.10"
  rw [printed] at all
  exact ⟨all.1, fun canonical => absurd (all.2.2.2.1.mpr canonical) (by decide)⟩

end PluginDiscovery
