import Mathlib
import PluginDiscovery.Config.Merge

/-!
# What sources do to a field

A configuration has sections, which are tables, and a field is an entry of a section. Merging puts
many values over many others, but of all of them a source touches one field with a few only: the
entries of that name in the tables it gives for the section, and the values of keys that spell a
path to the field or below it. The field of the merged settings is what these touches make of it,
one after the other, whatever else there is.

* `lookup_setEntry`, `lookup_mergeEntries`, `get?_updateAt`: what the steps of merging leave under a
  key;
* `Touch`, `touchesOf`, `Source.touches`: what a value, and a source, does to a field;
* `KeepsTable`: a value leaves the section a table;
* `field?_ofSources`: the field of merged sources;
* `foldl_apply_of_last`: the last touch decides if it gives the whole field, and not a table.
-/

namespace PluginDiscovery

namespace Setting

variable {name key : String}

/-! ## 1. Under a key -/

/-- The value under a key of a table; anything else has none. -/
def get? (s : Setting) (key : String) : Option Setting :=
  s.asTable.2.lookup key

def isTable : Setting → Bool
  | .table _ _ => true
  | _ => false

theorem lookup_setEntry (name key : String) (s : Setting) (entries : List (String × Setting)) :
    (setEntry name s entries).lookup key =
      if key = name then some s else entries.lookup key := by
  induction entries with
  | nil =>
    by_cases h : key = name
    · simp [setEntry, h]
    · simp [setEntry, List.lookup, beq_eq_false_iff_ne.mpr h, h]
  | cons e rest ih =>
    obtain ⟨k, old⟩ := e
    unfold setEntry
    by_cases hk : k = name
    · subst hk
      rw [if_pos rfl, List.lookup_cons, List.lookup_cons]
      by_cases h : key = k
      · simp [h]
      · simp [beq_eq_false_iff_ne.mpr h, h]
    · rw [if_neg hk, List.lookup_cons, List.lookup_cons, ih]
      by_cases h : key = k
      · subst h
        simp [hk]
      · simp [beq_eq_false_iff_ne.mpr h]

/-- A change below a key changes what is under that key and nothing else. -/
theorem get?_updateAt (change : Setting → Setting) (name : String) (rest : List KeyStep)
    (s : Setting) (key : String) :
    (updateAt change (.key name :: rest) s).get? key =
      if key = name then some (updateAt change rest ((s.get? name).getD nothing))
      else s.get? key :=
  lookup_setEntry name key _ s.asTable.2

theorem isTable_updateAt (change : Setting → Setting) (name : String) (rest : List KeyStep)
    (s : Setting) : (updateAt change (.key name :: rest) s).isTable = true :=
  rfl

end Setting

/-! ## 2. Touches -/

/-- A value put over what some steps lead to, from a field on. -/
structure Touch where
  steps : List KeyStep
  value : Setting

namespace Touch

/-- The field after a touch. -/
def apply (old : Option Setting) (t : Touch) : Option Setting :=
  some (Setting.updateAt t.value.mergeOver t.steps (old.getD .nothing))

/-- The value of a touch that gives the whole field. -/
def whole? (t : Touch) : Option Setting :=
  if t.steps = [] then some t.value else none

end Touch

open Setting

/-- What the value of a key of a source does to a field of a section. -/
def touchesOf (part name key : String) (s : Setting) : List Touch :=
  if (KeyPath.ofText key).root = part then
    match (KeyPath.ofText key).steps with
    | [] => (s.asTable.2.filter fun e => e.1 = name).map fun e => ⟨[], e.2⟩
    | .key n :: below => if n = name then [⟨below, s⟩] else []
    | .index _ :: _ => []
  else []

/-- What a source does to a field of a section. -/
def Source.touches (source : Source) (part name : String) : List Touch :=
  source.flatMap fun e => touchesOf part name e.1 e.2

/-- Whether a value leaves a section a table, at the end of some steps from the section on: it has to
    be a table if it is the section itself, and the steps must not lead to an element. -/
def leavesTable : List KeyStep → Setting → Bool
  | [], s => s.isTable
  | .key _ :: _, _ => true
  | .index _ :: _, _ => false

/-- The value of a key leaves the section a table. -/
def KeepsTable (part key : String) (s : Setting) : Prop :=
  (KeyPath.ofText key).root = part → leavesTable (KeyPath.ofText key).steps s = true

instance (part key : String) (s : Setting) : Decidable (KeepsTable part key s) :=
  inferInstanceAs (Decidable (_ → _))

/-- Whatever the source gives, the section is a table. -/
def Source.KeepsTable (source : Source) (part : String) : Prop :=
  ∀ e ∈ source, PluginDiscovery.KeepsTable part e.1 e.2

instance (source : Source) (part : String) : Decidable (source.KeepsTable part) :=
  inferInstanceAs (Decidable (∀ e ∈ source, PluginDiscovery.KeepsTable part e.1 e.2))

namespace Setting

/-- The entries of a table are put over those of another one: under a key those of that name, one
    after the other. -/
theorem lookup_mergeEntries (incoming entries : List (String × Setting)) (key : String) :
    (mergeEntries incoming entries).lookup key =
      ((incoming.filter fun e => e.1 = key).map fun e => (⟨[], e.2⟩ : Touch)).foldl Touch.apply
        (entries.lookup key) := by
  induction incoming generalizing entries with
  | nil => rfl
  | cons e rest ih =>
    obtain ⟨k, s⟩ := e
    rw [mergeEntries, ih, lookup_setEntry]
    by_cases h : k = key
    · subst h
      simp [Touch.apply, updateAt, entry]
    · simp [h, Ne.symm h]

/-- A table put over anything leaves a table. -/
theorem mergeOver_of_isTable {s : Setting} (table : s.isTable = true) (below : Setting) :
    (s.mergeOver below).isTable = true ∧
    (s.mergeOver below).asTable.2 = mergeEntries s.asTable.2 below.asTable.2 := by
  cases s with
  | scalar origin value => cases table
  | list origin items => cases table
  | table origin incoming => cases below <;> exact ⟨rfl, rfl⟩

/-- Anything else takes the place of what was there. -/
theorem mergeOver_of_not_isTable {s : Setting} (scalar : s.isTable = false) (below : Setting) :
    s.mergeOver below = s := by
  cases s with
  | scalar origin value => rfl
  | list origin items => rfl
  | table origin incoming => cases scalar

/-! ## 3. Fields -/

/-- The field of a section. -/
def field? (root : Setting) (part name : String) : Option Setting :=
  (root.get? part).bind fun s => s.get? name

/-- The section is a table if it is there. -/
def HasTable (root : Setting) (part : String) : Prop :=
  ∀ s, root.get? part = some s → s.isTable = true

theorem get?_getD (root : Setting) (part name : String) :
    ((root.get? part).getD nothing).get? name = root.field? part name := by
  unfold field?
  cases root.get? part <;> rfl

variable {part : String} {s : Setting}

/-- **A field after a value was assigned is what the touches of that value make of it.** -/
theorem field?_assign (root : Setting) (name : String) (keeps : KeepsTable part key s) :
    (assign root key s).field? part name =
      (touchesOf part name key s).foldl Touch.apply (root.field? part name) := by
  unfold assign touchesOf
  rw [field?, get?_updateAt]
  by_cases h : (KeyPath.ofText key).root = part
  · have keeps := keeps h
    rw [if_pos h.symm, h, if_pos rfl, Option.bind_some]
    -- the key is the section itself, or leads to an entry of it; an element is ruled out
    cases hsteps : (KeyPath.ofText key).steps with
    | nil =>
      rw [hsteps] at keeps
      rw [updateAt, get?, (mergeOver_of_isTable keeps _).2, lookup_mergeEntries, ← get?_getD]
      rfl
    | cons step below =>
      cases step with
      | index i =>
        rw [hsteps] at keeps
        cases keeps
      | key n =>
        rw [get?_updateAt, get?_getD]
        by_cases hn : n = name
        · subst hn
          simp [Touch.apply]
        · simp [hn, Ne.symm hn, get?_getD]
  · rw [if_neg (Ne.symm h), if_neg h]
    rfl

theorem hasTable_assign {root : Setting} (table : root.HasTable part)
    (keeps : KeepsTable part key s) : (assign root key s).HasTable part := by
  intro t ht
  unfold assign at ht
  rw [get?_updateAt] at ht
  by_cases h : (KeyPath.ofText key).root = part
  · have keeps := keeps h
    rw [if_pos h.symm] at ht
    cases ht
    cases hsteps : (KeyPath.ofText key).steps with
    | nil =>
      rw [hsteps] at keeps
      exact (mergeOver_of_isTable keeps _).1
    | cons step below =>
      cases step with
      | index i =>
        rw [hsteps] at keeps
        cases keeps
      | key n => exact isTable_updateAt _ n below _
  · rw [if_neg (Ne.symm h)] at ht
    exact table t ht

/-- The same for all values of a source. -/
theorem field?_addSource (root : Setting) (name : String) {source : Source}
    (keeps : source.KeepsTable part) :
    (addSource root source).field? part name =
      (source.touches part name).foldl Touch.apply (root.field? part name) := by
  induction source generalizing root with
  | nil => rfl
  | cons e rest ih =>
    obtain ⟨first, later⟩ := List.forall_mem_cons.mp keeps
    rw [Source.touches, List.flatMap_cons, List.foldl_append, ← field?_assign root name first]
    exact ih (assign root e.1 e.2) later

theorem hasTable_addSource {root : Setting} (table : root.HasTable part) {source : Source}
    (keeps : source.KeepsTable part) : (addSource root source).HasTable part := by
  induction source generalizing root with
  | nil => exact table
  | cons e rest ih =>
    obtain ⟨first, later⟩ := List.forall_mem_cons.mp keeps
    exact ih (hasTable_assign table first) later

/-- The outermost setting stays a table. -/
theorem isTable_addSource {root : Setting} (table : root.isTable = true) (source : Source) :
    (addSource root source).isTable = true := by
  induction source generalizing root with
  | nil => exact table
  | cons e rest ih => exact ih (isTable_updateAt _ _ _ root)

theorem isTable_ofSources (sources : List Source) : (ofSources sources).isTable = true := by
  have all : ∀ root : Setting, root.isTable = true →
      (sources.foldl addSource root).isTable = true := by
    induction sources with
    | nil => exact fun root table => table
    | cons source rest ih => exact fun root table => ih _ (isTable_addSource table source)
  exact all emptyTable rfl

/-- **A field of merged sources is what the touches of all sources make of it**, in their order. -/
theorem field?_ofSources (name : String) {sources : List Source}
    (keeps : ∀ source ∈ sources, source.KeepsTable part) :
    (ofSources sources).field? part name =
      (sources.flatMap fun source => source.touches part name).foldl Touch.apply none := by
  -- for any settings below the sources, by induction on the sources
  have all : ∀ root : Setting, (sources.foldl addSource root).field? part name =
      (sources.flatMap fun source => source.touches part name).foldl Touch.apply
        (root.field? part name) := by
    induction sources with
    | nil => exact fun root => rfl
    | cons source rest ih =>
      obtain ⟨first, later⟩ := List.forall_mem_cons.mp keeps
      intro root
      rw [List.foldl_cons, ih later, field?_addSource root name first, List.flatMap_cons,
        List.foldl_append]
  exact all emptyTable

theorem hasTable_ofSources {sources : List Source}
    (keeps : ∀ source ∈ sources, source.KeepsTable part) : (ofSources sources).HasTable part := by
  have all : ∀ root : Setting, root.HasTable part →
      (sources.foldl addSource root).HasTable part := by
    induction sources with
    | nil => exact fun root table => table
    | cons source rest ih =>
      obtain ⟨first, later⟩ := List.forall_mem_cons.mp keeps
      exact fun root table => ih later _ (hasTable_addSource table first)
  exact all emptyTable fun _ none => nomatch none

end Setting

/-! ## 4. The last touch -/

/-- The values that give the whole field; the last of them is the strongest. -/
def strongest? (touches : List Touch) : Option Setting :=
  (touches.filterMap Touch.whole?).getLast?

theorem strongest?_append (weak strong : List Touch) :
    strongest? (weak ++ strong) = (strongest? strong).or (strongest? weak) := by
  rw [strongest?, List.filterMap_append, List.getLast?_append]
  rfl

/-- The last touch decides if it gives the whole field, and that is no table. -/
theorem foldl_apply_of_last {touches : List Touch}
    (last : ∀ t ∈ touches.getLast?, t.steps = [] ∧ t.value.isTable = false) :
    touches.foldl Touch.apply none = strongest? touches := by
  rcases List.eq_nil_or_concat touches with rfl | ⟨before, t, rfl⟩
  · rfl
  · obtain ⟨whole, scalar⟩ := last t (by simp)
    rw [List.concat_eq_append, List.foldl_append, strongest?_append]
    simp [Touch.apply, strongest?, Touch.whole?, whole, updateAt, mergeOver_of_not_isTable scalar]

/-- What a touch leaves: the whole value, or a table, or a list. -/
theorem apply_cases (t : Touch) (old : Option Setting) :
    (t.steps = [] ∧ t.value.isTable = false ∧ Touch.apply old t = some t.value) ∨
    (∃ origin entries, Touch.apply old t = some (.table origin entries)) ∨
    (∃ i below origin items, t.steps = .index i :: below ∧
      Touch.apply old t = some (.list origin items)) := by
  obtain ⟨steps, value⟩ := t
  cases steps with
  | nil =>
    cases table : value.isTable with
    | false =>
      refine Or.inl ⟨rfl, rfl, ?_⟩
      rw [Touch.apply, updateAt, mergeOver_of_not_isTable table]
    | true =>
      have merged := (mergeOver_of_isTable table (old.getD nothing)).1
      refine Or.inr (Or.inl ?_)
      rw [Touch.apply, updateAt]
      generalize value.mergeOver (old.getD nothing) = result at merged
      cases result with
      | scalar origin s => cases merged
      | list origin items => cases merged
      | table origin entries => exact ⟨origin, entries, rfl⟩
  | cons step below =>
    cases step with
    | key n => exact Or.inr (Or.inl ⟨_, _, rfl⟩)
    | index i => exact Or.inr (Or.inr ⟨i, below, _, _, rfl, rfl⟩)

end PluginDiscovery
