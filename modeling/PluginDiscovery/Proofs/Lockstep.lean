import Mathlib.Data.List.Forall2
import PluginDiscovery.Proofs.Steps

/-!
# Two runs side by side

What an operation does next is decided by the settings, the registered types and plugins and the
flag of a context; its ledgers are written and never read. So two contexts that agree in the former
go through the same steps, and what those steps keep between the two holds between them for good.

* `Context.DecidesLike`: contexts that agree in all that decides;
* `Operation.UpTo`: operations that are the same except for their modes;
* `Parallel`, `Lockstep`: a relation between contexts that decide alike, kept by each change that
  both of them make, and by refusals in modes that are related;
* `Lockstep.run`, `Lockstep.runAll`: then an operation and a history give the same outcomes on both
  sides, and keep the relation.
-/

namespace PluginDiscovery

/-! ## 1. What decides -/

namespace Context

/-- The contexts take the same decisions. -/
structure DecidesLike (a b : Context) : Prop where
  settings : a.settings = b.settings
  types : a.types = b.types
  plugins : a.plugins = b.plugins
  discovered : a.discovered = b.discovered

variable {a b : Context}

theorem DecidesLike.descriptions (h : a.DecidesLike b) : a.descriptions = b.descriptions := by
  have describe : a.describe = b.describe := by
    funext p
    rw [Context.describe, Context.describe, h.types]
  rw [Context.descriptions, Context.descriptions, h.plugins, describe]

theorem DecidesLike.dumpInto (h : a.DecidesLike b) (capacity : Nat) :
    a.dumpInto capacity = b.dumpInto capacity := by
  rw [Context.dumpInto, Context.dumpInto, h.descriptions]

end Context

/-- The operations are the same, or scan the same in modes that are related. -/
inductive Operation.UpTo (M : FailureMode → FailureMode → Prop) : Operation → Operation → Prop where
  | same (op : Operation) : UpTo M op op
  | scan (fs : FileSystem) (directory : Path) {m n : FailureMode} (modes : M m n) :
      UpTo M (.scan fs directory m) (.scan fs directory n)
  | discover (fs : FileSystem) (layout : Layout) (privileged : Bool) {m n : FailureMode}
      (modes : M m n) :
      UpTo M (.discover fs layout privileged m) (.discover fs layout privileged n)

/-! ## 2. Steps made by both -/

/-- The relation is one between contexts that decide alike, and every change that both make keeps
    it: in what decides, and at the end of each ledger. -/
structure Parallel (R : Context → Context → Prop) : Prop where
  decides {a b : Context} : R a b → a.DecidesLike b
  withTypes {a b : Context} (types : TypeRegistry) :
    R a b → R { a with types := types } { b with types := types }
  withPlugins {a b : Context} (plugins : PluginRegistry) :
    R a b → R { a with plugins := plugins } { b with plugins := plugins }
  withDiscovered {a b : Context} (discovered : Bool) :
    R a b → R { a with discovered := discovered } { b with discovered := discovered }
  note {a b : Context} (event : Event) : R a b → R (a.note event) (b.note event)
  reported {a b : Context} (r : Report) :
    R a b → R { a with reports := a.reports ++ [r] } { b with reports := b.reports ++ [r] }
  opened {a b : Context} (path : Path) :
    R a b → R { a with opened := a.opened ++ [path] } { b with opened := b.opened ++ [path] }
  moved {a b : Context} (moves : List HandleMove) :
    R a b → R { a with handles := a.handles ++ moves } { b with handles := b.handles ++ moves }

/-- A refusal keeps the relation too, in modes that are related. -/
structure Lockstep (M : FailureMode → FailureMode → Prop) (R : Context → Context → Prop) : Prop
    extends Parallel R where
  modes (m : FailureMode) : M m m
  reject {a b : Context} {m n : FailureMode} (modes : M m n) (e : PluginError) :
    R a b → R (a.reject m e) (b.reject n e)

/-- The two sides have the same result, and contexts that are related. -/
def Together {α : Type} (R : Context → Context → Prop) (x y : α × Context) : Prop :=
  x.1 = y.1 ∧ R x.2 y.2

namespace Parallel

variable {R : Context → Context → Prop} {a b : Context} (L : Parallel R)
include L

theorem noteAll (events : List Event) (h : R a b) : R (a.noteAll events) (b.noteAll events) := by
  rw [Context.noteAll_eq_foldl, Context.noteAll_eq_foldl]
  induction events generalizing a b with
  | nil => exact h
  | cons event rest ih => exact ih (L.note event h)

theorem report (r : Report) (h : R a b) : R (a.report r) (b.report r) := by
  have reporter : a.settings.reporter = b.settings.reporter := by rw [(L.decides h).settings]
  unfold Context.report
  rw [reporter]
  cases b.settings.reporter with
  | memory => exact L.reported r h
  | log => exact L.note _ h

theorem recordOpening (path : Path) (h : R a b) :
    R (a.recordOpening path) (b.recordOpening path) := by
  have counts : a.settings.loader.counts = b.settings.loader.counts := by
    rw [(L.decides h).settings]
  unfold Context.recordOpening
  rw [counts]
  split
  · exact L.opened path h
  · exact h

theorem acquire (path : Path) (h : R a b) : R (a.acquire path) (b.acquire path) := by
  have announces : a.settings.loader.announces = b.settings.loader.announces := by
    rw [(L.decides h).settings]
  have opened := L.moved [.opened path] h
  simp only [Context.acquire]
  rw [announces]
  split
  · exact L.note _ opened
  · exact opened

theorem release (paths : List Path) (h : R a b) : R (a.release paths) (b.release paths) :=
  L.moved (paths.map .closed) h

theorem opening (path : Path) (h : R a b) : R (a.opening path) (b.opening path) :=
  L.acquire path (L.recordOpening path h)

theorem registering (p : Plugin) (h : R a b) : R (a.registering p) (b.registering p) := by
  unfold Context.registering
  rw [← (L.decides h).types, ← (L.decides h).plugins]
  have classified := L.note (.classified p.name (a.types.describe p.mask)) h
  exact L.note _ (L.withPlugins _ classified)

theorem registerType (name : String) (accepts : Module → Bool) (h : R a b) :
    Together R (a.registerType name accepts) (b.registerType name accepts) := by
  unfold Context.registerType
  rw [← (L.decides h).types]
  cases a.types.register name accepts with
  | ok answer => exact ⟨rfl, L.note _ (L.withTypes answer.2 h)⟩
  | error e => exact ⟨rfl, L.report _ h⟩

theorem cleanup (h : R a b) : R a.cleanup b.cleanup := by
  unfold Context.cleanup
  rw [← (L.decides h).plugins]
  have cleared := L.note (.registryCleared a.plugins.size)
    (L.release (a.plugins.plugins.map Plugin.path) h)
  exact L.withDiscovered false (L.withPlugins .empty (L.withTypes .empty cleared))

/-- Refusals in one mode keep what the other steps keep. -/
theorem lockstep : Lockstep Eq R where
  toParallel := L
  modes _ := rfl
  reject {a b m n} modes e h := by
    obtain rfl : m = n := modes
    have noted := L.note (.rejected e) h
    unfold Context.reject
    cases m.isVerbose with
    | false => exact noted
    | true => exact L.report _ noted

end Parallel

namespace Lockstep

variable {M : FailureMode → FailureMode → Prop} {R : Context → Context → Prop} {a b : Context}
  {m n : FailureMode} (L : Lockstep M R)
include L

/-! ## 3. Scans and discoveries -/

theorem consider (modes : M m n) (fs : FileSystem) (path : Path) (name : String) (h : R a b) :
    Together R (a.consider fs m path name) (b.consider fs n path name) := by
  obtain ⟨settings, types, plugins, _⟩ := L.decides h
  rw [Context.consider_eq, Context.consider_eq, ← settings, ← types, ← plugins]
  cases a.plugins.has name with
  | true => exact ⟨rfl, L.reject modes _ h⟩
  | false =>
    simp only [Bool.false_eq_true, if_false]
    cases a.settings.loader.load fs path with
    | error reason => exact ⟨rfl, L.reject modes _ (L.recordOpening path h)⟩
    | ok module =>
      have refused := L.release [path] (L.opening path h)
      simp only
      cases module.text? Abi.version with
      | none => exact ⟨rfl, L.reject modes _ refused⟩
      | some version =>
        simp only
        split
        · exact ⟨rfl, L.reject modes _ refused⟩
        · exact ⟨rfl, L.registering _ (L.opening path h)⟩

theorem scanEntry (modes : M m n) (fs : FileSystem) (directory : Path)
    {x y : ScanStats × Context} (h : Together R x y) (e : FileSystem.Entry) :
    Together R (Context.scanEntry fs m directory x e) (Context.scanEntry fs n directory y e) := by
  obtain ⟨stats, a⟩ := x
  obtain ⟨stats', b⟩ := y
  obtain ⟨rfl, h⟩ : stats = stats' ∧ R a b := h
  have settings := (L.decides h).settings
  cases standing : a.settings.standing e with
  | candidate name =>
    obtain ⟨registered, related⟩ := L.consider modes fs (directory.join e.name) name h
    rw [a.scanEntry_candidate fs m standing, b.scanEntry_candidate fs n (settings ▸ standing),
      ← registered]
    exact ⟨rfl, related⟩
  | foreign name =>
    simp only [Context.scanEntry, ← settings, standing]
    exact ⟨rfl, L.note _ h⟩
  | other =>
    simp only [Context.scanEntry, ← settings, standing]
    exact ⟨rfl, h⟩
  | excluded name =>
    simp only [Context.scanEntry, ← settings, standing]
    exact ⟨rfl, L.note _ h⟩

theorem entries (modes : M m n) (fs : FileSystem) (directory : Path)
    (es : List FileSystem.Entry) {x y : ScanStats × Context} (h : Together R x y) :
    Together R (es.foldl (Context.scanEntry fs m directory) x)
      (es.foldl (Context.scanEntry fs n directory) y) := by
  induction es generalizing x y with
  | nil => exact h
  | cons e rest ih => exact ih (L.scanEntry modes fs directory h e)

theorem scan (modes : M m n) (fs : FileSystem) (directory : Path) (h : R a b) :
    Together R (a.scan fs directory m) (b.scan fs directory n) := by
  unfold Context.scan
  split
  · exact ⟨rfl, L.note _ h⟩
  · cases fs.list directory with
    | error cause => exact ⟨rfl, L.note _ h⟩
    | ok entries =>
      obtain ⟨stats, related⟩ := L.entries modes fs directory (sortEntries entries)
        (x := (⟨0, 0⟩, a)) (y := (⟨0, 0⟩, b)) ⟨rfl, h⟩
      simp only
      rw [← stats]
      exact ⟨rfl, L.note _ related⟩

theorem scanAll (modes : M m n) (fs : FileSystem) (directories : List Path) (h : R a b) :
    Together R (a.scanAll fs m directories) (b.scanAll fs n directories) := by
  induction directories generalizing a b with
  | nil => exact ⟨rfl, h⟩
  | cons directory rest ih =>
    obtain ⟨stats, related⟩ := L.scan modes fs directory h
    obtain ⟨registered, relatedRest⟩ := ih related
    rw [Context.scanAll_cons, Context.scanAll_cons, stats, registered]
    exact ⟨rfl, relatedRest⟩

theorem pass (modes : M m n) (fs : FileSystem) (plan : List Path × List Event) (h : R a b) :
    R (a.pass fs m plan) (b.pass fs n plan) := by
  have marked : R (a.noteAll plan.2).mark (b.noteAll plan.2).mark :=
    L.withDiscovered true (L.noteAll plan.2 h)
  obtain ⟨registered, related⟩ := L.scanAll modes fs plan.1 marked
  simp only [Context.pass]
  rw [← registered, ← (L.decides related).types]
  exact L.note _ related

theorem discover (modes : M m n) (fs : FileSystem) (layout : Layout) (privileged : Bool)
    (h : R a b) :
    Together R (a.discover fs layout privileged m) (b.discover fs layout privileged n) := by
  have spent : a.spent = b.spent := by
    rw [Context.spent, Context.spent, (L.decides h).plugins, (L.decides h).discovered]
  rw [Context.discover_eq, Context.discover_eq, ← spent]
  split
  · exact ⟨rfl, L.note _ h⟩
  · split
    · exact ⟨rfl, L.noteAll _ h⟩
    · exact ⟨rfl, L.pass modes fs _ h⟩

theorem registerEntries (entries : List TypeEntry) (h : R a b) :
    Together R (a.registerEntries entries) (b.registerEntries entries) := by
  induction entries generalizing a b with
  | nil => exact ⟨rfl, h⟩
  | cons entry rest ih =>
    have step := L.registerType entry.name (PluginType.requiresSymbol entry.symbol) h
    rw [Context.registerEntries, Context.registerEntries]
    generalize a.registerType entry.name (PluginType.requiresSymbol entry.symbol) = x at step
    generalize b.registerType entry.name (PluginType.requiresSymbol entry.symbol) = y at step
    obtain ⟨answer, a⟩ := x
    obtain ⟨answer', b⟩ := y
    obtain ⟨rfl, related⟩ : answer = answer' ∧ R a b := step
    obtain ⟨accepted, relatedRest⟩ := ih related
    cases answer with
    | ok bit => exact ⟨congrArg (· + 1) accepted, relatedRest⟩
    | error e => exact ⟨accepted, relatedRest⟩

/-! ## 4. Operations and histories -/

/-- **Operations that are the same up to their modes give the same outcome on both sides**, and keep
    the relation. -/
theorem run {first second : Operation} (same : Operation.UpTo M first second) (h : R a b) :
    Together R (first.run a) (second.run b) := by
  cases same with
  | scan fs directory modes =>
    obtain ⟨stats, related⟩ := L.scan modes fs directory h
    exact ⟨congrArg Outcome.scanned stats, related⟩
  | discover fs layout privileged modes =>
    obtain ⟨directories, related⟩ := L.discover modes fs layout privileged h
    exact ⟨congrArg Outcome.visited directories, related⟩
  | same =>
    cases first with
    | registerType name accepts =>
      obtain ⟨answer, related⟩ := L.registerType name accepts h
      exact ⟨congrArg Outcome.bit answer, related⟩
    | registerEntries entries =>
      obtain ⟨count, related⟩ := L.registerEntries entries h
      exact ⟨congrArg Outcome.accepted count, related⟩
    | scan fs directory mode =>
      obtain ⟨stats, related⟩ := L.scan (L.modes mode) fs directory h
      exact ⟨congrArg Outcome.scanned stats, related⟩
    | discover fs layout privileged mode =>
      obtain ⟨directories, related⟩ := L.discover (L.modes mode) fs layout privileged h
      exact ⟨congrArg Outcome.visited directories, related⟩
    | cleanup => exact ⟨rfl, L.cleanup h⟩
    | describe => exact ⟨congrArg Outcome.described (L.decides h).descriptions, h⟩
    | dump capacity =>
      have dumped := (L.decides h).dumpInto capacity
      exact ⟨by simp only [Operation.run, dumped], h⟩

/-- **So do histories of such operations.** -/
theorem runAll {first second : List Operation}
    (same : List.Forall₂ (Operation.UpTo M) first second) (h : R a b) :
    Together R (a.runAll first) (b.runAll second) := by
  induction same generalizing a b with
  | nil => exact ⟨rfl, h⟩
  | cons head _ ih =>
    obtain ⟨outcome, related⟩ := L.run head h
    obtain ⟨outcomes, relatedRest⟩ := ih related
    exact ⟨congrArg₂ List.cons outcome outcomes, relatedRest⟩

end Lockstep

end PluginDiscovery
