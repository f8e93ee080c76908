import Mathlib.Data.List.Induction
import PluginDiscovery.Proofs.Steps

/-!
# What holds along a run

A scan, a discovery and a history are all repetitions of the steps of `Steps.lean`. The repetition
is dealt with here, once for each of them:

* `Kept`: a property that the steps of a scan of given directories keep, and `scan_kept`,
  `discover_kept`, `run_kept`: then so do a whole scan, a discovery, any operation;
* `run_appends`: an operation other than a cleanup adds plugins at the end, each of them offered by
  a directory that it visits;
* `exists_registration`: every registered plugin was registered by some operation of the history,
  with no cleanup since.
-/

namespace PluginDiscovery

/-- The entry is one of a directory. -/
def FileSystem.Lists (fs : FileSystem) (directory : Path) (e : FileSystem.Entry) : Prop :=
  ∃ entries, fs.list directory = .ok entries ∧ e ∈ entries

/-- The directories an operation scans, each with the files it finds there. -/
def Operation.visits (ctx : Context) : Operation → List (FileSystem × Path)
  | .scan fs directory _ => [(fs, directory)]
  | .discover fs layout privileged mode =>
    (ctx.discover fs layout privileged mode).1.map fun directory => (fs, directory)
  | _ => []

/-- What a registry with more plugins does not have, the registry does not have. -/
theorem PluginRegistry.has_append {r s : PluginRegistry} {new : List Plugin} {name : String}
    (h : s.plugins = r.plugins ++ new) (has : s.has name = false) : r.has name = false := by
  simp only [PluginRegistry.has, h, List.any_append, Bool.or_eq_false_iff] at has
  exact has.1

namespace Context

/-! ## 1. Scans and discoveries -/

/-- The steps of a scan of these directories keep the property. -/
structure Kept (P : Context → Prop) (visits : List (FileSystem × Path)) : Prop where
  note (c : Context) (event : Event) : P c → P (c.note event)
  mark (c : Context) : P c → P { c with discovered := true }
  consider (c : Context) (mode : FailureMode) {fs : FileSystem} {directory : Path}
    {e : FileSystem.Entry} {name : String} (visited : (fs, directory) ∈ visits)
    (listed : fs.Lists directory e) (candidate : c.settings.standing e = .candidate name) :
    P c → P (c.consider fs mode (directory.join e.name) name).2

section Kept

variable {P : Context → Prop} {visits : List (FileSystem × Path)} {ctx : Context}
  {fs : FileSystem} {mode : FailureMode}

theorem scanEntry_kept (k : Kept P visits) {directory : Path} {e : FileSystem.Entry}
    {state : ScanStats × Context} (visited : (fs, directory) ∈ visits)
    (listed : fs.Lists directory e) (h : P state.2) :
    P (scanEntry fs mode directory state e).2 := by
  obtain ⟨stats, c⟩ := state
  cases standing : c.settings.standing e with
  | candidate name =>
    rw [c.scanEntry_candidate fs mode standing]
    exact k.consider c mode visited listed standing h
  | foreign name =>
    simp only [scanEntry, standing]
    exact k.note c _ h
  | other =>
    simp only [scanEntry, standing]
    exact h
  | excluded name =>
    simp only [scanEntry, standing]
    exact k.note c _ h

theorem entries_kept (k : Kept P visits) {directory : Path} {es : List FileSystem.Entry}
    (visited : (fs, directory) ∈ visits) (listed : ∀ e ∈ es, fs.Lists directory e) :
    ∀ state : ScanStats × Context, P state.2 →
      P (es.foldl (scanEntry fs mode directory) state).2 := by
  induction es with
  | nil => exact fun _ h => h
  | cons e es ih =>
    intro state h
    rw [List.foldl_cons]
    exact ih (fun e' he' => listed e' (List.mem_cons_of_mem e he')) _
      (scanEntry_kept k visited (listed e List.mem_cons_self) h)

theorem scan_kept (k : Kept P visits) {directory : Path} (visited : (fs, directory) ∈ visits)
    (h : P ctx) : P (ctx.scan fs directory mode).2 := by
  unfold scan
  split
  · exact k.note ctx _ h
  · split
    · exact k.note ctx _ h
    · rename_i entries hlist
      have listed : ∀ e ∈ sortEntries entries, fs.Lists directory e := fun e he =>
        ⟨entries, hlist, by simpa [sortEntries] using he⟩
      exact k.note _ _ (entries_kept k visited listed (⟨0, 0⟩, ctx) h)

theorem scanAll_kept (k : Kept P visits) {directories : List Path}
    (visited : ∀ d ∈ directories, (fs, d) ∈ visits) (h : P ctx) :
    P (ctx.scanAll fs mode directories).2 := by
  induction directories generalizing ctx with
  | nil => exact h
  | cons d rest ih =>
    exact ih (fun d' hd' => visited d' (List.mem_cons_of_mem d hd'))
      (scan_kept k (visited d List.mem_cons_self) h)

theorem noteAll_kept (k : Kept P visits) (events : List Event) (h : P ctx) :
    P (ctx.noteAll events) := by
  rw [noteAll_eq_foldl]
  induction events generalizing ctx with
  | nil => exact h
  | cons event rest ih => exact ih (k.note ctx event h)

theorem discover_kept (k : Kept P visits) {layout : Layout} {privileged : Bool}
    (visited : ∀ d ∈ (ctx.discover fs layout privileged mode).1, (fs, d) ∈ visits) (h : P ctx) :
    P (ctx.discover fs layout privileged mode).2 := by
  unfold discover at visited ⊢
  split
  · exact k.note ctx _ h
  · rename_i fresh
    simp only [fresh] at visited ⊢
    have noted := noteAll_kept k (layout.plan fs privileged).2 h
    split
    · exact noted
    · rename_i planned
      simp only [planned] at visited
      exact k.note _ _ (scanAll_kept k visited (k.mark _ noted))

end Kept

/-! ## 2. Types -/

theorem registerType_frame (ctx : Context) (name : String) (accepts : Module → Bool) :
    (ctx.registerType name accepts).2.settings = ctx.settings ∧
    (ctx.registerType name accepts).2.plugins = ctx.plugins ∧
    (ctx.registerType name accepts).2.discovered = ctx.discovered ∧
    (ctx.registerType name accepts).2.handles = ctx.handles := by
  unfold registerType
  split <;> simp

/-- A property that the registration of a type keeps is kept by the registration of a list. -/
theorem registerEntries_kept {P : Context → Prop}
    (register : ∀ (c : Context) name accepts, P c → P (c.registerType name accepts).2)
    (entries : List TypeEntry) {ctx : Context} (h : P ctx) : P (ctx.registerEntries entries).2 := by
  induction entries generalizing ctx with
  | nil => exact h
  | cons entry rest ih =>
    have step := register ctx entry.name (PluginType.requiresSymbol entry.symbol) h
    simp only [registerEntries]
    split <;> rename_i heq <;> rw [heq] at step <;> exact ih step

/-! ## 3. Operations and histories -/

/-- **What the steps of an operation keep, the operation keeps.** -/
theorem run_kept {P : Context → Prop} {ctx : Context} {op : Operation}
    (k : Kept P (op.visits ctx))
    (register : ∀ (c : Context) name accepts, P c → P (c.registerType name accepts).2)
    (cleanup : op = .cleanup → P ctx.cleanup) (h : P ctx) : P (op.run ctx).2 := by
  cases op with
  | registerType name accepts => exact register ctx name accepts h
  | registerEntries entries => exact registerEntries_kept register entries h
  | scan fs directory mode => exact scan_kept k List.mem_cons_self h
  | discover fs layout privileged mode =>
    exact discover_kept k (fun d hd => List.mem_map_of_mem hd) h
  | cleanup => exact cleanup rfl
  | describe => exact h
  | dump capacity => exact h

theorem runAll_append (ctx : Context) (before after : List Operation) :
    (ctx.runAll (before ++ after)).2 = ((ctx.runAll before).2.runAll after).2 := by
  induction before generalizing ctx with
  | nil => rfl
  | cons op rest ih => exact ih (op.run ctx).2

@[simp] theorem runAll_concat (ctx : Context) (before : List Operation) (op : Operation) :
    (ctx.runAll (before ++ [op])).2 = (op.run (ctx.runAll before).2).2 := by
  rw [runAll_append]
  rfl

/-- What every operation of a history keeps, the history keeps. -/
theorem runAll_kept {P : Context → Prop} {ctx : Context} {history : List Operation}
    (step : ∀ op ∈ history, ∀ c, P c → P (op.run c).2) (h : P ctx) :
    P (ctx.runAll history).2 := by
  induction history generalizing ctx with
  | nil => exact h
  | cons op rest ih =>
    exact ih (fun op' hop' => step op' (List.mem_cons_of_mem op hop'))
      (step op List.mem_cons_self ctx h)

/-- Settings are fixed when a context is built. -/
@[simp] theorem settings_run (ctx : Context) (op : Operation) :
    (op.run ctx).2.settings = ctx.settings :=
  run_kept (P := fun c => c.settings = ctx.settings)
    ⟨fun c event h => by simpa using h, fun c h => h,
      fun c mode _ _ _ _ _ _ _ h => by rw [(c.consider_frame _ _ _ _).1, h]⟩
    (fun c name accepts h => by rw [(c.registerType_frame name accepts).1, h])
    (fun _ => rfl) rfl

@[simp] theorem settings_runAll (ctx : Context) (history : List Operation) :
    (ctx.runAll history).2.settings = ctx.settings :=
  runAll_kept (P := fun c => c.settings = ctx.settings)
    (fun op _ c h => (settings_run c op).trans h) rfl

/-! ## 4. Where registered plugins come from -/

/-- A directory offers a plugin to a context: one of its entries is a candidate that opens as this
    plugin. -/
def Offers (ctx : Context) (fs : FileSystem) (directory : Path) (p : Plugin) : Prop :=
  ∃ e, fs.Lists directory e ∧ ctx.settings.standing e = .candidate p.name ∧
    ctx.settings.loader.pluginAt? ctx.types fs (directory.join e.name) p.name = some p

/-- A context after `ctx` that has registered more plugins, each of them new by its name and offered
    by a visited directory, and the same types. -/
def Extends (ctx : Context) (visits : List (FileSystem × Path)) (c : Context) : Prop :=
  c.settings = ctx.settings ∧ c.types = ctx.types ∧
    ∃ new, c.plugins.plugins = ctx.plugins.plugins ++ new ∧
      ∀ p ∈ new, ctx.plugins.has p.name = false ∧
        ∃ fs directory, (fs, directory) ∈ visits ∧ ctx.Offers fs directory p

theorem Extends.refl (ctx : Context) (visits : List (FileSystem × Path)) :
    ctx.Extends visits ctx :=
  ⟨rfl, rfl, [], by simp, by simp⟩

/-- The steps of a scan extend the context. -/
theorem extends_kept (ctx : Context) (visits : List (FileSystem × Path)) :
    Kept (ctx.Extends visits) visits where
  note c event h := by simpa [Extends] using h
  mark c h := h
  consider c mode fs directory e name visited listed candidate h := by
    obtain ⟨hs, ht, new, hp, hnew⟩ := h
    have hframe := c.consider_frame fs mode (directory.join e.name) name
    refine ⟨hframe.1.trans hs, hframe.2.1.trans ht, ?_⟩
    rw [plugins_consider]
    split
    · exact ⟨new, hp, hnew⟩
    · rename_i has
      have has' := PluginRegistry.has_append hp (Bool.eq_false_iff.mpr has)
      refine ⟨new ++ (c.settings.loader.pluginAt? c.types fs (directory.join e.name) name).toList,
        by rw [hp, List.append_assoc], fun p hmem => ?_⟩
      rcases List.mem_append.mp hmem with old | added
      · exact hnew p old
      · rw [Option.mem_toList] at added
        have hname := (Loader.pluginAt?_eq_some_iff.mp added).2.2.2.2
        subst hname
        rw [hs] at candidate
        rw [hs, ht] at added
        exact ⟨has', fs, directory, visited, e, listed, candidate, added⟩

/-- The operation registers the plugin, whose name was not taken before and which a directory it
    visits offers. -/
structure Registers (ctx : Context) (op : Operation) (p : Plugin) : Prop where
  absent : ctx.plugins.has p.name = false
  present : p ∈ (op.run ctx).2.plugins.plugins
  offered : ∃ fs directory, (fs, directory) ∈ op.visits ctx ∧ ctx.Offers fs directory p

/-- **An operation other than a cleanup only adds plugins**, and it registers those it adds. -/
theorem run_appends (ctx : Context) {op : Operation} (h : op ≠ .cleanup) :
    ∃ new, (op.run ctx).2.plugins.plugins = ctx.plugins.plugins ++ new ∧
      ∀ p ∈ new, ctx.Registers op p := by
  have unchanged : (op.run ctx).2.plugins = ctx.plugins →
      ∃ new, (op.run ctx).2.plugins.plugins = ctx.plugins.plugins ++ new ∧
        ∀ p ∈ new, ctx.Registers op p :=
    fun hc => ⟨[], by simp [hc], by simp⟩
  have extended : ctx.Extends (op.visits ctx) (op.run ctx).2 →
      ∃ new, (op.run ctx).2.plugins.plugins = ctx.plugins.plugins ++ new ∧
        ∀ p ∈ new, ctx.Registers op p := by
    rintro ⟨_, _, new, hp, hnew⟩
    exact ⟨new, hp, fun p hmem =>
      ⟨(hnew p hmem).1, hp ▸ List.mem_append_right _ hmem, (hnew p hmem).2⟩⟩
  cases op with
  | registerType name accepts => exact unchanged (ctx.registerType_frame name accepts).2.1
  | registerEntries entries =>
    exact unchanged (registerEntries_kept (P := fun c => c.plugins = ctx.plugins)
      (fun c name accepts hc => (c.registerType_frame name accepts).2.1.trans hc) entries rfl)
  | scan fs directory mode =>
    exact extended (scan_kept (extends_kept ctx _) List.mem_cons_self (.refl ctx _))
  | discover fs layout privileged mode =>
    exact extended (discover_kept (extends_kept ctx _) (fun d hd => List.mem_map_of_mem hd)
      (.refl ctx _))
  | cleanup => exact absurd rfl h
  | describe => exact unchanged rfl
  | dump capacity => exact unchanged rfl

/-- **Every registered plugin was registered by some operation, with no cleanup since.** -/
theorem exists_registration {start : Context} (empty : start.plugins.plugins = [])
    (history : List Operation) :
    ∀ p ∈ (start.runAll history).2.plugins.plugins,
      ∃ before op after, history = before ++ op :: after ∧
        (∀ later ∈ after, later ≠ Operation.cleanup) ∧
        (start.runAll before).2.Registers op p := by
  induction history using List.reverseRecOn with
  | nil =>
    intro p hp
    rw [show (start.runAll []).2 = start from rfl, empty] at hp
    exact absurd hp List.not_mem_nil
  | append_singleton history op ih =>
    intro p hp
    rw [runAll_concat] at hp
    by_cases hop : op = .cleanup
    · subst hop
      exact absurd hp List.not_mem_nil
    · obtain ⟨new, hplugins, hnew⟩ := run_appends (start.runAll history).2 hop
      rw [hplugins] at hp
      rcases List.mem_append.mp hp with old | added
      · obtain ⟨before, first, after, split, uncleaned, registers⟩ := ih p old
        refine ⟨before, first, after ++ [op], by simp [split], fun later hl => ?_, registers⟩
        rcases List.mem_append.mp hl with hl | hl
        · exact uncleaned later hl
        · exact List.mem_singleton.mp hl ▸ hop
      · exact ⟨history, op, [], rfl, by simp, hnew p added⟩

end Context

end PluginDiscovery
