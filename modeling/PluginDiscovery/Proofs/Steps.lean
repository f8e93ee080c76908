import PluginDiscovery.Engine.Operation

/-!
# What one step does to a context

Every operation on a context is made of a few small steps. This file says once what each of them
changes, so that what holds along a run is read off here and no step is opened again:

* the `_frame` lemmas: a ledger step leaves everything but its own ledger alone;
* `Loader.pluginAt?`: the plugin that a file would become, whatever is registered already;
* `Fate`, `consider_fate`: the five things that can happen to a candidate, each with its cause and
  the context it leads to; `consider_eq`: the same as a table;
* `plugins_consider`: of all of them only a registration changes what is registered;
  `consider_fst`, `consider_opened`: which candidates are registered, and which files are opened;
* `scanEntry_candidate`: a candidate is considered, and counted by `ScanStats.tally`;
* `discover_eq`: the three courses a discovery can take.
-/

namespace PluginDiscovery

/-! ## 1. Ledger steps -/

/-- Whether an event only notes what happens: it refuses no candidate and tells the host nothing. -/
def Event.isNote : Event → Bool
  | .rejected _ | .reported _ => false
  | _ => true

namespace Context

variable (ctx : Context)

@[simp] theorem note_frame (event : Event) :
    (ctx.note event).settings = ctx.settings ∧ (ctx.note event).types = ctx.types ∧
    (ctx.note event).plugins = ctx.plugins ∧ (ctx.note event).discovered = ctx.discovered ∧
    (ctx.note event).opened = ctx.opened ∧ (ctx.note event).handles = ctx.handles ∧
    (ctx.note event).reports = ctx.reports :=
  ⟨rfl, rfl, rfl, rfl, rfl, rfl, rfl⟩

@[simp] theorem report_frame (r : Report) :
    (ctx.report r).settings = ctx.settings ∧ (ctx.report r).types = ctx.types ∧
    (ctx.report r).plugins = ctx.plugins ∧ (ctx.report r).discovered = ctx.discovered ∧
    (ctx.report r).opened = ctx.opened ∧ (ctx.report r).handles = ctx.handles := by
  unfold report
  cases ctx.settings.reporter <;> exact ⟨rfl, rfl, rfl, rfl, rfl, rfl⟩

@[simp] theorem reject_frame (mode : FailureMode) (e : PluginError) :
    (ctx.reject mode e).settings = ctx.settings ∧ (ctx.reject mode e).types = ctx.types ∧
    (ctx.reject mode e).plugins = ctx.plugins ∧
    (ctx.reject mode e).discovered = ctx.discovered ∧
    (ctx.reject mode e).opened = ctx.opened ∧ (ctx.reject mode e).handles = ctx.handles := by
  unfold reject
  cases mode.isVerbose <;> simp

@[simp] theorem recordOpening_frame (path : Path) :
    (ctx.recordOpening path).settings = ctx.settings ∧
    (ctx.recordOpening path).types = ctx.types ∧
    (ctx.recordOpening path).plugins = ctx.plugins ∧
    (ctx.recordOpening path).discovered = ctx.discovered ∧
    (ctx.recordOpening path).handles = ctx.handles ∧
    (ctx.recordOpening path).reports = ctx.reports ∧
    (ctx.recordOpening path).log = ctx.log := by
  unfold recordOpening
  cases ctx.settings.loader.counts <;> exact ⟨rfl, rfl, rfl, rfl, rfl, rfl, rfl⟩

@[simp] theorem acquire_frame (path : Path) :
    (ctx.acquire path).settings = ctx.settings ∧ (ctx.acquire path).types = ctx.types ∧
    (ctx.acquire path).plugins = ctx.plugins ∧ (ctx.acquire path).discovered = ctx.discovered ∧
    (ctx.acquire path).opened = ctx.opened ∧ (ctx.acquire path).reports = ctx.reports := by
  simp only [acquire]
  split <;> exact ⟨rfl, rfl, rfl, rfl, rfl, rfl⟩

@[simp] theorem acquire_handles (path : Path) :
    (ctx.acquire path).handles = ctx.handles ++ [.opened path] := by
  simp only [acquire]
  split <;> rfl

@[simp] theorem release_frame (paths : List Path) :
    (ctx.release paths).settings = ctx.settings ∧ (ctx.release paths).types = ctx.types ∧
    (ctx.release paths).plugins = ctx.plugins ∧
    (ctx.release paths).discovered = ctx.discovered ∧
    (ctx.release paths).opened = ctx.opened ∧ (ctx.release paths).reports = ctx.reports ∧
    (ctx.release paths).log = ctx.log :=
  ⟨rfl, rfl, rfl, rfl, rfl, rfl, rfl⟩

@[simp] theorem release_handles (paths : List Path) :
    (ctx.release paths).handles = ctx.handles ++ paths.map .closed :=
  rfl

/-- Noting events is noting one after the other. -/
theorem noteAll_eq_foldl (events : List Event) : ctx.noteAll events = events.foldl note ctx := by
  induction events generalizing ctx with
  | nil => simp [noteAll]
  | cons event events ih =>
    rw [List.foldl_cons, ← ih]
    simp [noteAll, note]

end Context

/-! ## 2. The fate of a candidate -/

/-- The plugin that the file at a path would become under a name: the file opens, its module has a
    version, and some type accepts it. -/
def Loader.pluginAt? (loader : Loader) (types : TypeRegistry) (fs : FileSystem) (path : Path)
    (name : String) : Option Plugin :=
  match loader.load fs path with
  | .error _ => none
  | .ok m =>
    match m.text? Abi.version with
    | none => none
    | some version =>
      if (types.classify m).isEmpty then none else some ⟨m, name, version, types.classify m⟩

theorem Loader.pluginAt?_eq_some_iff {loader : Loader} {types : TypeRegistry} {fs : FileSystem}
    {path : Path} {name : String} {p : Plugin} :
    loader.pluginAt? types fs path name = some p ↔
      loader.load fs path = .ok p.module ∧ p.module.text? Abi.version = some p.version ∧
      types.classify p.module = p.mask ∧ p.mask.isEmpty = false ∧ p.name = name := by
  obtain ⟨m, n, v, mask⟩ := p
  unfold pluginAt?
  constructor
  · intro h
    split at h
    · cases h
    · rename_i m' hm
      split at h
      · cases h
      · rename_i version hv
        split at h
        · cases h
        · rename_i he
          cases h
          exact ⟨hm, hv, rfl, by simpa using he, rfl⟩
  · rintro ⟨hm, hv, hmask, he, hn⟩
    simp only at hm hv hmask he hn
    subst hmask hn
    simp [hm, hv, he]

/-- A plugin knows the path its file was opened from. -/
theorem Loader.path_of_pluginAt? {loader : Loader} {types : TypeRegistry} {fs : FileSystem}
    {path : Path} {name : String} {p : Plugin}
    (h : loader.pluginAt? types fs path name = some p) : p.path = path :=
  loader.path_of_load (pluginAt?_eq_some_iff.mp h).1

namespace Context

variable (ctx : Context) (fs : FileSystem) (mode : FailureMode) (path : Path) (name : String)

/-- The context in which a file was opened and its module is still open. -/
def opening : Context :=
  (ctx.recordOpening path).acquire path

@[simp] theorem opening_frame :
    (ctx.opening path).settings = ctx.settings ∧ (ctx.opening path).types = ctx.types ∧
    (ctx.opening path).plugins = ctx.plugins ∧ (ctx.opening path).discovered = ctx.discovered ∧
    (ctx.opening path).handles = ctx.handles ++ [.opened path] ∧
    (ctx.opening path).reports = ctx.reports := by
  simp [opening]

/-- The context in which a plugin was registered whose module is open. -/
def registering (p : Plugin) : Context :=
  { ctx.note (.classified p.name (ctx.types.describe p.mask)) with
    plugins := ⟨ctx.plugins.plugins ++ [p]⟩ }.note (.pluginRegistered p.name p.version p.path)

@[simp] theorem registering_frame (p : Plugin) :
    (ctx.registering p).settings = ctx.settings ∧ (ctx.registering p).types = ctx.types ∧
    (ctx.registering p).plugins.plugins = ctx.plugins.plugins ++ [p] ∧
    (ctx.registering p).discovered = ctx.discovered ∧
    (ctx.registering p).opened = ctx.opened ∧ (ctx.registering p).handles = ctx.handles ∧
    (ctx.registering p).reports = ctx.reports :=
  ⟨rfl, rfl, rfl, rfl, rfl, rfl, rfl⟩

/-- What can happen to a candidate: whether it is registered, and the context after it. -/
inductive Fate : Bool × Context → Prop where
  | taken (has : ctx.plugins.has name = true) :
      Fate (false, ctx.reject mode (.duplicateName name))
  | unloadable (reason : String) (has : ctx.plugins.has name = false)
      (load : ctx.settings.loader.load fs path = .error reason) :
      Fate (false, (ctx.recordOpening path).reject mode (.loadFailed path reason))
  | unversioned (m : Module) (has : ctx.plugins.has name = false)
      (load : ctx.settings.loader.load fs path = .ok m) (version : m.text? Abi.version = none) :
      Fate (false, ((ctx.opening path).release [path]).reject mode (.missingVersion name))
  | unclaimed (m : Module) (version : String) (has : ctx.plugins.has name = false)
      (load : ctx.settings.loader.load fs path = .ok m)
      (text : m.text? Abi.version = some version)
      (mask : (ctx.types.classify m).isEmpty = true) :
      Fate (false, ((ctx.opening path).release [path]).reject mode (.noRoutines name))
  | registered (p : Plugin) (has : ctx.plugins.has name = false)
      (plugin : ctx.settings.loader.pluginAt? ctx.types fs path name = some p) :
      Fate (true, (ctx.opening path).registering p)

/-- **The fate of a candidate is one of the five.** -/
theorem consider_fate : ctx.Fate fs mode path name (ctx.consider fs mode path name) := by
  unfold consider examine openFile
  cases has : ctx.plugins.has name with
  | true => exact .taken has
  | false =>
    simp only [Bool.false_eq_true, if_false, recordOpening_frame]
    cases load : ctx.settings.loader.load fs path with
    | error reason => exact .unloadable reason has load
    | ok m =>
      simp only
      cases text : m.text? Abi.version with
      | none => exact .unversioned m has load text
      | some version =>
        simp only [acquire_frame, recordOpening_frame]
        cases mask : (ctx.types.classify m).isEmpty with
        | true => exact .unclaimed m version has load text mask
        | false =>
          -- the registry was asked for the name at the start, so it cannot refuse it now
          have append : ctx.plugins.append ⟨m, name, version, ctx.types.classify m⟩ =
              .ok ⟨ctx.plugins.plugins ++ [⟨m, name, version, ctx.types.classify m⟩]⟩ := by
            simp [PluginRegistry.append, has]
          have plugin : ctx.settings.loader.pluginAt? ctx.types fs path name =
              some ⟨m, name, version, ctx.types.classify m⟩ := by
            simp [Loader.pluginAt?, load, text, mask]
          have step : ctx.Fate fs mode path name _ := .registered _ has plugin
          simpa [adopt, append, registering, opening] using step

/-- The fate of a candidate as a table of what decides it. -/
theorem consider_eq :
    ctx.consider fs mode path name =
      if ctx.plugins.has name then (false, ctx.reject mode (.duplicateName name))
      else
        match ctx.settings.loader.load fs path with
        | .error reason => (false, (ctx.recordOpening path).reject mode (.loadFailed path reason))
        | .ok m =>
          match m.text? Abi.version with
          | none => (false, ((ctx.opening path).release [path]).reject mode (.missingVersion name))
          | some version =>
            if (ctx.types.classify m).isEmpty then
              (false, ((ctx.opening path).release [path]).reject mode (.noRoutines name))
            else
              (true, (ctx.opening path).registering ⟨m, name, version, ctx.types.classify m⟩) := by
  have fate := ctx.consider_fate fs mode path name
  generalize ctx.consider fs mode path name = result at fate
  cases fate with
  | taken has => simp [has]
  | unloadable reason has load => simp [has, load]
  | unversioned m has load version => simp [has, load, version]
  | unclaimed m version has load text mask => simp [has, load, text, mask]
  | registered p has plugin =>
    obtain ⟨load, text, mask, claimed, rfl⟩ := Loader.pluginAt?_eq_some_iff.mp plugin
    simp [has, load, text, mask, claimed]

theorem consider_frame :
    (ctx.consider fs mode path name).2.settings = ctx.settings ∧
    (ctx.consider fs mode path name).2.types = ctx.types ∧
    (ctx.consider fs mode path name).2.discovered = ctx.discovered := by
  have fate := ctx.consider_fate fs mode path name
  generalize ctx.consider fs mode path name = result at fate
  cases fate <;> simp

/-- Only a registration changes the registered plugins. -/
theorem plugins_consider :
    (ctx.consider fs mode path name).2.plugins.plugins =
      if ctx.plugins.has name then ctx.plugins.plugins
      else ctx.plugins.plugins ++
        (ctx.settings.loader.pluginAt? ctx.types fs path name).toList := by
  have fate := ctx.consider_fate fs mode path name
  generalize ctx.consider fs mode path name = result at fate
  cases fate with
  | taken has => simp [has]
  | unloadable reason has load => simp [has, Loader.pluginAt?, load]
  | unversioned m has load version => simp [has, Loader.pluginAt?, load, version]
  | unclaimed m version has load text mask =>
    simp [has, Loader.pluginAt?, load, text, mask]
  | registered p has plugin => simp [has, plugin]

/-- A candidate is registered when its name is free and its file becomes a plugin. -/
theorem consider_fst :
    (ctx.consider fs mode path name).1 =
      (!ctx.plugins.has name &&
        (ctx.settings.loader.pluginAt? ctx.types fs path name).isSome) := by
  have fate := ctx.consider_fate fs mode path name
  generalize ctx.consider fs mode path name = result at fate
  cases fate with
  | taken has => simp [has]
  | unloadable reason has load => simp [Loader.pluginAt?, load]
  | unversioned m has load version => simp [Loader.pluginAt?, load, version]
  | unclaimed m version has load text mask => simp [Loader.pluginAt?, load, text, mask]
  | registered p has plugin => simp [has, plugin]

/-- The loader is asked for the file of a candidate whose name is free, and for no other. -/
theorem consider_opened :
    (ctx.consider fs mode path name).2.opened =
      if ctx.plugins.has name then ctx.opened else (ctx.recordOpening path).opened := by
  have fate := ctx.consider_fate fs mode path name
  generalize ctx.consider fs mode path name = result at fate
  cases fate <;> simp [*, opening]

end Context

/-! ## 3. Entries and directories -/

/-- The counters after a candidate that was registered, or was not. -/
def ScanStats.tally (stats : ScanStats) (registered : Bool) : ScanStats :=
  if registered then { stats with registered := stats.registered + 1 }
  else { stats with rejected := stats.rejected + 1 }

namespace Context

variable (ctx : Context) (fs : FileSystem) (mode : FailureMode)

/-- An entry that is a candidate is considered and counted. -/
theorem scanEntry_candidate {e : FileSystem.Entry} {name : String}
    (h : ctx.settings.standing e = .candidate name) (directory : Path) (stats : ScanStats) :
    scanEntry fs mode directory (stats, ctx) e =
      (stats.tally (ctx.consider fs mode (directory.join e.name) name).1,
       (ctx.consider fs mode (directory.join e.name) name).2) := by
  simp only [scanEntry, h]
  obtain ⟨taken, after⟩ := ctx.consider fs mode (directory.join e.name) name
  cases taken <;> rfl

theorem scanAll_cons (directory : Path) (rest : List Path) :
    ctx.scanAll fs mode (directory :: rest) =
      ((ctx.scan fs directory mode).1.registered +
        ((ctx.scan fs directory mode).2.scanAll fs mode rest).1,
       ((ctx.scan fs directory mode).2.scanAll fs mode rest).2) :=
  rfl

end Context

/-! ## 4. The three courses of a discovery -/

/-- What the making of a plan logs: that there is no directory to begin with, that the build tree
    cannot be listed, or that the personal directory is left out. -/
theorem Layout.forall_mem_plan {P : Event → Prop} (noDirectory : P .noDirectory)
    (cannotList : ∀ directory cause, P (.cannotList directory cause))
    (personalSkipped : P .personalSkipped) (layout : Layout) (fs : FileSystem)
    (privileged : Bool) : ∀ event ∈ (layout.plan fs privileged).2, P event := by
  have personal : ∀ event ∈ (layout.personalOnly privileged).2, P event := by
    cases privileged <;> simp [personalOnly, personalSkipped]
  unfold plan
  cases layout.primary with
  | none => simpa using noDirectory
  | some primary =>
    simp only
    cases layout.buildTree with
    | false => exact personal
    | true =>
      cases fs.list primary with
      | error cause => exact List.forall_mem_cons.mpr ⟨cannotList primary cause, personal⟩
      | ok entries => exact personal

/-- The making of a plan only notes what happens. -/
theorem Layout.isNote_of_mem_plan (layout : Layout) (fs : FileSystem) (privileged : Bool) :
    ∀ event ∈ (layout.plan fs privileged).2, event.isNote = true :=
  forall_mem_plan (P := fun event => event.isNote = true) rfl (fun _ _ => rfl) rfl layout fs
    privileged

namespace Context

variable (ctx : Context) (fs : FileSystem) (mode : FailureMode)
  (layout : Layout) (privileged : Bool)

/-- Whether a discovery is refused: one has run, or a plugin is registered. -/
def spent : Bool :=
  ctx.discovered || !ctx.plugins.isEmpty

/-- The context in which a discovery has begun. -/
def mark : Context :=
  { ctx with discovered := true }

/-- The context after a pass over the directories of a plan. -/
def pass (plan : List Path × List Event) : Context :=
  let scanned := (ctx.noteAll plan.2).mark.scanAll fs mode plan.1
  scanned.2.note (.discoveryComplete plan.1.length scanned.1 scanned.2.types.size)

/-- **A discovery is refused, or plans nothing, or passes over its plan.** -/
theorem discover_eq :
    ctx.discover fs layout privileged mode =
      if ctx.spent then ([], ctx.note .alreadyRan)
      else if (layout.plan fs privileged).1 = [] then
        ([], ctx.noteAll (layout.plan fs privileged).2)
      else ((layout.plan fs privileged).1, ctx.pass fs mode (layout.plan fs privileged)) := by
  unfold discover spent pass mark
  split
  · rfl
  · simp only [List.isEmpty_iff]

/-- A discovery that is not refused gives the directories of its plan. -/
theorem discover_fst (unspent : ctx.spent = false) :
    (ctx.discover fs layout privileged mode).1 = (layout.plan fs privileged).1 := by
  rw [discover_eq, if_neg (by simp [unspent])]
  split
  · rename_i planned
    exact planned.symm
  · rfl

end Context

end PluginDiscovery
