import PluginDiscovery.Proofs.Accounting
import PluginDiscovery.Proofs.EnumerationOrder

/-!
# What a scan opens

To open a module is to run its code, so a scan must open no file that it was told to leave out. It
opens the candidates of the directory whose names are free, each once and in the byte order of their
names, and what it registers is what these files are worth by themselves: other entries of the
directory have no part in it.

* `BuilderCall.exclusion?`, `Settings.admits_build`: the exclusion that counts is that of the last
  call that sets one;
* `Settings.Holds`: the directory has a candidate of a name;
* `Context.Follows`: a context that has passed candidates with distinct names, as the context before
  decides about each of them by itself; `follows_scan`: a scan leads to such a context;
* `scan_lookalike`: scans of directories that hold the same candidates with the same contents register
  the same, if the loader opens the files of one name alike and the types agree on the modules;
  `Loader.ReadsContents`: a loader that opens by contents does;
* `scan_opens`: all of it, and `paths_distinguish`: types and loaders that look at paths need not.
-/

namespace PluginDiscovery

/-! ## 1. The exclusion that counts -/

/-- The exclusion that a call of the builder sets, if it sets one. -/
def BuilderCall.exclusion? : BuilderCall → Option (String → Bool)
  | .suffix _ => none
  | .exclude test => some test
  | .excludeNames names => if names.isEmpty then none else some fun name => names.contains name

namespace Settings

/-- A field that each call of the builder sets or leaves alone has what the last call set. -/
theorem field_build {α : Type} {field : Settings → α} {set? : BuilderCall → Option α}
    (step : ∀ s call, field (s.apply call) = (set? call).getD (field s)) (s : Settings)
    (calls : List BuilderCall) :
    field (s.build calls) = ((calls.filterMap set?).getLast?).getD (field s) := by
  induction calls generalizing s with
  | nil => rfl
  | cons call rest ih =>
    have built : s.build (call :: rest) = (s.apply call).build rest := rfl
    rw [built, ih, step]
    cases hcall : set? call with
    | none => simp [hcall]
    | some given =>
      simp only [List.filterMap_cons, hcall, List.getLast?_cons]
      cases (rest.filterMap set?).getLast? <;> rfl

/-- The exclusion of settings is the last that was set. -/
theorem exclusion_build (s : Settings) (calls : List BuilderCall) :
    (s.build calls).exclusion =
      ((calls.filterMap BuilderCall.exclusion?).getLast?).or s.exclusion := by
  have step : ∀ (s : Settings) call,
      (s.apply call).exclusion = (call.exclusion?.map some).getD s.exclusion := by
    intro s call
    cases call with
    | suffix given => rfl
    | exclude test => rfl
    | excludeNames names =>
      simp only [apply, BuilderCall.exclusion?]
      split <;> rfl
  rw [field_build step, ← List.map_filterMap, List.getLast?_map]
  cases (calls.filterMap BuilderCall.exclusion?).getLast? <;> rfl

/-- The builder leaves the loader alone. -/
theorem loader_build (s : Settings) (calls : List BuilderCall) :
    (s.build calls).loader = s.loader := by
  induction calls generalizing s with
  | nil => rfl
  | cons call rest ih =>
    have kept : (s.apply call).loader = s.loader := by
      cases call with
      | suffix given => rfl
      | exclude test => rfl
      | excludeNames names =>
        simp only [apply]
        split <;> rfl
    exact (ih (s.apply call)).trans kept

/-- A name is left out when the last exclusion that was set matches it. -/
theorem admits_build {loader : Loader} {reporter : Reporter} {calls : List BuilderCall}
    {name : String} :
    ((initial loader reporter).build calls).Admits name ↔
      ∀ test, (calls.filterMap BuilderCall.exclusion?).getLast? = some test →
        test name = false := by
  rw [Admits, exclusion_build, initial, Option.or_none]

/-! ## 2. The candidates of a directory -/

/-- The directory has a candidate of this name: an entry whose name spells it and ends in the suffix,
    which is no directory itself and is not left out. -/
def Holds (s : Settings) (fs : FileSystem) (directory : Path) (name : String) : Prop :=
  ∃ e, fs.Lists directory e ∧ Utf8.decode? e.name = some name ∧
    HasExtension name.toList s.suffix.toList ∧ e.isDirectory = false ∧ s.Admits name

theorem mem_candidatesIn_iff {s : Settings} {fs : FileSystem} {directory : Path} {name : String} :
    name ∈ s.candidatesIn fs directory ↔ s.Holds fs directory name := by
  unfold candidatesIn Holds FileSystem.Lists
  cases hlist : fs.list directory with
  | error cause => simp
  | ok entries =>
    have hdir := FileSystem.isDirectory_of_list hlist
    simp [hdir, candidateName?_eq_some_iff, standing_eq_candidate_iff]

/-- The candidates of one directory have different names. -/
theorem nodup_candidatesOf (s : Settings) {fs : FileSystem} (named : fs.WellNamed)
    (directory : Path) : ((s.candidatesOf fs [directory]).map Prod.snd).Nodup := by
  simp only [candidatesOf, List.flatMap_singleton, List.map_map, Function.comp_def, List.map_id']
  exact nodup_of_pairwise_lt (s.candidatesIn_pairwise named.reordered directory)

end Settings

/-! ## 3. What a scan leads to -/

namespace Context

/-- The plugin that a candidate becomes in a context, if its name is free. -/
def admission? (ctx : Context) (fs : FileSystem) (candidate : Path × String) : Option Plugin :=
  if ctx.plugins.has candidate.2 then none
  else ctx.settings.loader.pluginAt? ctx.types fs candidate.1 candidate.2

/-- The files that a loader which counts is asked for: those of candidates whose names are free. -/
def asked (ctx : Context) (candidates : List (Path × String)) : List Path :=
  if ctx.settings.loader.counts then
    (candidates.filter fun candidate => !ctx.plugins.has candidate.2).map Prod.fst
  else []

theorem name_of_admission? {ctx : Context} {fs : FileSystem} {candidate : Path × String}
    {p : Plugin} (h : ctx.admission? fs candidate = some p) : p.name = candidate.2 := by
  unfold admission? at h
  split at h
  · cases h
  · exact (Loader.pluginAt?_eq_some_iff.mp h).2.2.2.2

theorem consider_fst_eq_isSome (ctx : Context) (fs : FileSystem) (mode : FailureMode) (path : Path)
    (name : String) :
    (ctx.consider fs mode path name).1 = (ctx.admission? fs (path, name)).isSome := by
  rw [consider_fst, admission?]
  cases ctx.plugins.has name <;> simp

theorem plugins_consider_eq_append (ctx : Context) (fs : FileSystem) (mode : FailureMode)
    (path : Path) (name : String) :
    (ctx.consider fs mode path name).2.plugins.plugins =
      ctx.plugins.plugins ++ (ctx.admission? fs (path, name)).toList := by
  rw [plugins_consider, admission?]
  cases ctx.plugins.has name <;> simp

/-- The candidates were passed as the context at the start decides about each of them. -/
structure Follows (start : Context) (fs : FileSystem) (past : List (Path × String))
    (stats : ScanStats) (ctx : Context) : Prop where
  types : ctx.types = start.types
  plugins : ctx.plugins.plugins = start.plugins.plugins ++ past.filterMap (start.admission? fs)
  opened : ctx.opened = start.opened ++ start.asked past
  registered : stats.registered = (past.filterMap (start.admission? fs)).length

section Follows

variable {start ctx : Context} {fs : FileSystem} {past : List (Path × String)} {stats : ScanStats}

/-- A name that was not passed is as free as it was at the start. -/
theorem Follows.has_eq (f : start.Follows fs past stats ctx) {name : String}
    (new : name ∉ past.map Prod.snd) : ctx.plugins.has name = start.plugins.has name := by
  have missing : ((past.filterMap (start.admission? fs)).any fun p => p.name = name) = false := by
    rw [List.any_eq_false]
    intro p hp same
    obtain ⟨candidate, passed, admitted⟩ := List.mem_filterMap.mp hp
    refine new (List.mem_map.mpr ⟨candidate, passed, ?_⟩)
    rw [← name_of_admission? admitted]
    exact of_decide_eq_true same
  rw [PluginRegistry.has, f.plugins, List.any_append, missing, Bool.or_false]
  rfl

/-- **A candidate of a new name is treated as the context at the start decides.** -/
theorem Follows.consider (f : start.Follows fs past stats ctx)
    (settings : ctx.settings = start.settings) (mode : FailureMode) (path : Path) {name : String}
    (new : name ∉ past.map Prod.snd) :
    start.Follows fs (past ++ [(path, name)]) (stats.tally (ctx.consider fs mode path name).1)
      (ctx.consider fs mode path name).2 := by
  have has := f.has_eq new
  have same : ctx.admission? fs (path, name) = start.admission? fs (path, name) := by
    simp only [admission?, has, settings, f.types]
  refine ⟨(ctx.consider_frame fs mode path name).2.1.trans f.types, ?_, ?_, ?_⟩
  · rw [ctx.plugins_consider_eq_append, same, f.plugins, List.filterMap_append, List.append_assoc]
    cases admitted : start.admission? fs (path, name) <;> simp [admitted]
  · rw [ctx.consider_opened, has, recordOpening, settings]
    cases taken : start.plugins.has name <;> cases counts : start.settings.loader.counts <;>
      simp [f.opened, asked, taken, counts]
  · rw [ctx.consider_fst_eq_isSome, same, List.filterMap_append, List.length_append, ← f.registered]
    cases admitted : start.admission? fs (path, name) <;> simp [admitted, ScanStats.tally]

/-- The steps of a scan follow the context at the start, as long as names are new. -/
theorem follows_passes (start : Context) (fs : FileSystem) (mode : FailureMode) :
    Passes start.settings fs mode fun past state => state.2.settings = start.settings ∧
      ((past.map Prod.snd).Nodup → start.Follows fs past state.1 state.2) where
  settings h := h.1
  note _ _ h := ⟨h.1, fun distinct =>
    ⟨(h.2 distinct).types, (h.2 distinct).plugins, (h.2 distinct).opened, (h.2 distinct).registered⟩⟩
  consider path name h := by
    refine ⟨(consider_frame _ fs mode path name).1.trans h.1, fun distinct => ?_⟩
    rw [List.map_append, List.map_cons, List.map_nil, List.nodup_append] at distinct
    obtain ⟨before, -, apart⟩ := distinct
    exact (h.2 before).consider h.1 mode path fun passed =>
      apart name passed name List.mem_cons_self rfl

/-- **A scan passes the candidates of its directory as the context decides about each of them.** -/
theorem follows_scan (start : Context) (named : fs.WellNamed) (directory : Path)
    (mode : FailureMode) :
    start.Follows fs (start.settings.candidatesOf fs [directory])
      (start.scan fs directory mode).1 (start.scan fs directory mode).2 := by
  have distinct := start.settings.nodup_candidatesOf named directory
  have begun : start.settings = start.settings ∧
      ((([] : List (Path × String)).map Prod.snd).Nodup → start.Follows fs [] ⟨0, 0⟩ start) :=
    ⟨rfl, fun _ => ⟨rfl, by simp, by simp [asked], rfl⟩⟩
  exact ((follows_passes start fs mode).scan directory begun).2 distinct

end Follows

end Context

/-! ## 4. Loaders that read contents -/

/-- What the file at a path exports, if it opens. -/
def Loader.exports? (loader : Loader) (fs : FileSystem) (path : Path) :
    Option (List (String × Option String)) :=
  (loader.load fs path).toOption.map Module.symbols

/-- Files in directories export the same if they have the same content, or neither can be read. -/
def Loader.ReadsContents (loader : Loader) : Prop :=
  ∀ (fs fs' : FileSystem) (path path' : Path), Path.slash ∈ path → Path.slash ∈ path' →
    (fs.read path).toOption = (fs'.read path').toOption →
    loader.exports? fs path = loader.exports? fs' path'

theorem Manifest.extend_symbols {m m' : Module} (same : m.symbols = m'.symbols)
    (es : List Entry) :
    (extend m es).toOption.map Module.symbols = (extend m' es).toOption.map Module.symbols := by
  fun_induction extend m es generalizing m' with
  | case1 m => simpa [extend, Except.toOption] using same
  | case2 m reason rest => rfl
  | case3 m value rest ih => exact ih (by simp [Module.withExport, same])
  | case4 m name rest ih => exact ih (by simp [Module.withExport, same])

theorem Manifest.loader_readsContents : Manifest.loader.ReadsContents := by
  intro fs fs' path path' _ _ same
  simp only [Loader.exports?, loader, load, FileSystem.readText]
  cases hread : fs.read path <;> cases hread' : fs'.read path' <;> rw [hread, hread'] at same
  · rfl
  · cases same
  · cases same
  · obtain rfl := Option.some.inj same
    rename_i content
    cases content with
    | library library => rfl
    | bytes data =>
      cases htext : Utf8.decode? data with
      | none => simp [htext, bind, Except.bind, Except.toOption]
      | some text =>
        have same : (Module.empty path).symbols = (Module.empty path').symbols := rfl
        simp only [htext, bind, Except.bind, Option.elim_some]
        exact extend_symbols same (entries text)

/-! ## 5. Directories that hold the same -/

/-- What a plugin is apart from the module it was opened from. -/
def Plugin.facts (p : Plugin) : String × String × TypeMask :=
  (p.name, p.version, p.mask)

/-- A module has the mask of another if the types answer alike for both. -/
theorem TypeRegistry.classify_congr {types : TypeRegistry} {m m' : Module}
    (agree : ∀ t ∈ types.types, t.accepts m = t.accepts m') :
    types.classify m = types.classify m' :=
  List.foldl_ext _ _ _ fun mask t ht => by rw [agree t ht]

/-- The file becomes the same plugin as another that exports the same, if the types answer alike. -/
theorem Loader.facts_pluginAt? {loader : Loader} {types : TypeRegistry} {fs fs' : FileSystem}
    {path path' : Path} (exports : loader.exports? fs path = loader.exports? fs' path')
    (agree : ∀ t ∈ types.types, ∀ m m', loader.load fs path = .ok m →
      loader.load fs' path' = .ok m' → t.accepts m = t.accepts m') (name : String) :
    (loader.pluginAt? types fs path name).map Plugin.facts =
      (loader.pluginAt? types fs' path' name).map Plugin.facts := by
  unfold exports? at exports
  unfold pluginAt?
  cases hload : loader.load fs path with
  | error reason =>
    cases hload' : loader.load fs' path' with
    | error reason' => rfl
    | ok m' =>
      rw [hload, hload'] at exports
      cases exports
  | ok m =>
    cases hload' : loader.load fs' path' with
    | error reason' =>
      rw [hload, hload'] at exports
      cases exports
    | ok m' =>
      rw [hload, hload'] at exports
      have symbols : m.symbols = m'.symbols := Option.some.inj exports
      have mask : types.classify m = types.classify m' :=
        TypeRegistry.classify_congr fun t ht => agree t ht m m' hload hload'
      simp only [Module.text?, symbols, mask]
      cases (m'.symbols.lookup Abi.version).join with
      | none => rfl
      | some version => cases (types.classify m').isEmpty <;> rfl

/-- The path of an entry has a separator, if the directory can be listed at all. -/
theorem FileSystem.slash_mem_join {fs : FileSystem} {directory : Path} {e : Entry}
    (named : fs.WellNamed) (listed : fs.Lists directory e) :
    Path.slash ∈ directory.join e.name := by
  obtain ⟨entries, hlist, he⟩ := listed
  have relative := (named.isEntryName hlist e he).isAbsolute_eq
  have full : directory.isEmpty = false := by
    cases directory with
    | nil => cases hlist
    | cons b bs => rfl
  unfold Path.join
  simp only [relative, full, Bool.false_eq_true, if_false]
  split
  · rename_i last
    exact List.mem_append_left _ (List.mem_of_getLast? last)
  · simp

/-- The directories hold the same: candidates of the same names, of which the same are taken and the
    others have the same contents. -/
structure Context.HoldAlike (ctx other : Context) (fs fs' : FileSystem) (directory directory' : Path) :
    Prop where
  candidates : ∀ name, ctx.settings.Holds fs directory name ↔ ctx.settings.Holds fs' directory' name
  taken : ∀ name, ctx.settings.Holds fs directory name →
    ctx.plugins.has name = other.plugins.has name
  contents : ∀ name, ctx.settings.Holds fs directory name → ctx.plugins.has name = false →
    (fs.read (directory.join (Path.ofString name))).toOption =
      (fs'.read (directory'.join (Path.ofString name))).toOption

/-- The loader opens the candidates of the same free name alike: both with the same exports, or
    neither. -/
def Context.OpensAlike (ctx : Context) (fs fs' : FileSystem) (directory directory' : Path) : Prop :=
  ∀ name, ctx.settings.Holds fs directory name → ctx.plugins.has name = false →
    ctx.settings.loader.exports? fs (directory.join (Path.ofString name)) =
      ctx.settings.loader.exports? fs' (directory'.join (Path.ofString name))

/-- The types answer alike for the modules of candidates of the same free name. -/
def Context.TypesAgree (ctx : Context) (fs fs' : FileSystem) (directory directory' : Path) : Prop :=
  ∀ name, ctx.settings.Holds fs directory name → ctx.plugins.has name = false →
    ∀ t ∈ ctx.types.types, ∀ m m',
    ctx.settings.loader.load fs (directory.join (Path.ofString name)) = .ok m →
    ctx.settings.loader.load fs' (directory'.join (Path.ofString name)) = .ok m' →
    t.accepts m = t.accepts m'

section Lookalike

variable {ctx other : Context} {fs fs' : FileSystem} {directory directory' : Path}

/-- A loader that opens by contents opens alike in directories that hold the same. -/
theorem Context.HoldAlike.opensAlike (named : fs.WellNamed) (named' : fs'.WellNamed)
    (reads : ctx.settings.loader.ReadsContents)
    (same : ctx.HoldAlike other fs fs' directory directory') :
    ctx.OpensAlike fs fs' directory directory' := by
  intro name held free
  have slash {fs : FileSystem} {directory : Path} (named : fs.WellNamed)
      (held : ctx.settings.Holds fs directory name) :
      Path.slash ∈ directory.join (Path.ofString name) := by
    obtain ⟨e, listed, decoded, -⟩ := held
    rw [Path.ofString, Utf8.encode_of_decode? decoded]
    exact fs.slash_mem_join named listed
  exact reads fs fs' _ _ (slash named held) (slash named' ((same.candidates name).mp held))
    (same.contents name held free)

/-- The candidates become the same plugins in both directories. -/
theorem Context.HoldAlike.facts (settings : other.settings = ctx.settings)
    (types : other.types = ctx.types) (same : ctx.HoldAlike other fs fs' directory directory')
    (opens : ctx.OpensAlike fs fs' directory directory')
    (agree : ctx.TypesAgree fs fs' directory directory') {name : String}
    (held : ctx.settings.Holds fs directory name) :
    (ctx.admission? fs (directory.join (Path.ofString name), name)).map Plugin.facts =
      (other.admission? fs' (directory'.join (Path.ofString name), name)).map Plugin.facts := by
  simp only [admission?, settings, types, ← same.taken name held]
  split
  · rfl
  · rename_i untaken
    have free : ctx.plugins.has name = false := Bool.eq_false_iff.mpr untaken
    exact Loader.facts_pluginAt? (opens name held free) (agree name held free) name

/-- **Directories that hold the same are registered alike**, if they are opened alike and the types
    answer alike. -/
theorem Context.scan_lookalike (named : fs.WellNamed) (named' : fs'.WellNamed)
    (settings : other.settings = ctx.settings) (types : other.types = ctx.types)
    (same : ctx.HoldAlike other fs fs' directory directory')
    (opens : ctx.OpensAlike fs fs' directory directory')
    (agree : ctx.TypesAgree fs fs' directory directory') (mode mode' : FailureMode) :
    (other.scan fs' directory' mode').1 = (ctx.scan fs directory mode).1 ∧
    ∃ new new',
      (ctx.scan fs directory mode).2.plugins.plugins = ctx.plugins.plugins ++ new ∧
      (other.scan fs' directory' mode').2.plugins.plugins = other.plugins.plugins ++ new' ∧
      new.map Plugin.facts = new'.map Plugin.facts := by
  have follows := ctx.follows_scan named directory mode
  have follows' := other.follows_scan named' directory' mode'
  have counted := ctx.counted_scan fs mode directory
  have counted' := other.counted_scan fs' mode' directory'
  rw [settings] at follows' counted'
  have names : ctx.settings.candidatesIn fs directory = ctx.settings.candidatesIn fs' directory' :=
    eq_of_pairwise_lt (ctx.settings.candidatesIn_pairwise named.reordered directory)
      (ctx.settings.candidatesIn_pairwise named'.reordered directory') fun name => by
        rw [Settings.mem_candidatesIn_iff, Settings.mem_candidatesIn_iff, same.candidates]
  simp only [Settings.candidatesOf, List.flatMap_singleton] at follows counted
  simp only [Settings.candidatesOf, List.flatMap_singleton, ← names] at follows' counted'
  have facts : (((ctx.settings.candidatesIn fs directory).map fun name =>
        (directory.join (Path.ofString name), name)).filterMap (ctx.admission? fs)).map Plugin.facts =
      (((ctx.settings.candidatesIn fs directory).map fun name =>
        (directory'.join (Path.ofString name), name)).filterMap
          (other.admission? fs')).map Plugin.facts := by
    simp only [List.filterMap_map, List.map_filterMap]
    exact List.filterMap_congr fun name held => same.facts settings types opens agree
      (Settings.mem_candidatesIn_iff.mp held)
  have registered : (other.scan fs' directory' mode').1.registered =
      (ctx.scan fs directory mode).1.registered := by
    have lengths := congrArg List.length facts
    rw [List.length_map, List.length_map] at lengths
    rw [follows.registered, follows'.registered, lengths]
  refine ⟨?_, _, _, follows.plugins, follows'.plugins, facts⟩
  rw [List.length_map] at counted counted'
  cases hscan : (ctx.scan fs directory mode).1
  cases hscan' : (other.scan fs' directory' mode').1
  rw [hscan] at registered counted
  rw [hscan'] at registered counted'
  simp only at registered counted counted'
  simp only [ScanStats.mk.injEq]
  omega

/-- Types that look at nothing but exports answer alike where the loader opens alike. -/
theorem Context.OpensAlike.typesAgree (opens : ctx.OpensAlike fs fs' directory directory')
    (exports : ∀ t ∈ ctx.types.types, ∀ m m' : Module, m.symbols = m'.symbols →
      t.accepts m = t.accepts m') :
    ctx.TypesAgree fs fs' directory directory' := by
  intro name held free t ht m m' hload hload'
  have opened := opens name held free
  rw [Loader.exports?, Loader.exports?, hload, hload'] at opened
  exact exports t ht m m' (Option.some.inj opened)

end Lookalike

/-! ## 6. All of it -/

namespace Context

/-- A name that is taken is refused before anything is opened. -/
theorem consider_taken {ctx : Context} {name : String} (has : ctx.plugins.has name = true)
    (fs : FileSystem) (mode : FailureMode) (path : Path) :
    (ctx.consider fs mode path name).2.opened = ctx.opened ∧
    (ctx.consider fs mode path name).2.handles = ctx.handles := by
  rw [consider_eq, if_pos has]
  exact ⟨(ctx.reject_frame mode _).2.2.2.2.1, (ctx.reject_frame mode _).2.2.2.2.2⟩

/-- A plugin that passed the examination is never refused by the registry. -/
theorem append_of_examine {ctx after : Context} {fs : FileSystem} {path : Path} {name : String}
    {p : Plugin} (h : ctx.examine fs path name = (.ok p, after)) :
    ∃ r, after.plugins.append p = .ok r := by
  unfold examine openFile at h
  split at h
  · cases h
  · rename_i free
    simp only [recordOpening_frame] at h
    cases load : ctx.settings.loader.load fs path with
    | error reason =>
      rw [load] at h
      cases h
    | ok m =>
      simp only [load, recordOpening_frame, acquire_frame] at h
      split at h
      · cases h
      · split at h
        · cases h
        · obtain ⟨accepted, rfl⟩ := Prod.mk.inj h
          obtain rfl := Except.ok.inj accepted
          exact ⟨_, if_neg (by simp [free])⟩

/-- The names of a directory that a scan opens, in the order in which it opens them. -/
theorem opened_scan (ctx : Context) {fs : FileSystem} (named : fs.WellNamed) (directory : Path)
    (mode : FailureMode) :
    ∃ names : List String, names.Pairwise (fun m n => Utf8.encode m < Utf8.encode n) ∧
      (∀ name, name ∈ names ↔
        ctx.settings.Holds fs directory name ∧ ctx.plugins.has name = false) ∧
      (ctx.scan fs directory mode).2.opened = ctx.opened ++
        if ctx.settings.loader.counts
        then names.map fun name => directory.join (Path.ofString name) else [] := by
  have sorted := ctx.settings.candidatesIn_pairwise named.reordered directory
  refine ⟨(ctx.settings.candidatesIn fs directory).filter fun name => !ctx.plugins.has name,
    sorted.filter _, fun name => ?_, ?_⟩
  · rw [List.mem_filter, Settings.mem_candidatesIn_iff, Bool.not_eq_true']
  · rw [(ctx.follows_scan named directory mode).opened, asked, Settings.candidatesOf,
      List.flatMap_singleton, List.filter_map, List.map_map]
    rfl

end Context

/-- **A scan opens the candidates whose names are free, and nothing else.** It asks for the file of
    each of them once, in the byte order of the names. A candidate is an entry whose name is text and
    ends in the suffix, which is no directory itself, and which the last exclusion that the builder
    was given does not match. A name that is taken is never opened, and the registry never refuses a
    plugin that passed the examination. In directories that hold the same candidates, of which the
    same are taken and the others have the same contents, a scan counts the same and registers the
    same names, versions and masks, whatever else the directories hold, if the loader opens the files
    of one name alike and the types answer alike for their modules. A loader that opens by contents,
    as that of manifests does, opens them alike; and then types answer alike if they look at nothing
    but exports. -/
theorem scan_opens (loader : Loader) (reporter : Reporter) (calls : List BuilderCall)
    (ctx : Context) (built : ctx.settings = (Settings.initial loader reporter).build calls)
    (fs : NamedFiles) (directory : Path) (mode : FailureMode) :
    (∃ names : List String, names.Pairwise (fun m n => Utf8.encode m < Utf8.encode n) ∧
      (∀ name, name ∈ names ↔
        (∃ e, fs.Lists directory e ∧ Utf8.decode? e.name = some name ∧
          HasExtension name.toList ctx.settings.suffix.toList ∧ e.isDirectory = false) ∧
        (∀ test, (calls.filterMap BuilderCall.exclusion?).getLast? = some test →
          test name = false) ∧
        ctx.plugins.has name = false) ∧
      (ctx.scan fs directory mode).2.opened = ctx.opened ++
        if loader.counts then names.map fun name => directory.join (Path.ofString name) else []) ∧
    (∀ (c : Context) path name, c.plugins.has name = true →
      (c.consider fs mode path name).2.opened = c.opened ∧
      (c.consider fs mode path name).2.handles = c.handles) ∧
    (∀ (c : Context) path name p after, c.examine fs path name = (.ok p, after) →
      ∃ r, after.plugins.append p = .ok r) ∧
    (∀ (other : Context) (fs' : NamedFiles) directory' mode',
      other.settings = ctx.settings → other.types = ctx.types →
      ctx.HoldAlike other fs fs' directory directory' →
      (ctx.OpensAlike fs fs' directory directory' → ctx.TypesAgree fs fs' directory directory' →
        (other.scan fs' directory' mode').1 = (ctx.scan fs directory mode).1 ∧
        ∃ new new',
          (ctx.scan fs directory mode).2.plugins.plugins = ctx.plugins.plugins ++ new ∧
          (other.scan fs' directory' mode').2.plugins.plugins = other.plugins.plugins ++ new' ∧
          new.map Plugin.facts = new'.map Plugin.facts) ∧
      (loader.ReadsContents → ctx.OpensAlike fs fs' directory directory') ∧
      (ctx.OpensAlike fs fs' directory directory' →
        (∀ t ∈ ctx.types.types, ∀ m m' : Module, m.symbols = m'.symbols →
          t.accepts m = t.accepts m') →
        ctx.TypesAgree fs fs' directory directory')) ∧
    Manifest.loader.ReadsContents := by
  obtain ⟨fs, named⟩ := fs
  have loads : ctx.settings.loader = loader := by
    rw [built, Settings.loader_build]
    rfl
  refine ⟨?_, fun c path name has => Context.consider_taken has fs mode path,
    fun c path name p after h => Context.append_of_examine h, ?_,
    Manifest.loader_readsContents⟩
  · obtain ⟨names, sorted, mem, opened⟩ := ctx.opened_scan named directory mode
    rw [loads] at opened
    refine ⟨names, sorted, fun name => (mem name).trans ?_, opened⟩
    have admitted : ctx.settings.Admits name ↔
        ∀ test, (calls.filterMap BuilderCall.exclusion?).getLast? = some test →
          test name = false := by
      rw [built, Settings.admits_build]
    simp only [Settings.Holds, admitted, ← and_assoc, exists_and_right]
  · rintro other ⟨fs', named'⟩ directory' mode' settings types same
    refine ⟨fun opens agree => Context.scan_lookalike named named' settings types same opens agree
      mode mode', fun reads => ?_, Context.OpensAlike.typesAgree⟩
    exact same.opensAlike named named' (loads ▸ reads)

/-! ### Two directories with one copy each -/

/-- The directories `a` and `b`, each with the same good file `x.mod`. -/
def sameCopies : FileSystem :=
  .copies (Manifest.ofLines ["version=1", "symbol=plugin_register"])
    (Manifest.ofLines ["version=1", "symbol=plugin_register"])

/-- Settings for modules that end in `mod`. -/
def modSettings (loader : Loader) : Settings :=
  ⟨"mod", none, loader, .memory⟩

/-- Both directories hold the candidate `x.mod`, and no other. -/
theorem candidatesIn_sameCopies (loader : Loader) {directory : Path}
    (h : directory = Path.ofString "/a" ∨ directory = Path.ofString "/b") :
    (modSettings loader).candidatesIn sameCopies directory = ["x.mod"] := by
  rcases h with rfl | rfl <;> cbv

theorem holdAlike_sameCopies {ctx : Context} {loader : Loader}
    (settings : ctx.settings = modSettings loader) :
    ctx.HoldAlike ctx sameCopies sameCopies (Path.ofString "/a") (Path.ofString "/b") where
  candidates name := by
    rw [settings, ← Settings.mem_candidatesIn_iff, ← Settings.mem_candidatesIn_iff,
      candidatesIn_sameCopies loader (Or.inl rfl), candidatesIn_sameCopies loader (Or.inr rfl)]
  taken _ _ := rfl
  contents name held _ := by
    rw [settings, ← Settings.mem_candidatesIn_iff, candidatesIn_sameCopies loader (Or.inl rfl),
      List.mem_singleton] at held
    subst held
    cbv

/-- A scan of `a` opens the copy in it, and a scan of `b` counts the same. -/
theorem scan_opens_sameCopies :
    dissectorContext.settings = (Settings.initial Manifest.loader .memory).build [.suffix "mod"] ∧
    Path.ofString "/a/x.mod" ∈
      (dissectorContext.scan sameCopies (Path.ofString "/a") .silent).2.opened ∧
    (dissectorContext.scan sameCopies (Path.ofString "/b") .silent).1 =
      (dissectorContext.scan sameCopies (Path.ofString "/a") .silent).1 := by
  have named : sameCopies.WellNamed := FileSystem.copies_wellNamed _ _
  have suffix : Settings.bareSuffix "mod" = "mod" := by decide
  have built : dissectorContext.settings =
      (Settings.initial Manifest.loader .memory).build [.suffix "mod"] := by
    rw [show (Settings.initial Manifest.loader .memory).build [.suffix "mod"] =
      ⟨Settings.bareSuffix "mod", none, Manifest.loader, .memory⟩ from rfl, suffix]
    rfl
  obtain ⟨⟨names, -, mem, opened⟩, -, -, alike, reads⟩ := scan_opens Manifest.loader .memory
    [.suffix "mod"] dissectorContext built ⟨sameCopies, named⟩ (Path.ofString "/a") .silent
  have held : "x.mod" ∈ names := by
    have candidate : "x.mod" ∈ dissectorContext.settings.candidatesIn sameCopies
        (Path.ofString "/a") := by
      rw [show dissectorContext.settings = modSettings Manifest.loader from rfl,
        candidatesIn_sameCopies Manifest.loader (Or.inl rfl)]
      exact List.mem_singleton_self _
    obtain ⟨e, listed, decoded, ends, file, -⟩ := Settings.mem_candidatesIn_iff.mp candidate
    exact (mem "x.mod").mpr ⟨⟨e, listed, decoded, ends, file⟩, fun test h => (by cases h), rfl⟩
  have exports : ∀ t ∈ dissectorContext.types.types, ∀ m m' : Module, m.symbols = m'.symbols →
      t.accepts m = t.accepts m' := by
    intro t ht m m' same
    obtain rfl := List.mem_singleton.mp ht
    simp [PluginType.requiresSymbol, Module.exports, same]
  obtain ⟨counts, opens, agree⟩ := alike dissectorContext ⟨sameCopies, named⟩
    (Path.ofString "/b") .silent rfl rfl (holdAlike_sameCopies rfl)
  refine ⟨built, ?_, (counts (opens reads) (agree (opens reads) exports)).1⟩
  rw [opened]
  refine List.mem_append_right _ (List.mem_map.mpr ⟨"x.mod", held, ?_⟩)
  cbv

/-! ### Types and loaders that look at paths -/

/-- A new context with a type that accepts the module of one path alone. -/
def pickyContext : Context :=
  ((Context.fresh (modSettings Manifest.loader)).registerType "picky" fun m =>
    decide (m.path = Path.ofString "/a/x.mod")).2

/-- A loader that opens the manifest of one path alone. -/
def pickyLoader : Loader where
  load fs path :=
    if path = Path.ofString "/a/x.mod" then Manifest.load fs path else .error "not here"
  counts := true
  announces := false
  path_of_load h := by
    split at h
    · exact Manifest.path_of_load h
    · cases h

/-- A new context with this loader and the type of dissectors. -/
def pickyLoading : Context :=
  ((Context.fresh (modSettings pickyLoader)).registerType "dissector"
    (PluginType.requiresSymbol Abi.dissector)).2

/-- The counters of a scan that passes one candidate. -/
theorem Context.scan_single (ctx : Context) {fs : FileSystem} (named : fs.WellNamed)
    {directory : Path} (mode : FailureMode) {candidate : Path × String}
    (alone : ctx.settings.candidatesOf fs [directory] = [candidate]) :
    (ctx.scan fs directory mode).1 =
      ScanStats.tally ⟨0, 0⟩ (ctx.admission? fs candidate).isSome := by
  have follows := ctx.follows_scan named directory mode
  have counted := ctx.counted_scan fs mode directory
  rw [alone] at follows counted
  have registered := follows.registered
  cases hscan : (ctx.scan fs directory mode).1 with
  | mk accepted refused =>
    rw [hscan] at registered counted
    cases hadmitted : ctx.admission? fs candidate with
    | none =>
      obtain rfl : accepted = 0 := by simpa [hadmitted] using registered
      obtain rfl : refused = 1 := by simpa using counted
      rfl
    | some p =>
      obtain rfl : accepted = 1 := by simpa [hadmitted] using registered
      obtain rfl : refused = 0 := by simpa using counted
      rfl

/-- The module of either copy. -/
def copyAt (path : Path) : Module :=
  ⟨path, [("plugin_register", some ""), (Abi.version, some "1")]⟩

theorem load_sameCopies {path : Path}
    (h : path = Path.ofString "/a/x.mod" ∨ path = Path.ofString "/b/x.mod") :
    Manifest.load sameCopies path = .ok (copyAt path) := by
  have text : sameCopies.readText path = .ok "version=1\nsymbol=plugin_register" := by
    rcases h with rfl | rfl <;> cbv
  have entries : Manifest.entries "version=1\nsymbol=plugin_register" =
      [.version "1", .symbol "plugin_register"] := by decide
  simp only [Manifest.load, text, Manifest.ofText, entries]
  rfl

theorem version_copyAt (path : Path) : (copyAt path).text? Abi.version = some "1" := by
  have exported : (([("plugin_register", some ""), (Abi.version, some "1")] :
      List (String × Option String)).lookup Abi.version).join = some "1" := by decide
  exact exported

/-- A copy that opens becomes a plugin if the types accept its module. -/
theorem Context.admission?_copyAt {ctx : Context} {fs : FileSystem} {path : Path}
    (free : ctx.plugins.has "x.mod" = false)
    (opens : ctx.settings.loader.load fs path = .ok (copyAt path)) :
    (ctx.admission? fs (path, "x.mod")).isSome = !(ctx.types.classify (copyAt path)).isEmpty := by
  rw [admission?, free, if_neg Bool.false_ne_true]
  simp only [Loader.pluginAt?, opens, version_copyAt]
  cases (ctx.types.classify (copyAt path)).isEmpty <;> rfl

/-- A type that looks at paths takes one copy and not the other. -/
theorem admission?_pickyContext {path : Path}
    (h : path = Path.ofString "/a/x.mod" ∨ path = Path.ofString "/b/x.mod") :
    (pickyContext.admission? sameCopies (path, "x.mod")).isSome =
      decide (path = Path.ofString "/a/x.mod") := by
  have classify : pickyContext.types.classify (copyAt path) =
      if decide (path = Path.ofString "/a/x.mod") then TypeMask.set .empty 0 else .empty := rfl
  rw [Context.admission?_copyAt rfl (load_sameCopies h), classify]
  cases decide (path = Path.ofString "/a/x.mod") <;> rfl

/-- A loader that looks at paths opens one copy and not the other. -/
theorem admission?_pickyLoading {path : Path}
    (h : path = Path.ofString "/a/x.mod" ∨ path = Path.ofString "/b/x.mod") :
    (pickyLoading.admission? sameCopies (path, "x.mod")).isSome =
      decide (path = Path.ofString "/a/x.mod") := by
  by_cases here : path = Path.ofString "/a/x.mod"
  · have opens : pickyLoading.settings.loader.load sameCopies path = .ok (copyAt path) :=
      (if_pos here).trans (load_sameCopies h)
    have classify : pickyLoading.types.classify (copyAt path) = TypeMask.set .empty 0 := rfl
    rw [Context.admission?_copyAt rfl opens, classify, decide_eq_true here]
    rfl
  · have opens : pickyLoading.settings.loader.load sameCopies path = .error "not here" :=
      if_neg here
    have free : pickyLoading.plugins.has "x.mod" = false := rfl
    rw [Context.admission?, free, if_neg Bool.false_ne_true, decide_eq_false here]
    simp only [Loader.pluginAt?, opens]
    rfl

/-- **Directories that hold the same need not be registered alike**: a type may look at paths, though
    the loader opens by contents, and a loader may look at paths, though the types look at nothing but
    exports. -/
theorem paths_distinguish :
    sameCopies.WellNamed ∧
    (pickyContext.settings.loader.ReadsContents ∧
      pickyContext.HoldAlike pickyContext sameCopies sameCopies (Path.ofString "/a")
        (Path.ofString "/b") ∧
      (pickyContext.scan sameCopies (Path.ofString "/a") .silent).1 = ⟨1, 0⟩ ∧
      (pickyContext.scan sameCopies (Path.ofString "/b") .silent).1 = ⟨0, 1⟩) ∧
    (∀ t ∈ pickyLoading.types.types, ∀ m m' : Module, m.symbols = m'.symbols →
        t.accepts m = t.accepts m') ∧
      pickyLoading.HoldAlike pickyLoading sameCopies sameCopies (Path.ofString "/a")
        (Path.ofString "/b") ∧
      (pickyLoading.scan sameCopies (Path.ofString "/a") .silent).1 = ⟨1, 0⟩ ∧
      (pickyLoading.scan sameCopies (Path.ofString "/b") .silent).1 = ⟨0, 1⟩ := by
  have named : sameCopies.WellNamed := FileSystem.copies_wellNamed _ _
  have candidates (loader : Loader) {directory : Path}
      (h : directory = Path.ofString "/a" ∨ directory = Path.ofString "/b") :
      (modSettings loader).candidatesOf sameCopies [directory] =
        [(directory.join (Path.ofString "x.mod"), "x.mod")] := by
    rw [Settings.candidatesOf, List.flatMap_singleton, candidatesIn_sameCopies loader h,
      List.map_singleton]
  have a : (Path.ofString "/a").join (Path.ofString "x.mod") = Path.ofString "/a/x.mod" := by cbv
  have b : (Path.ofString "/b").join (Path.ofString "x.mod") = Path.ofString "/b/x.mod" := by cbv
  have apart : ¬Path.ofString "/b/x.mod" = Path.ofString "/a/x.mod" := by decide
  refine ⟨named, ⟨Manifest.loader_readsContents, holdAlike_sameCopies rfl, ?_, ?_⟩, ?_,
    holdAlike_sameCopies rfl, ?_, ?_⟩
  · rw [pickyContext.scan_single named .silent (candidates _ (Or.inl rfl)), a,
      admission?_pickyContext (Or.inl rfl), decide_eq_true rfl]
    rfl
  · rw [pickyContext.scan_single named .silent (candidates _ (Or.inr rfl)), b,
      admission?_pickyContext (Or.inr rfl), decide_eq_false apart]
    rfl
  · intro t ht m m' same
    obtain rfl := List.mem_singleton.mp ht
    simp [PluginType.requiresSymbol, Module.exports, same]
  · rw [pickyLoading.scan_single named .silent (candidates _ (Or.inl rfl)), a,
      admission?_pickyLoading (Or.inl rfl), decide_eq_true rfl]
    rfl
  · rw [pickyLoading.scan_single named .silent (candidates _ (Or.inr rfl)), b,
      admission?_pickyLoading (Or.inr rfl), decide_eq_false apart]
    rfl

end PluginDiscovery
