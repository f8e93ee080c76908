import Mathlib
import PluginDiscovery.Proofs.DiscoveryReference
import PluginDiscovery.Proofs.ReorderedTrees

/-!
# The order of a listing does not matter

Plans and scans sort what a listing yields before anything else is done with it. In file systems that
differ in the order of entries alone, plans are the same, and scans and discoveries answer the same
and leave the same context behind, with all its ledgers.

* `Layout.subdirectories_eq`: the subdirectories of a directory, in the byte order of their names;
* `plan_alike`, `scan_alike`, `discover_alike`: the same in both file systems;
* `candidatesIn_pairwise`: the candidates of a directory, in the byte order of their names;
* `OpensAmong`, `opensAmong_passes`: what is opened is among the candidates, in their order;
* `enumeration_order_irrelevant`: all of it.
-/

namespace PluginDiscovery

/-! ## 1. Sorted names -/

/-- Names in their byte order. -/
def sortNames (names : List Bytes) : List Bytes :=
  names.mergeSort fun m n => decide (m ≤ n)

theorem sortNames_pairwise (names : List Bytes) : (sortNames names).Pairwise (· ≤ ·) := by
  have sorted : (sortNames names).Pairwise fun m n => decide (m ≤ n) = true :=
    List.pairwise_mergeSort
      (fun a b c hab hbc => by
        simp only [decide_eq_true_iff] at *
        exact List.le_trans hab hbc)
      (fun a b => by
        simp only [Bool.or_eq_true, decide_eq_true_iff]
        exact List.le_total _ _) names
  exact sorted.imp of_decide_eq_true

/-- Rearranged names are sorted alike. -/
theorem sortNames_of_perm {names names' : List Bytes} (h : names.Perm names') :
    sortNames names = sortNames names' :=
  List.Perm.eq_of_pairwise (fun _ _ _ _ hab hba => List.le_antisymm hab hba)
    (sortNames_pairwise names) (sortNames_pairwise names')
    ((List.mergeSort_perm names _).trans (h.trans (List.mergeSort_perm names' _).symm))

/-- Distinct names in their byte order come strictly after each other. -/
theorem lt_of_pairwise_le {names : List Bytes} (sorted : names.Pairwise (· ≤ ·))
    (distinct : names.Nodup) : names.Pairwise (· < ·) :=
  (sorted.and distinct).imp fun ⟨le, ne⟩ => List.not_le.mp fun ge => ne (List.le_antisymm le ge)

theorem nodup_of_pairwise_lt {α : Type} {k : α → Bytes} {l : List α}
    (sorted : l.Pairwise fun a b => k a < k b) : l.Nodup :=
  sorted.imp fun lt => by
    rintro rfl
    exact List.lt_irrefl _ lt

/-- What is in strict order of keys is determined by its members. -/
theorem eq_of_pairwise_lt {α : Type} {k : α → Bytes} {l l' : List α}
    (sorted : l.Pairwise fun a b => k a < k b) (sorted' : l'.Pairwise fun a b => k a < k b)
    (same : ∀ a, a ∈ l ↔ a ∈ l') : l = l' := by
  refine List.Perm.eq_of_pairwise (fun a b _ _ hab hba => ?_) sorted sorted'
    ((List.perm_ext_iff_of_nodup (nodup_of_pairwise_lt sorted)
      (nodup_of_pairwise_lt sorted')).mpr same)
  exact absurd (List.lt_trans hab hba) (List.lt_irrefl (k a))

/-- Rearranged entries with distinct names are sorted alike. -/
theorem sortEntries_of_perm {es es' : List FileSystem.Entry} (h : es.Perm es')
    (distinct : (es.map FileSystem.Entry.name).Nodup) : sortEntries es = sortEntries es' := by
  refine List.Perm.eq_of_pairwise (fun a b ha hb hab hba => ?_) (sortEntries_pairwise es)
    (sortEntries_pairwise es')
    ((List.mergeSort_perm es _).trans (h.trans (List.mergeSort_perm es' _).symm))
  have ha : a ∈ es := List.mem_mergeSort.mp ha
  have hb : b ∈ es := h.mem_iff.mpr (List.mem_mergeSort.mp hb)
  exact List.inj_on_of_nodup_map distinct ha hb (List.le_antisymm hab hba)

/-! ## 2. Plans -/

namespace Layout

/-- **The subdirectories of a directory are in the byte order of their names.** -/
theorem subdirectories_eq (fs : FileSystem) (directory : Path) {es : List FileSystem.Entry}
    (proper : ∀ e ∈ es, Path.IsEntryName e.name) :
    subdirectories fs directory es =
      (sortNames ((es.map FileSystem.Entry.name).filter fun name =>
        fs.isDirectory (directory.join name))).map directory.join := by
  have proper : ∀ name ∈ (es.map FileSystem.Entry.name).filter fun name =>
      fs.isDirectory (directory.join name), Path.IsEntryName name := fun name h => by
    obtain ⟨e, he, rfl⟩ := List.mem_map.mp (List.mem_filter.mp h).1
    exact proper e he
  have paths : (es.map fun e => directory.join e.name).filter fs.isDirectory =
      ((es.map FileSystem.Entry.name).filter fun name =>
        fs.isDirectory (directory.join name)).map directory.join := by
    have joined : (es.map fun e => directory.join e.name) =
        (es.map FileSystem.Entry.name).map directory.join := by
      rw [List.map_map]
      rfl
    rw [joined, List.filter_map]
    rfl
  rw [subdirectories, paths, sortNames, List.map_mergeSort (s := Path.le)]
  intro m hm n hn
  exact (Path.le_join directory (proper m hm) (proper n hn)).symm

/-- The plan for a build tree. -/
theorem plan_buildTree (layout : Layout) (fs : FileSystem) (privileged : Bool) {primary : Path}
    (primary_eq : layout.primary = some primary) (built : layout.buildTree = true)
    {es : List FileSystem.Entry} (listed : fs.list primary = .ok es) :
    (layout.plan fs privileged).1 =
      primary :: (subdirectories fs primary es).map (builtIn fs layout.buildOutput) ++
        (layout.personalOnly privileged).1 := by
  simp [plan, primary_eq, built, listed]

end Layout

namespace FileSystem

variable {a b : FileSystem}

/-- **The plan does not depend on the order of entries.** -/
theorem Reordered.plan_alike (h : a.Reordered b) (layout : Layout) (privileged : Bool) :
    layout.plan a privileged = layout.plan b privileged := by
  have isDirectory : a.isDirectory = b.isDirectory := funext h.isDirectory_eq
  have builtIn : Layout.builtIn a = Layout.builtIn b := by
    funext output subdirectory
    simp only [Layout.builtIn, isDirectory]
  unfold Layout.plan
  cases layout.primary with
  | none => rfl
  | some primary =>
    have listed := h.list_alike primary
    simp only
    cases layout.buildTree with
    | false => rfl
    | true =>
      generalize a.list primary = x, b.list primary = y at listed
      cases listed with
      | error cause => rfl
      | @ok es es' perm distinct proper =>
        have proper' : ∀ e ∈ es', Path.IsEntryName e.name := fun e he =>
          proper e (perm.mem_iff.mpr he)
        have planned : Layout.subdirectories a primary es =
            Layout.subdirectories b primary es' := by
          rw [Layout.subdirectories_eq a primary proper, Layout.subdirectories_eq b primary proper',
            isDirectory, sortNames_of_perm ((perm.map _).filter _)]
        simp only [planned, builtIn]

/-- **Planned subdirectories are in the byte order of their names.** -/
theorem Reordered.plan_names (h : a.Reordered b) {layout : Layout} {primary : Path}
    (primary_eq : layout.primary = some primary) (built : layout.buildTree = true)
    {es : List Entry} (listed : a.list primary = .ok es) :
    ∃ names : List Bytes, names.Pairwise (· < ·) ∧
      (∀ name, name ∈ names ↔
        (∃ e ∈ es, e.name = name) ∧ a.isDirectory (primary.join name) = true) ∧
      ∀ privileged, (layout.plan a privileged).1 =
        primary :: names.map (fun name =>
          Layout.builtIn a layout.buildOutput (primary.join name)) ++
          (layout.personalOnly privileged).1 := by
  have alike := h.list_alike primary
  rw [listed] at alike
  generalize b.list primary = y at alike
  cases alike with
  | ok perm distinct proper =>
    refine ⟨sortNames ((es.map Entry.name).filter fun name => a.isDirectory (primary.join name)),
      lt_of_pairwise_le (sortNames_pairwise _) ?_, fun name => ?_, fun privileged => ?_⟩
    · -- sorting gives `≤`; that the names are distinct makes it `<`
      exact (List.mergeSort_perm _ _).nodup_iff.mpr (distinct.filter _)
    · rw [sortNames, List.mem_mergeSort, List.mem_filter, List.mem_map]
    · rw [layout.plan_buildTree a privileged primary_eq built listed,
        Layout.subdirectories_eq a primary proper, List.map_map]
      rfl

end FileSystem

/-! ## 3. Scans and discoveries -/

namespace Context

variable {a b : FileSystem} (mode : FailureMode)

theorem consider_congr {ctx : Context} (loads : ctx.settings.loader.load a = ctx.settings.loader.load b)
    (path : Path) (name : String) :
    ctx.consider a mode path name = ctx.consider b mode path name := by
  rw [consider_eq, consider_eq, loads]

theorem settings_scanEntry (fs : FileSystem) (directory : Path) (state : ScanStats × Context)
    (e : FileSystem.Entry) : (scanEntry fs mode directory state e).2.settings = state.2.settings := by
  obtain ⟨stats, c⟩ := state
  cases standing : c.settings.standing e with
  | candidate name =>
    rw [c.scanEntry_candidate fs mode standing]
    exact (c.consider_frame fs mode _ name).1
  | foreign name => simp [scanEntry, standing]
  | other => simp [scanEntry, standing]
  | excluded name => simp [scanEntry, standing]

/-- Entries are scanned alike. -/
theorem entries_alike (directory : Path) (es : List FileSystem.Entry) {state : ScanStats × Context}
    (loads : state.2.settings.loader.load a = state.2.settings.loader.load b) :
    es.foldl (scanEntry a mode directory) state = es.foldl (scanEntry b mode directory) state := by
  induction es generalizing state with
  | nil => rfl
  | cons e rest ih =>
    obtain ⟨stats, c⟩ := state
    have entry : scanEntry a mode directory (stats, c) e =
        scanEntry b mode directory (stats, c) e := by
      simp only [scanEntry, consider_congr mode loads]
    rw [List.foldl_cons, List.foldl_cons, ← entry]
    exact ih (by rw [settings_scanEntry]; exact loads)

theorem settings_entries (fs : FileSystem) (directory : Path) (es : List FileSystem.Entry)
    (state : ScanStats × Context) :
    (es.foldl (scanEntry fs mode directory) state).2.settings = state.2.settings := by
  induction es generalizing state with
  | nil => rfl
  | cons e rest ih => rw [List.foldl_cons, ih, settings_scanEntry]

theorem settings_scan (ctx : Context) (fs : FileSystem) (directory : Path) :
    (ctx.scan fs directory mode).2.settings = ctx.settings := by
  unfold scan
  split
  · rfl
  · split
    · rfl
    · exact settings_entries mode fs directory _ (⟨0, 0⟩, ctx)

variable (same : a.Reordered b) {ctx : Context} (order : ctx.settings.loader.IgnoresOrder)

include same order

/-- **A scan does not depend on the order of entries.** -/
theorem scan_alike (directory : Path) : ctx.scan a directory mode = ctx.scan b directory mode := by
  have listed := same.list_alike directory
  unfold scan
  rw [same.isDirectory_eq]
  generalize a.list directory = x, b.list directory = y at listed
  cases listed with
  | error cause => rfl
  | ok perm distinct _ =>
    have loads : ((⟨0, 0⟩, ctx) : ScanStats × Context).2.settings.loader.load a =
        ctx.settings.loader.load b := order a b same
    simp only [sortEntries_of_perm perm distinct, entries_alike mode directory _ loads]

/-- Scans of directories do not depend on the order of entries. -/
theorem scanAll_alike (directories : List Path) :
    ctx.scanAll a mode directories = ctx.scanAll b mode directories := by
  induction directories generalizing ctx with
  | nil => rfl
  | cons directory rest ih =>
    rw [scanAll_cons, scanAll_cons, ← scan_alike mode same order,
      ih (by rw [settings_scan]; exact order)]

/-- **A discovery does not depend on the order of entries.** -/
theorem discover_alike (layout : Layout) (privileged : Bool) :
    ctx.discover a layout privileged mode = ctx.discover b layout privileged mode := by
  have scanned (c : Context) (kept : c.settings = ctx.settings) (directories : List Path) :
      c.scanAll a mode directories = c.scanAll b mode directories :=
    scanAll_alike mode same (by rw [kept]; exact order) directories
  simp only [discover_eq, pass, same.plan_alike layout privileged]
  rw [scanned ((ctx.noteAll _).mark) rfl]

end Context

/-! ## 4. What is opened, in which order -/

/-- The candidates of a directory come in the byte order of their names. -/
theorem Settings.candidatesIn_pairwise (s : Settings) {a b : FileSystem} (same : a.Reordered b)
    (directory : Path) :
    (s.candidatesIn a directory).Pairwise fun m n => Utf8.encode m < Utf8.encode n := by
  have listed := same.list_alike directory
  unfold candidatesIn
  split
  · generalize a.list directory = x, b.list directory = y at listed
    cases listed with
    | error cause => exact .nil
    | @ok es _ _ distinct _ =>
      have distinct : ((sortEntries es).map FileSystem.Entry.name).Nodup :=
        ((List.mergeSort_perm es _).map _).nodup_iff.mpr distinct
      have sorted := lt_of_pairwise_le
        (List.pairwise_map.mpr (sortEntries_pairwise es)) distinct
      have encoded {e : FileSystem.Entry} {name : String} (h : s.candidateName? e = some name) :
          Utf8.encode name = e.name :=
        (name_of_standing (candidateName?_eq_some_iff.mp h)).symm
      simp only [← candidates_sortEntries]
      refine (List.pairwise_map.mp sorted).filterMap s.candidateName?
        fun e e' hlt name hname name' hname' => ?_
      rwa [encoded hname, encoded hname']
  · exact .nil

/-- The path a module was opened from by a move. -/
def HandleMove.openedFrom? : HandleMove → Option Path
  | .opened path => some path
  | .closed _ => none

/-- The files whose modules were opened, in the order of their opening. -/
def Context.loaded (ctx : Context) : List Path :=
  ctx.handles.filterMap HandleMove.openedFrom?

/-- The paths grew by some of these, in this order. -/
def GrewBy (paths before after : List Path) : Prop :=
  ∃ added : List Path, added.Sublist paths ∧ after = before ++ added

theorem GrewBy.refl (before : List Path) : GrewBy [] before before :=
  ⟨[], List.Sublist.refl [], (List.append_nil before).symm⟩

theorem GrewBy.concat {paths before after later : List Path} (h : GrewBy paths before after)
    {path : Path} (step : later = after ∨ later = after ++ [path]) :
    GrewBy (paths ++ [path]) before later := by
  obtain ⟨added, among, rfl⟩ := h
  rcases step with rfl | rfl
  · exact ⟨added, among.trans (List.sublist_append_left _ _), rfl⟩
  · exact ⟨added ++ [path], among.append (List.Sublist.refl _), List.append_assoc _ _ _⟩

namespace Context

/-- A candidate that is considered is asked for once, or not at all. -/
theorem opened_consider (ctx : Context) (fs : FileSystem) (mode : FailureMode) (path : Path)
    (name : String) :
    (ctx.consider fs mode path name).2.opened = ctx.opened ∨
    (ctx.consider fs mode path name).2.opened = ctx.opened ++ [path] := by
  rw [consider_opened, recordOpening]
  split
  · exact Or.inl rfl
  · split
    · exact Or.inr rfl
    · exact Or.inl rfl

/-- A candidate that is considered is opened once, or not at all. -/
theorem loaded_consider (ctx : Context) (fs : FileSystem) (mode : FailureMode) (path : Path)
    (name : String) :
    (ctx.consider fs mode path name).2.loaded = ctx.loaded ∨
    (ctx.consider fs mode path name).2.loaded = ctx.loaded ++ [path] := by
  have fate := ctx.consider_fate fs mode path name
  generalize ctx.consider fs mode path name = result at fate
  cases fate with
  | taken has => exact Or.inl (by simp [loaded])
  | unloadable reason has load => exact Or.inl (by simp [loaded])
  | unversioned m has load version => exact Or.inr (by simp [loaded, HandleMove.openedFrom?])
  | unclaimed m version has load text mask =>
    exact Or.inr (by simp [loaded, HandleMove.openedFrom?])
  | registered p has plugin => exact Or.inr (by simp [loaded, HandleMove.openedFrom?])

/-- Since the start, files among these were opened, in this order: those the loader was asked for,
    if it counts them, and those whose modules were opened. -/
structure OpensAmong (start : Context) (paths : List Path) (ctx : Context) : Prop where
  settings : ctx.settings = start.settings
  opened : GrewBy paths start.opened ctx.opened
  loaded : GrewBy paths start.loaded ctx.loaded

theorem OpensAmong.refl (start : Context) : start.OpensAmong [] start :=
  ⟨rfl, .refl _, .refl _⟩

/-- The steps of a scan open files among the candidates they pass, in their order. -/
theorem opensAmong_passes (start : Context) (fs : FileSystem) (mode : FailureMode) :
    Passes start.settings fs mode fun past state =>
      start.OpensAmong (past.map Prod.fst) state.2 where
  settings h := h.settings
  note _ _ h := ⟨h.settings, h.opened, h.loaded⟩
  consider path name h := by
    rw [List.map_append]
    exact ⟨(Context.consider_frame _ fs mode path name).1.trans h.settings,
      h.opened.concat (Context.opened_consider _ fs mode path name),
      h.loaded.concat (Context.loaded_consider _ fs mode path name)⟩

/-- **Scans of directories open files among the candidates, in their order.** -/
theorem opensAmong_scanAll (ctx : Context) (fs : FileSystem) (mode : FailureMode)
    (directories : List Path) :
    ctx.OpensAmong ((ctx.settings.candidatesOf fs directories).map Prod.fst)
      (ctx.scanAll fs mode directories).2 := by
  have start : ctx.OpensAmong (([] : List (Path × String)).map Prod.fst) ctx := OpensAmong.refl ctx
  exact (opensAmong_passes ctx fs mode).scanAll directories start

/-- A discovery opens files among the candidates of the directories it gives, in their order. -/
theorem opensAmong_discover (ctx : Context) (fs : FileSystem) (layout : Layout)
    (privileged : Bool) (mode : FailureMode) :
    ctx.OpensAmong ((ctx.settings.candidatesOf fs
        (ctx.discover fs layout privileged mode).1).map Prod.fst)
      (ctx.discover fs layout privileged mode).2 := by
  rw [discover_eq]
  split
  · exact ⟨rfl, .refl _, .refl _⟩
  · split
    · exact ⟨rfl, .refl _, .refl _⟩
    · have scans := opensAmong_scanAll (ctx.noteAll (layout.plan fs privileged).2).mark fs mode
        (layout.plan fs privileged).1
      exact ⟨scans.settings, scans.opened, scans.loaded⟩

end Context

/-! ## 5. All of it -/

/-- **The result does not depend on the order in which directories are enumerated.** In file systems
    that differ in these orders alone every layout has the same plan, and from every context a scan
    answers with the same counters and a discovery with the same directories, and both leave the
    same context behind: registered plugins in their order, opened files, handles, reports and log.
    A loader has to open the same in both for that, as the loader of manifests does. The
    subdirectories in a plan are in the byte order of their names, and so are the candidates of a
    directory; and files are opened in the order of the candidates. -/
theorem enumeration_order_irrelevant (a b : FileSystem) (same : a.Reordered b) (ctx : Context)
    (order : ctx.settings.loader.IgnoresOrder) :
    (∀ (layout : Layout) privileged, layout.plan a privileged = layout.plan b privileged) ∧
    (∀ directory mode, ctx.scan a directory mode = ctx.scan b directory mode) ∧
    (∀ layout privileged mode,
      ctx.discover a layout privileged mode = ctx.discover b layout privileged mode) ∧
    Manifest.loader.IgnoresOrder ∧
    (∀ (layout : Layout) primary entries, layout.primary = some primary →
      layout.buildTree = true → a.list primary = .ok entries →
      ∃ names : List Bytes, names.Pairwise (· < ·) ∧
        (∀ name, name ∈ names ↔
          (∃ e ∈ entries, e.name = name) ∧ a.isDirectory (primary.join name) = true) ∧
        ∀ privileged, (layout.plan a privileged).1 =
          primary :: names.map (fun name =>
            Layout.builtIn a layout.buildOutput (primary.join name)) ++
            (layout.personalOnly privileged).1) ∧
    (∀ directory, (ctx.settings.candidatesIn a directory).Pairwise fun m n =>
      Utf8.encode m < Utf8.encode n) ∧
    (∀ directory mode, ctx.OpensAmong
      ((ctx.settings.candidatesIn a directory).map fun name =>
        directory.join (Path.ofString name))
      (ctx.scan a directory mode).2) ∧
    (∀ layout privileged mode, ctx.OpensAmong
      ((ctx.discover a layout privileged mode).1.flatMap fun directory =>
        (ctx.settings.candidatesIn a directory).map fun name =>
          directory.join (Path.ofString name))
      (ctx.discover a layout privileged mode).2) := by
  refine ⟨same.plan_alike, fun directory mode => Context.scan_alike mode same order directory,
    fun layout privileged mode => Context.discover_alike mode same order layout privileged,
    Manifest.loader_ignoresOrder,
    fun layout primary entries primary_eq built listed => same.plan_names primary_eq built listed,
    fun directory => ctx.settings.candidatesIn_pairwise same directory, fun directory mode => ?_,
    fun layout privileged mode => ?_⟩
  · have start : ctx.OpensAmong (([] : List (Path × String)).map Prod.fst) ctx :=
      Context.OpensAmong.refl ctx
    have scans := (Context.opensAmong_passes ctx a mode).scan directory start
    simpa [Settings.candidatesOf, Function.comp_def] using scans
  · have opens := ctx.opensAmong_discover a layout privileged mode
    simpa [Settings.candidatesOf, List.map_flatMap, Function.comp_def] using opens

/-! ### The two copies, listed the other way round -/

/-- The file system of the two copies, with `b` listed before `a`. -/
def copiesSwapped : FileSystem :=
  ⟨.directory
    [(Utf8.encode "b", .directory
      [(Utf8.encode "x.mod", .file (Manifest.ofLines ["version=1", "symbol=plugin_register"]))]),
     (Utf8.encode "a", .directory
      [(Utf8.encode "x.mod", .file (Manifest.ofLines ["fail=bad"]))])],
    [], []⟩

/-- The root as a build tree without built modules: its subdirectories are scanned. -/
def buildTreeLayout : Layout :=
  ⟨some (Path.ofString "/"), true, Layout.defaultBuildOutput, none, none⟩

theorem twoCopies_reordered : twoCopies.Reordered copiesSwapped := by
  have single (content : Content) :
      (Node.directory [(Utf8.encode "x.mod", .file content)]).Reordered
        (.directory [(Utf8.encode "x.mod", .file content)]) :=
    Node.reordered_of_perm (.refl _) (by simp) (by
      simp only [List.map_cons, List.map_nil, List.mem_singleton, forall_eq]
      exact ⟨by decide, by decide, by decide, by decide⟩)
      (by simpa using Node.Reordered.file content)
  refine ⟨Node.reordered_of_perm (List.Perm.swap _ _ _) (by decide) ?_ ?_, rfl, rfl⟩
  · simp only [List.map_cons, List.map_nil, List.forall_mem_cons, List.not_mem_nil]
    exact ⟨⟨by decide, by decide, by decide, by decide⟩, ⟨by decide, by decide, by decide, by decide⟩,
      fun _ h => h.elim⟩
  · simpa using ⟨single _, single _⟩

/-- In which order the root lists the copies makes no difference to what is planned and discovered,
    and the one that is planned first is the one in `a`. -/
theorem enumeration_order_irrelevant_twoCopies :
    twoCopies.list (Path.ofString "/") = .ok [⟨Utf8.encode "a", true⟩, ⟨Utf8.encode "b", true⟩] ∧
    copiesSwapped.list (Path.ofString "/") =
      .ok [⟨Utf8.encode "b", true⟩, ⟨Utf8.encode "a", true⟩] ∧
    (buildTreeLayout.plan copiesSwapped false).1 =
      [Path.ofString "/", Path.ofString "/a", Path.ofString "/b"] ∧
    dissectorContext.discover twoCopies buildTreeLayout false .silent =
      dissectorContext.discover copiesSwapped buildTreeLayout false .silent := by
  have all := enumeration_order_irrelevant twoCopies copiesSwapped twoCopies_reordered
    dissectorContext Manifest.loader_ignoresOrder
  refine ⟨by cbv, by cbv, ?_, all.2.2.1 buildTreeLayout false .silent⟩
  rw [← all.1]
  cbv

end PluginDiscovery
