import PluginDiscovery.Proofs.Containment
import PluginDiscovery.Proofs.EntryPlaces
import PluginDiscovery.Proofs.ScanOrder

/-!
# Links that are planned and examined

The plan of a build tree has what stands for the entries that lead to directories, and it follows
links to find out. A scan of the primary directory leaves out the entries that are directories
themselves, and a link is none. So a link to a directory that is named like a module is planned, and
the scan of the primary directory examines it too; there are no other entries that both deal with.

* `Loader.RefusesDirectories`: a loader that opens no directory;
* `verdicts_of_distinct`: candidates of different names are decided about one by one;
* `Context.decides_iff`: the entries that a scan decides about;
* `Context.begun`, `discover_begun`: a discovery of a build tree scans the primary directory first;
* `planned_links_examined`: all of it.
-/

namespace PluginDiscovery

/-! ## 1. Loaders and directories -/

/-- The loader opens no directory. -/
def Loader.RefusesDirectories (loader : Loader) : Prop :=
  ∀ (fs : FileSystem) (path : Path), fs.isDirectory path = true →
    ∃ reason, loader.load fs path = .error reason

/-- A directory has no content. -/
theorem FileSystem.read_of_isDirectory {fs : FileSystem} {path : Path}
    (directory : fs.isDirectory path = true) : fs.read path = .error .isDirectory := by
  obtain ⟨here, located, leads⟩ := isDirectory_iff_locate.mp directory
  rw [read, located]
  obtain ⟨node, above⟩ := here
  cases node with
  | directory entries => rfl
  | file content => cases leads
  | link target => cases leads

theorem Manifest.loader_refusesDirectories : Manifest.loader.RefusesDirectories := by
  intro fs path directory
  refine ⟨IoError.isDirectory.message, ?_⟩
  change Manifest.load fs path = _
  rw [Manifest.load, FileSystem.readText, FileSystem.read_of_isDirectory directory]
  rfl

/-! ## 2. The verdicts of one scan -/

section Verdicts

variable {loader : Loader} {types : TypeRegistry} {fs : FileSystem}

/-- **Candidates of different names are decided about one by one**: what is registered on the way
    does not matter. -/
theorem verdicts_of_distinct {candidates : List (Path × String)} (rows : List Registration)
    (distinct : (candidates.map Prod.snd).Nodup) :
    loader.verdicts types fs rows candidates =
      candidates.map fun c => ⟨c.1, c.2, loader.refusal? types fs rows c⟩ := by
  induction candidates with
  | nil => rfl
  | cons c rest ih =>
    rw [List.map_cons, List.nodup_cons] at distinct
    have later : loader.verdicts types fs (enroll loader types fs rows c) rest =
        loader.verdicts types fs rows rest := by
      refine verdicts_congr rest fun d hd => taken_enroll_of_ne fun same => distinct.1 ?_
      exact List.mem_map.mpr ⟨d, hd, same.symm⟩
    rw [Loader.verdicts, later, ih distinct.2, List.map_cons]

/-- A file that does not open is a reason to refuse a candidate of a free name. -/
theorem refusal?_of_load {rows : List Registration} {c : Path × String} {reason : String}
    (free : taken rows c.2 = false) (load : loader.load fs c.1 = .error reason) :
    loader.refusal? types fs rows c = some (.loadFailed c.1 reason) := by
  have free : ¬(rows.any fun r => r.name = c.2) = true := Bool.eq_false_iff.mp free
  rw [Loader.refusal?, if_neg free, load]

end Verdicts

/-- The path of an entry has the name of the entry at its end, so it is no other entry's. -/
theorem Path.join_right_inj {p m n : Path} (hm : IsEntryName m) (hn : IsEntryName n) :
    p.join m = p.join n ↔ m = n := by
  refine ⟨fun same => ?_, congrArg (p.join ·)⟩
  have components : p.components ++ [.name m] = p.components ++ [.name n] := by
    rw [← components_join p hm, ← components_join p hn, same]
  simpa using components

/-- Entries of this name are modules, unless they are directories: the name is text, ends in the
    suffix and is not left out. -/
def Settings.NamesModule (s : Settings) (name : Bytes) : Prop :=
  ∃ text, Utf8.decode? name = some text ∧ HasExtension text.toList s.suffix.toList ∧
    s.Admits text

namespace Context

variable {ctx : Context} {fs : FileSystem} {directory : Path}

/-- The verdicts of a scan, one for each candidate. -/
theorem mem_verdicts_iff (named : fs.WellNamed) {v : Verdict} :
    v ∈ ctx.verdicts fs [directory] ↔
      ctx.settings.Holds fs directory v.name ∧ v.path = directory.join (Path.ofString v.name) ∧
      v.refusal = ctx.settings.loader.refusal? ctx.types fs
        (ctx.plugins.plugins.map Plugin.registration) v.candidate := by
  have distinct := ctx.settings.nodup_candidatesOf named directory
  rw [verdicts, verdictsOn, verdicts_of_distinct _ distinct, List.mem_map]
  constructor
  · rintro ⟨c, hc, rfl⟩
    obtain ⟨_, alone, held, path⟩ := Settings.mem_candidatesOf_iff.mp hc
    obtain rfl := List.mem_singleton.mp alone
    exact ⟨held, path, rfl⟩
  · rintro ⟨held, path, refusal⟩
    refine ⟨v.candidate,
      Settings.mem_candidatesOf_iff.mpr ⟨directory, List.mem_singleton_self _, held, path⟩, ?_⟩
    obtain ⟨_, _, _⟩ := v
    exact congrArg (Verdict.mk _ _) refusal.symm

/-- **A scan decides about an entry if it is a candidate**, and about no other. -/
theorem decides_iff (named : fs.WellNamed) {es : List FileSystem.Entry}
    (listed : fs.list directory = .ok es) {e : FileSystem.Entry} (he : e ∈ es) :
    (∃ v ∈ ctx.verdicts fs [directory], v.path = directory.join e.name) ↔
      e.isDirectory = false ∧ ctx.settings.NamesModule e.name := by
  have proper := named.isEntryName listed
  constructor
  · rintro ⟨v, hv, path⟩
    obtain ⟨⟨e', ⟨es', listed', he'⟩, text, ends, file, kept⟩, path', -⟩ :=
      (mem_verdicts_iff named).mp hv
    obtain rfl := Except.ok.inj (listed.symm.trans listed')
    have spelled : Path.ofString v.name = e'.name := Utf8.encode_of_decode? text
    rw [path', spelled, Path.join_right_inj (proper e' he') (proper e he)] at path
    -- the names of a listing are distinct, so the entry with this name is the entry itself
    obtain rfl := List.inj_on_of_nodup_map (named.nodup_names listed) he' he path
    exact ⟨file, v.name, text, ends, kept⟩
  · rintro ⟨file, name, text, ends, kept⟩
    have spelled : Path.ofString name = e.name := Utf8.encode_of_decode? text
    refine ⟨⟨directory.join e.name, name, ctx.settings.loader.refusal? ctx.types fs
      (ctx.plugins.plugins.map Plugin.registration) (directory.join e.name, name)⟩,
      (mem_verdicts_iff named).mpr ⟨?_, congrArg directory.join spelled.symm, rfl⟩, rfl⟩
    exact ⟨e, ⟨es, listed, he⟩, text, ends, file, kept⟩

/-! ## 3. What a scan does about a path -/

/-- The scan of a directory passes over a path: what it decides about has other paths, and so has
    what it opens, registers and refuses. -/
structure PassesOver (ctx : Context) (fs : FileSystem) (mode : FailureMode)
    (directory path : Path) : Prop where
  undecided : ∀ v ∈ ctx.verdicts fs [directory], v.path ≠ path
  opened : ∃ new, (ctx.scan fs directory mode).2.opened = ctx.opened ++ new ∧ path ∉ new
  handles : ∃ new, (ctx.scan fs directory mode).2.handles = ctx.handles ++ new ∧
    HandleMove.opened path ∉ new
  plugins : ∃ new, (ctx.scan fs directory mode).2.plugins.plugins = ctx.plugins.plugins ++ new ∧
    ∀ p ∈ new, p.path ≠ path
  rejections : (ctx.scan fs directory mode).2.rejections =
    ctx.rejections ++ (ctx.verdicts fs [directory]).filterMap Verdict.refusal

/-- The scan of a directory asks for the file at a path and refuses it because it does not open. The
    refusal is in the log, and the host hears of it in a mode that tells. -/
structure Rejects (ctx : Context) (fs : FileSystem) (mode : FailureMode) (directory path : Path)
    (reason : String) : Prop where
  opened : ctx.settings.loader.counts = true → path ∈ (ctx.scan fs directory mode).2.opened
  plugins : ∃ new, (ctx.scan fs directory mode).2.plugins.plugins = ctx.plugins.plugins ++ new ∧
    ∀ p ∈ new, p.path ≠ path
  rejections : .loadFailed path reason ∈ (ctx.scan fs directory mode).2.rejections
  received : mode.isVerbose = true → (PluginError.loadFailed path reason).report ∈
    (ctx.scan fs directory mode).2.received

/-- What is registered was accepted. -/
theorem accepted_of_plugin? {verdicts : List Verdict} {loader : Loader} {types : TypeRegistry}
    {p : Plugin} (h : p ∈ verdicts.filterMap (Verdict.plugin? loader types fs)) :
    ∃ v ∈ verdicts, v.path = p.path ∧ v.refusal = none := by
  obtain ⟨v, hv, plugin⟩ := List.mem_filterMap.mp h
  rw [Verdict.plugin?] at plugin
  split at plugin
  · rename_i accepts
    exact ⟨v, hv, (Loader.path_of_pluginAt? plugin).symm, Option.isNone_iff_eq_none.mp accepts⟩
  · cases plugin

/-- A path that a scan does not decide about is passed over. -/
theorem passesOver_of_undecided (ctx : Context) (fs : FileSystem) (mode : FailureMode)
    {directory path : Path} (undecided : ∀ v ∈ ctx.verdicts fs [directory], v.path ≠ path) :
    ctx.PassesOver fs mode directory path := by
  have judged := ctx.judged_scan fs mode directory
  refine ⟨undecided, ⟨_, judged.opened, ?_⟩, ⟨_, judged.handles, ?_⟩, ⟨_, judged.plugins, ?_⟩,
    judged.refuses.rejections⟩
  · split
    · intro h
      obtain ⟨v, hv, same⟩ := List.mem_map.mp h
      exact undecided v (List.mem_of_mem_filter hv) same
    · exact List.not_mem_nil
  · intro h
    obtain ⟨v, hv, moved⟩ := List.mem_flatMap.mp h
    refine undecided v hv ?_
    unfold Verdict.moves at moved
    split at moved <;> simp_all
  · intro p hp same
    obtain ⟨v, hv, path, -⟩ := accepted_of_plugin? hp
    exact undecided v hv (path.trans same)

/-- A candidate that is a directory is refused by a loader that opens none, if there is no plugin
    yet. -/
theorem rejects_directory (named : fs.WellNamed) (fresh : ctx.plugins.plugins = [])
    (refuses : ctx.settings.loader.RefusesDirectories) {path : Path}
    (leads : fs.isDirectory path = true)
    (decided : ∃ v ∈ ctx.verdicts fs [directory], v.path = path) (mode : FailureMode) :
    ∃ reason, ctx.Rejects fs mode directory path reason := by
  obtain ⟨reason, load⟩ := refuses fs path leads
  have judged := ctx.judged_scan fs mode directory
  have refusal : ∀ v ∈ ctx.verdicts fs [directory], v.path = path →
      v.refusal = some (.loadFailed path reason) := by
    rintro v hv rfl
    rw [((mem_verdicts_iff named).mp hv).2.2]
    exact refusal?_of_load (by simp [fresh, taken]) load
  obtain ⟨v, hv, rfl⟩ := decided
  have refused : .loadFailed v.path reason ∈
      (ctx.verdicts fs [directory]).filterMap Verdict.refusal :=
    List.mem_filterMap.mpr ⟨v, hv, refusal v hv rfl⟩
  refine ⟨reason, fun counts => ?_, ⟨_, judged.plugins, fun p hp same => ?_⟩, ?_, fun verbose => ?_⟩
  · have asks : v.asks = true := by
      simp [Verdict.asks, Verdict.faults, refusal v hv rfl, PluginError.saysTaken]
    rw [judged.opened, if_pos counts]
    exact List.mem_append_right _ (List.mem_map_of_mem (List.mem_filter.mpr ⟨hv, asks⟩))
  · obtain ⟨w, hw, path, accepted⟩ := accepted_of_plugin? hp
    rw [refusal w hw (path.trans same)] at accepted
    cases accepted
  · rw [judged.refuses.rejections]
    exact List.mem_append_right _ refused
  · rw [judged.refuses.received, FailureMode.told, if_pos verbose]
    exact List.mem_append_right _ (List.mem_map_of_mem refused)

/-! ## 4. The first scan of a discovery -/

/-- The context in which a discovery begins to scan its plan. -/
def begun (ctx : Context) (plan : List Path × List Event) : Context :=
  (ctx.noteAll plan.2).mark

/-- **A discovery scans the first directory of its plan, and then the others** in the context that
    this leads to. -/
theorem discover_begun {layout : Layout} {privileged : Bool} {directories : List Path}
    (unspent : ctx.spent = false)
    (planned : (layout.plan fs privileged).1 = directory :: directories) (mode : FailureMode) :
    ∃ event, ctx.discover fs layout privileged mode = (directory :: directories,
      (((ctx.begun (layout.plan fs privileged)).scan fs directory mode).2.scanAll fs mode
        directories).2.note event) := by
  rw [discover_eq, if_neg (by simp [unspent]), if_neg (by simp [planned]), pass, planned]
  exact ⟨_, rfl⟩

end Context

/-! ## 5. All of it -/

/-- **What is planned as a directory is examined as a module if it is a link that is named like one,**
    and only then. A discovery of a build tree scans the primary directory first. It plans something
    for each of its entries that leads to a directory, the entry or the directory of built modules in
    it. If such an entry is a link, and its name is text, ends in the suffix and is not left out, the
    scan decides about it as about every candidate; and a loader that opens no directory, as that of
    manifests opens none, is asked for it, and it is refused and reported. All others are passed
    over. -/
theorem planned_links_examined (fs : NamedFiles) (ctx : Context) (unspent : ctx.spent = false)
    (layout : Layout) (primary : Path) (es : List FileSystem.Entry)
    (configured : layout.primary = some primary) (built : layout.buildTree = true)
    (listed : fs.list primary = .ok es) (privileged : Bool) (mode : FailureMode) (first : Context)
    (begins : first = ctx.begun (layout.plan fs privileged)) :
    (∃ rest event, ctx.discover fs layout privileged mode = (primary :: rest,
      ((first.scan fs primary mode).2.scanAll fs mode rest).2.note event)) ∧
    (∀ e ∈ es, fs.isDirectory (primary.join e.name) = true →
      Layout.builtIn fs layout.buildOutput (primary.join e.name) ∈
        (ctx.discover fs layout privileged mode).1 ∧
      (¬(fs.isLink (primary.join e.name) = true ∧ ctx.settings.NamesModule e.name) →
        first.PassesOver fs mode primary (primary.join e.name)) ∧
      (fs.isLink (primary.join e.name) = true ∧ ctx.settings.NamesModule e.name →
        (∃ v ∈ first.verdicts fs [primary], v.path = primary.join e.name) ∧
        (ctx.settings.loader.RefusesDirectories →
          ∃ reason, first.Rejects fs mode primary (primary.join e.name) reason))) ∧
    Manifest.loader.RefusesDirectories := by
  subst begins
  obtain ⟨fs, named⟩ := fs
  have fresh : (ctx.begun (layout.plan fs privileged)).plugins.plugins = [] := by
    have empty : ctx.plugins.isEmpty = true := by
      simpa using (Bool.or_eq_false_iff.mp unspent).2
    exact List.isEmpty_iff.mp empty
  have planned := layout.plan_buildTree fs privileged configured built listed
  refine ⟨⟨_, ctx.discover_begun unspent planned mode⟩, ?_, Manifest.loader_refusesDirectories⟩
  intro e he leads
  have decides : (∃ v ∈ (ctx.begun (layout.plan fs privileged)).verdicts fs [primary],
      v.path = primary.join e.name) ↔
        fs.isLink (primary.join e.name) = true ∧ ctx.settings.NamesModule e.name := by
    rw [named.isLink_iff listed he leads]
    exact Context.decides_iff named listed he
  refine ⟨?_, fun neither => ?_, fun both => ⟨decides.mpr both, fun refuses => ?_⟩⟩
  · rw [ctx.discover_fst fs mode layout privileged unspent, layout.plan_fst]
    exact List.mem_append_left _ ((Layout.mem_shared_build configured built _).mpr
      ⟨⟨es, listed⟩, Or.inr ⟨e, ⟨es, listed, he⟩, leads, rfl⟩⟩)
  · exact Context.passesOver_of_undecided _ fs mode fun v hv path =>
      neither (decides.mp ⟨v, hv, path⟩)
  · exact Context.rejects_directory named fresh refuses leads (decides.mpr both) mode

/-! ### A link to a directory beside it -/

/-- The directory `p` with a directory `d.mod` and a link `l.mod` to the directory `o` beside it. -/
def linkedTree : FileSystem :=
  ⟨.directory
    [(Utf8.encode "p", .directory
      [(Utf8.encode "d.mod", .directory []), (Utf8.encode "l.mod", .link (Path.ofString "/o"))]),
     (Utf8.encode "o", .directory [])], [], []⟩

theorem linkedTree_wellNamed : linkedTree.WellNamed := by
  have primary : (Node.directory [(Utf8.encode "d.mod", .directory []),
      (Utf8.encode "l.mod", .link (Path.ofString "/o"))]).WellNamed :=
    .directory (by decide) (by decide) (by simpa using ⟨.emptyDirectory, .link _⟩)
  refine .directory (by decide) (by decide) ?_
  simpa using ⟨primary, .emptyDirectory⟩

/-- The directory `p` as a build tree. -/
def linkedLayout : Layout :=
  ⟨some (Path.ofString "/p"), true, Layout.defaultBuildOutput, none, none⟩

/-- The directory and the link are both planned. The link is examined as a module and refused, the
    directory is passed over. -/
theorem planned_links_examined_linkedTree :
    dissectorContext.spent = false ∧
    linkedTree.list (Path.ofString "/p") =
      .ok [⟨Utf8.encode "d.mod", true⟩, ⟨Utf8.encode "l.mod", false⟩] ∧
    (dissectorContext.discover linkedTree linkedLayout true .report).1 =
      [Path.ofString "/p", Path.ofString "/p/d.mod", Path.ofString "/p/l.mod"] ∧
    (dissectorContext.begun (linkedLayout.plan linkedTree true)).PassesOver linkedTree .report
      (Path.ofString "/p") (Path.ofString "/p/d.mod") ∧
    ∃ reason, (dissectorContext.begun (linkedLayout.plan linkedTree true)).Rejects linkedTree .report
      (Path.ofString "/p") (Path.ofString "/p/l.mod") reason := by
  have listed : linkedTree.list (Path.ofString "/p") =
      .ok [⟨Utf8.encode "d.mod", true⟩, ⟨Utf8.encode "l.mod", false⟩] := by cbv
  have planned : (linkedLayout.plan linkedTree true).1 =
      [Path.ofString "/p", Path.ofString "/p/d.mod", Path.ofString "/p/l.mod"] := by cbv
  obtain ⟨-, entries, refuses⟩ := planned_links_examined ⟨linkedTree, linkedTree_wellNamed⟩
    dissectorContext rfl linkedLayout (Path.ofString "/p") _ rfl rfl listed true .report _ rfl
  obtain ⟨-, directory, -⟩ := entries ⟨Utf8.encode "d.mod", true⟩ List.mem_cons_self (by cbv)
  obtain ⟨-, -, link⟩ := entries ⟨Utf8.encode "l.mod", false⟩
    (List.mem_cons_of_mem _ List.mem_cons_self) (by cbv)
  have unlinked : linkedTree.isLink ((Path.ofString "/p").join (Utf8.encode "d.mod")) = false := by
    cbv
  refine ⟨rfl, listed, ?_, directory fun both => ?_, (link ⟨?_, ?_⟩).2 refuses⟩
  · rw [dissectorContext.discover_fst linkedTree .report linkedLayout true rfl, planned]
  · exact Bool.false_ne_true (unlinked.symm.trans both.1)
  · cbv
  · exact ⟨"l.mod", by cbv, by decide, fun test h => (by cases h)⟩

end PluginDiscovery
