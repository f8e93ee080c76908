import Mathlib
import PluginDiscovery.Config.Schema
import PluginDiscovery.Proofs.PathOrder
import PluginDiscovery.Proofs.Privileges
import PluginDiscovery.Proofs.Runs
import PluginDiscovery.Proofs.WellNamedTrees

/-!
# What is planned inside the primary directory

The version of an installation and the name of the directory of built modules are texts of the
configuration, and both are joined to the primary directory or to a subdirectory of it. A relative
path adds to what it is joined to, so the plan stays inside. An absolute one takes its place, and the
plan leaves the primary directory.

* `Path.within_join`, `within_trans`: joining a relative path stays inside;
* `Layout.mem_shared_build`: the directories that are planned in a build tree;
* `Layout.builtIn_within`, `builtIn_of_absolute`: where built modules are looked for;
* `PluginConfig.Strays`: the ways for a directory outside to be planned, one for each text, and
  `strays_iff`: no other directory outside is;
* `planned_within_primary`: all of it for plans.
-/

namespace PluginDiscovery

/-! ## 1. Paths inside a directory -/

namespace Path

variable {p q r : Path}

theorem within_iff : p.within q = true ↔ q.components <+: p.components :=
  List.isPrefixOf_iff_prefix

theorem within_refl (p : Path) : p.within p = true :=
  within_iff.mpr (List.prefix_refl _)

theorem within_trans (hpq : p.within q = true) (hqr : q.within r = true) : p.within r = true :=
  within_iff.mpr ((within_iff.mp hqr).trans (within_iff.mp hpq))

theorem join_of_absolute (absolute : q.isAbsolute = true) : p.join q = q :=
  if_pos absolute

/-- **What a relative path leads to lies inside the directory it is joined to.** -/
theorem within_join (p : Path) (relative : q.isAbsolute = false) : (p.join q).within p = true := by
  by_cases empty : p = []
  · subst empty
    exact within_iff.mpr List.nil_prefix
  · rw [within_iff, components_join_of_relative empty relative]
    exact List.prefix_append _ _

end Path

/-! ## 2. The directories of a layout -/

namespace Layout

variable {layout : Layout} {fs : FileSystem} {primary : Path}

/-- Of an installation the directory of the version is planned. -/
theorem shared_installed (configured : layout.primary = some primary)
    (installed : layout.buildTree = false) : layout.shared fs = layout.versioned.toList := by
  simp [shared, configured, installed]

/-- Of a build tree that can be listed the primary directory is planned, and what stands for its
    subdirectories. -/
theorem mem_shared_build (configured : layout.primary = some primary)
    (built : layout.buildTree = true) (directory : Path) :
    directory ∈ layout.shared fs ↔ (∃ es, fs.list primary = .ok es) ∧
      (directory = primary ∨ ∃ e, fs.Lists primary e ∧
        fs.isDirectory (primary.join e.name) = true ∧
        directory = builtIn fs layout.buildOutput (primary.join e.name)) := by
  cases listed : fs.list primary with
  | error cause => simp [shared, configured, built, listed]
  | ok es =>
    simp only [shared, configured, built, listed, subdirectories, FileSystem.Lists, if_true,
      List.mem_cons, List.mem_map, List.mem_mergeSort, List.mem_filter]
    constructor
    · rintro (rfl | ⟨_, ⟨⟨e, he, rfl⟩, leads⟩, rfl⟩)
      · exact ⟨⟨es, rfl⟩, Or.inl rfl⟩
      · exact ⟨⟨es, rfl⟩, Or.inr ⟨e, ⟨es, rfl, he⟩, leads, rfl⟩⟩
    · rintro ⟨-, rfl | ⟨e, ⟨es', same, he⟩, leads, rfl⟩⟩
      · exact Or.inl rfl
      · obtain rfl := Except.ok.inj same
        exact Or.inr ⟨_, ⟨⟨e, he, rfl⟩, leads⟩, rfl⟩

variable {buildOutput subdirectory : Path}

/-- Built modules are looked for inside the subdirectory if the name of their directory is
    relative. -/
theorem builtIn_within (relative : buildOutput.isAbsolute = false) :
    (builtIn fs buildOutput subdirectory).within subdirectory = true := by
  simp only [builtIn]
  split
  · exact Path.within_join _ relative
  · exact Path.within_refl _

/-- An absolute name of a directory stands for itself, in whichever subdirectory it is looked up. -/
theorem builtIn_of_absolute (absolute : buildOutput.isAbsolute = true) :
    builtIn fs buildOutput subdirectory =
      if fs.isDirectory buildOutput = true then buildOutput else subdirectory := by
  simp only [builtIn, Path.join_of_absolute absolute]

end Layout

namespace PluginConfig

variable {c : PluginConfig} {env : Environment} {fs : FileSystem} {d : String}

/-- A text that is not empty is the primary directory. -/
theorem primary_layout (configured : c.directory = some d) (full : d ≠ "") :
    (c.layout env).primary = some (Path.ofString d) := by
  have kept : (!d.isEmpty) = true := by simpa using full
  simp [layout, primary, configured, Option.filter, kept]

/-- The version names a directory below the primary one. -/
theorem versioned_layout (configured : c.directory = some d) (full : d ≠ "") :
    (c.layout env).versioned =
      some ((Path.ofString d).join (Path.ofString c.effectiveVersion)) := by
  have primary : (c.layout env).primary = some (Path.ofString d) := primary_layout configured full
  exact congrArg (Option.map fun p => p.join (Path.ofString c.effectiveVersion)) primary

/-! ## 3. The ways out -/

/-- What is joined to the primary directory, or to subdirectories of it: the version of an
    installation, or the name of the directories of built modules. -/
def joined (c : PluginConfig) : Path :=
  Path.ofString (if c.buildLayout then c.buildOutput else c.effectiveVersion)

/-- How a directory outside of the primary one comes to be planned: the version of an installation is
    an absolute path, or the name of the directories of built modules is one, it leads to a directory,
    and there is a subdirectory to look it up in. -/
inductive Strays (c : PluginConfig) (fs : FileSystem) (primary : Path) : Path → Prop where
  | version (installed : c.buildLayout = false)
      (absolute : (Path.ofString c.effectiveVersion).isAbsolute = true)
      (outside : (Path.ofString c.effectiveVersion).within primary = false) :
      Strays c fs primary (Path.ofString c.effectiveVersion)
  | buildOutput {e : FileSystem.Entry} (built : c.buildLayout = true)
      (absolute : (Path.ofString c.buildOutput).isAbsolute = true)
      (outside : (Path.ofString c.buildOutput).within primary = false)
      (found : fs.isDirectory (Path.ofString c.buildOutput) = true)
      (listed : fs.Lists primary e) (leads : fs.isDirectory (primary.join e.name) = true) :
      Strays c fs primary (Path.ofString c.buildOutput)

/-- Nothing strays where what is joined is a relative path. -/
theorem Strays.absolute {primary directory : Path} (h : c.Strays fs primary directory) :
    c.joined.isAbsolute = true := by
  cases h with
  | version installed absolute _ => simpa [joined, installed] using absolute
  | buildOutput built absolute _ _ _ _ => simpa [joined, built] using absolute

/-- What strays is outside. -/
theorem Strays.outside {primary directory : Path} (h : c.Strays fs primary directory) :
    directory.within primary = false := by
  cases h with
  | version _ _ outside => exact outside
  | buildOutput _ _ outside _ _ _ => exact outside

/-- Of an installation the directory of the version strays, if it is planned outside. -/
theorem strays_of_version (installed : c.buildLayout = false) {primary : Path}
    (outside : (primary.join (Path.ofString c.effectiveVersion)).within primary = false) :
    c.Strays fs primary (primary.join (Path.ofString c.effectiveVersion)) := by
  cases absolute : (Path.ofString c.effectiveVersion).isAbsolute with
  | false => exact absurd (Path.within_join primary absolute) (by simp [outside])
  | true =>
    rw [Path.join_of_absolute absolute] at outside ⊢
    exact .version installed absolute outside

/-- What stands for a subdirectory of a build tree strays, if it is outside. -/
theorem strays_of_builtIn (named : fs.WellNamed) (built : c.buildLayout = true) {primary : Path}
    {e : FileSystem.Entry} (listed : fs.Lists primary e)
    (leads : fs.isDirectory (primary.join e.name) = true)
    (outside : (Layout.builtIn fs (Path.ofString c.buildOutput) (primary.join e.name)).within
      primary = false) :
    c.Strays fs primary
      (Layout.builtIn fs (Path.ofString c.buildOutput) (primary.join e.name)) := by
  have below : (primary.join e.name).within primary = true := by
    obtain ⟨es, yields, he⟩ := listed
    exact Path.within_join primary (named.isEntryName yields e he).isAbsolute_eq
  cases absolute : (Path.ofString c.buildOutput).isAbsolute with
  | false =>
    have inside : (Layout.builtIn fs (Path.ofString c.buildOutput) (primary.join e.name)).within
        primary = true := Path.within_trans (Layout.builtIn_within absolute) below
    exact absurd inside (by simp [outside])
  | true =>
    rw [Layout.builtIn_of_absolute absolute] at outside ⊢
    split at outside
    · rename_i found
      rw [if_pos found]
      exact .buildOutput built absolute outside found listed leads
    · exact absurd below (by simp [outside])

/-- **Outside of the primary directory only what strays is planned**, and all of it. -/
theorem strays_iff (named : fs.WellNamed) (configured : c.directory = some d) (full : d ≠ "")
    (directory : Path) :
    (directory ∈ (c.layout env).shared fs ∧ directory.within (Path.ofString d) = false) ↔
      c.Strays fs (Path.ofString d) directory := by
  have primary : (c.layout env).primary = some (Path.ofString d) := primary_layout configured full
  constructor
  · rintro ⟨planned, outside⟩
    cases built : c.buildLayout with
    | false =>
      rw [Layout.shared_installed primary built, versioned_layout configured full,
        Option.toList_some, List.mem_singleton] at planned
      subst planned
      exact strays_of_version built outside
    | true =>
      obtain ⟨-, rfl | ⟨e, listed, leads, rfl⟩⟩ := (Layout.mem_shared_build primary built _).mp planned
      · exact absurd (Path.within_refl (Path.ofString d)) (by simp [outside])
      · exact strays_of_builtIn named built listed leads outside
  · intro strays
    refine ⟨?_, strays.outside⟩
    cases strays with
    | version installed absolute outside =>
      rw [Layout.shared_installed primary installed, versioned_layout configured full,
        Path.join_of_absolute absolute]
      exact List.mem_singleton_self _
    | @buildOutput e built absolute outside found listed leads =>
      refine (Layout.mem_shared_build primary built _).mpr
        ⟨⟨_, listed.choose_spec.1⟩, Or.inr ⟨e, listed, leads, ?_⟩⟩
      exact ((Layout.builtIn_of_absolute absolute).trans (if_pos found)).symm

end PluginConfig

/-! ## 4. All of it -/

/-- **A plan stays inside the primary directory if what is joined to it is a relative path.** A plan
    is a part that is the same for everyone and, for an unprivileged process, the personal directory
    after it. In the part for everyone outside of the primary directory is exactly what strays: the
    directory that an absolute version of an installation names, and the directory that an absolute
    name for the directories of built modules leads to, if a subdirectory asks for it. -/
theorem planned_within_primary (fs : NamedFiles) (env : Environment) (c : PluginConfig)
    (d : String) (configured : c.directory = some d) (full : d ≠ "") (privileged : Bool) :
    ∃ common, ((c.layout env).plan fs privileged).1 =
        common ++ (if privileged then [] else (c.personal env).toList) ∧
      (∀ directory, (directory ∈ common ∧ directory.within (Path.ofString d) = false) ↔
        c.Strays fs (Path.ofString d) directory) ∧
      (c.joined.isAbsolute = false →
        ∀ directory ∈ common, directory.within (Path.ofString d) = true) := by
  have outside (directory : Path) : (directory ∈ (c.layout env).shared fs ∧
      directory.within (Path.ofString d) = false) ↔ c.Strays fs (Path.ofString d) directory :=
    PluginConfig.strays_iff fs.named configured full directory
  refine ⟨(c.layout env).shared fs, ?_, outside, fun relative directory planned => ?_⟩
  · rw [Layout.plan_fst, Layout.own, PluginConfig.primary_layout configured full]
    rfl
  · by_contra away
    have strays := (outside directory).mp ⟨planned, by simpa using away⟩
    simp [strays.absolute] at relative

/-! ### A directory beside the primary one -/

/-- The directory `p` with a subdirectory `s`, and a directory `o` beside it. -/
def besideTree : FileSystem :=
  ⟨.directory
    [(Utf8.encode "p", .directory [(Utf8.encode "s", .directory [])]),
     (Utf8.encode "o", .directory [])], [], []⟩

theorem besideTree_wellNamed : besideTree.WellNamed := by
  have primary : (Node.directory [(Utf8.encode "s", .directory [])]).WellNamed :=
    .directory (List.nodup_singleton _) (by decide) (by simpa using Node.WellNamed.emptyDirectory)
  refine .directory (by decide) (by decide) ?_
  simpa using ⟨primary, .emptyDirectory⟩

/-- Plugins in `p`, of the given version. -/
def installedIn (version : String) : PluginConfig :=
  { PluginConfig.standard with directory := some "/p", version := some version }

/-- Plugins in the build tree `p`, with built modules in directories of the given name. -/
def builtTreeIn (buildOutput : String) : PluginConfig :=
  { PluginConfig.standard with
    directory := some "/p", buildLayout := true, buildOutput := buildOutput }

/-- The directory beside the primary one is planned for the version `/o`, and in the build tree for
    built modules in `/o`; the version `1.0` is looked for inside. -/
theorem planned_within_primary_beside :
    (((installedIn "/o").layout []).plan besideTree true).1 = [Path.ofString "/o"] ∧
    (((builtTreeIn "/o").layout []).plan besideTree true).1 =
      [Path.ofString "/p", Path.ofString "/o"] ∧
    (Path.ofString "/o").within (Path.ofString "/p") = false ∧
    (installedIn "/o").Strays besideTree (Path.ofString "/p") (Path.ofString "/o") ∧
    (builtTreeIn "/o").Strays besideTree (Path.ofString "/p") (Path.ofString "/o") ∧
    ∀ directory ∈ (((installedIn "1.0").layout []).plan besideTree true).1,
      directory.within (Path.ofString "/p") = true := by
  have away : (Path.ofString "/o").within (Path.ofString "/p") = false := by decide
  have version : (((installedIn "/o").layout []).plan besideTree true).1 = [Path.ofString "/o"] := by
    cbv
  have output : (((builtTreeIn "/o").layout []).plan besideTree true).1 =
      [Path.ofString "/p", Path.ofString "/o"] := by
    cbv
  obtain ⟨versions, eqVersions, straysVersion, -⟩ := planned_within_primary
    ⟨besideTree, besideTree_wellNamed⟩ [] (installedIn "/o") "/p" rfl (by decide) true
  obtain ⟨outputs, eqOutputs, straysOutput, -⟩ := planned_within_primary
    ⟨besideTree, besideTree_wellNamed⟩ [] (builtTreeIn "/o") "/p" rfl (by decide) true
  obtain ⟨inside, eqInside, -, within⟩ := planned_within_primary
    ⟨besideTree, besideTree_wellNamed⟩ [] (installedIn "1.0") "/p" rfl (by decide) true
  rw [if_pos rfl, List.append_nil] at eqVersions eqOutputs eqInside
  rw [version] at eqVersions
  rw [output] at eqOutputs
  refine ⟨version, output, away, (straysVersion _).mp ⟨?_, away⟩, (straysOutput _).mp ⟨?_, away⟩,
    fun directory planned => within (by decide) directory (eqInside ▸ planned)⟩
  · exact eqVersions ▸ List.mem_singleton_self _
  · exact eqOutputs ▸ List.mem_cons_of_mem _ (List.mem_singleton_self _)

end PluginDiscovery
