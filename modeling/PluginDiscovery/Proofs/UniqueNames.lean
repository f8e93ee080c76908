import Mathlib.Data.List.Nodup
import PluginDiscovery.Proofs.DiscoveryReference
import PluginDiscovery.Proofs.Runs

/-!
# Registered names

Whatever a host does with a context, a name is registered once. From that the ways to ask for a name
agree: whether it is there, which plugin has it, and how often the list shows it.

* `Context.NodupNames`, `nodupNames_run`: the invariant, and that every operation keeps it;
* `Offers.path`, `Offers.extension`, `Offers.included`: what a directory offers is named and placed
  as the settings ask;
* `registry_invariant`: all of it for every history, and that only a cleanup takes something away.
-/

namespace PluginDiscovery

/-! ## 1. A registry whose names are different -/

namespace PluginRegistry

variable {r : PluginRegistry} {name : String} {p : Plugin}

theorem has_iff : r.has name = true ↔ ∃ p ∈ r.plugins, p.name = name := by
  simp [has]

theorem has_eq_false_iff : r.has name = false ↔ name ∉ r.plugins.map Plugin.name := by
  rw [← Bool.not_eq_true, has_iff, List.mem_map]

theorem has_eq_isSome_get? : r.has name = (r.get? name).isSome := by
  rw [has, get?, List.isSome_find?]

theorem get?_eq_some_iff (nodup : (r.plugins.map Plugin.name).Nodup) :
    r.get? name = some p ↔ p ∈ r.plugins ∧ p.name = name := by
  constructor
  · intro h
    exact ⟨List.mem_of_find?_eq_some h, by simpa using List.find?_some h⟩
  · rintro ⟨hmem, rfl⟩
    have has : r.has p.name = true := has_iff.mpr ⟨p, hmem, rfl⟩
    rw [has_eq_isSome_get?, Option.isSome_iff_exists] at has
    obtain ⟨q, hq⟩ := has
    have hname : q.name = p.name := by simpa using List.find?_some hq
    rw [hq, List.inj_on_of_nodup_map nodup (List.mem_of_find?_eq_some hq) hmem hname]

/-- A name that is registered is registered once. -/
theorem has_iff_count (nodup : (r.plugins.map Plugin.name).Nodup) :
    r.has name = true ↔ r.plugins.countP (fun p => p.name = name) = 1 := by
  have count : r.plugins.countP (fun p => p.name = name) =
      (r.plugins.map Plugin.name).count name := by
    rw [List.count, List.countP_map]
    congr 1
  rw [count, has_iff, ← List.mem_map]
  exact ⟨List.count_eq_one_of_mem nodup, fun h => List.count_pos_iff.mp (by omega)⟩

end PluginRegistry

/-! ## 2. What a directory offers -/

/-- A path ends in what was joined to it. -/
theorem Path.suffix_join (a b : Path) : b <:+ a.join b := by
  unfold join
  split_ifs
  · exact List.suffix_refl b
  · exact List.suffix_refl b
  · exact List.suffix_append a b
  · exact (List.suffix_cons slash b).trans (List.suffix_append a _)

namespace Context

variable {ctx : Context} {fs : FileSystem} {directory : Path} {p : Plugin}

theorem Offers.path (h : ctx.Offers fs directory p) :
    p.path = directory.join (Path.ofString p.name) := by
  obtain ⟨e, _, standing, plugin⟩ := h
  rw [Loader.path_of_pluginAt? plugin, Settings.name_of_standing standing]

theorem Offers.extension (h : ctx.Offers fs directory p) :
    HasExtension p.name.toList ctx.settings.suffix.toList := by
  obtain ⟨e, _, standing, _⟩ := h
  exact (Settings.standing_eq_candidate_iff.mp standing).2.1

theorem Offers.included (h : ctx.Offers fs directory p) : ctx.settings.Admits p.name := by
  obtain ⟨e, _, standing, _⟩ := h
  exact (Settings.standing_eq_candidate_iff.mp standing).2.2.2

/-! ## 3. Histories -/

/-- The names of the registered plugins are different. -/
def NodupNames (ctx : Context) : Prop :=
  (ctx.plugins.plugins.map Plugin.name).Nodup

theorem nodupNames_consider (h : ctx.NodupNames) (mode : FailureMode) (path : Path)
    (name : String) : (ctx.consider fs mode path name).2.NodupNames := by
  unfold NodupNames at h ⊢
  rw [plugins_consider]
  split
  · exact h
  · rename_i has
    have absent := PluginRegistry.has_eq_false_iff.mp (Bool.eq_false_iff.mpr has)
    cases plugin : ctx.settings.loader.pluginAt? ctx.types fs path name with
    | none => simpa using h
    | some p =>
      obtain rfl := (Loader.pluginAt?_eq_some_iff.mp plugin).2.2.2.2
      rw [List.map_append, List.nodup_append]
      refine ⟨h, by simp, fun a ha b hb => ?_⟩
      obtain rfl : b = p.name := by simpa using hb
      exact fun heq => absent (heq ▸ ha)

theorem nodupNames_run (op : Operation) (h : ctx.NodupNames) : (op.run ctx).2.NodupNames :=
  run_kept
    ⟨fun c event hc => hc, fun c hc => hc, fun c mode _ _ _ _ _ _ _ hc =>
      nodupNames_consider hc mode _ _⟩
    (fun c name accepts hc => by
      rw [NodupNames, (c.registerType_frame name accepts).2.1]
      exact hc)
    (fun _ => List.nodup_nil) h

/-- The history scans the directory. -/
def Scans (start : Context) (history : List Operation) (directory : Path) : Prop :=
  ∃ before op after fs, history = before ++ op :: after ∧
    (fs, directory) ∈ op.visits (start.runAll before).2

end Context

/-- **After every history the registered names are different**, the ways to ask for one agree, every
    plugin lies under its name in a directory that was scanned, with the suffix and not left out;
    and every operation but a cleanup keeps what is registered as the beginning of what is
    registered after it. -/
theorem registry_invariant (settings : Settings) (history : List Operation) (ctx : Context)
    (reached : ctx = ((Context.fresh settings).runAll history).2) :
    (ctx.plugins.plugins.map Plugin.name).Nodup ∧
    (∀ name,
      (ctx.plugins.has name = true ↔ (ctx.plugins.get? name).isSome = true) ∧
      ((ctx.plugins.get? name).isSome = true ↔
        ctx.plugins.plugins.countP (fun p => p.name = name) = 1) ∧
      ∀ p, ctx.plugins.get? name = some p ↔ p ∈ ctx.plugins.plugins ∧ p.name = name) ∧
    (∀ p ∈ ctx.plugins.plugins,
      (∃ directory, (Context.fresh settings).Scans history directory ∧
        p.path = directory.join (Path.ofString p.name)) ∧
      Path.ofString p.name <:+ p.path ∧
      HasExtension p.name.toList settings.suffix.toList ∧
      ∀ test, settings.exclusion = some test → test p.name = false) ∧
    (∀ op, op ≠ Operation.cleanup →
      ctx.plugins.plugins <+: (op.run ctx).2.plugins.plugins) := by
  subst reached
  have nodup : ((Context.fresh settings).runAll history).2.NodupNames :=
    Context.runAll_kept (fun op _ c hc => Context.nodupNames_run op hc) List.nodup_nil
  refine ⟨nodup, fun name => ⟨?_, ?_, fun p => PluginRegistry.get?_eq_some_iff nodup⟩,
    fun p hp => ?_, fun op hop => ?_⟩
  · rw [PluginRegistry.has_eq_isSome_get?]
  · rw [← PluginRegistry.has_eq_isSome_get?, PluginRegistry.has_iff_count nodup]
  · obtain ⟨before, op, after, split, _, registers⟩ := Context.exists_registration rfl history p hp
    obtain ⟨fs, directory, visited, offers⟩ := registers.offered
    have settled : ((Context.fresh settings).runAll before).2.settings = settings :=
      Context.settings_runAll _ before
    have extension := offers.extension
    have included := offers.included
    rw [settled] at extension included
    refine ⟨⟨directory, ⟨before, op, after, fs, split, visited⟩, offers.path⟩, ?_, extension,
      included⟩
    rw [offers.path]
    exact Path.suffix_join _ _
  · obtain ⟨new, hnew, _⟩ := Context.run_appends _ hop
    exact ⟨new, hnew.symm⟩

/-- Of the two copies the registry gives the good one. -/
theorem registry_invariant_twoCopies :
    ∃ p,
      ((Context.fresh manifestSettings).runAll twoCopiesHistory).2.plugins.get? "x.mod" = some p ∧
      p.path = Path.ofString "/b/x.mod" ∧ Path.ofString "x.mod" <:+ p.path := by
  obtain ⟨_, ask, placed, _⟩ := registry_invariant manifestSettings twoCopiesHistory _ rfl
  obtain ⟨p, hp, row⟩ := exists_goodCopy
  have name : p.name = "x.mod" := congrArg Registration.name row
  have path : p.path = Path.ofString "/b/x.mod" := congrArg Registration.path row
  exact ⟨p, ((ask "x.mod").2.2 p).mpr ⟨hp, name⟩, path, name ▸ (placed p hp).2.1⟩

end PluginDiscovery
