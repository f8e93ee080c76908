import Mathlib
import PluginDiscovery.Proofs.DiscoveryReference
import PluginDiscovery.Proofs.MaskBits
import PluginDiscovery.Proofs.Runs

/-!
# What a mask says of a plugin

A plugin's mask is computed once, from the types of that moment, and read for as long as the plugin
is registered, when more types may be there. It stays right: types are only added, each with a bit
of its own, and go together with the plugins.

* `run_grows`: an operation other than a cleanup only adds types and plugins;
* `numbered_run`: the types of a context are numbered;
* `Registers.contains_iff`: what the mask of a plugin tells when it is registered;
* `classification_invariant`: what it is after every history, and that nothing a host does, short
  of a cleanup, changes what is shown of the plugin.
-/

namespace PluginDiscovery

namespace Context

variable {ctx : Context}

/-! ## 1. Types along a history -/

/-- What a registration does to the types. -/
theorem types_registerType (ctx : Context) (name : String) (accepts : Module → Bool) :
    (ctx.registerType name accepts).2.types = ctx.types.request name accepts := by
  unfold registerType TypeRegistry.request
  cases ctx.types.register name accepts with
  | error e => exact (ctx.report_frame _).2.1
  | ok result => rfl

theorem numbered_registerType (h : ctx.types.Numbered) (name : String)
    (accepts : Module → Bool) : (ctx.registerType name accepts).2.types.Numbered := by
  rw [types_registerType]
  exact h.request name accepts

theorem isPrefix_registerType (ctx : Context) (name : String) (accepts : Module → Bool) :
    ctx.types.types <+: (ctx.registerType name accepts).2.types.types := by
  rw [types_registerType]
  exact ctx.types.isPrefix_request name accepts

theorem numbered_run (op : Operation) (h : ctx.types.Numbered) : (op.run ctx).2.types.Numbered :=
  run_kept (P := fun c => c.types.Numbered)
    ⟨fun c event hc => hc, fun c hc => hc, fun c mode fs _ _ _ _ _ _ hc => by
      rw [(c.consider_frame fs mode _ _).2.1]
      exact hc⟩
    (fun c name accepts hc => numbered_registerType hc name accepts)
    (fun _ => TypeRegistry.numbered_empty) h

/-- A later context has what a context has registered, at the same places. -/
structure Grows (ctx later : Context) : Prop where
  types : ctx.types.types <+: later.types.types
  plugins : ctx.plugins.plugins <+: later.plugins.plugins

theorem Grows.refl (ctx : Context) : ctx.Grows ctx :=
  ⟨List.prefix_refl _, List.prefix_refl _⟩

theorem Grows.trans {a b c : Context} (hab : a.Grows b) (hbc : b.Grows c) : a.Grows c :=
  ⟨hab.types.trans hbc.types, hab.plugins.trans hbc.plugins⟩

/-- **An operation other than a cleanup only adds types and plugins.** -/
theorem run_grows (ctx : Context) {op : Operation} (h : op ≠ .cleanup) :
    ctx.Grows (op.run ctx).2 := by
  have types : ctx.types.types <+: (op.run ctx).2.types.types :=
    run_kept (P := fun c => ctx.types.types <+: c.types.types)
      ⟨fun c event hc => hc, fun c hc => hc, fun c mode fs _ _ _ _ _ _ hc => by
        rw [(c.consider_frame fs mode _ _).2.1]
        exact hc⟩
      (fun c name accepts hc => hc.trans (c.isPrefix_registerType name accepts))
      (fun hop => absurd hop h) (List.prefix_refl _)
  obtain ⟨new, hnew, _⟩ := ctx.run_appends h
  exact ⟨types, new, hnew.symm⟩

/-- A history without a cleanup only adds types and plugins. -/
theorem runAll_grows (ctx : Context) {later : List Operation}
    (h : ∀ op ∈ later, op ≠ Operation.cleanup) : ctx.Grows (ctx.runAll later).2 :=
  runAll_kept (P := ctx.Grows) (fun op hop c hc => hc.trans (c.run_grows (h op hop))) (.refl ctx)

theorem numbered_runAll (h : ctx.types.Numbered) (history : List Operation) :
    (ctx.runAll history).2.types.Numbered :=
  runAll_kept (P := fun c => c.types.Numbered) (fun op _ _ hc => numbered_run op hc) h

/-! ## 2. Registration -/

theorem Registers.ne_cleanup {op : Operation} {p : Plugin} (h : ctx.Registers op p) :
    op ≠ .cleanup := by
  rintro rfl
  exact absurd h.present List.not_mem_nil

theorem Registers.classified {op : Operation} {p : Plugin} (h : ctx.Registers op p) :
    ctx.types.classify p.module = p.mask ∧ p.mask.isEmpty = false := by
  obtain ⟨fs, directory, _, e, _, _, plugin⟩ := h.offered
  obtain ⟨_, _, mask, claimed, _⟩ := Loader.pluginAt?_eq_some_iff.mp plugin
  exact ⟨mask, claimed⟩

/-- A plugin is registered with the bits of the types that accept it. -/
theorem Registers.contains_iff {op : Operation} {p : Plugin} (h : ctx.Registers op p)
    (numbered : ctx.types.Numbered) {b : UInt8} :
    p.mask.contains b = true ↔ ∃ t ∈ ctx.types.types, t.bit = b ∧ t.accepts p.module = true := by
  rw [← h.classified.1]
  exact TypeRegistry.contains_classify numbered

/-- A plugin is registered under the name of a type. -/
theorem Registers.names_ne_nil {op : Operation} {p : Plugin} (h : ctx.Registers op p)
    (numbered : ctx.types.Numbered) : ctx.types.names p.mask ≠ [] := by
  obtain ⟨mask, claimed⟩ := h.classified
  rw [← mask] at claimed ⊢
  exact TypeRegistry.names_classify_ne_nil numbered claimed

/-! ## 3. Names -/

/-- Types that are added later change nothing of what is shown of a plugin whose bits all have their
    type. -/
theorem describe_of_grows {later : Context} {p : Plugin} (grows : ctx.Grows later)
    (numbered : later.types.Numbered)
    (typed : ∀ b, p.mask.contains b = true → ∃ t ∈ ctx.types.types, t.bit = b) :
    later.types.names p.mask = ctx.types.names p.mask ∧ later.describe p = ctx.describe p := by
  have names := TypeRegistry.names_of_isPrefix grows.types numbered typed
  refine ⟨names, ?_⟩
  rw [describe, describe, TypeRegistry.describe, TypeRegistry.describe, names]

end Context

/-- **After every history the mask of a registered plugin tells its types.** It is not empty. A bit
    that is set is that of a registered type that accepts the module; a registered type whose bit is
    not set was not there yet when the plugin was registered, or does not accept the module. And
    whatever a host does later, short of a cleanup, the plugin stays as it is, with the same names
    of types, of which there is one at least, and the same description. -/
theorem classification_invariant (settings : Settings) (history : List Operation) (ctx : Context)
    (reached : ctx = ((Context.fresh settings).runAll history).2) :
    ∀ p ∈ ctx.plugins.plugins,
      p.mask.isEmpty = false ∧
      (∀ b, p.mask.contains b = true →
        ∃ t ∈ ctx.types.types, t.bit = b ∧ t.accepts p.module = true) ∧
      (∃ before op after, history = before ++ op :: after ∧
        (∀ later ∈ after, later ≠ Operation.cleanup) ∧
        ((Context.fresh settings).runAll before).2.Registers op p ∧
        ∀ b, p.mask.contains b = false → ∀ t ∈ ctx.types.types, t.bit = b →
          t ∉ ((Context.fresh settings).runAll before).2.types.types ∨
            t.accepts p.module = false) ∧
      ctx.types.names p.mask ≠ [] ∧
      ∀ later, (∀ op ∈ later, op ≠ Operation.cleanup) →
        ctx.plugins.plugins <+: (ctx.runAll later).2.plugins.plugins ∧
        (ctx.runAll later).2.types.names p.mask = ctx.types.names p.mask ∧
        (ctx.runAll later).2.describe p = ctx.describe p := by
  intro p hp
  rw [reached] at hp
  obtain ⟨before, op, after, split, uncleaned, registers⟩ :=
    Context.exists_registration rfl history p hp
  have numbered : ∀ past, ((Context.fresh settings).runAll past).2.types.Numbered :=
    Context.numbered_runAll TypeRegistry.numbered_empty
  have grown : ((Context.fresh settings).runAll before).2.Grows ctx := by
    rw [reached, split, Context.runAll_append]
    refine Context.runAll_grows _ fun later hl => ?_
    rcases List.mem_cons.mp hl with rfl | hl
    · exact registers.ne_cleanup
    · exact uncleaned later hl
  have sound : ∀ b, p.mask.contains b = true →
      ∃ t ∈ ctx.types.types, t.bit = b ∧ t.accepts p.module = true := fun b hb => by
    obtain ⟨t, ht, hbit, accepted⟩ := (registers.contains_iff (numbered before)).mp hb
    exact ⟨t, grown.types.subset ht, hbit, accepted⟩
  have named : ctx.types.names p.mask ≠ [] := by
    have same := TypeRegistry.names_of_isPrefix grown.types (reached ▸ numbered history)
      fun b hb => by
        obtain ⟨t, ht, hbit, _⟩ := (registers.contains_iff (numbered before)).mp hb
        exact ⟨t, ht, hbit⟩
    rw [same]
    exact registers.names_ne_nil (numbered before)
  refine ⟨registers.classified.2, sound, ⟨before, op, after, split, uncleaned, registers, ?_⟩,
    named, ?_⟩
  · intro b clear t _ hbit
    by_cases known : t ∈ ((Context.fresh settings).runAll before).2.types.types
    · refine Or.inr (Bool.eq_false_iff.mpr fun accepted => ?_)
      rw [(registers.contains_iff (numbered before)).mpr ⟨t, known, hbit, accepted⟩] at clear
      cases clear
    · exact Or.inl known
  · intro later uncleaned
    have grows := ctx.runAll_grows uncleaned
    have numberedLater : (ctx.runAll later).2.types.Numbered :=
      Context.numbered_runAll (reached ▸ numbered history) later
    exact ⟨grows.plugins, Context.describe_of_grows grows numberedLater fun b hb => by
      obtain ⟨t, ht, hbit, _⟩ := sound b hb
      exact ⟨t, ht, hbit⟩⟩

/-- The mask of the good copy is that of a dissector. -/
theorem classification_invariant_twoCopies :
    ∃ p ∈ ((Context.fresh manifestSettings).runAll twoCopiesHistory).2.plugins.plugins,
      p.mask = ⟨1⟩ ∧
      ∃ t ∈ ((Context.fresh manifestSettings).runAll twoCopiesHistory).2.types.types,
        t.bit = 0 ∧ t.accepts p.module = true := by
  obtain ⟨p, hp, row⟩ := exists_goodCopy
  have mask : p.mask = ⟨1⟩ := congrArg Registration.mask row
  obtain ⟨_, sound, _⟩ := classification_invariant manifestSettings twoCopiesHistory _ rfl p hp
  exact ⟨p, hp, mask, sound 0 (by rw [mask]; decide)⟩

end PluginDiscovery
