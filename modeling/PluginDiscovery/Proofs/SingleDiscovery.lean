import PluginDiscovery.Proofs.DiscoveryReference
import PluginDiscovery.Proofs.Runs

/-!
# A discovery runs once

A context is spent when a discovery has run in it or a plugin is registered, and it stays so until a
cleanup. A spent context discovers nothing; one that is not becomes spent by its first discovery that
scans a directory at all.

* `discover_fst_eq_nil_iff`: which discoveries scan nothing, `discover_eq_noteAll`: they leave
  nothing but a trace in the log;
* `spent_run`: no operation but a cleanup makes a spent context fresh;
* `visits_add_spent_le`: along a segment of a run without a cleanup, the discoveries that scan
  something and the mark of a spent context are together one at most;
* `discovery_once`: all of it for every context, and that a repeated discovery changes nothing.
-/

namespace PluginDiscovery

/-- The outcome of a discovery that scanned some directory. -/
def Outcome.visitsSome : Outcome → Bool
  | .visited directories => !directories.isEmpty
  | _ => false

namespace Context

variable {ctx : Context} {fs : FileSystem} {layout : Layout} {privileged : Bool}
  {mode : FailureMode}

/-! ## 1. Discoveries that scan nothing -/

theorem spent_iff : ctx.spent = true ↔ ctx.discovered = true ∨ ctx.plugins.plugins ≠ [] := by
  simp [spent, PluginRegistry.isEmpty]

/-- A discovery scans nothing when it is refused or has nothing planned. -/
theorem discover_fst_eq_nil_iff :
    (ctx.discover fs layout privileged mode).1 = [] ↔
      ctx.spent = true ∨ (layout.plan fs privileged).1 = [] := by
  rw [discover_eq]
  split
  · rename_i spent
    simp [spent]
  · rename_i fresh
    split
    · rename_i unplanned
      simp [unplanned]
    · rename_i planned
      simp [fresh, planned]

/-- **A discovery that scans nothing only writes to the log**, and no report. -/
theorem discover_eq_noteAll (h : (ctx.discover fs layout privileged mode).1 = []) :
    ∃ events, (∀ r, Event.reported r ∉ events) ∧
      (ctx.discover fs layout privileged mode).2 = ctx.noteAll events := by
  rw [discover_eq] at h ⊢
  split at h
  · exact ⟨[.alreadyRan], by simp, by simp [*, noteAll, note]⟩
  · rename_i fresh
    split at h
    · rename_i unplanned
      refine ⟨(layout.plan fs privileged).2, fun r reported => ?_, by simp [fresh, unplanned]⟩
      cases layout.isNote_of_mem_plan fs privileged _ reported
    · rename_i planned
      exact absurd h planned

/-! ## 2. Spent contexts -/

/-- The steps of a scan leave a spent context spent. -/
theorem spent_kept (visits : List (FileSystem × Path)) :
    Kept (fun c => c.spent = true) visits where
  note _ _ h := h
  mark c h := spent_iff.mpr (Or.inl rfl)
  consider c mode fs directory e name _ _ _ h := by
    rw [spent_iff] at h ⊢
    rcases h with discovered | registered
    · rw [(c.consider_frame fs mode _ _).2.2]
      exact Or.inl discovered
    · rw [plugins_consider]
      split
      · exact Or.inr registered
      · exact Or.inr (List.append_ne_nil_of_left_ne_nil registered _)

/-- **Nothing but a cleanup makes a spent context fresh.** -/
theorem spent_run {op : Operation} (h : op ≠ .cleanup) (spent : ctx.spent = true) :
    (op.run ctx).2.spent = true :=
  run_kept (P := fun c => c.spent = true) (spent_kept _)
    (fun c name accepts hc => by
      obtain ⟨_, plugins, discovered, _⟩ := c.registerType_frame name accepts
      rw [spent_iff] at hc ⊢
      rw [plugins, discovered]
      exact hc)
    (fun hop => absurd hop h) spent

theorem spent_runAll {later : List Operation} (h : ∀ op ∈ later, op ≠ Operation.cleanup)
    (spent : ctx.spent = true) : (ctx.runAll later).2.spent = true :=
  runAll_kept (P := fun c => c.spent = true) (fun op hop _ hc => spent_run (h op hop) hc) spent

/-- After a discovery with a plan the context is spent. -/
theorem spent_discover (h : (layout.plan fs privileged).1 ≠ []) :
    (ctx.discover fs layout privileged mode).2.spent = true := by
  rw [discover_eq]
  split
  · rename_i spent
    exact spent
  · have marked : (ctx.noteAll (layout.plan fs privileged).2).mark.spent = true :=
      spent_iff.mpr (Or.inl rfl)
    exact scanAll_kept (spent_kept ((layout.plan fs privileged).1.map fun d => (fs, d)))
      (fun d hd => List.mem_map_of_mem hd) marked

theorem spent_of_discover_ne_nil (h : (ctx.discover fs layout privileged mode).1 ≠ []) :
    (ctx.discover fs layout privileged mode).2.spent = true :=
  spent_discover fun unplanned => h (discover_fst_eq_nil_iff.mpr (Or.inr unplanned))

/-! ## 3. Segments of a run -/

theorem visitsSome_run {op : Operation} (h : (op.run ctx).1.visitsSome = true) :
    ∃ fs layout privileged mode, op = .discover fs layout privileged mode ∧
      (ctx.discover fs layout privileged mode).1 ≠ [] := by
  cases op with
  | discover fs layout privileged mode =>
    exact ⟨fs, layout, privileged, mode, rfl, by simpa [Operation.run, Outcome.visitsSome] using h⟩
  | registerType name accepts => cases h
  | registerEntries entries => cases h
  | scan fs directory mode => cases h
  | cleanup => cases h
  | describe => cases h
  | dump capacity => cases h

/-- An operation scans something only in a context that is not spent, and it is spent after it. -/
theorem visitsSome_add_spent_le (ctx : Context) {op : Operation} (h : op ≠ .cleanup) :
    (op.run ctx).1.visitsSome.toNat + ctx.spent.toNat ≤ (op.run ctx).2.spent.toNat := by
  cases visits : (op.run ctx).1.visitsSome with
  | false =>
    cases spent : ctx.spent with
    | false => simp
    | true => simp [spent_run h spent]
  | true =>
    obtain ⟨fs, layout, privileged, mode, rfl, scanned⟩ := visitsSome_run visits
    have fresh : ctx.spent = false := by
      rw [← Bool.not_eq_true]
      exact fun spent => scanned (discover_fst_eq_nil_iff.mpr (Or.inl spent))
    have after : (Operation.run ctx (.discover fs layout privileged mode)).2.spent = true :=
      spent_of_discover_ne_nil scanned
    rw [fresh, after]
    exact Nat.le_refl 1

/-- **Without a cleanup the discoveries that scan something and the mark of a spent context are
    together one at most.** -/
theorem visits_add_spent_le (ctx : Context) {segment : List Operation}
    (h : ∀ op ∈ segment, op ≠ Operation.cleanup) :
    (ctx.runAll segment).1.countP Outcome.visitsSome + ctx.spent.toNat ≤
      (ctx.runAll segment).2.spent.toNat := by
  induction segment generalizing ctx with
  | nil => simp [runAll]
  | cons op rest ih =>
    have head := ctx.visitsSome_add_spent_le (h op List.mem_cons_self)
    have tail := ih (op.run ctx).2 fun op' hop' => h op' (List.mem_cons_of_mem op hop')
    have count : (ctx.runAll (op :: rest)).1.countP Outcome.visitsSome =
        ((op.run ctx).2.runAll rest).1.countP Outcome.visitsSome +
          (op.run ctx).1.visitsSome.toNat := by
      simp only [runAll, List.countP_cons]
      cases (op.run ctx).1.visitsSome <;> rfl
    rw [count]
    exact Nat.le_trans (by omega) tail

/-- The same discovery once more scans nothing, whatever was done in between short of a cleanup:
    with a plan the context is spent, and without one nothing was planned the first time either. -/
theorem discover_again (ctx : Context) (fs : FileSystem) (layout : Layout) (privileged : Bool)
    (mode : FailureMode) {between : List Operation}
    (h : ∀ op ∈ between, op ≠ Operation.cleanup) (again : FailureMode) :
    (((ctx.discover fs layout privileged mode).2.runAll between).2.discover fs layout privileged
      again).1 = [] := by
  refine discover_fst_eq_nil_iff.mpr ?_
  by_cases unplanned : (layout.plan fs privileged).1 = []
  · exact Or.inr unplanned
  · exact Or.inl (spent_runAll h (spent_discover unplanned))

theorem plugins_discover_again (ctx : Context) (fs : FileSystem) (layout : Layout)
    (privileged : Bool) (mode : FailureMode) {between : List Operation}
    (h : ∀ op ∈ between, op ≠ Operation.cleanup) (again : FailureMode) :
    (((ctx.discover fs layout privileged mode).2.runAll between).2.discover fs layout privileged
      again).2.plugins = ((ctx.discover fs layout privileged mode).2.runAll between).2.plugins := by
  obtain ⟨events, _, same⟩ := discover_eq_noteAll (ctx.discover_again fs layout privileged mode h
    again)
  rw [same]
  rfl

/-- A discovery repeated any number of times registers what it registers the first time. -/
theorem plugins_runAll_replicate (ctx : Context) (fs : FileSystem) (layout : Layout)
    (privileged : Bool) (mode : FailureMode) (times : Nat) :
    (ctx.runAll (List.replicate (times + 1) (.discover fs layout privileged mode))).2.plugins =
      (ctx.discover fs layout privileged mode).2.plugins := by
  induction times with
  | zero => rfl
  | succ times ih =>
    have uncleaned : ∀ op ∈ List.replicate times (Operation.discover fs layout privileged mode),
        op ≠ Operation.cleanup := by
      intro op hop
      rw [List.eq_of_mem_replicate hop]
      exact fun h => by cases h
    rw [List.replicate_succ', runAll_concat]
    exact (ctx.plugins_discover_again fs layout privileged mode uncleaned mode).trans ih

end Context

/-- **Between cleanups a discovery runs at most once.** In a segment of a run without a cleanup, from
    whatever context, one discovery at most scans a directory. After it, and whenever a plugin is
    registered, every discovery until the next cleanup scans nothing, whatever it is asked for. A
    discovery that scans nothing leaves the context as it was, but for events in the log that are no
    reports. So the same discovery made again, at once and often or later, registers nothing more. -/
theorem discovery_once (ctx : Context) :
    (∀ segment, (∀ op ∈ segment, op ≠ Operation.cleanup) →
      (ctx.runAll segment).1.countP Outcome.visitsSome ≤ 1) ∧
    (∀ fs layout privileged mode, (ctx.discover fs layout privileged mode).1 ≠ [] →
      ∀ later, (∀ op ∈ later, op ≠ Operation.cleanup) →
        ∀ fs' layout' privileged' mode',
          (((ctx.discover fs layout privileged mode).2.runAll later).2.discover fs' layout'
            privileged' mode').1 = []) ∧
    (ctx.plugins.plugins ≠ [] → ∀ later, (∀ op ∈ later, op ≠ Operation.cleanup) →
      ∀ fs layout privileged mode,
        ((ctx.runAll later).2.discover fs layout privileged mode).1 = []) ∧
    (∀ fs layout privileged mode, (ctx.discover fs layout privileged mode).1 = [] →
      ∃ events, (∀ r, Event.reported r ∉ events) ∧
        (ctx.discover fs layout privileged mode).2 = { ctx with log := ctx.log ++ events }) ∧
    (∀ fs layout privileged mode,
      (∀ times,
        (ctx.runAll (List.replicate (times + 1) (.discover fs layout privileged mode))).2.plugins =
          (ctx.discover fs layout privileged mode).2.plugins) ∧
      ∀ between, (∀ op ∈ between, op ≠ Operation.cleanup) → ∀ again,
        (((ctx.discover fs layout privileged mode).2.runAll between).2.discover fs layout privileged
          again).2.plugins =
          ((ctx.discover fs layout privileged mode).2.runAll between).2.plugins) := by
  have refused : ∀ {c : Context}, c.spent = true → ∀ later,
      (∀ op ∈ later, op ≠ Operation.cleanup) → ∀ fs layout privileged mode,
        ((c.runAll later).2.discover fs layout privileged mode).1 = [] :=
    fun spent later h fs layout privileged mode =>
      Context.discover_fst_eq_nil_iff.mpr (Or.inl (Context.spent_runAll h spent))
  refine ⟨fun segment h => ?_, fun fs layout privileged mode scanned =>
    refused (Context.spent_of_discover_ne_nil scanned), fun registered =>
    refused (Context.spent_iff.mpr (Or.inr registered)), fun fs layout privileged mode =>
    Context.discover_eq_noteAll, fun fs layout privileged mode =>
    ⟨ctx.plugins_runAll_replicate fs layout privileged mode, fun between h =>
      ctx.plugins_discover_again fs layout privileged mode h⟩⟩
  have bound := ctx.visits_add_spent_le h
  have := Bool.toNat_le (ctx.runAll segment).2.spent
  omega

/-- After the discovery of the two copies another one scans nothing, and in a history that has both
    of them one alone scans something. -/
theorem discovery_once_twoCopies :
    (((dissectorContext.discover twoCopies twoCopiesLayout false .silent).2.runAll
      [.describe]).2.discover twoCopies twoCopiesLayout false .report).1 = [] ∧
    (dissectorContext.runAll [.discover twoCopies twoCopiesLayout false .silent,
      .discover twoCopies twoCopiesLayout false .report]).1.countP Outcome.visitsSome ≤ 1 := by
  obtain ⟨once, later, _⟩ := discovery_once dissectorContext
  refine ⟨later twoCopies twoCopiesLayout false .silent ?_ _ ?_ _ _ _ _, once _ ?_⟩
  · rw [Ne, Context.discover_fst_eq_nil_iff]
    decide
  · simp
  · simp

end PluginDiscovery
