import PluginDiscovery.Proofs.DiscoveryReference

/-!
# What special privileges keep out

A user can put anything into the personal directory, so a privileged process must not be led by it.
A plan has a part that is the same for everyone and, for an unprivileged process, the personal
directory after it; and a privileged discovery is one and the same whatever the personal directory
is.

* `Layout.shared`: the part of a plan that is the same for everyone, `plan_fst`: a plan is this part
  and the personal directory;
* `Layout.SameButPersonal`, `plan_privileged`: layouts that differ in the personal directory alone
  give a privileged process the same plan, with the same log;
* `Ids.privileged_eq_false_iff`: who is unprivileged;
* `personal_noninterference`: all of it, for whole discoveries.
-/

namespace PluginDiscovery

/-! ## 1. Ids -/

/-- A process is unprivileged when it runs as the user and the group that started it, and neither is
    that of the superuser. -/
theorem Ids.privileged_eq_false_iff (ids : Ids) :
    ids.privileged = false ↔
      ids.realUser = ids.effectiveUser ∧ ids.realGroup = ids.effectiveGroup ∧
      ids.realUser ≠ 0 ∧ ids.effectiveUser ≠ 0 ∧ ids.realGroup ≠ 0 ∧ ids.effectiveGroup ≠ 0 := by
  simp only [privileged, Bool.or_eq_false_iff, bne_eq_false_iff_eq, beq_eq_false_iff_ne]
  constructor
  · rintro ⟨⟨⟨user, group⟩, realUser⟩, realGroup⟩
    exact ⟨user, group, realUser, user ▸ realUser, realGroup, group ▸ realGroup⟩
  · rintro ⟨user, group, realUser, _, realGroup, _⟩
    exact ⟨⟨⟨user, group⟩, realUser⟩, realGroup⟩

namespace Layout

variable (layout : Layout) (fs : FileSystem) (privileged : Bool)

/-! ## 2. The two parts of a plan -/

/-- The directories that are planned for everyone. -/
def shared : List Path :=
  match layout.primary with
  | none => []
  | some primary =>
    if layout.buildTree then
      match fs.list primary with
      | .error _ => []
      | .ok entries =>
        primary :: (subdirectories fs primary entries).map (builtIn fs layout.buildOutput)
    else layout.versioned.toList

/-- The directories that are planned for an unprivileged process alone. -/
def own : List Path :=
  if layout.primary.isSome then layout.personal.toList else []

/-- The directory of the user as a list: none if there is none, and none for a privileged process. -/
def ownedBy : List Path :=
  if privileged then [] else layout.personal.toList

theorem personalOnly_fst : (layout.personalOnly privileged).1 = layout.ownedBy privileged := by
  cases privileged <;> rfl

/-- **A plan is the part for everyone, and for an unprivileged process its own part after it.** -/
theorem plan_fst :
    (layout.plan fs privileged).1 =
      layout.shared fs ++ (if privileged then [] else layout.own) := by
  unfold plan shared own
  cases layout.primary with
  | none => simp
  | some primary =>
    simp only [Option.isSome_some, if_true]
    cases layout.buildTree with
    | false => simp [personalOnly_fst, ownedBy]
    | true =>
      cases fs.list primary with
      | error cause => simp [personalOnly_fst, ownedBy]
      | ok entries => simp [personalOnly_fst, ownedBy]

/-- Without a primary directory nothing is planned for anyone. -/
theorem plan_of_primary_none (h : layout.primary = none) :
    (layout.plan fs privileged).1 = [] := by
  simp [plan, h]

/-! ## 3. Layouts that differ in the personal directory -/

/-- The layouts agree on everything except the personal directory. -/
structure SameButPersonal (a b : Layout) : Prop where
  primary : a.primary = b.primary
  buildTree : a.buildTree = b.buildTree
  buildOutput : a.buildOutput = b.buildOutput
  versioned : a.versioned = b.versioned

/-- The plan of a privileged process, with what its making logs, does not depend on the personal
    directory. -/
theorem plan_privileged {a b : Layout} (same : a.SameButPersonal b) :
    a.plan fs true = b.plan fs true := by
  obtain ⟨primary, buildTree, buildOutput, versioned⟩ := same
  simp only [plan, personalOnly, primary, buildTree, buildOutput, versioned, if_true]

end Layout

/-- The discovery of a privileged process does not depend on the personal directory. -/
theorem Context.discover_privileged (ctx : Context) (fs : FileSystem) (mode : FailureMode)
    {a b : Layout} (same : a.SameButPersonal b) :
    ctx.discover fs a true mode = ctx.discover fs b true mode := by
  rw [discover, discover, Layout.plan_privileged fs same]

/-- **A privileged discovery learns nothing of the personal directory.** Two layouts that agree on
    everything else give it the same plan, and lead it to the same directories and to the same
    context, with all its ledgers. An unprivileged process plans the same directories and the
    personal one after them, and nobody plans anything without a primary directory. Unprivileged is
    who runs as the user and the group that started the process, none of them the superuser's. -/
theorem personal_noninterference (a b : Layout) (same : a.SameButPersonal b) :
    (∀ fs, a.plan fs true = b.plan fs true) ∧
    (∀ (ctx : Context) fs mode,
      ctx.discover fs a true mode = ctx.discover fs b true mode) ∧
    (∀ (layout : Layout) fs,
      (layout.primary ≠ none →
        (layout.plan fs false).1 = (layout.plan fs true).1 ++ layout.personal.toList) ∧
      (layout.primary = none →
        (layout.plan fs false).1 = [] ∧ (layout.plan fs true).1 = [])) ∧
    (∀ ids : Ids, ids.privileged = false ↔
      ids.realUser = ids.effectiveUser ∧ ids.realGroup = ids.effectiveGroup ∧
      ids.realUser ≠ 0 ∧ ids.effectiveUser ≠ 0 ∧ ids.realGroup ≠ 0 ∧ ids.effectiveGroup ≠ 0) := by
  refine ⟨fun fs => Layout.plan_privileged fs same,
    fun ctx fs mode => ctx.discover_privileged fs mode same, fun layout fs => ⟨fun primary => ?_,
    fun primary => ⟨layout.plan_of_primary_none fs false primary,
      layout.plan_of_primary_none fs true primary⟩⟩, Ids.privileged_eq_false_iff⟩
  have own : layout.own = layout.personal.toList := by
    rw [Layout.own, if_pos (Option.isSome_iff_ne_none.mpr primary)]
  rw [Layout.plan_fst, Layout.plan_fst, own]
  simp

/-- A privileged discovery of the two copies passes over the good one, which is in the personal
    directory, as if there were no such directory. -/
theorem personal_noninterference_twoCopies :
    dissectorContext.discover twoCopies twoCopiesLayout true .report =
      dissectorContext.discover twoCopies { twoCopiesLayout with personal := none } true .report ∧
    (twoCopiesLayout.plan twoCopies false).1 =
      (twoCopiesLayout.plan twoCopies true).1 ++ [Path.ofString "/b"] := by
  obtain ⟨_, discovery, plan, _⟩ := personal_noninterference twoCopiesLayout
    { twoCopiesLayout with personal := none } ⟨rfl, rfl, rfl, rfl⟩
  exact ⟨discovery dissectorContext twoCopies .report,
    (plan twoCopiesLayout twoCopies).1 (by decide)⟩

end PluginDiscovery
