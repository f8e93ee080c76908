import Mathlib
import PluginDiscovery.Proofs.DiscoveryReference
import PluginDiscovery.Proofs.Handles
import PluginDiscovery.Proofs.Lockstep

/-!
# A cleanup is a new beginning

A context that was cleaned up goes on as a new one of the same settings does. What a host is
answered is the same, step by step; only the ledgers still have, in front, what was in them before.

* `Context.Continues`: a context that decides like another and has its ledgers after those of a
  past;
* `continues_parallel`: every change that both make keeps it;
* `cleanup_restarts`: so every history gives after a cleanup what it gives from the beginning.
-/

namespace PluginDiscovery

namespace Context

/-- The first context decides like the second, and its ledgers are those of the past followed by
    those of the second. -/
structure Continues (past a b : Context) : Prop extends a.DecidesLike b where
  opened : a.opened = past.opened ++ b.opened
  handles : a.handles = past.handles ++ b.handles
  reports : a.reports = past.reports ++ b.reports
  log : a.log = past.log ++ b.log

variable {past a b : Context}

/-- **Contexts that go on alike go on alike after every step.** -/
theorem continues_parallel (past : Context) : Parallel past.Continues where
  decides h := h.toDecidesLike
  withTypes _ h := { h with types := rfl }
  withPlugins _ h := { h with plugins := rfl }
  withDiscovered _ h := { h with discovered := rfl }
  note event h := { h with log := by simp only [note, h.log, List.append_assoc] }
  reported r h := { h with reports := by simp only [h.reports, List.append_assoc] }
  opened path h := { h with opened := by simp only [h.opened, List.append_assoc] }
  moved moves h := { h with handles := by simp only [h.handles, List.append_assoc] }

theorem Continues.live (h : past.Continues a b) (closed : HandleMove.net past.handles = 0) :
    a.live = b.live := by
  rw [Context.live, Context.live, h.settings, h.handles, HandleMove.net_append, closed,
    Int.zero_add]

/-- A cleanup leaves nothing open. -/
theorem net_cleanup {ctx : Context} (h : ctx.OrderlyHandles) :
    HandleMove.net ctx.cleanup.handles = 0 := by
  have card := HandleMove.card_of_held (HandleMove.Orderly.held (orderlyHandles_cleanup h))
  simpa [cleanup, PluginRegistry.empty] using card.symm

end Context

/-- **After a cleanup a context is as good as new.** Whatever it was used for and whatever is done
    with it next, each operation answers as on a new context of the same settings, and leaves the
    same types with the same bits, the same plugins, the same flag and as many open modules. Its
    reports, its opened files and its log are what they were before, followed by those of the new
    context. That a loader opens after the cleanup as it did at first is assumed in its type, by which
    it knows nothing but the files and the path. -/
theorem cleanup_restarts (settings : Settings) (history later : List Operation) (ctx : Context)
    (reached : ctx = ((Context.fresh settings).runAll history).2) :
    (ctx.cleanup.runAll later).1 = ((Context.fresh settings).runAll later).1 ∧
    (ctx.cleanup.runAll later).2.settings = ((Context.fresh settings).runAll later).2.settings ∧
    (ctx.cleanup.runAll later).2.types = ((Context.fresh settings).runAll later).2.types ∧
    (ctx.cleanup.runAll later).2.plugins = ((Context.fresh settings).runAll later).2.plugins ∧
    (ctx.cleanup.runAll later).2.discovered =
      ((Context.fresh settings).runAll later).2.discovered ∧
    (ctx.cleanup.runAll later).2.live = ((Context.fresh settings).runAll later).2.live ∧
    (ctx.cleanup.runAll later).2.reports =
      ctx.reports ++ ((Context.fresh settings).runAll later).2.reports ∧
    (ctx.cleanup.runAll later).2.opened =
      ctx.opened ++ ((Context.fresh settings).runAll later).2.opened ∧
    (ctx.cleanup.runAll later).2.log =
      ctx.log ++ .registryCleared ctx.plugins.size ::
        ((Context.fresh settings).runAll later).2.log := by
  have settled : ctx.settings = settings := by
    rw [reached, Context.settings_runAll]
    rfl
  have orderly : ctx.OrderlyHandles := by
    rw [reached]
    exact Context.runAll_kept (fun op _ c hc => Context.orderlyHandles_run op hc)
      HandleMove.Orderly.new
  have start : ctx.cleanup.Continues ctx.cleanup (Context.fresh settings) :=
    ⟨⟨settled, rfl, rfl, rfl⟩, by simp [Context.fresh], by simp [Context.fresh],
      by simp [Context.fresh], by simp [Context.fresh]⟩
  have same : List.Forall₂ (Operation.UpTo Eq) later later :=
    List.forall₂_same.mpr fun op _ => .same op
  obtain ⟨outcomes, related⟩ := (Context.continues_parallel ctx.cleanup).lockstep.runAll same start
  refine ⟨outcomes, related.settings, related.types, related.plugins, related.discovered,
    related.live (Context.net_cleanup orderly), related.reports, related.opened, ?_⟩
  rw [related.log, Context.cleanup]
  simp [Context.note, Context.release]

/-- The two copies are discovered again after a cleanup as they were at first. -/
theorem cleanup_restarts_twoCopies :
    (((Context.fresh manifestSettings).runAll twoCopiesHistory).2.cleanup.runAll
      twoCopiesHistory).2.plugins.plugins.map Plugin.registration = [goodCopy] := by
  obtain ⟨_, _, _, plugins, _⟩ := cleanup_restarts manifestSettings twoCopiesHistory
    twoCopiesHistory _ rfl
  rw [plugins, registrations_twoCopiesHistory]

end PluginDiscovery
