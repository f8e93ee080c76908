import Mathlib
import PluginDiscovery.Proofs.DiscoveryReference
import PluginDiscovery.Proofs.Runs

/-!
# Open modules

Every module that a scan opens is closed again once, and not before its time. The ledger of a
context tells when: a refused module is closed right after it was opened, one that becomes a plugin
stays open until a cleanup, and a cleanup closes them all.

* `HandleMove.Orderly`: the ledgers of this form, with the modules they leave open;
* `HandleMove.held`: a ledger replayed on its own. It stops at the first closing of a module that is
  not open, which an orderly ledger never has, and neither has a beginning of it
  (`Orderly.replays`);
* `handles_invariant`: after every history the ledger is orderly and leaves the registered plugins
  open, so a loader that counts counts them.
-/

namespace PluginDiscovery

namespace HandleMove

/-! ## 1. Replaying a ledger -/

/-- The modules that are open after moves, when those of `s` were open before; none if a module is
    closed that is not open. -/
def held (s : Multiset Path) : List HandleMove → Option (Multiset Path)
  | [] => some s
  | .opened path :: rest => held (path ::ₘ s) rest
  | .closed path :: rest => if path ∈ s then held (s.erase path) rest else none

theorem held_append (s : Multiset Path) (before after : List HandleMove) :
    held s (before ++ after) = (held s before).bind fun t => held t after := by
  induction before generalizing s with
  | nil => rfl
  | cons move rest ih =>
    cases move with
    | opened path => exact ih (path ::ₘ s)
    | closed path =>
      rw [List.cons_append, held, held]
      split
      · exact ih (s.erase path)
      · rfl

/-- A replay that ends has a replay of every beginning. -/
theorem held_of_append {s t : Multiset Path} {before after : List HandleMove}
    (h : held s (before ++ after) = some t) : ∃ u, held s before = some u := by
  rw [held_append] at h
  obtain ⟨u, hu, _⟩ := Option.bind_eq_some_iff.mp h
  exact ⟨u, hu⟩

/-- The moves change the number of open modules by their sum. -/
theorem card_of_held {s t : Multiset Path} {moves : List HandleMove} (h : held s moves = some t) :
    (t.card : Int) = s.card + net moves := by
  induction moves generalizing s with
  | nil =>
    obtain rfl := Option.some.inj h
    simp [net]
  | cons move rest ih =>
    cases move with
    | opened path =>
      have hrest := ih h
      rw [Multiset.card_cons] at hrest
      rw [hrest, net, change]
      push_cast
      ring
    | closed path =>
      rw [held] at h
      split at h
      · rename_i hmem
        have hrest := ih h
        have hcard := Multiset.card_erase_add_one hmem
        rw [hrest, net, change, ← hcard]
        push_cast
        ring
      · cases h

/-- Moves one after the other change the number of open modules by the sum of their changes. -/
theorem net_append (before after : List HandleMove) :
    net (before ++ after) = net before + net after := by
  induction before with
  | nil => simp [net]
  | cons move rest ih => rw [List.cons_append, net, net, ih, Int.add_assoc]

/-- Closing all that is open leaves nothing open. -/
theorem held_closed (paths : List Path) : held paths (paths.map closed) = some 0 := by
  induction paths with
  | nil => rfl
  | cons path rest ih =>
    rw [List.map_cons, held, if_pos (Multiset.mem_coe.mpr List.mem_cons_self), ← Multiset.cons_coe,
      Multiset.erase_cons_head]
    exact ih

/-! ## 2. Orderly ledgers -/

/-- The ledgers of a scanner that loses no module, with the paths of the modules left open, in the
    order of their opening. -/
inductive Orderly : List HandleMove → List Path → Prop where
  | new : Orderly [] []
  | refused {moves : List HandleMove} {kept : List Path} (path : Path) (h : Orderly moves kept) :
      Orderly (moves ++ [opened path, closed path]) kept
  | registered {moves : List HandleMove} {kept : List Path} (path : Path)
      (h : Orderly moves kept) : Orderly (moves ++ [opened path]) (kept ++ [path])
  | cleanup {moves : List HandleMove} {kept : List Path} (h : Orderly moves kept) :
      Orderly (moves ++ kept.map closed) []

/-- What an orderly ledger leaves open is what its replay ends with. -/
theorem Orderly.held {moves : List HandleMove} {kept : List Path} (h : Orderly moves kept) :
    HandleMove.held 0 moves = some (Multiset.ofList kept) := by
  induction h with
  | new => rfl
  | refused path _ ih =>
    rw [held_append, ih, Option.bind_some, HandleMove.held, HandleMove.held,
      if_pos (Multiset.mem_cons_self _ _), Multiset.erase_cons_head]
    rfl
  | @registered moves kept path _ ih =>
    have perm : (path ::ₘ (kept : Multiset Path)) = ((kept ++ [path] : List Path)) := by
      rw [Multiset.cons_coe, Multiset.coe_eq_coe]
      exact (List.perm_append_singleton path kept).symm
    rw [held_append, ih, Option.bind_some, HandleMove.held, perm]
    rfl
  | cleanup _ ih =>
    rw [held_append, ih, Option.bind_some, held_closed]
    rfl

/-- At every moment of an orderly ledger each closing so far was of an open module, and the sum of
    the moves so far is the number of open modules. -/
theorem Orderly.replays {moves : List HandleMove} {kept : List Path} (h : Orderly moves kept) :
    ∀ past, past <+: moves → ∃ s, HandleMove.held 0 past = some s ∧ net past = s.card := by
  rintro past ⟨future, rfl⟩
  obtain ⟨s, hs⟩ := held_of_append h.held
  refine ⟨s, hs, ?_⟩
  have card := card_of_held hs
  rw [Multiset.card_zero] at card
  omega

end HandleMove

/-! ## 3. Histories -/

namespace Context

/-- The ledger is orderly, and the registered plugins are what it leaves open. -/
def OrderlyHandles (ctx : Context) : Prop :=
  HandleMove.Orderly ctx.handles (ctx.plugins.plugins.map Plugin.path)

theorem orderlyHandles_consider {ctx : Context} (h : ctx.OrderlyHandles) (fs : FileSystem)
    (mode : FailureMode) (path : Path) (name : String) :
    (ctx.consider fs mode path name).2.OrderlyHandles := by
  unfold OrderlyHandles at h ⊢
  have fate := ctx.consider_fate fs mode path name
  generalize ctx.consider fs mode path name = result at fate
  cases fate with
  | taken has => simpa using h
  | unloadable reason has load => simpa using h
  | unversioned m has load version => simpa using h.refused path
  | unclaimed m version has load text mask => simpa using h.refused path
  | registered p has plugin =>
    have opened : p.path = path := Loader.path_of_pluginAt? plugin
    simpa [opened] using h.registered path

theorem orderlyHandles_cleanup {ctx : Context} (h : ctx.OrderlyHandles) :
    ctx.cleanup.OrderlyHandles :=
  HandleMove.Orderly.cleanup h

theorem orderlyHandles_run {ctx : Context} (op : Operation) (h : ctx.OrderlyHandles) :
    (op.run ctx).2.OrderlyHandles :=
  run_kept
    ⟨fun c event hc => hc, fun c hc => hc, fun c mode _ _ _ _ _ _ _ hc =>
      orderlyHandles_consider hc _ mode _ _⟩
    (fun c name accepts hc => by
      have frame := c.registerType_frame name accepts
      rw [OrderlyHandles, frame.2.1, frame.2.2.2]
      exact hc)
    (fun _ => orderlyHandles_cleanup h) h

/-- A loader that counts tells how many modules an orderly ledger leaves open. -/
theorem live_of_orderlyHandles {ctx : Context} (h : ctx.OrderlyHandles)
    (counts : ctx.settings.loader.counts = true) : ctx.live = ctx.plugins.size := by
  have card := HandleMove.card_of_held (HandleMove.Orderly.held h)
  rw [Multiset.card_zero, Multiset.coe_card, List.length_map] at card
  rw [live, if_pos counts, PluginRegistry.size]
  omega

end Context

/-- **After every history the open modules are those of the registered plugins.** A refused module
    was closed before another was opened, a plugin's module stays open until a cleanup, and a loader
    that counts, as that of manifests does, has at no moment counted below zero. -/
theorem handles_invariant (settings : Settings) (counts : settings.loader.counts = true)
    (history : List Operation) (ctx : Context)
    (reached : ctx = ((Context.fresh settings).runAll history).2) :
    ctx.live = ctx.plugins.size ∧
    HandleMove.Orderly ctx.handles (ctx.plugins.plugins.map Plugin.path) ∧
    HandleMove.held 0 ctx.handles =
      some (Multiset.ofList (ctx.plugins.plugins.map Plugin.path)) ∧
    (∀ past, past <+: ctx.handles →
      ∃ s, HandleMove.held 0 past = some s ∧ HandleMove.net past = s.card) ∧
    ctx.cleanup.live = 0 := by
  subst reached
  have orderly : ((Context.fresh settings).runAll history).2.OrderlyHandles :=
    Context.runAll_kept (fun op _ c hc => Context.orderlyHandles_run op hc)
      HandleMove.Orderly.new
  have counting : ((Context.fresh settings).runAll history).2.settings.loader.counts = true := by
    rw [Context.settings_runAll]
    exact counts
  refine ⟨Context.live_of_orderlyHandles orderly counting, orderly, HandleMove.Orderly.held orderly,
    HandleMove.Orderly.replays orderly, ?_⟩
  exact Context.live_of_orderlyHandles (Context.orderlyHandles_cleanup orderly) counting

/-- The good copy of the two is open, and the bad one is not. -/
theorem handles_invariant_twoCopies :
    ((Context.fresh manifestSettings).runAll twoCopiesHistory).2.live = 1 := by
  obtain ⟨live, _⟩ := handles_invariant manifestSettings rfl twoCopiesHistory _ rfl
  have size := congrArg List.length registrations_twoCopiesHistory
  rw [List.length_map] at size
  rw [live, PluginRegistry.size, size]
  rfl

end PluginDiscovery
