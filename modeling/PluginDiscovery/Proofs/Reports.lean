import Mathlib
import PluginDiscovery.Proofs.DiscoveryReference
import PluginDiscovery.Proofs.Lockstep
import PluginDiscovery.Proofs.Runs

/-!
# What a host is told

A mode decides whether a host is told of the candidates that are refused, and nothing else. What it
is told can be said without a context: go through the candidates in their order with the list of
what is registered, and report on each that is refused, with the reason.

* `Context.received`: the reports a host got, wherever its reporter writes them, and
  `Context.rejections`: the refusals in the log, which has them whether a host is told or not;
* `Loader.refusal?`, `Context.refusals`: why a candidate is refused, and the refusals of directories;
* `Context.Refuses`: what a step refuses, as the log and the host have it; `scan_refuses`,
  `discover_refuses`: scans and discoveries refuse just these;
* `Operation.reports`, `Context.reportsAlong`: what an operation reports, and the operations of a
  history one by one; `received_runAll`: a host gets these reports and no other;
* `Context.SameButReports`: contexts that differ in reports alone, `sameButReports_lockstep`: and do
  so after every step, whatever the modes;
* `mode_switches_reports`: all of it for two histories that differ in modes.
-/

namespace PluginDiscovery

/-! ## 1. Reports and rejections -/

/-- The report that an event of the log is. -/
def Event.report? : Event → Option Report
  | .reported r => some r
  | _ => none

/-- The refusal that an event of the log is. -/
def Event.rejection? : Event → Option PluginError
  | .rejected e => some e
  | _ => none

theorem Event.report?_of_isNote {event : Event} (notes : event.isNote = true) :
    event.report? = none := by
  cases event with
  | reported r => cases notes
  | _ => rfl

theorem Event.rejection?_of_isNote {event : Event} (notes : event.isNote = true) :
    event.rejection? = none := by
  cases event with
  | rejected e => cases notes
  | _ => rfl

/-- The report on a refused candidate. -/
def PluginError.report (e : PluginError) : Report :=
  ⟨Context.severityOf e, e.message⟩

/-- What a mode lets a host know of refusals. -/
def FailureMode.told (mode : FailureMode) (refusals : List PluginError) : List Report :=
  if mode.isVerbose then refusals.map PluginError.report else []

@[simp] theorem FailureMode.told_nil (mode : FailureMode) : mode.told [] = [] := by
  simp [told]

theorem FailureMode.told_append (mode : FailureMode) (before after : List PluginError) :
    mode.told (before ++ after) = mode.told before ++ mode.told after := by
  unfold told
  split <;> simp

namespace Context

/-- The reports a host got, in memory or in the log. -/
def received (ctx : Context) : List Report :=
  match ctx.settings.reporter with
  | .memory => ctx.reports
  | .log => ctx.log.filterMap Event.report?

/-- The refusals in the log. -/
def rejections (ctx : Context) : List PluginError :=
  ctx.log.filterMap Event.rejection?

/-- On the way from one context to another these candidates are refused: the log has the refusals,
    and the host hears of them in a mode that tells. -/
structure Refuses (mode : FailureMode) (errors : List PluginError) (a b : Context) : Prop where
  received : b.received = a.received ++ mode.told errors
  rejections : b.rejections = a.rejections ++ errors

section Refuses

variable {mode : FailureMode} {a b c : Context} (ctx : Context)

theorem Refuses.trans {before after : List PluginError} (hab : Refuses mode before a b)
    (hbc : Refuses mode after b c) : Refuses mode (before ++ after) a c where
  received := by rw [hbc.received, hab.received, FailureMode.told_append, List.append_assoc]
  rejections := by rw [hbc.rejections, hab.rejections, List.append_assoc]

/-- Nothing is refused where neither the reports nor the log change. -/
theorem Refuses.nothing (settings : b.settings = a.settings) (reports : b.reports = a.reports)
    (log : b.log = a.log) : Refuses mode [] a b where
  received := by simp only [Context.received, settings, reports, log, FailureMode.told_nil,
    List.append_nil]
  rejections := by simp only [Context.rejections, log, List.append_nil]

theorem received_note {event : Event} (silent : event.report? = none) :
    (ctx.note event).received = ctx.received := by
  unfold received note
  cases ctx.settings.reporter with
  | memory => rfl
  | log => simp [silent]

theorem rejections_note {event : Event} {e : Option PluginError} (is : event.rejection? = e) :
    (ctx.note event).rejections = ctx.rejections ++ e.toList := by
  subst is
  cases hevent : event.rejection? <;> simp [rejections, note, hevent]

theorem refuses_noteAll {events : List Event} (notes : ∀ event ∈ events, event.isNote = true) :
    Refuses mode [] ctx (ctx.noteAll events) := by
  have unreported : events.filterMap Event.report? = [] :=
    List.filterMap_eq_nil_iff.mpr fun event hevent => Event.report?_of_isNote (notes event hevent)
  have unrefused : events.filterMap Event.rejection? = [] :=
    List.filterMap_eq_nil_iff.mpr fun event hevent =>
      Event.rejection?_of_isNote (notes event hevent)
  refine ⟨?_, by simp [rejections, noteAll, unrefused]⟩
  unfold received noteAll
  cases ctx.settings.reporter with
  | memory => simp
  | log => simp [unreported]

theorem refuses_note {event : Event} (notes : event.isNote = true) :
    Refuses mode [] ctx (ctx.note event) :=
  ctx.refuses_noteAll fun _ h => List.mem_singleton.mp h ▸ notes

theorem received_fresh (settings : Settings) : (fresh settings).received = [] := by
  unfold received fresh
  cases settings.reporter <;> rfl

theorem received_report (r : Report) : (ctx.report r).received = ctx.received ++ [r] := by
  unfold received report
  cases reporter : ctx.settings.reporter with
  | memory => simp [reporter]
  | log => simp [reporter, note, Event.report?]

theorem rejections_report (r : Report) : (ctx.report r).rejections = ctx.rejections := by
  unfold report
  cases ctx.settings.reporter with
  | memory => rfl
  | log => exact (ctx.rejections_note rfl).trans (List.append_nil _)

/-- A refusal is in the log in either mode, and reported in one of them. -/
theorem refuses_reject (mode : FailureMode) (e : PluginError) :
    Refuses mode [e] ctx (ctx.reject mode e) := by
  have received : (ctx.note (.rejected e)).received = ctx.received := ctx.received_note rfl
  have rejections : (ctx.note (.rejected e)).rejections = ctx.rejections ++ [e] :=
    ctx.rejections_note rfl
  cases mode with
  | silent => exact ⟨received.trans (List.append_nil _).symm, rejections⟩
  | report =>
    refine ⟨?_, (rejections_report _ _).trans rejections⟩
    rw [← received]
    exact received_report _ e.report

theorem refuses_recordOpening (path : Path) : Refuses mode [] ctx (ctx.recordOpening path) :=
  .nothing (by simp) (by simp) (by simp)

theorem refuses_acquire (path : Path) : Refuses mode [] ctx (ctx.acquire path) := by
  have opened : Refuses mode [] ctx { ctx with handles := ctx.handles ++ [.opened path] } :=
    .nothing rfl rfl rfl
  simp only [acquire]
  split
  · exact opened.trans (refuses_note _ rfl)
  · exact opened

theorem refuses_opening (path : Path) : Refuses mode [] ctx (ctx.opening path) :=
  (ctx.refuses_recordOpening path).trans (refuses_acquire _ path)

theorem refuses_release (paths : List Path) : Refuses mode [] ctx (ctx.release paths) :=
  .nothing rfl rfl rfl

theorem refuses_registering (p : Plugin) : Refuses mode [] ctx (ctx.registering p) := by
  have classified : Refuses mode [] ctx
      (ctx.note (.classified p.name (ctx.types.describe p.mask))) := ctx.refuses_note rfl
  have extended : Refuses mode [] (ctx.note (.classified p.name (ctx.types.describe p.mask)))
      { ctx.note (.classified p.name (ctx.types.describe p.mask)) with
        plugins := ⟨ctx.plugins.plugins ++ [p]⟩ } := .nothing rfl rfl rfl
  exact (classified.trans extended).trans (refuses_note _ rfl)

theorem received_cleanup : ctx.cleanup.received = ctx.received := by
  have cleared : ((ctx.release (ctx.plugins.plugins.map Plugin.path)).note
      (.registryCleared ctx.plugins.size)).received = ctx.received :=
    received_note _ rfl
  rw [← cleared]
  rfl

end Refuses

end Context

/-! ## 2. Refusals of candidates -/

/-- Why a candidate is refused when these rows are registered, if it is: its name is taken, or its
    file does not open, or the module has no version, or no type accepts it. -/
def Loader.refusal? (loader : Loader) (types : TypeRegistry) (fs : FileSystem)
    (rows : List Registration) (candidate : Path × String) : Option PluginError :=
  if rows.any fun r => r.name = candidate.2 then some (.duplicateName candidate.2)
  else
    match loader.load fs candidate.1 with
    | .error reason => some (.loadFailed candidate.1 reason)
    | .ok m =>
      match m.text? Abi.version with
      | none => some (.missingVersion candidate.2)
      | some _ => if types.classify m = .empty then some (.noRoutines candidate.2) else none

/-- The refusals of candidates in their order, each with what was registered before it. -/
def Loader.refusals (loader : Loader) (types : TypeRegistry) (fs : FileSystem) :
    List Registration → List (Path × String) → List PluginError
  | _, [] => []
  | rows, candidate :: rest =>
    (loader.refusal? types fs rows candidate).toList ++
      refusals loader types fs (enroll loader types fs rows candidate) rest

theorem Loader.refusals_append (loader : Loader) (types : TypeRegistry) (fs : FileSystem)
    (before after : List (Path × String)) (rows : List Registration) :
    loader.refusals types fs rows (before ++ after) =
      loader.refusals types fs rows before ++
        loader.refusals types fs (before.foldl (enroll loader types fs) rows) after := by
  induction before generalizing rows with
  | nil => rfl
  | cons candidate rest ih =>
    rw [List.cons_append, refusals, refusals, ih, List.append_assoc, List.foldl_cons]

/-- The refusals of the candidates of directories. -/
def Context.refusals (ctx : Context) (fs : FileSystem) (directories : List Path) :
    List PluginError :=
  ctx.settings.loader.refusals ctx.types fs (ctx.plugins.plugins.map Plugin.registration)
    (ctx.settings.candidatesOf fs directories)

section Scans

variable {s : Settings} {types : TypeRegistry} {rows : List Registration} {c : Context}
  (fs : FileSystem) (mode : FailureMode)

/-- A candidate is registered unless there is a reason to refuse it, and is refused for that. -/
theorem consider_refusal? (h : Shows s types rows c) (path : Path) (name : String) :
    (c.consider fs mode path name).1 = (s.loader.refusal? types fs rows (path, name)).isNone ∧
    c.Refuses mode (s.loader.refusal? types fs rows (path, name)).toList
      (c.consider fs mode path name).2 := by
  obtain ⟨rfl, rfl, rfl⟩ := h
  have opened : c.Refuses mode [] (c.opening path) := c.refuses_opening path
  have released : c.Refuses mode [] ((c.opening path).release [path]) :=
    opened.trans (Context.refuses_release _ _)
  rw [Context.consider_eq, Loader.refusal?, any_registration]
  split
  · exact ⟨rfl, c.refuses_reject mode _⟩
  · cases c.settings.loader.load fs path with
    | error reason =>
      exact ⟨rfl, (c.refuses_recordOpening path).trans (Context.refuses_reject _ mode _)⟩
    | ok m =>
      simp only
      cases m.text? Abi.version with
      | none => exact ⟨rfl, released.trans (Context.refuses_reject _ mode _)⟩
      | some version =>
        simp only [TypeMask.isEmpty_iff]
        split
        · exact ⟨rfl, released.trans (Context.refuses_reject _ mode _)⟩
        · exact ⟨rfl, opened.trans (Context.refuses_registering _ _)⟩

/-- On the way from `ctx` to the context these candidates were passed: the list of `ctx` has taken
    of them what it takes, and the others were refused. -/
structure Tells (ctx : Context) (fs : FileSystem) (mode : FailureMode)
    (past : List (Path × String)) (c : Context) : Prop where
  shows : Shows ctx.settings ctx.types
    (past.foldl (enroll ctx.settings.loader ctx.types fs)
      (ctx.plugins.plugins.map Plugin.registration)) c
  refuses : ctx.Refuses mode
    (ctx.settings.loader.refusals ctx.types fs (ctx.plugins.plugins.map Plugin.registration) past) c

variable (ctx : Context)

theorem Tells.start (settings : c.settings = ctx.settings) (types : c.types = ctx.types)
    (plugins : c.plugins = ctx.plugins) (refuses : ctx.Refuses mode [] c) :
    Tells ctx fs mode [] c :=
  ⟨⟨settings, types, by rw [plugins]; rfl⟩, refuses⟩

theorem tells_passes :
    Passes ctx.settings fs mode fun past state => Tells ctx fs mode past state.2 where
  settings h := h.shows.settings
  note event notes h := by
    refine ⟨⟨h.shows.settings, h.shows.types, h.shows.rows⟩, ?_⟩
    simpa using h.refuses.trans (Context.refuses_note _ notes)
  consider path name h := by
    refine ⟨?_, ?_⟩
    · rw [List.foldl_append]
      exact consider_enrolls fs mode h.shows path name
    · have refuses := h.refuses.trans (consider_refusal? fs mode h.shows path name).2
      rw [Loader.refusals_append]
      simpa [Loader.refusals] using refuses

/-- The counter of refused candidates counts the refusals. -/
theorem counts_passes :
    Passes ctx.settings fs mode fun past state => Tells ctx fs mode past state.2 ∧
      state.1.rejected = (ctx.settings.loader.refusals ctx.types fs
        (ctx.plugins.plugins.map Plugin.registration) past).length where
  settings h := h.1.shows.settings
  note _ notes h := ⟨(tells_passes fs mode ctx).note _ notes h.1, h.2⟩
  consider path name h := by
    refine ⟨(tells_passes fs mode ctx).consider path name h.1, ?_⟩
    rw [(consider_refusal? fs mode h.1.shows path name).1, Loader.refusals_append,
      List.length_append, ← h.2]
    simp only [Loader.refusals, List.append_nil]
    cases ctx.settings.loader.refusal? ctx.types fs _ (path, name) with
    | none => rfl
    | some e => rfl

end Scans

namespace Context

variable (ctx : Context) (fs : FileSystem) (mode : FailureMode)

/-- **A scan refuses what its directory has to refuse**, and counts it. -/
theorem scan_refuses (directory : Path) :
    ctx.Refuses mode (ctx.refusals fs [directory]) (ctx.scan fs directory mode).2 ∧
    (ctx.scan fs directory mode).1.rejected = (ctx.refusals fs [directory]).length := by
  have start : Tells ctx fs mode [] ctx := .start fs mode ctx rfl rfl rfl (.nothing rfl rfl rfl)
  obtain ⟨tells, count⟩ := (counts_passes fs mode ctx).scan directory ⟨start, rfl⟩
  exact ⟨tells.refuses, count⟩

/-- **A discovery refuses what the directories it gives back have to refuse.** -/
theorem discover_refuses (layout : Layout) (privileged : Bool) :
    ctx.Refuses mode (ctx.refusals fs (ctx.discover fs layout privileged mode).1)
      (ctx.discover fs layout privileged mode).2 := by
  have planned : Refuses mode [] ctx (ctx.noteAll (layout.plan fs privileged).2) :=
    ctx.refuses_noteAll (layout.isNote_of_mem_plan fs privileged)
  rw [discover_eq]
  split
  · exact ctx.refuses_note rfl
  · split
    · exact planned
    · have start : Tells ctx fs mode [] (ctx.noteAll (layout.plan fs privileged).2).mark :=
        .start fs mode ctx rfl rfl rfl (planned.trans (.nothing rfl rfl rfl))
      have all := (tells_passes fs mode ctx).scanAll (layout.plan fs privileged).1 start
      have finished : Refuses mode [] _ (ctx.pass fs mode (layout.plan fs privileged)) :=
        refuses_note _ rfl
      have refused := all.refuses.trans finished
      rw [List.append_nil] at refused
      exact refused

end Context

/-! ## 3. Refusals of types -/

/-- The reports on types of these names, of which the first find room and the others are refused. -/
def TypeRegistry.refusals (r : TypeRegistry) (names : List String) : List Report :=
  (names.drop (Abi.maxTypes - r.size)).map fun name =>
    ⟨.failure, (PluginError.typeLimit name Abi.maxTypes).message⟩

namespace Context

theorem received_registerType (ctx : Context) (name : String) (accepts : Module → Bool) :
    (ctx.registerType name accepts).2.received = ctx.received ++ ctx.types.refusals [name] := by
  unfold registerType TypeRegistry.register TypeRegistry.refusals
  by_cases full : Abi.maxTypes ≤ ctx.types.size
  · rw [if_pos full, Nat.sub_eq_zero_of_le full]
    exact ctx.received_report _
  · have room : [name].drop (Abi.maxTypes - ctx.types.size) = [] :=
      List.drop_eq_nil_of_le (Nat.sub_pos_of_lt (Nat.lt_of_not_le full))
    rw [if_neg full, room, List.map_nil, List.append_nil]
    exact received_note _ rfl

theorem received_registerEntries (ctx : Context) (entries : List TypeEntry) :
    (ctx.registerEntries entries).2.received =
      ctx.received ++ ctx.types.refusals (entries.map TypeEntry.name) := by
  induction entries generalizing ctx with
  | nil => simp [registerEntries, TypeRegistry.refusals]
  | cons entry rest ih =>
    by_cases full : Abi.maxTypes ≤ ctx.types.size
    · have noRoom : Abi.maxTypes - ctx.types.size = 0 := Nat.sub_eq_zero_of_le full
      simp only [registerEntries, registerType, TypeRegistry.register, if_pos full]
      rw [ih, received_report, (ctx.report_frame _).2.1]
      simp [TypeRegistry.refusals, noRoom]
    · have room : Abi.maxTypes - ctx.types.size = Abi.maxTypes - (ctx.types.size + 1) + 1 := by
        omega
      simp only [registerEntries, registerType, TypeRegistry.register, if_neg full]
      rw [ih, received_note _ rfl, TypeRegistry.refusals, TypeRegistry.refusals,
        List.map_cons, room, List.drop_succ_cons]
      simp [TypeRegistry.size, note, received]

end Context

/-! ## 4. What a history reports -/

/-- What an operation reports. -/
def Operation.reports (ctx : Context) : Operation → List Report
  | .registerType name _ => ctx.types.refusals [name]
  | .registerEntries entries => ctx.types.refusals (entries.map TypeEntry.name)
  | .scan fs directory mode => mode.told (ctx.refusals fs [directory])
  | .discover fs layout privileged mode =>
    mode.told (ctx.refusals fs (ctx.discover fs layout privileged mode).1)
  | _ => []

/-- Whether an operation registers types. -/
def Operation.registersTypes : Operation → Bool
  | .registerType .. | .registerEntries _ => true
  | _ => false

namespace Context

/-- What each operation of a history reports. -/
def reportsAlong (ctx : Context) : List Operation → List (List Report)
  | [] => []
  | op :: rest => op.reports ctx :: (op.run ctx).2.reportsAlong rest

theorem received_run (ctx : Context) (op : Operation) :
    (op.run ctx).2.received = ctx.received ++ op.reports ctx := by
  cases op with
  | registerType name accepts => exact ctx.received_registerType name accepts
  | registerEntries entries => exact ctx.received_registerEntries entries
  | scan fs directory mode => exact (ctx.scan_refuses fs mode directory).1.received
  | discover fs layout privileged mode => exact (ctx.discover_refuses fs mode layout privileged).received
  | cleanup => exact ctx.received_cleanup.trans (List.append_nil _).symm
  | describe => exact (List.append_nil _).symm
  | dump capacity => exact (List.append_nil _).symm

/-- **A host gets the reports of the operations of a history, one after the other.** -/
theorem received_runAll (ctx : Context) (history : List Operation) :
    (ctx.runAll history).2.received = ctx.received ++ (ctx.reportsAlong history).flatten := by
  induction history generalizing ctx with
  | nil => simp [runAll, reportsAlong]
  | cons op rest ih =>
    have step := ih (op.run ctx).2
    rw [received_run, List.append_assoc] at step
    exact step

/-! ## 5. Contexts that differ in reports -/

/-- The contexts differ in what was reported, and nothing else. With a log for reports that is the
    reports among its events. -/
structure SameButReports (a b : Context) : Prop extends a.DecidesLike b where
  opened : a.opened = b.opened
  handles : a.handles = b.handles
  events : a.log.filter (fun event => event.report?.isNone) =
    b.log.filter (fun event => event.report?.isNone)
  log : a.settings.reporter = .memory → a.log = b.log

variable {a b c : Context}

theorem SameButReports.refl (a : Context) : a.SameButReports a :=
  ⟨⟨rfl, rfl, rfl, rfl⟩, rfl, rfl, rfl, fun _ => rfl⟩

theorem SameButReports.symm (h : a.SameButReports b) : b.SameButReports a :=
  ⟨⟨h.settings.symm, h.types.symm, h.plugins.symm, h.discovered.symm⟩, h.opened.symm,
    h.handles.symm, h.events.symm, fun memory => (h.log (h.settings ▸ memory)).symm⟩

theorem SameButReports.trans (hab : a.SameButReports b) (hbc : b.SameButReports c) :
    a.SameButReports c :=
  ⟨⟨hab.settings.trans hbc.settings, hab.types.trans hbc.types, hab.plugins.trans hbc.plugins,
    hab.discovered.trans hbc.discovered⟩, hab.opened.trans hbc.opened,
    hab.handles.trans hbc.handles, hab.events.trans hbc.events, fun memory =>
    (hab.log memory).trans (hbc.log (hab.settings ▸ memory))⟩

theorem SameButReports.live (h : a.SameButReports b) : a.live = b.live := by
  rw [Context.live, Context.live, h.settings, h.handles]

/-- A report makes no other difference. -/
theorem sameButReports_report (ctx : Context) (r : Report) : (ctx.report r).SameButReports ctx := by
  unfold report
  cases reporter : ctx.settings.reporter with
  | memory => exact ⟨⟨rfl, rfl, rfl, rfl⟩, rfl, rfl, rfl, fun _ => rfl⟩
  | log =>
    refine ⟨⟨rfl, rfl, rfl, rfl⟩, rfl, rfl, by simp [note, Event.report?], fun memory => ?_⟩
    rw [(ctx.note_frame _).1, reporter] at memory
    cases memory

/-- A refusal makes no other difference than the event in the log. -/
theorem sameButReports_reject (ctx : Context) (mode : FailureMode) (e : PluginError) :
    (ctx.reject mode e).SameButReports (ctx.note (.rejected e)) := by
  unfold reject
  cases mode.isVerbose with
  | false => exact .refl _
  | true => exact sameButReports_report _ _

theorem SameButReports.note (h : a.SameButReports b) (event : Event) :
    (a.note event).SameButReports (b.note event) where
  settings := h.settings
  types := h.types
  plugins := h.plugins
  discovered := h.discovered
  opened := h.opened
  handles := h.handles
  events := by
    simp only [Context.note, List.filter_append]
    rw [h.events]
  log memory := by
    simp only [Context.note]
    rw [h.log memory]

/-- **Contexts that differ in reports do so after every step, whatever the modes.** -/
theorem sameButReports_lockstep : Lockstep (fun _ _ => True) SameButReports where
  decides h := h.toDecidesLike
  withTypes _ h := { h with types := rfl }
  withPlugins _ h := { h with plugins := rfl }
  withDiscovered _ h := { h with discovered := rfl }
  note event h := h.note event
  reported _ h := { h with }
  opened path h := { h with opened := congrArg (· ++ [path]) h.opened }
  moved moves h := { h with handles := congrArg (· ++ moves) h.handles }
  modes _ := trivial
  reject _ e h := ((sameButReports_reject _ _ e).trans (h.note _)).trans
    (sameButReports_reject _ _ e).symm

/-- A registration of types reports the same in contexts that differ in reports, at its place in
    either history. -/
theorem reportsAlong_registersTypes {first second : List Operation}
    (same : List.Forall₂ (Operation.UpTo fun _ _ => True) first second) (h : a.SameButReports b)
    {i : Nat} {op : Operation} (at_i : first[i]? = some op) (registers : op.registersTypes = true) :
    (a.reportsAlong first)[i]? = (b.reportsAlong second)[i]? := by
  induction same generalizing a b i with
  | nil => cases at_i
  | @cons op₁ op₂ first second head _ ih =>
    obtain ⟨_, related⟩ := sameButReports_lockstep.run head h
    cases i with
    | succ i => exact ih related at_i
    | zero =>
      obtain rfl : op₁ = op := Option.some.inj at_i
      have reports : op₁.reports a = op₂.reports b := by
        cases head with
        | scan => cases registers
        | discover => cases registers
        | same =>
          cases op₁ with
          | registerType name accepts => simp only [Operation.reports, h.types]
          | registerEntries entries => simp only [Operation.reports, h.types]
          | scan => cases registers
          | discover => cases registers
          | cleanup => cases registers
          | describe => cases registers
          | dump => cases registers
      exact congrArg some reports

end Context

/-- **The mode of scans and discoveries switches reports and nothing else.** Two histories that
    differ in modes alone give the same outcomes and lead to contexts that differ in reports alone,
    with the same log when reports go to memory. A host gets what the operations of a history report
    one by one, and registrations of types report the same in both. A scan or a discovery logs its
    refusals in either mode. Silent it reports nothing; in the other mode it reports on each refused
    candidate, in their order, with the message of the refusal, as a warning if the name is taken
    and as a failure if not. -/
theorem mode_switches_reports (ctx : Context) (first second : List Operation)
    (same : List.Forall₂ (Operation.UpTo fun _ _ => True) first second) :
    (ctx.runAll first).1 = (ctx.runAll second).1 ∧
    (ctx.runAll first).2.SameButReports (ctx.runAll second).2 ∧
    (ctx.runAll first).2.live = (ctx.runAll second).2.live ∧
    (ctx.settings.reporter = .memory → (ctx.runAll first).2.log = (ctx.runAll second).2.log) ∧
    (∀ history,
      (ctx.runAll history).2.received = ctx.received ++ (ctx.reportsAlong history).flatten) ∧
    (∀ (i : Nat) (op : Operation), first[i]? = some op → op.registersTypes = true →
      (ctx.reportsAlong first)[i]? = (ctx.reportsAlong second)[i]?) ∧
    (∀ (c : Context) fs directory,
      (∀ mode,
        (c.scan fs directory mode).2.rejections = c.rejections ++ c.refusals fs [directory] ∧
        (c.scan fs directory mode).1.rejected = (c.refusals fs [directory]).length) ∧
      (c.scan fs directory .silent).2.received = c.received ∧
      (c.scan fs directory .report).2.received =
        c.received ++ (c.refusals fs [directory]).map PluginError.report) ∧
    (∀ (c : Context) fs layout privileged,
      (∀ mode, (c.discover fs layout privileged mode).2.rejections =
        c.rejections ++ c.refusals fs (c.discover fs layout privileged mode).1) ∧
      (c.discover fs layout privileged .silent).2.received = c.received ∧
      (c.discover fs layout privileged .report).2.received = c.received ++
        (c.refusals fs (c.discover fs layout privileged .report).1).map PluginError.report) ∧
    (∀ e : PluginError, e.report.message = e.message ∧
      (e.report.severity = .warning ↔ ∃ name, e = .duplicateName name)) := by
  obtain ⟨outcomes, related⟩ := Context.sameButReports_lockstep.runAll same (.refl ctx)
  have silent : ∀ errors, FailureMode.silent.told errors = [] := fun _ => rfl
  refine ⟨outcomes, related, related.live, fun memory => related.log ?_,
    fun history => ctx.received_runAll history, fun i op at_i registers =>
    Context.reportsAlong_registersTypes same (.refl ctx) at_i registers,
    fun c fs directory => ⟨fun mode => ⟨(c.scan_refuses fs mode directory).1.rejections,
      (c.scan_refuses fs mode directory).2⟩, ?_, (c.scan_refuses fs .report directory).1.received⟩,
    fun c fs layout privileged =>
    ⟨fun mode => (c.discover_refuses fs mode layout privileged).rejections, ?_,
      (c.discover_refuses fs .report layout privileged).received⟩,
    fun e => ⟨rfl, ?_⟩⟩
  · rw [Context.settings_runAll]
    exact memory
  · rw [(c.scan_refuses fs .silent directory).1.received, silent, List.append_nil]
  · rw [(c.discover_refuses fs .silent layout privileged).received, silent, List.append_nil]
  · cases e <;> simp [PluginError.report, Context.severityOf]

/-- A file with a version and the routine of dissectors is good for a context that knows them. -/
theorem refusal?_goodText {fs : FileSystem} {path : Path} {name : String}
    (text : fs.readText path = .ok "version=1\nsymbol=plugin_register") :
    Manifest.loader.refusal? dissectorContext.types fs [] (path, name) = none := by
  simp only [Loader.refusal?, Manifest.loader, Manifest.load, text]
  rfl

/-- Of the two copies the bad one alone is refused, since its file does not open. -/
theorem refusals_twoCopies :
    dissectorContext.refusals twoCopies (twoCopiesLayout.plan twoCopies false).1 =
      [.loadFailed (Path.ofString "/a/x.mod") "bad"] := by
  have bad : Manifest.loader.refusal? dissectorContext.types twoCopies []
      (Path.ofString "/a/x.mod", "x.mod") = some (.loadFailed (Path.ofString "/a/x.mod") "bad") := by
    have text : twoCopies.readText (Path.ofString "/a/x.mod") = .ok "fail=bad" := by cbv
    simp only [Loader.refusal?, Manifest.loader, Manifest.load, text]
    decide
  have good : Manifest.loader.refusal? dissectorContext.types twoCopies []
      (Path.ofString "/b/x.mod", "x.mod") = none := refusal?_goodText (by cbv)
  have kept : enroll Manifest.loader dissectorContext.types twoCopies []
      (Path.ofString "/a/x.mod", "x.mod") = [] := by
    rw [enroll, registration?_badCopy]
    rfl
  rw [Context.refusals, show dissectorContext.settings = manifestSettings from rfl,
    candidatesOf_twoCopies, show manifestSettings.loader = Manifest.loader from rfl,
    show dissectorContext.plugins.plugins.map Plugin.registration = [] from rfl, Loader.refusals, bad,
    kept, Loader.refusals, good, Loader.refusals]
  rfl

/-- The history of the two copies with reports. -/
def twoCopiesReported : List Operation :=
  [.registerType "dissector" (PluginType.requiresSymbol Abi.dissector),
   .discover twoCopies twoCopiesLayout false .report]

/-- With reports the good copy is registered as it is in silence, and the host hears of the bad
    one. -/
theorem mode_switches_reports_twoCopies :
    ((Context.fresh manifestSettings).runAll twoCopiesReported).2.plugins.plugins.map
      Plugin.registration = [goodCopy] ∧
    (dissectorContext.discover twoCopies twoCopiesLayout false .report).2.received =
      [⟨.failure, "Couldn't load module /a/x.mod: bad"⟩] := by
  have same : List.Forall₂ (Operation.UpTo fun _ _ => True) twoCopiesHistory twoCopiesReported :=
    .cons (.same _) (.cons (.discover _ _ _ trivial) .nil)
  obtain ⟨_, related, _, _, _, _, _, discovery, _⟩ :=
    mode_switches_reports (Context.fresh manifestSettings) _ _ same
  refine ⟨?_, ?_⟩
  · rw [← related.plugins, registrations_twoCopiesHistory]
  · have told := (discovery dissectorContext twoCopies twoCopiesLayout false).2.2
    rw [show (dissectorContext.discover twoCopies twoCopiesLayout false .report).1 =
      (twoCopiesLayout.plan twoCopies false).1 from rfl, refusals_twoCopies] at told
    exact told.trans (by decide)

end PluginDiscovery
