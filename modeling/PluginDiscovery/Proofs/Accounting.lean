import PluginDiscovery.Proofs.Reports
import PluginDiscovery.Proofs.WellNamedTrees

/-!
# Counters, registry and log agree

A scan counts what it registers and what it refuses, its registry grows beside the counters, and its
log tells of every candidate. Three ledgers are kept at different places, and they agree whatever
happens to the candidates.

* `Event.registration?`, `Event.visit?`: the registered plugin, or the directory that was gone
  through, that an event of the log tells of;
* `Event.Tells`: events that tell of so many registrations and refusals, and of these directories;
* `Context.Accounts`: the way from one context to another, with what is noted on it. Each step of a
  scan accounts for what it does (`accounts_consider`), and so do scans and their sequences
  (`accounts_scan`, `accounts_scanAll`);
* `registered_add_rejected`: every candidate is counted once;
* `scan_accounting`: all of it for a scan of any path and for a discovery.
-/

namespace PluginDiscovery

/-! ## 1. What events tell -/

/-- The name of the plugin that an event tells was registered. -/
def Event.registration? : Event → Option String
  | .pluginRegistered name _ _ => some name
  | _ => none

/-- The path that an event tells was scanned, with the counters of the scan. -/
def Event.visit? : Event → Option (Path × ScanStats)
  | .directoryAbsent directory | .cannotRead directory _ => some (directory, ⟨0, 0⟩)
  | .directoryScanned directory accepted refused => some (directory, ⟨accepted, refused⟩)
  | _ => none

/-- The counters of two scans taken together. -/
def ScanStats.plus (a b : ScanStats) : ScanStats :=
  ⟨a.registered + b.registered, a.rejected + b.rejected⟩

theorem ScanStats.tally_eq_plus (stats : ScanStats) (registered : Bool) :
    stats.tally registered = stats.plus (tally ⟨0, 0⟩ registered) := by
  cases registered <;> rfl

/-- The events tell of these scans, and of as many registrations and refusals as were counted. -/
structure Event.Tells (events : List Event) (visits : List (Path × ScanStats))
    (stats : ScanStats) : Prop where
  visits : events.filterMap visit? = visits
  registered : (events.filterMap registration?).length = stats.registered
  rejected : (events.filterMap rejection?).length = stats.rejected

theorem Event.Tells.append {before after : List Event} {v w : List (Path × ScanStats)}
    {s t : ScanStats} (first : Tells before v s) (second : Tells after w t) :
    Tells (before ++ after) (v ++ w) (s.plus t) where
  visits := by rw [List.filterMap_append, first.visits, second.visits]
  registered := by
    rw [List.filterMap_append, List.length_append, first.registered, second.registered]
    rfl
  rejected := by
    rw [List.filterMap_append, List.length_append, first.rejected, second.rejected]
    rfl

/-- The event tells of nothing that is counted. -/
structure Event.Uncounted (event : Event) : Prop where
  registration : event.registration? = none
  rejection : event.rejection? = none
  visit : event.visit? = none

theorem Settings.uncounted_of_mem_asides (s : Settings) (e : FileSystem.Entry) :
    ∀ event ∈ s.asides e, event.Uncounted :=
  s.forall_mem_asides (fun _ => ⟨rfl, rfl, rfl⟩) (fun _ => ⟨rfl, rfl, rfl⟩) e

theorem Layout.uncounted_of_mem_plan (layout : Layout) (fs : FileSystem) (privileged : Bool) :
    ∀ event ∈ (layout.plan fs privileged).2, event.Uncounted :=
  forall_mem_plan ⟨rfl, rfl, rfl⟩ (fun _ _ => ⟨rfl, rfl, rfl⟩) ⟨rfl, rfl, rfl⟩ layout fs privileged

/-! ## 2. Steps -/

namespace Context

/-- On the way from one context to another these scans are made and so many candidates counted: the
    log has grown by events that tell of them, and the registry by the plugins that they name. -/
def Accounts (visits : List (Path × ScanStats)) (stats : ScanStats) (a b : Context) : Prop :=
  ∃ events, b.log = a.log ++ events ∧ Event.Tells events visits stats ∧
    b.plugins.plugins.map Plugin.name =
      a.plugins.plugins.map Plugin.name ++ events.filterMap Event.registration?

namespace Accounts

variable {a b c : Context} {v w : List (Path × ScanStats)} {s t : ScanStats}

theorem trans (hab : Accounts v s a b) (hbc : Accounts w t b c) :
    Accounts (v ++ w) (s.plus t) a c := by
  obtain ⟨before, hlog, htells, hnames⟩ := hab
  obtain ⟨after, hlog', htells', hnames'⟩ := hbc
  refine ⟨before ++ after, ?_, htells.append htells', ?_⟩
  · rw [hlog', hlog, List.append_assoc]
  · rw [hnames', hnames, List.filterMap_append, List.append_assoc]

/-- Nothing is counted where neither the plugins nor the log change. -/
theorem nothing (plugins : b.plugins = a.plugins) (log : b.log = a.log) :
    Accounts [] ⟨0, 0⟩ a b :=
  ⟨[], by rw [log, List.append_nil], ⟨rfl, rfl, rfl⟩,
    by rw [plugins, List.filterMap_nil, List.append_nil]⟩

/-- What is uncounted before the rest does not show. -/
theorem after_silence (hab : Accounts [] ⟨0, 0⟩ a b) (hbc : Accounts v s b c) :
    Accounts v s a c := by
  simpa [ScanStats.plus] using hab.trans hbc

/-- What is uncounted after the rest does not show. -/
theorem then_silence (hab : Accounts v s a b) (hbc : Accounts [] ⟨0, 0⟩ b c) :
    Accounts v s a c := by
  simpa [ScanStats.plus] using hab.trans hbc

/-- The registry has grown by as many plugins as were counted. -/
theorem size (h : Accounts v s a b) : b.plugins.size = a.plugins.size + s.registered := by
  obtain ⟨events, -, htells, hnames⟩ := h
  have lengths := congrArg List.length hnames
  rwa [List.length_append, htells.registered, List.length_map, List.length_map] at lengths

/-- An event that is noted after the others is the last of them. -/
theorem getLast?_note (h : Accounts v s a b) {event : Event} {events : List Event}
    (log : (b.note event).log = a.log ++ events) : events.getLast? = some event := by
  obtain ⟨before, hlog, -⟩ := h
  have same : a.log ++ events = a.log ++ (before ++ [event]) := by
    rw [← log, ← List.append_assoc, ← hlog]
    rfl
  rw [List.append_cancel_left same, List.getLast?_concat]

end Accounts

section Steps

variable (ctx : Context)

/-- An event that names no plugin accounts for what it tells. -/
theorem accounts_note (event : Event) (unnamed : event.registration? = none) :
    Accounts event.visit?.toList ⟨0, event.rejection?.toList.length⟩ ctx (ctx.note event) := by
  refine ⟨[event], rfl, ⟨?_, by simp [unnamed], ?_⟩, by simp [unnamed, note]⟩
  · cases hvisit : event.visit? <;> simp [hvisit]
  · cases hrejection : event.rejection? <;> simp [hrejection]

theorem accounts_noteAll {events : List Event} (uncounted : ∀ event ∈ events, event.Uncounted) :
    Accounts [] ⟨0, 0⟩ ctx (ctx.noteAll events) := by
  have registrations : events.filterMap Event.registration? = [] :=
    List.filterMap_eq_nil_iff.mpr fun event hevent => (uncounted event hevent).registration
  have rejections : events.filterMap Event.rejection? = [] :=
    List.filterMap_eq_nil_iff.mpr fun event hevent => (uncounted event hevent).rejection
  have visits : events.filterMap Event.visit? = [] :=
    List.filterMap_eq_nil_iff.mpr fun event hevent => (uncounted event hevent).visit
  refine ⟨events, rfl, ⟨visits, by rw [registrations]; rfl, by rw [rejections]; rfl⟩, ?_⟩
  rw [registrations, List.append_nil]
  rfl

theorem accounts_report (r : Report) : Accounts [] ⟨0, 0⟩ ctx (ctx.report r) := by
  unfold report
  cases ctx.settings.reporter with
  | memory => exact .nothing rfl rfl
  | log => exact ctx.accounts_note (.reported r) rfl

/-- A refusal is counted whether or not the host is told. -/
theorem accounts_reject (mode : FailureMode) (e : PluginError) :
    Accounts [] ⟨0, 1⟩ ctx (ctx.reject mode e) := by
  have noted : Accounts [] ⟨0, 1⟩ ctx (ctx.note (.rejected e)) :=
    ctx.accounts_note (.rejected e) rfl
  unfold reject
  cases mode.isVerbose with
  | false => exact noted
  | true => exact noted.trans (accounts_report _ _)

theorem accounts_recordOpening (path : Path) :
    Accounts [] ⟨0, 0⟩ ctx (ctx.recordOpening path) :=
  .nothing (by simp) (by simp)

theorem accounts_acquire (path : Path) : Accounts [] ⟨0, 0⟩ ctx (ctx.acquire path) := by
  have opened : Accounts [] ⟨0, 0⟩ ctx { ctx with handles := ctx.handles ++ [.opened path] } :=
    .nothing rfl rfl
  simp only [acquire]
  split
  · exact opened.trans (accounts_note _ (.moduleOpened path) rfl)
  · exact opened

theorem accounts_opening (path : Path) : Accounts [] ⟨0, 0⟩ ctx (ctx.opening path) :=
  (ctx.accounts_recordOpening path).trans (accounts_acquire _ path)

theorem accounts_release (paths : List Path) : Accounts [] ⟨0, 0⟩ ctx (ctx.release paths) :=
  .nothing rfl rfl

/-- A registration is told of by one event, with the name of the plugin. -/
theorem accounts_registering (p : Plugin) : Accounts [] ⟨1, 0⟩ ctx (ctx.registering p) := by
  refine ⟨[.classified p.name (ctx.types.describe p.mask),
    .pluginRegistered p.name p.version p.path], ?_, ⟨rfl, rfl, rfl⟩, ?_⟩
  · simp [registering, note]
  · rw [(ctx.registering_frame p).2.2.1, List.map_append]
    rfl

/-! ## 3. Candidates, entries and directories -/

variable (fs : FileSystem) (mode : FailureMode)

/-- A candidate is counted once, as registered or as rejected. -/
theorem accounts_consider (path : Path) (name : String) :
    Accounts [] (ScanStats.tally ⟨0, 0⟩ (ctx.consider fs mode path name).1) ctx
      (ctx.consider fs mode path name).2 := by
  have fate := ctx.consider_fate fs mode path name
  generalize ctx.consider fs mode path name = result at fate
  cases fate with
  | taken has => exact ctx.accounts_reject mode _
  | unloadable reason has load =>
    exact (ctx.accounts_recordOpening path).trans (accounts_reject _ mode _)
  | unversioned m has load version =>
    exact ((ctx.accounts_opening path).trans (accounts_release _ _)).trans
      (accounts_reject _ mode _)
  | unclaimed m version has load text mask =>
    exact ((ctx.accounts_opening path).trans (accounts_release _ _)).trans
      (accounts_reject _ mode _)
  | registered p has plugin =>
    exact (ctx.accounts_opening path).trans (accounts_registering _ p)

/-- An entry that is passed over is not counted, and a candidate is counted once. -/
theorem accounts_scanEntry (directory : Path) {stats : ScanStats} {c : Context}
    (h : Accounts [] stats ctx c) (e : FileSystem.Entry) :
    Accounts [] (scanEntry fs mode directory (stats, c) e).1 ctx
      (scanEntry fs mode directory (stats, c) e).2 := by
  cases hname : c.settings.candidateName? e with
  | none =>
    rw [c.scanEntry_passed fs mode hname]
    exact h.trans (c.accounts_noteAll (c.settings.uncounted_of_mem_asides e))
  | some name =>
    rw [c.scanEntry_candidate fs mode (Settings.candidateName?_eq_some_iff.mp hname),
      ScanStats.tally_eq_plus]
    exact h.trans (c.accounts_consider fs mode (directory.join e.name) name)

theorem accounts_entries (directory : Path) (es : List FileSystem.Entry)
    {state : ScanStats × Context} (h : Accounts [] state.1 ctx state.2) :
    Accounts [] (es.foldl (scanEntry fs mode directory) state).1 ctx
      (es.foldl (scanEntry fs mode directory) state).2 := by
  induction es generalizing state with
  | nil => exact h
  | cons e rest ih => exact ih (ctx.accounts_scanEntry fs mode directory h e)

/-- The counters of a scan and its context before the event that closes it. -/
def scanned (directory : Path) (es : List FileSystem.Entry) : ScanStats × Context :=
  (sortEntries es).foldl (scanEntry fs mode directory) (⟨0, 0⟩, ctx)

theorem scan_of_list {directory : Path} {es : List FileSystem.Entry}
    (h : fs.list directory = .ok es) :
    ctx.scan fs directory mode =
      ((ctx.scanned fs mode directory es).1,
       (ctx.scanned fs mode directory es).2.note (.directoryScanned directory
         (ctx.scanned fs mode directory es).1.registered
         (ctx.scanned fs mode directory es).1.rejected)) := by
  simp only [scan, FileSystem.isDirectory_of_list h, h]
  rfl

theorem scan_of_not_directory {directory : Path} (h : fs.isDirectory directory = false) :
    ctx.scan fs directory mode = (⟨0, 0⟩, ctx.note (.directoryAbsent directory)) := by
  simp [scan, h]

theorem scan_of_unlistable {directory : Path} {cause : IoError}
    (present : fs.isDirectory directory = true) (h : fs.list directory = .error cause) :
    ctx.scan fs directory mode = (⟨0, 0⟩, ctx.note (.cannotRead directory cause)) := by
  simp [scan, present, h]

theorem accounts_scanned (directory : Path) (es : List FileSystem.Entry) :
    Accounts [] (ctx.scanned fs mode directory es).1 ctx
      (ctx.scanned fs mode directory es).2 :=
  ctx.accounts_entries fs mode directory (sortEntries es) (.nothing rfl rfl)

/-- A scan makes one visit, and accounts for its candidates. -/
theorem accounts_scan (directory : Path) :
    Accounts [(directory, (ctx.scan fs directory mode).1)] (ctx.scan fs directory mode).1 ctx
      (ctx.scan fs directory mode).2 := by
  cases hdir : fs.isDirectory directory with
  | false =>
    rw [ctx.scan_of_not_directory fs mode hdir]
    exact ctx.accounts_note (.directoryAbsent directory) rfl
  | true =>
    cases hlist : fs.list directory with
    | error cause =>
      rw [ctx.scan_of_unlistable fs mode hdir hlist]
      exact ctx.accounts_note (.cannotRead directory cause) rfl
    | ok es =>
      rw [ctx.scan_of_list fs mode hlist]
      exact (ctx.accounts_scanned fs mode directory es).trans
        (accounts_note _ (.directoryScanned ..) rfl)

/-! ## 4. Directories one after the other -/

/-- The scans of directories one after the other, each with its counters. -/
def visitsAlong (ctx : Context) : List Path → List (Path × ScanStats)
  | [] => []
  | directory :: rest =>
    (directory, (ctx.scan fs directory mode).1) ::
      visitsAlong (ctx.scan fs directory mode).2 rest

theorem visitsAlong_fst (directories : List Path) (ctx : Context) :
    (ctx.visitsAlong fs mode directories).map Prod.fst = directories := by
  induction directories generalizing ctx with
  | nil => rfl
  | cons directory rest ih => simp [visitsAlong, ih]

theorem scanAll_fst (directories : List Path) (ctx : Context) :
    (ctx.scanAll fs mode directories).1 =
      ((ctx.visitsAlong fs mode directories).map fun visit => visit.2.registered).sum := by
  induction directories generalizing ctx with
  | nil => rfl
  | cons directory rest ih => simp [visitsAlong, scanAll_cons, ih]

/-- The counters of scans taken together account for all of them. -/
theorem accounts_scanAll (directories : List Path) (ctx : Context) :
    ∃ stats, stats.registered = (ctx.scanAll fs mode directories).1 ∧
      Accounts (ctx.visitsAlong fs mode directories) stats ctx
        (ctx.scanAll fs mode directories).2 := by
  induction directories generalizing ctx with
  | nil => exact ⟨⟨0, 0⟩, rfl, .nothing rfl rfl⟩
  | cons directory rest ih =>
    obtain ⟨stats, registered, accounts⟩ := ih (ctx.scan fs directory mode).2
    refine ⟨(ctx.scan fs directory mode).1.plus stats, ?_,
      (ctx.accounts_scan fs mode directory).trans accounts⟩
    rw [scanAll_cons, ← registered]
    rfl

end Steps

/-! ## 5. Candidates -/

/-- A candidate that was passed is in one of the two counters. -/
theorem tallies_passes (s : Settings) (fs : FileSystem) (mode : FailureMode) :
    Passes s fs mode fun past state =>
      state.2.settings = s ∧ state.1.registered + state.1.rejected = past.length where
  settings h := h.1
  note _ _ h := h
  consider {past state c} path name h := by
    refine ⟨(c.consider_frame fs mode path name).1.trans h.1, ?_⟩
    have counted : state.registered + state.rejected = past.length := h.2
    rw [List.length_append, List.length_singleton, ← counted]
    cases (c.consider fs mode path name).1 with
    | true => exact Nat.add_right_comm _ 1 _
    | false => rfl

/-- Every candidate of a directory is counted once. -/
theorem counted_scan (ctx : Context) (fs : FileSystem) (mode : FailureMode) (directory : Path) :
    (ctx.scan fs directory mode).1.registered + (ctx.scan fs directory mode).1.rejected =
      (ctx.settings.candidatesOf fs [directory]).length := by
  have start : ctx.settings = ctx.settings ∧ 0 + 0 = ([] : List (Path × String)).length :=
    ⟨rfl, rfl⟩
  exact ((tallies_passes ctx.settings fs mode).scan directory start).2

/-- The candidates are counted in the listing. -/
theorem registered_add_rejected (ctx : Context) (fs : FileSystem) (mode : FailureMode)
    {directory : Path} {es : List FileSystem.Entry} (h : fs.list directory = .ok es) :
    (ctx.scan fs directory mode).1.registered + (ctx.scan fs directory mode).1.rejected =
      (es.filterMap ctx.settings.candidateName?).length := by
  have listed : fs.isDirectory directory = true := FileSystem.isDirectory_of_list h
  rw [counted_scan]
  simp [Settings.candidatesOf, Settings.candidatesIn, listed, h]

/-! ## 6. Discoveries -/

/-- A pass over a plan makes the scans of its directories, and closes with their count. -/
theorem accounts_pass (ctx : Context) (fs : FileSystem) (mode : FailureMode)
    {plan : List Path × List Event} (uncounted : ∀ event ∈ plan.2, event.Uncounted) :
    ∃ stats, stats.registered = ((ctx.noteAll plan.2).mark.scanAll fs mode plan.1).1 ∧
      Accounts ((ctx.noteAll plan.2).mark.visitsAlong fs mode plan.1) stats ctx
        (ctx.pass fs mode plan) ∧
      ∀ events, (ctx.pass fs mode plan).log = ctx.log ++ events →
        events.getLast? = some (.discoveryComplete plan.1.length stats.registered
          (ctx.pass fs mode plan).types.size) := by
  obtain ⟨stats, registered, scans⟩ :=
    accounts_scanAll fs mode plan.1 (ctx.noteAll plan.2).mark
  have marked : Accounts [] ⟨0, 0⟩ (ctx.noteAll plan.2) (ctx.noteAll plan.2).mark :=
    .nothing rfl rfl
  have accounts := ((ctx.accounts_noteAll uncounted).trans marked).after_silence scans
  refine ⟨stats, registered, accounts.then_silence (accounts_note _ (.discoveryComplete ..) rfl),
    fun events hlog => ?_⟩
  rw [registered]
  exact accounts.getLast?_note hlog

/-- A discovery that gives directories began with no plugin, and passed over its plan. -/
theorem discover_of_planned {ctx after : Context} {fs : FileSystem} {layout : Layout}
    {privileged : Bool} {mode : FailureMode} {directories : List Path}
    (h : ctx.discover fs layout privileged mode = (directories, after))
    (planned : directories ≠ []) :
    ctx.plugins.size = 0 ∧ (layout.plan fs privileged).1 = directories ∧
      ctx.pass fs mode (layout.plan fs privileged) = after := by
  rw [ctx.discover_eq] at h
  split at h
  · exact absurd (Prod.mk.inj h).1.symm planned
  · rename_i unspent
    split at h
    · exact absurd (Prod.mk.inj h).1.symm planned
    · refine ⟨?_, Prod.mk.inj h⟩
      simp only [spent, Bool.or_eq_true, not_or, Bool.not_eq_true, Bool.not_eq_false',
        PluginRegistry.isEmpty, List.isEmpty_iff] at unspent
      simp [PluginRegistry.size, unspent.2]

end Context

/-! ## 7. Scans and discoveries -/

/-- **The counters of a scan are the growth of the registry, the events in the log and, taken
    together, the candidates.** Where there is no directory, or one that cannot be listed, nothing is
    counted and only the log tells of it. A discovery that has made a plan closes with the counts of
    all its scans. -/
theorem scan_accounting (ctx : Context) (fs : FileSystem) (mode : FailureMode) :
    (∀ directory stats after, ctx.scan fs directory mode = (stats, after) →
      ∃ events, after.log = ctx.log ++ events ∧
        after.plugins.size = ctx.plugins.size + stats.registered ∧
        (events.filterMap Event.registration?).length = stats.registered ∧
        (events.filterMap Event.rejection?).length = stats.rejected ∧
        events.filterMap Event.visit? = [(directory, stats)] ∧
        (∀ es, fs.list directory = .ok es →
          events.getLast? =
            some (.directoryScanned directory stats.registered stats.rejected) ∧
          stats.registered + stats.rejected =
            (es.filterMap ctx.settings.candidateName?).length) ∧
        (fs.isDirectory directory = false →
          stats = ⟨0, 0⟩ ∧ after = { ctx with log := ctx.log ++ [.directoryAbsent directory] }) ∧
        (∀ cause, fs.isDirectory directory = true → fs.list directory = .error cause →
          stats = ⟨0, 0⟩ ∧
          after = { ctx with log := ctx.log ++ [.cannotRead directory cause] })) ∧
    ∀ layout privileged directories after,
      ctx.discover fs layout privileged mode = (directories, after) → directories ≠ [] →
      ∃ events visits, after.log = ctx.log ++ events ∧
        events.filterMap Event.visit? = visits ∧
        visits = (ctx.noteAll (layout.plan fs privileged).2).mark.visitsAlong fs mode directories ∧
        visits.map Prod.fst = directories ∧
        after.plugins.size = (visits.map fun visit => visit.2.registered).sum ∧
        events.getLast? =
          some (.discoveryComplete directories.length after.plugins.size after.types.size) := by
  constructor
  · rintro directory stats after hscan
    have accounts := ctx.accounts_scan fs mode directory
    rw [hscan] at accounts
    have grown := accounts.size
    obtain ⟨events, hlog, tells, -⟩ := accounts
    refine ⟨events, hlog, grown, tells.registered, tells.rejected, tells.visits,
      fun es hlist => ?_, fun absent => ?_, fun cause present failed => ?_⟩
    · have counted := ctx.registered_add_rejected fs mode hlist
      have entries := ctx.accounts_scanned fs mode directory es
      rw [hscan] at counted
      rw [ctx.scan_of_list fs mode hlist] at hscan
      obtain ⟨rfl, rfl⟩ := Prod.mk.inj hscan
      exact ⟨entries.getLast?_note hlog, counted⟩
    · rw [ctx.scan_of_not_directory fs mode absent] at hscan
      obtain ⟨rfl, rfl⟩ := Prod.mk.inj hscan
      exact ⟨rfl, rfl⟩
    · rw [ctx.scan_of_unlistable fs mode present failed] at hscan
      obtain ⟨rfl, rfl⟩ := Prod.mk.inj hscan
      exact ⟨rfl, rfl⟩
  · rintro layout privileged directories after hdiscover planned
    obtain ⟨vacant, rfl, rfl⟩ := Context.discover_of_planned hdiscover planned
    obtain ⟨stats, registered, accounts, last⟩ := ctx.accounts_pass fs mode
      (layout.uncounted_of_mem_plan fs privileged)
    -- the registry began empty, so it holds what the scans have counted
    have size : (ctx.pass fs mode (layout.plan fs privileged)).plugins.size = stats.registered := by
      rw [accounts.size, vacant, Nat.zero_add]
    obtain ⟨events, hlog, tells, -⟩ := accounts
    refine ⟨events, _, hlog, tells.visits, rfl, Context.visitsAlong_fst .., ?_, ?_⟩
    · rw [size, registered, Context.scanAll_fst]
    · rw [size]
      exact last events hlog

/-- The two copies, of which the second is in a directory that cannot be listed. -/
def closedCopies : FileSystem :=
  { twoCopies with unlistable := [[Utf8.encode "b"]] }

/-- Of two copies in two directories the one in the first is counted, a path to nothing counts for
    nothing, as does a directory that cannot be listed, and the discovery closes with two directories
    and the one copy that is registered. -/
theorem scan_accounting_twoCopies :
    (twoCopies.list (Path.ofString "/a") = .ok [⟨Utf8.encode "x.mod", false⟩] ∧
      (dissectorContext.scan twoCopies (Path.ofString "/a") .silent).1.registered +
        (dissectorContext.scan twoCopies (Path.ofString "/a") .silent).1.rejected = 1) ∧
    (twoCopies.isDirectory (Path.ofString "/c") = false ∧
      (dissectorContext.scan twoCopies (Path.ofString "/c") .silent).1 = ⟨0, 0⟩) ∧
    (closedCopies.isDirectory (Path.ofString "/b") = true ∧
      closedCopies.list (Path.ofString "/b") = .error .accessDenied ∧
      (dissectorContext.scan closedCopies (Path.ofString "/b") .silent).1 = ⟨0, 0⟩) ∧
    (dissectorContext.discover twoCopies twoCopiesLayout false .silent).1 ≠ [] ∧
    ∃ events types, (dissectorContext.discover twoCopies twoCopiesLayout false .silent).2.log =
        dissectorContext.log ++ events ∧
      events.getLast? = some (.discoveryComplete 2 1 types) := by
  obtain ⟨scans, discoveries⟩ := scan_accounting dissectorContext twoCopies .silent
  have absent : twoCopies.isDirectory (Path.ofString "/c") = false := by cbv
  have listed : twoCopies.list (Path.ofString "/a") = .ok [⟨Utf8.encode "x.mod", false⟩] := by cbv
  have present : closedCopies.isDirectory (Path.ofString "/b") = true := by cbv
  have closed : closedCopies.list (Path.ofString "/b") = .error .accessDenied := by cbv
  have one : ([⟨Utf8.encode "x.mod", false⟩].filterMap
      dissectorContext.settings.candidateName?).length = 1 := by cbv
  have plan := dissectorContext.discover_fst twoCopies .silent twoCopiesLayout false rfl
  have registered := congrArg List.length registrations_twoCopies
  rw [List.length_map] at registered
  cases hscan : dissectorContext.scan twoCopies (Path.ofString "/a") .silent
  cases hmissed : dissectorContext.scan twoCopies (Path.ofString "/c") .silent
  cases hclosed : dissectorContext.scan closedCopies (Path.ofString "/b") .silent
  cases hdiscover : dissectorContext.discover twoCopies twoCopiesLayout false .silent with
  | mk directories after =>
    rw [hdiscover] at plan registered
    obtain rfl : directories = [Path.ofString "/a", Path.ofString "/b"] :=
      plan.trans (by cbv)
    obtain ⟨_, _, _, _, _, _, candidates, -⟩ := scans _ _ _ hscan
    obtain ⟨_, _, _, _, _, _, -, nothing, -⟩ := scans _ _ _ hmissed
    obtain ⟨_, _, _, _, _, _, -, -, refused⟩ :=
      (scan_accounting dissectorContext closedCopies .silent).1 _ _ _ hclosed
    obtain ⟨-, counted⟩ := candidates _ listed
    obtain ⟨events, _, hlog, -, -, -, -, last⟩ :=
      discoveries twoCopiesLayout false _ _ hdiscover (List.cons_ne_nil _ _)
    rw [show after.plugins.size = 1 from registered] at last
    exact ⟨⟨listed, counted.trans one⟩, ⟨absent, (nothing absent).1⟩,
      ⟨present, closed, (refused _ present closed).1⟩, List.cons_ne_nil _ _, events, _, hlog, last⟩

end PluginDiscovery
