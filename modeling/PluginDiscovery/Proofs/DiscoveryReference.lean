import Mathlib
import PluginDiscovery.Engine.Manifest
import PluginDiscovery.Proofs.ModuleFiles
import PluginDiscovery.Proofs.Steps

/-!
# Discovery against a plain list

What a discovery registers, said without a context: go through the candidates of the planned
directories in their order, and append each whose name is not in the list yet and whose file is
good. `discover_eq_reference` shows that a discovery of a new context registers this list.

* `Settings.candidatesOf`: the candidates of directories, those of one directory in the byte order
  of their names;
* `Loader.registration?`: what a good file is registered as;
* `Context.reference`: the list;
* `Passes`: a property of the candidates that were passed and of the context, which the steps of a
  scan keep; `Passes.scan`, `Passes.scanAll`: then scans of directories keep it, with all their
  candidates passed;
* `Shows`: a context that has registered a list. It is such a property, with the list one candidate
  further at each step.
-/

namespace PluginDiscovery

/-! ## 1. The reference -/

/-- What is known of a registered plugin once its module is left aside. -/
structure Registration where
  name : String
  version : String
  mask : TypeMask
  path : Path
  deriving DecidableEq, Repr

def Plugin.registration (p : Plugin) : Registration :=
  ⟨p.name, p.version, p.mask, p.path⟩

/-- The name under which an entry is a candidate: a text that ends in the suffix and is not left
    out; and the entry is no directory. -/
def Settings.candidateName? (s : Settings) (e : FileSystem.Entry) : Option String :=
  (Utf8.decode? e.name).filter fun name =>
    decide (HasExtension name.toList s.suffix.toList) && !e.isDirectory && decide (s.Admits name)

/-- The byte order of names. -/
def byteOrder (a b : String) : Bool :=
  decide (Utf8.encode a ≤ Utf8.encode b)

/-- The names of the candidates of a directory; a path that leads to no directory has none. -/
def Settings.candidatesIn (s : Settings) (fs : FileSystem) (directory : Path) : List String :=
  if fs.isDirectory directory then
    match fs.list directory with
    | .error _ => []
    | .ok entries => (entries.filterMap s.candidateName?).mergeSort byteOrder
  else []

/-- The candidates of directories, each with its path. -/
def Settings.candidatesOf (s : Settings) (fs : FileSystem) (directories : List Path) :
    List (Path × String) :=
  directories.flatMap fun directory =>
    (s.candidatesIn fs directory).map fun name =>
      (directory.join (Path.ofString name), name)

/-- What a file is registered as if it is good: it opens, its module has a version, and some type
    accepts the module. -/
def Loader.registration? (loader : Loader) (types : TypeRegistry) (fs : FileSystem)
    (candidate : Path × String) : Option Registration :=
  match loader.load fs candidate.1 with
  | .error _ => none
  | .ok m =>
    (m.text? Abi.version).bind fun version =>
      if types.classify m = .empty then none
      else some ⟨candidate.2, version, types.classify m, candidate.1⟩

/-- A list with one more candidate, if its name is free and its file is good. -/
def enroll (loader : Loader) (types : TypeRegistry) (fs : FileSystem) (rows : List Registration)
    (candidate : Path × String) : List Registration :=
  if rows.any fun r => r.name = candidate.2 then rows
  else rows ++ (loader.registration? types fs candidate).toList

/-- What the context registers from directories, beginning with nothing. -/
def Context.reference (ctx : Context) (fs : FileSystem) (directories : List Path) :
    List Registration :=
  (ctx.settings.candidatesOf fs directories).foldl (enroll ctx.settings.loader ctx.types fs) []

/-! ## 2. The candidates of a directory -/

theorem Settings.candidateName?_eq_some_iff {s : Settings} {e : FileSystem.Entry}
    {name : String} : s.candidateName? e = some name ↔ s.standing e = .candidate name := by
  rw [standing_eq_candidate_iff, candidateName?, Option.filter_eq_some_iff]
  simp only [Bool.and_eq_true, decide_eq_true_iff, Bool.not_eq_true', and_assoc]

/-- What a scan notes of an entry that is no candidate. -/
def Settings.asides (s : Settings) (e : FileSystem.Entry) : List Event :=
  match s.standing e with
  | .foreign name => [.nameNotText name]
  | .excluded name => [.excluded name]
  | .other | .candidate _ => []

theorem Settings.forall_mem_asides {P : Event → Prop} (foreign : ∀ name, P (.nameNotText name))
    (excluded : ∀ name, P (.excluded name)) (s : Settings) (e : FileSystem.Entry) :
    ∀ event ∈ s.asides e, P event := by
  unfold asides
  cases s.standing e <;> simp [foreign, excluded]

/-- An entry that is no candidate leaves a note at most. -/
theorem Context.scanEntry_passed (ctx : Context) (fs : FileSystem) (mode : FailureMode)
    {e : FileSystem.Entry} (h : ctx.settings.candidateName? e = none) (directory : Path)
    (stats : ScanStats) :
    scanEntry fs mode directory (stats, ctx) e =
      (stats, ctx.noteAll (ctx.settings.asides e)) := by
  cases standing : ctx.settings.standing e with
  | candidate name =>
    rw [Settings.candidateName?_eq_some_iff.mpr standing] at h
    cases h
  | foreign name => simp only [scanEntry, Settings.asides, standing, note, noteAll]
  | other => simp only [scanEntry, Settings.asides, standing, noteAll, List.append_nil]
  | excluded name => simp only [scanEntry, Settings.asides, standing, note, noteAll]

theorem byteOrder_trans (a b c : String) (hab : byteOrder a b = true) (hbc : byteOrder b c = true) :
    byteOrder a c = true := by
  simp only [byteOrder, decide_eq_true_iff] at *
  exact List.le_trans hab hbc

theorem byteOrder_total (a b : String) : (byteOrder a b || byteOrder b a) = true := by
  simp only [byteOrder, Bool.or_eq_true, decide_eq_true_iff]
  exact List.le_total _ _

theorem sortEntries_pairwise (entries : List FileSystem.Entry) :
    (sortEntries entries).Pairwise fun a b => a.name ≤ b.name := by
  have sorted : (sortEntries entries).Pairwise fun a b => decide (a.name ≤ b.name) = true :=
    List.pairwise_mergeSort
      (fun a b c hab hbc => by
        simp only [decide_eq_true_iff] at *
        exact List.le_trans hab hbc)
      (fun a b => by
        simp only [Bool.or_eq_true, decide_eq_true_iff]
        exact List.le_total _ _) entries
  exact sorted.imp of_decide_eq_true

/-- Sorting the entries and sorting the names of the candidates give the same order. -/
theorem candidates_sortEntries (s : Settings) (entries : List FileSystem.Entry) :
    (sortEntries entries).filterMap s.candidateName? =
      (entries.filterMap s.candidateName?).mergeSort byteOrder := by
  have encoded : ∀ {e : FileSystem.Entry} {name : String}, s.candidateName? e = some name →
      Utf8.encode name = e.name := fun h =>
    (Settings.name_of_standing (Settings.candidateName?_eq_some_iff.mp h)).symm
  have perm : ((sortEntries entries).filterMap s.candidateName?).Perm
      (entries.filterMap s.candidateName?) :=
    (List.mergeSort_perm entries _).filterMap _
  have sorted : ((sortEntries entries).filterMap s.candidateName?).Pairwise fun a b =>
      byteOrder a b = true := by
    refine (sortEntries_pairwise entries).filterMap s.candidateName?
      fun e e' hle name hname name' hname' => ?_
    rw [byteOrder, encoded hname, encoded hname']
    exact decide_eq_true hle
  refine List.Perm.eq_of_pairwise (fun a b _ _ hab hba => ?_) sorted
    (List.pairwise_mergeSort byteOrder_trans byteOrder_total _)
    (perm.trans (List.mergeSort_perm _ _).symm)
  simp only [byteOrder, decide_eq_true_iff] at hab hba
  exact Utf8.encode_injective (List.le_antisymm hab hba)

/-! ## 3. A scan passes its candidates -/

/-- A property of the candidates that were passed, of the counters and of the context, which the
    steps of a scan with these settings keep. -/
structure Passes (s : Settings) (fs : FileSystem) (mode : FailureMode)
    (P : List (Path × String) → ScanStats × Context → Prop) : Prop where
  settings {past : List (Path × String)} {state : ScanStats × Context} :
    P past state → state.2.settings = s
  note {past : List (Path × String)} {stats : ScanStats} {c : Context} (event : Event)
    (notes : event.isNote = true) : P past (stats, c) → P past (stats, c.note event)
  consider {past : List (Path × String)} {stats : ScanStats} {c : Context} (path : Path)
    (name : String) : P past (stats, c) →
      P (past ++ [(path, name)])
        (stats.tally (c.consider fs mode path name).1, (c.consider fs mode path name).2)

namespace Passes

variable {s : Settings} {fs : FileSystem} {mode : FailureMode}
  {P : List (Path × String) → ScanStats × Context → Prop} {past : List (Path × String)}

/-- Notes pass no candidate. -/
theorem noteAll (k : Passes s fs mode P) {stats : ScanStats} {events : List Event}
    (notes : ∀ event ∈ events, event.isNote = true) {c : Context} (h : P past (stats, c)) :
    P past (stats, c.noteAll events) := by
  rw [Context.noteAll_eq_foldl]
  induction events generalizing c with
  | nil => exact h
  | cons event rest ih =>
    exact ih (fun e he => notes e (List.mem_cons_of_mem event he))
      (k.note event (notes event List.mem_cons_self) h)

/-- An entry is passed if it is a candidate. -/
theorem scanEntry (k : Passes s fs mode P) (directory : Path) {state : ScanStats × Context}
    (h : P past state) (e : FileSystem.Entry) :
    P (past ++ (s.candidateName? e).toList.map fun name =>
        (directory.join (Path.ofString name), name))
      (Context.scanEntry fs mode directory state e) := by
  obtain ⟨stats, c⟩ := state
  have settings : c.settings = s := k.settings h
  cases hname : s.candidateName? e with
  | none =>
    rw [c.scanEntry_passed fs mode (settings ▸ hname), settings]
    simpa using k.noteAll (s.forall_mem_asides (fun _ => rfl) (fun _ => rfl) e) h
  | some name =>
    have standing := Settings.candidateName?_eq_some_iff.mp hname
    rw [c.scanEntry_candidate fs mode (settings ▸ standing), Settings.name_of_standing standing]
    exact k.consider _ name h

/-- Entries pass their candidates in their order. -/
theorem entries (k : Passes s fs mode P) (directory : Path) (es : List FileSystem.Entry)
    {state : ScanStats × Context} (h : P past state) :
    P (past ++ (es.filterMap s.candidateName?).map fun name =>
        (directory.join (Path.ofString name), name))
      (es.foldl (Context.scanEntry fs mode directory) state) := by
  induction es generalizing past state with
  | nil => simpa using h
  | cons e rest ih =>
    have step := ih (k.scanEntry directory h e)
    cases hname : s.candidateName? e with
    | none => simpa [hname] using step
    | some name => simpa [hname] using step

/-- A scan passes the candidates of its directory. -/
theorem scan (k : Passes s fs mode P) (directory : Path) {ctx : Context}
    (h : P past (⟨0, 0⟩, ctx)) :
    P (past ++ s.candidatesOf fs [directory]) (ctx.scan fs directory mode) := by
  rw [Settings.candidatesOf, List.flatMap_singleton]
  unfold Context.scan Settings.candidatesIn
  cases hdir : fs.isDirectory directory with
  | false => simpa using k.note _ rfl h
  | true =>
    cases hlist : fs.list directory with
    | error cause => simpa using k.note _ rfl h
    | ok entries =>
      have all := k.entries directory (sortEntries entries) h
      rw [candidates_sortEntries] at all
      exact k.note _ rfl all

/-- Scans of directories pass the candidates of all of them. -/
theorem scanAll {P : List (Path × String) → Context → Prop}
    (k : Passes s fs mode fun past state => P past state.2) (directories : List Path)
    {ctx : Context} (h : P past ctx) :
    P (past ++ s.candidatesOf fs directories) (ctx.scanAll fs mode directories).2 := by
  induction directories generalizing past ctx with
  | nil => simpa [Settings.candidatesOf, Context.scanAll] using h
  | cons directory rest ih =>
    have first : P (past ++ s.candidatesOf fs [directory]) (ctx.scan fs directory mode).2 :=
      k.scan directory h
    have all := ih first
    rw [List.append_assoc] at all
    simpa [Settings.candidatesOf, Context.scanAll_cons] using all

end Passes

/-! ## 4. The list grows along a scan -/

/-- The context has these settings and types, and has registered this list. -/
structure Shows (s : Settings) (types : TypeRegistry) (rows : List Registration)
    (ctx : Context) : Prop where
  settings : ctx.settings = s
  types : ctx.types = types
  rows : ctx.plugins.plugins.map Plugin.registration = rows

section Growth

variable {s : Settings} {types : TypeRegistry} (fs : FileSystem) (mode : FailureMode)

/-- The registration of a file is that of the plugin it would become. -/
theorem registration_pluginAt? (loader : Loader) (types : TypeRegistry)
    (path : Path) (name : String) :
    (loader.pluginAt? types fs path name).map Plugin.registration =
      loader.registration? types fs (path, name) := by
  unfold Loader.pluginAt? Loader.registration?
  cases load : loader.load fs path with
  | error reason => simp
  | ok m =>
    cases text : m.text? Abi.version with
    | none => simp [text]
    | some version =>
      simp only [text, TypeMask.isEmpty_iff]
      by_cases h : types.classify m = .empty
      · simp [h]
      · simp [h, Plugin.registration, Plugin.path, loader.path_of_load load]

theorem any_registration (plugins : List Plugin) (name : String) :
    ((plugins.map Plugin.registration).any fun r => r.name = name) =
      PluginRegistry.has ⟨plugins⟩ name := by
  rw [List.any_map]
  rfl

/-- Considering a candidate enrols it. -/
theorem consider_enrolls {ctx : Context} {rows : List Registration} (h : Shows s types rows ctx)
    (path : Path) (name : String) :
    Shows s types (enroll s.loader types fs rows (path, name))
      (ctx.consider fs mode path name).2 := by
  obtain ⟨hs, ht, hrows⟩ := h
  have frame := ctx.consider_frame fs mode path name
  refine ⟨frame.1.trans hs, frame.2.1.trans ht, ?_⟩
  rw [ctx.plugins_consider, enroll, ← hrows, any_registration, ← hs, ← ht]
  split
  · rfl
  · rw [List.map_append, ← registration_pluginAt?, Option.toList_map]

/-- The steps of a scan enrol the candidates that are passed. -/
theorem shows_passes (rows : List Registration) :
    Passes s fs mode fun past state =>
      Shows s types (past.foldl (enroll s.loader types fs) rows) state.2 where
  settings h := h.settings
  note _ _ h := ⟨h.settings, h.types, h.rows⟩
  consider path name h := by
    rw [List.foldl_append]
    exact consider_enrolls fs mode h path name

/-- Directories enrol their candidates, one directory after the other. -/
theorem scanAll_enrolls (directories : List Path) {ctx : Context} {rows : List Registration}
    (h : Shows s types rows ctx) :
    Shows s types ((s.candidatesOf fs directories).foldl (enroll s.loader types fs) rows)
      (ctx.scanAll fs mode directories).2 := by
  have start : Shows s types (([] : List (Path × String)).foldl (enroll s.loader types fs) rows)
      ctx := h
  exact (shows_passes fs mode rows).scanAll directories start

end Growth

/-! ## 5. A good file is registered -/

section Enrolment

variable {loader : Loader} {types : TypeRegistry} {fs : FileSystem}

/-- A list keeps what it has. -/
theorem mem_foldl_enroll {r : Registration} (candidates : List (Path × String)) :
    ∀ {rows : List Registration}, r ∈ rows →
      r ∈ candidates.foldl (enroll loader types fs) rows := by
  induction candidates with
  | nil => exact fun h => h
  | cons c rest ih =>
    intro rows h
    refine ih ?_
    unfold enroll
    split
    · exact h
    · exact List.mem_append_left _ h

/-- What is in a list came from a candidate that is good, or was there before. -/
theorem of_mem_foldl_enroll {r : Registration} (candidates : List (Path × String)) :
    ∀ {rows : List Registration}, r ∈ candidates.foldl (enroll loader types fs) rows →
      r ∈ rows ∨ ∃ c ∈ candidates, loader.registration? types fs c = some r := by
  induction candidates with
  | nil => exact fun h => Or.inl h
  | cons c rest ih =>
    intro rows h
    rcases ih h with enrolled | ⟨c', hc', hr⟩
    · unfold enroll at enrolled
      split at enrolled
      · exact Or.inl enrolled
      · rcases List.mem_append.mp enrolled with old | new
        · exact Or.inl old
        · exact Or.inr ⟨c, List.mem_cons_self, Option.mem_toList.mp new⟩
    · exact Or.inr ⟨c', List.mem_cons_of_mem c hc', hr⟩

/-- A candidate is registered under its name. -/
theorem name_of_registration? {c : Path × String} {r : Registration}
    (h : loader.registration? types fs c = some r) : r.name = c.2 := by
  unfold Loader.registration? at h
  split at h
  · cases h
  · obtain ⟨version, _, hv⟩ := Option.bind_eq_some_iff.mp h
    split at hv
    · cases hv
    · cases hv
      rfl

/-- A good candidate is enrolled unless a good one of its name came before it. -/
theorem mem_foldl_enroll_of_first {before after : List (Path × String)} {c : Path × String}
    {r : Registration} (good : loader.registration? types fs c = some r)
    (first : ∀ b ∈ before, b.2 = c.2 → loader.registration? types fs b = none) :
    r ∈ (before ++ c :: after).foldl (enroll loader types fs) [] := by
  rw [List.foldl_append, List.foldl_cons]
  refine mem_foldl_enroll after ?_
  have free : ((before.foldl (enroll loader types fs) []).any fun r => r.name = c.2) = false := by
    rw [List.any_eq_false]
    intro r' hr'
    rcases of_mem_foldl_enroll before hr' with old | ⟨b, hb, hreg⟩
    · exact absurd old List.not_mem_nil
    · intro hname
      have hb2 : b.2 = c.2 := by
        rw [← name_of_registration? hreg]
        exact of_decide_eq_true hname
      rw [first b hb hb2] at hreg
      cases hreg
  rw [enroll, free, good]
  exact List.mem_append_right _ List.mem_cons_self

end Enrolment

/-! ## 6. Discovery -/

/-- A new context lists nothing, and a discovery leads it to the list of the planned directories. -/
theorem registrations_discover (ctx : Context) (fs : FileSystem) (layout : Layout)
    (privileged : Bool) (mode : FailureMode) (empty : ctx.plugins = .empty)
    (fresh : ctx.discovered = false) :
    (ctx.discover fs layout privileged mode).2.plugins.plugins.map Plugin.registration =
      ctx.reference fs (layout.plan fs privileged).1 := by
  have start : ∀ events, Shows ctx.settings ctx.types []
      { ctx.noteAll events with discovered := true } := fun events =>
    ⟨rfl, rfl, by simp [Context.noteAll, empty, PluginRegistry.empty]⟩
  have allowed : (ctx.discovered || !ctx.plugins.isEmpty) = false := by
    rw [fresh, empty]
    rfl
  simp only [Context.discover, allowed, Context.reference]
  cases hplan : (layout.plan fs privileged).1 with
  | nil => simp [Context.noteAll, empty, PluginRegistry.empty, Settings.candidatesOf]
  | cons directory rest =>
    exact (scanAll_enrolls fs mode (directory :: rest) (start _)).rows

/-- **A discovery of a new context registers what the reference lists**: of each name the first good
    candidate, which no bad one before it stands in the way of. -/
theorem discover_eq_reference (ctx : Context) (fs : FileSystem) (layout : Layout)
    (privileged : Bool) (mode : FailureMode) (empty : ctx.plugins = .empty)
    (fresh : ctx.discovered = false) :
    (ctx.discover fs layout privileged mode).2.plugins.plugins.map Plugin.registration =
      ctx.reference fs (layout.plan fs privileged).1 ∧
    ∀ before candidate after row,
      ctx.settings.candidatesOf fs (layout.plan fs privileged).1 =
        before ++ candidate :: after →
      ctx.settings.loader.registration? ctx.types fs candidate = some row →
      (∀ b ∈ before, b.2 = candidate.2 →
        ctx.settings.loader.registration? ctx.types fs b = none) →
      row ∈ (ctx.discover fs layout privileged mode).2.plugins.plugins.map
        Plugin.registration := by
  have registrations := registrations_discover ctx fs layout privileged mode empty fresh
  refine ⟨registrations, fun before candidate after row split good first => ?_⟩
  rw [registrations, Context.reference, split]
  exact mem_foldl_enroll_of_first good first

/-! ### A bad copy and a good one -/

/-- Settings that read manifests from files named `.mod`. -/
def manifestSettings : Settings :=
  ⟨"mod", none, Manifest.loader, .memory⟩

/-- The directories `a` and `b`, each with a file `x.mod`; the one in `a` is bad. -/
def twoCopies : FileSystem :=
  ⟨.directory
    [(Utf8.encode "a", .directory
      [(Utf8.encode "x.mod", .file (Manifest.ofLines ["fail=bad"]))]),
     (Utf8.encode "b", .directory
      [(Utf8.encode "x.mod", .file (Manifest.ofLines ["version=1", "symbol=plugin_register"]))])],
    [], []⟩

/-- What a context registers that knows dissectors. -/
def goodCopy : Registration :=
  ⟨"x.mod", "1", ⟨1⟩, Path.ofString "/b/x.mod"⟩

/-- A new context that knows dissectors. -/
def dissectorContext : Context :=
  ((Context.fresh manifestSettings).registerType "dissector"
    (PluginType.requiresSymbol Abi.dissector)).2

theorem registration?_badCopy :
    Manifest.loader.registration? dissectorContext.types twoCopies
      (Path.ofString "/a/x.mod", "x.mod") = none := by
  have text : twoCopies.readText (Path.ofString "/a/x.mod") = .ok "fail=bad" := by cbv
  simp only [Loader.registration?, Manifest.loader, Manifest.load, text]
  decide

theorem registration?_goodCopy :
    Manifest.loader.registration? dissectorContext.types twoCopies
      (Path.ofString "/b/x.mod", "x.mod") = some goodCopy := by
  have text : twoCopies.readText (Path.ofString "/b/x.mod") =
      .ok "version=1\nsymbol=plugin_register" := by cbv
  simp only [Loader.registration?, Manifest.loader, Manifest.load, text]
  decide

/-- A layout that plans both directories, the one with the bad copy first. -/
def twoCopiesLayout : Layout :=
  ⟨some (Path.ofString "/"), false, [], some (Path.ofString "/a"), some (Path.ofString "/b")⟩

theorem candidatesOf_twoCopies :
    manifestSettings.candidatesOf twoCopies (twoCopiesLayout.plan twoCopies false).1 =
      [(Path.ofString "/a/x.mod", "x.mod"), (Path.ofString "/b/x.mod", "x.mod")] := by
  cbv

/-- The bad copy does not stand in the way of the good one. -/
theorem discover_twoCopies :
    goodCopy ∈ (dissectorContext.discover twoCopies twoCopiesLayout false
      .silent).2.plugins.plugins.map Plugin.registration := by
  refine (discover_eq_reference dissectorContext twoCopies twoCopiesLayout false .silent rfl
    rfl).2 [(Path.ofString "/a/x.mod", "x.mod")] (Path.ofString "/b/x.mod", "x.mod") [] goodCopy
    candidatesOf_twoCopies registration?_goodCopy fun b hb _ => ?_
  rw [List.mem_singleton.mp hb]
  exact registration?_badCopy

/-- A discovery of the two copies registers the good one alone. -/
theorem registrations_twoCopies :
    (dissectorContext.discover twoCopies twoCopiesLayout false .silent).2.plugins.plugins.map
      Plugin.registration = [goodCopy] := by
  have bad : enroll Manifest.loader dissectorContext.types twoCopies []
      (Path.ofString "/a/x.mod", "x.mod") = [] := by
    rw [enroll, registration?_badCopy]
    rfl
  have good : enroll Manifest.loader dissectorContext.types twoCopies []
      (Path.ofString "/b/x.mod", "x.mod") = [goodCopy] := by
    rw [enroll, registration?_goodCopy]
    rfl
  rw [registrations_discover dissectorContext twoCopies twoCopiesLayout false .silent rfl rfl,
    Context.reference, show dissectorContext.settings = manifestSettings from rfl,
    candidatesOf_twoCopies, show manifestSettings.loader = Manifest.loader from rfl,
    List.foldl_cons, bad, List.foldl_cons, good, List.foldl_nil]

/-- A history that discovers the two copies. -/
def twoCopiesHistory : List Operation :=
  [.registerType "dissector" (PluginType.requiresSymbol Abi.dissector),
   .discover twoCopies twoCopiesLayout false .silent]

theorem registrations_twoCopiesHistory :
    ((Context.fresh manifestSettings).runAll twoCopiesHistory).2.plugins.plugins.map
      Plugin.registration = [goodCopy] :=
  registrations_twoCopies

/-- The good copy is registered after the history. -/
theorem exists_goodCopy :
    ∃ p ∈ ((Context.fresh manifestSettings).runAll twoCopiesHistory).2.plugins.plugins,
      p.registration = goodCopy := by
  have row : goodCopy ∈ ((Context.fresh manifestSettings).runAll
      twoCopiesHistory).2.plugins.plugins.map Plugin.registration := by
    rw [registrations_twoCopiesHistory]
    exact List.mem_singleton_self goodCopy
  exact List.mem_map.mp row

end PluginDiscovery
