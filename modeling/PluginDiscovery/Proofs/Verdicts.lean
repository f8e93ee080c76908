import PluginDiscovery.Proofs.Handles
import PluginDiscovery.Proofs.OpenedFiles

/-!
# Verdicts on candidates

A scan decides about one candidate after the other: it registers the candidate, or refuses it for a
reason. These verdicts need no context but the list of what is registered, and they say all that a
scan does.

* `Verdict`, `Loader.verdicts`: what is decided about a candidate, and the verdicts on candidates in
  their order, each with what was registered before it;
* `verdicts_congr`: of what is registered they depend on the names alone, and of these on the names
  of the candidates;
* `taken_foldl_enroll`: the names that are registered after candidates;
* `Context.Judged`: a context that the verdicts on candidates lead to, with its plugins, opened files,
  handles and reports; `judged_scan`, `judged_scanAll`: scans lead to such contexts, and
  `scan_fst_eq_counts`: the counters of a scan count its verdicts.
-/

namespace PluginDiscovery

/-! ## 1. Verdicts -/

/-- Whether a candidate is refused for its name alone. -/
def PluginError.saysTaken : PluginError → Bool
  | .duplicateName _ => true
  | _ => false

/-- What is decided about a candidate: the reason to refuse it, or nothing if it is registered. -/
structure Verdict where
  path : Path
  name : String
  refusal : Option PluginError
  deriving DecidableEq, Repr

namespace Verdict

/-- The candidate that was decided about. -/
def candidate (v : Verdict) : Path × String :=
  (v.path, v.name)

/-- Whether the candidate is registered. -/
def accepts (v : Verdict) : Bool :=
  v.refusal.isNone

/-- Whether the candidate is refused for another reason than its name. -/
def faults (v : Verdict) : Bool :=
  v.refusal.any fun e => !e.saysTaken

/-- Whether the loader is asked for the file. -/
def asks (v : Verdict) : Bool :=
  v.accepts || v.faults

/-- What happens to the handle of the module: one that is refused is closed again. -/
def moves (v : Verdict) : List HandleMove :=
  match v.refusal with
  | none => [.opened v.path]
  | some (.missingVersion _) | some (.noRoutines _) => [.opened v.path, .closed v.path]
  | some _ => []

/-- The plugin that an accepted candidate becomes. -/
def plugin? (loader : Loader) (types : TypeRegistry) (fs : FileSystem) (v : Verdict) :
    Option Plugin :=
  if v.accepts then loader.pluginAt? types fs v.path v.name else none

section Fields

variable (path : Path) (name : String) (e : PluginError) (loader : Loader) (types : TypeRegistry)
  (fs : FileSystem)

@[simp] theorem accepts_registered : accepts ⟨path, name, none⟩ = true :=
  rfl

@[simp] theorem accepts_refused : accepts ⟨path, name, some e⟩ = false :=
  rfl

@[simp] theorem asks_registered : asks ⟨path, name, none⟩ = true :=
  rfl

@[simp] theorem asks_refused : asks ⟨path, name, some e⟩ = !e.saysTaken :=
  rfl

@[simp] theorem plugin?_registered :
    plugin? loader types fs ⟨path, name, none⟩ = loader.pluginAt? types fs path name :=
  rfl

@[simp] theorem plugin?_refused : plugin? loader types fs ⟨path, name, some e⟩ = none :=
  rfl

end Fields

/-- Accepted candidates are those that stay open. -/
theorem net_moves (verdicts : List Verdict) :
    HandleMove.net (verdicts.flatMap moves) = verdicts.countP accepts := by
  induction verdicts with
  | nil => rfl
  | cons v rest ih =>
    have head : HandleMove.net v.moves = if v.accepts then 1 else 0 := by
      unfold moves accepts
      split <;> simp_all [HandleMove.net, HandleMove.change]
    rw [List.flatMap_cons, HandleMove.net_append, ih, head, List.countP_cons]
    split <;> push_cast <;> omega

/-- Every candidate is accepted or refused. -/
theorem countP_accepts_add (verdicts : List Verdict) :
    verdicts.countP accepts + (verdicts.filterMap refusal).length = verdicts.length := by
  induction verdicts with
  | nil => rfl
  | cons v rest ih =>
    cases hrefusal : v.refusal with
    | none => simp [accepts, hrefusal] at ih ⊢; omega
    | some e => simp [accepts, hrefusal] at ih ⊢; omega

end Verdict

/-- Whether a name is among the registered ones. -/
def taken (rows : List Registration) (name : String) : Bool :=
  rows.any fun r => r.name = name

/-- Whether the file of a candidate becomes a plugin, whatever is registered. -/
def Loader.isGood (loader : Loader) (types : TypeRegistry) (fs : FileSystem)
    (candidate : Path × String) : Bool :=
  (loader.registration? types fs candidate).isSome

/-- The verdicts on candidates in their order, each with what was registered before it. -/
def Loader.verdicts (loader : Loader) (types : TypeRegistry) (fs : FileSystem) :
    List Registration → List (Path × String) → List Verdict
  | _, [] => []
  | rows, candidate :: rest =>
    ⟨candidate.1, candidate.2, loader.refusal? types fs rows candidate⟩ ::
      verdicts loader types fs (enroll loader types fs rows candidate) rest

section Lists

variable {loader : Loader} {types : TypeRegistry} {fs : FileSystem}
  {rows rows' : List Registration} {candidate : Path × String}

/-! ## 2. What the verdict on a candidate depends on -/

theorem refusal?_of_taken (h : taken rows candidate.2 = true) :
    loader.refusal? types fs rows candidate = some (.duplicateName candidate.2) :=
  if_pos h

/-- What is registered matters for the name alone. -/
theorem refusal?_congr (h : taken rows candidate.2 = taken rows' candidate.2) :
    loader.refusal? types fs rows candidate = loader.refusal? types fs rows' candidate := by
  unfold taken at h
  rw [Loader.refusal?, Loader.refusal?, h]

/-- A candidate of a free name is registered if its file is good, and else refused for its file. -/
theorem refusal?_of_free (loader : Loader) (types : TypeRegistry) (fs : FileSystem)
    (h : taken rows candidate.2 = false) :
    (loader.isGood types fs candidate = true ∧
      loader.refusal? types fs rows candidate = none) ∨
    (loader.isGood types fs candidate = false ∧
      ∃ e, loader.refusal? types fs rows candidate = some e ∧ e.saysTaken = false) := by
  have free : ¬(rows.any fun r => r.name = candidate.2) = true := Bool.eq_false_iff.mp h
  rw [Loader.refusal?, if_neg free, Loader.isGood, Loader.registration?]
  cases loader.load fs candidate.1 with
  | error reason => exact .inr ⟨rfl, .loadFailed candidate.1 reason, rfl, rfl⟩
  | ok m =>
    cases hversion : m.text? Abi.version with
    | none =>
      exact .inr ⟨by simp [hversion], .missingVersion candidate.2, by simp [hversion], rfl⟩
    | some version =>
      by_cases hmask : types.classify m = .empty
      · exact .inr ⟨by simp [hversion, hmask], .noRoutines candidate.2,
          by simp [hversion, hmask], rfl⟩
      · exact .inl ⟨by simp [hversion, hmask], by simp [hversion, hmask]⟩

/-- A candidate is accepted if its name is free and its file is good. -/
theorem isNone_refusal? (loader : Loader) (types : TypeRegistry) (fs : FileSystem)
    (rows : List Registration) (c : Path × String) :
    (loader.refusal? types fs rows c).isNone = (!taken rows c.2 && loader.isGood types fs c) := by
  cases htaken : taken rows c.2 with
  | true =>
    rw [refusal?_of_taken htaken]
    rfl
  | false =>
    rcases refusal?_of_free loader types fs htaken with
      ⟨good, accepted⟩ | ⟨bad, e, refused, -⟩
    · rw [accepted, good]
      rfl
    · rw [refused, bad]
      rfl

/-- A refused candidate leaves the list as it is. -/
theorem enroll_of_refusal? {e : PluginError}
    (h : loader.refusal? types fs rows candidate = some e) :
    enroll loader types fs rows candidate = rows := by
  cases htaken : taken rows candidate.2 with
  | true => exact if_pos htaken
  | false =>
    have bad := isNone_refusal? loader types fs rows candidate
    rw [h, htaken, Option.isNone_some, Bool.not_false, Bool.true_and] at bad
    have none : loader.registration? types fs candidate = none :=
      Option.isNone_iff_eq_none.mp (Option.isSome_eq_false_iff.mp bad.symm)
    rw [enroll, none, Option.toList_none, List.append_nil, ite_self]

/-- A good candidate takes its name, and no other name is taken. -/
theorem taken_enroll (name : String) :
    taken (enroll loader types fs rows candidate) name =
      (taken rows name || (decide (candidate.2 = name) && loader.isGood types fs candidate)) := by
  cases htaken : taken rows candidate.2 with
  | true =>
    rw [show enroll loader types fs rows candidate = rows from if_pos htaken]
    by_cases same : candidate.2 = name
    · subst same
      rw [htaken, Bool.true_or]
    · simp [same]
  | false =>
    have free : ¬(rows.any fun r => r.name = candidate.2) = true := Bool.eq_false_iff.mp htaken
    rw [enroll, if_neg free, taken, List.any_append, taken, Loader.isGood]
    cases hrow : loader.registration? types fs candidate with
    | none => simp
    | some row => simp [name_of_registration? hrow]

/-- The names that are taken after candidates are those of the good ones and those of before. -/
theorem taken_foldl_enroll (candidates : List (Path × String)) (rows : List Registration)
    (name : String) :
    taken (candidates.foldl (enroll loader types fs) rows) name =
      (taken rows name ||
        candidates.any fun c => decide (c.2 = name) && loader.isGood types fs c) := by
  induction candidates generalizing rows with
  | nil => simp
  | cons c rest ih => rw [List.foldl_cons, ih, taken_enroll, List.any_cons, Bool.or_assoc]

/-! ## 3. What the verdicts on candidates depend on -/

theorem verdicts_append (before after : List (Path × String)) (rows : List Registration) :
    loader.verdicts types fs rows (before ++ after) =
      loader.verdicts types fs rows before ++
        loader.verdicts types fs (before.foldl (enroll loader types fs) rows) after := by
  induction before generalizing rows with
  | nil => rfl
  | cons c rest ih =>
    rw [List.cons_append, Loader.verdicts, Loader.verdicts, ih, List.cons_append, List.foldl_cons]

/-- There is a verdict on each candidate. -/
theorem candidates_verdicts (candidates : List (Path × String)) (rows : List Registration) :
    (loader.verdicts types fs rows candidates).map Verdict.candidate = candidates := by
  induction candidates generalizing rows with
  | nil => rfl
  | cons c rest ih => rw [Loader.verdicts, List.map_cons, ih, Verdict.candidate]

theorem length_verdicts (candidates : List (Path × String)) (rows : List Registration) :
    (loader.verdicts types fs rows candidates).length = candidates.length := by
  rw [← List.length_map Verdict.candidate, candidates_verdicts]

/-- The refusals are those of the verdicts. -/
theorem refusals_eq_filterMap (candidates : List (Path × String)) (rows : List Registration) :
    loader.refusals types fs rows candidates =
      (loader.verdicts types fs rows candidates).filterMap Verdict.refusal := by
  induction candidates generalizing rows with
  | nil => rfl
  | cons c rest ih =>
    rw [Loader.refusals, Loader.verdicts, ih, List.filterMap_cons]
    cases loader.refusal? types fs rows c <;> rfl

/-- An accepted candidate becomes a plugin of its name. -/
theorem names_plugin? (candidates : List (Path × String)) (rows : List Registration) :
    ((loader.verdicts types fs rows candidates).filterMap
        (Verdict.plugin? loader types fs)).map Plugin.name =
      ((loader.verdicts types fs rows candidates).filter Verdict.accepts).map Verdict.name := by
  induction candidates generalizing rows with
  | nil => rfl
  | cons c rest ih =>
    rw [Loader.verdicts, List.filterMap_cons, List.filter_cons]
    cases hrefusal : loader.refusal? types fs rows c with
    | some e => simpa using ih _
    | none =>
      have accepted := isNone_refusal? loader types fs rows c
      rw [hrefusal] at accepted
      have good := (Bool.and_eq_true_iff.mp accepted.symm).2
      rw [Loader.isGood, ← registration_pluginAt?, Option.isSome_map,
        Option.isSome_iff_exists] at good
      obtain ⟨p, hp⟩ := good
      have name : p.name = c.2 := (Loader.pluginAt?_eq_some_iff.mp hp).2.2.2.2
      simpa [hp, name] using ih _

/-- **Of what is registered the names of the candidates matter, and nothing else.** -/
theorem verdicts_congr (candidates : List (Path × String)) {rows rows' : List Registration}
    (h : ∀ c ∈ candidates, taken rows c.2 = taken rows' c.2) :
    loader.verdicts types fs rows candidates = loader.verdicts types fs rows' candidates := by
  induction candidates generalizing rows rows' with
  | nil => rfl
  | cons c rest ih =>
    have later : ∀ d ∈ rest, taken (enroll loader types fs rows c) d.2 =
        taken (enroll loader types fs rows' c) d.2 := fun d hd => by
      rw [taken_enroll, taken_enroll, h d (List.mem_cons_of_mem c hd)]
    rw [Loader.verdicts, Loader.verdicts, refusal?_congr (h c List.mem_cons_self), ih later]

end Lists

/-! ## 4. Scans carry the verdicts out -/

namespace Context

/-- The verdicts of a context on candidates. -/
def verdictsOn (ctx : Context) (fs : FileSystem) (candidates : List (Path × String)) :
    List Verdict :=
  ctx.settings.loader.verdicts ctx.types fs (ctx.plugins.plugins.map Plugin.registration) candidates

/-- The verdicts of a context on the candidates of directories. -/
def verdicts (ctx : Context) (fs : FileSystem) (directories : List Path) : List Verdict :=
  ctx.verdictsOn fs (ctx.settings.candidatesOf fs directories)

/-- The verdicts of the start on these candidates were carried out: the accepted ones are registered,
    and the files of those whose names were free were asked for. -/
structure Judged (start : Context) (fs : FileSystem) (mode : FailureMode)
    (past : List (Path × String)) (ctx : Context) : Prop where
  tells : Tells start fs mode past ctx
  discovered : ctx.discovered = start.discovered
  plugins : ctx.plugins.plugins = start.plugins.plugins ++
    (start.verdictsOn fs past).filterMap (Verdict.plugin? start.settings.loader start.types fs)
  opened : ctx.opened = start.opened ++ if start.settings.loader.counts then
    ((start.verdictsOn fs past).filter Verdict.asks).map Verdict.path else []
  handles : ctx.handles = start.handles ++ (start.verdictsOn fs past).flatMap Verdict.moves

/-- A candidate is treated as the verdict on it says. -/
theorem consider_verdict (ctx : Context) (fs : FileSystem) (mode : FailureMode) (path : Path)
    (name : String) {v : Verdict}
    (h : v = ⟨path, name, ctx.settings.loader.refusal? ctx.types fs
      (ctx.plugins.plugins.map Plugin.registration) (path, name)⟩) :
    (ctx.consider fs mode path name).2.plugins.plugins = ctx.plugins.plugins ++
      (v.plugin? ctx.settings.loader ctx.types fs).toList ∧
    (ctx.consider fs mode path name).2.opened = ctx.opened ++
      (if ctx.settings.loader.counts && v.asks then [path] else []) ∧
    (ctx.consider fs mode path name).2.handles = ctx.handles ++ v.moves := by
  rw [Loader.refusal?, any_registration] at h
  have asked : (ctx.recordOpening path).opened =
      ctx.opened ++ if ctx.settings.loader.counts then [path] else [] := by
    unfold recordOpening
    split <;> simp
  have fate := ctx.consider_fate fs mode path name
  generalize ctx.consider fs mode path name = result at fate
  cases fate with
  | taken has =>
    rw [if_pos has] at h
    subst h
    simp [Verdict.moves, PluginError.saysTaken]
  | unloadable reason has load =>
    simp only [has, load, Bool.false_eq_true, if_false] at h
    subst h
    simp [Verdict.moves, PluginError.saysTaken, asked]
  | unversioned m has load version =>
    simp only [has, load, version, Bool.false_eq_true, if_false] at h
    subst h
    simp [Verdict.moves, PluginError.saysTaken, asked, opening]
  | unclaimed m version has load text mask =>
    simp only [has, load, text, TypeMask.isEmpty_iff.mp mask, Bool.false_eq_true, if_false] at h
    subst h
    simp [Verdict.moves, PluginError.saysTaken, asked, opening]
  | registered p has plugin =>
    obtain ⟨load, text, mask, claimed, rfl⟩ := Loader.pluginAt?_eq_some_iff.mp plugin
    have claimed : p.mask ≠ .empty := fun none => by
      rw [TypeMask.isEmpty_iff.mpr none] at claimed
      cases claimed
    simp only [has, load, text, mask, claimed, Bool.false_eq_true, if_false] at h
    subst h
    simp [Verdict.moves, plugin, asked, opening]

/-- Before the first candidate nothing is carried out. -/
theorem Judged.refl (start : Context) (fs : FileSystem) (mode : FailureMode) :
    start.Judged fs mode [] start where
  tells := .start fs mode start rfl rfl rfl (.nothing rfl rfl rfl)
  discovered := rfl
  plugins := (List.append_nil _).symm
  opened := by simp [verdictsOn, Loader.verdicts]
  handles := (List.append_nil _).symm

/-- The steps of a scan carry out the verdicts on the candidates they pass. -/
theorem judged_passes (start : Context) (fs : FileSystem) (mode : FailureMode) :
    Passes start.settings fs mode fun past state => start.Judged fs mode past state.2 where
  settings h := h.tells.shows.settings
  note event notes h :=
    ⟨(tells_passes fs mode start).note event notes h.tells, h.discovered, h.plugins, h.opened,
      h.handles⟩
  consider {past stats c} path name h := by
    have tells : Tells start fs mode past c := h.tells
    obtain ⟨settings, types, rows⟩ := tells.shows
    obtain ⟨v, verdict⟩ : ∃ v : Verdict, v = ⟨path, name, c.settings.loader.refusal? c.types fs
      (c.plugins.plugins.map Plugin.registration) (path, name)⟩ := ⟨_, rfl⟩
    obtain ⟨plugins, opened, handles⟩ := c.consider_verdict fs mode path name verdict
    -- the context shows the list so far, so its verdict is the next one of the start
    have next : start.verdictsOn fs (past ++ [(path, name)]) = start.verdictsOn fs past ++ [v] := by
      rw [verdictsOn, verdicts_append, verdict, rows, settings, types]
      rfl
    rw [settings, types] at plugins
    rw [settings] at opened
    refine ⟨@Passes.consider _ _ _ _ (tells_passes fs mode start) past stats c path name tells,
      (c.consider_frame fs mode path name).2.2.trans h.discovered, ?_, ?_, ?_⟩
    · rw [plugins, h.plugins, next, List.filterMap_append, List.append_assoc]
      cases hplugin : v.plugin? start.settings.loader start.types fs <;> simp [hplugin]
    · have path_eq : v.path = path := by rw [verdict]
      rw [opened, h.opened, next, List.filter_append, List.map_append, List.append_assoc]
      cases start.settings.loader.counts <;> cases asks : v.asks <;> simp [asks, path_eq]
    · rw [handles, h.handles, next, List.flatMap_append, List.append_assoc, List.flatMap_singleton]

section Judged

variable {start ctx : Context} {fs : FileSystem} {mode : FailureMode}
  {past : List (Path × String)}

/-- The log has the refusals, and the host hears of them in a mode that tells. -/
theorem Judged.refuses (h : start.Judged fs mode past ctx) :
    start.Refuses mode ((start.verdictsOn fs past).filterMap Verdict.refusal) ctx := by
  have refuses := h.tells.refuses
  rw [refusals_eq_filterMap] at refuses
  exact refuses

/-- Beside the modules that were open before, those of the accepted candidates are. -/
theorem Judged.net (h : start.Judged fs mode past ctx) :
    HandleMove.net ctx.handles =
      HandleMove.net start.handles + (start.verdictsOn fs past).countP Verdict.accepts := by
  rw [h.handles, HandleMove.net_append, Verdict.net_moves]

end Judged

/-- **A scan carries out the verdicts on the candidates of its directory.** -/
theorem judged_scan (ctx : Context) (fs : FileSystem) (mode : FailureMode) (directory : Path) :
    ctx.Judged fs mode (ctx.settings.candidatesOf fs [directory])
      (ctx.scan fs directory mode).2 :=
  (judged_passes ctx fs mode).scan directory (Judged.refl ctx fs mode)

/-- Scans of directories carry out the verdicts on the candidates of all of them. -/
theorem judged_scanAll (ctx : Context) (fs : FileSystem) (mode : FailureMode)
    (directories : List Path) :
    ctx.Judged fs mode (ctx.settings.candidatesOf fs directories)
      (ctx.scanAll fs mode directories).2 :=
  (judged_passes ctx fs mode).scanAll (P := fun past c => ctx.Judged fs mode past c) directories
    (Judged.refl ctx fs mode)

/-- The counters of a scan count its verdicts. -/
theorem scan_fst_eq_counts (ctx : Context) (fs : FileSystem) (mode : FailureMode)
    (directory : Path) :
    (ctx.scan fs directory mode).1 =
      ⟨(ctx.verdicts fs [directory]).countP Verdict.accepts,
        ((ctx.verdicts fs [directory]).filterMap Verdict.refusal).length⟩ := by
  have rejected := (ctx.scan_refuses fs mode directory).2
  rw [refusals, refusals_eq_filterMap] at rejected
  have counted := ctx.counted_scan fs mode directory
  have decided := Verdict.countP_accepts_add (ctx.verdicts fs [directory])
  have each : (ctx.verdicts fs [directory]).length =
      (ctx.settings.candidatesOf fs [directory]).length := length_verdicts _ _
  cases hscan : (ctx.scan fs directory mode).1
  rw [hscan] at rejected counted
  simp only [ScanStats.mk.injEq]
  have rejected' : _ = ((ctx.verdicts fs [directory]).filterMap Verdict.refusal).length := rejected
  simp only at rejected' counted
  exact ⟨by omega, rejected'⟩

end Context

/-! ## 5. The candidates of directories -/

/-- The candidates of directories are what the directories hold. -/
theorem Settings.mem_candidatesOf_iff {s : Settings} {fs : FileSystem} {directories : List Path}
    {c : Path × String} :
    c ∈ s.candidatesOf fs directories ↔ ∃ directory ∈ directories,
      s.Holds fs directory c.2 ∧ c.1 = directory.join (Path.ofString c.2) := by
  obtain ⟨path, name⟩ := c
  simp only [candidatesOf, List.mem_flatMap, List.mem_map, Prod.mk.injEq, mem_candidatesIn_iff]
  constructor
  · rintro ⟨directory, planned, _, held, rfl, rfl⟩
    exact ⟨directory, planned, held, rfl⟩
  · rintro ⟨directory, planned, held, rfl⟩
    exact ⟨directory, planned, name, held, rfl, rfl⟩

/-! ### A directory with one good file -/

/-- A new context that knows dissectors accepts the only candidate of a directory if its file is
    good. -/
theorem verdicts_goodText {fs : FileSystem} {directory path : Path} {name : String}
    (listed : dissectorContext.settings.candidatesOf fs [directory] = [(path, name)])
    (text : fs.readText path = .ok "version=1\nsymbol=plugin_register") :
    dissectorContext.verdicts fs [directory] = [⟨path, name, none⟩] := by
  rw [Context.verdicts, listed, Context.verdictsOn,
    show dissectorContext.settings.loader = Manifest.loader from rfl,
    show dissectorContext.plugins.plugins.map Plugin.registration = [] from rfl, Loader.verdicts,
    refusal?_goodText text, Loader.verdicts]

end PluginDiscovery
