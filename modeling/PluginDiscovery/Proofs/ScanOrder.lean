import PluginDiscovery.Proofs.Verdicts

/-!
# The order of scans

Directories are scanned one after the other, and a name that an earlier one has registered is refused
in a later one. If no two of them have a candidate of one name, none stands in the way of another, and
the order does not matter. If they have, the order decides which file of a name is registered, but not
whether one is: a file that is refused does not take the name.

* `verdicts_perm`: candidates of different names get the same verdicts in each order;
* `Loader.newNames`: the names that candidates add to the registered ones, in no order;
  `countP_accepts_verdicts`: as many candidates are accepted as there are of them;
* `Context.visitsAlong_filter`: the scans of a directory count as if no other were scanned;
* `Settings.Apart`: directories without common names; `scans_commute`: what scans of these, and of
  others, do in another order.
-/

namespace PluginDiscovery

section Candidates

variable {loader : Loader} {types : TypeRegistry} {fs : FileSystem}

/-! ## 1. Candidates of different names -/

/-- Candidates of one name are one candidate. -/
def OneEach (candidates : List (Path × String)) : Prop :=
  ∀ c ∈ candidates, ∀ d ∈ candidates, c.2 = d.2 → c = d

theorem OneEach.tail {c : Path × String} {rest : List (Path × String)} (h : OneEach (c :: rest)) :
    OneEach rest :=
  fun a ha b hb => h a (List.mem_cons_of_mem c ha) b (List.mem_cons_of_mem c hb)

theorem OneEach.permute {first second : List (Path × String)} (h : OneEach first)
    (perm : first.Perm second) : OneEach second :=
  fun a ha b hb => h a (perm.mem_iff.mpr ha) b (perm.mem_iff.mpr hb)

/-- A candidate leaves the name of another as it was. -/
theorem taken_enroll_of_ne {rows : List Registration} {c : Path × String} {name : String}
    (different : c.2 ≠ name) :
    taken (enroll loader types fs rows c) name = taken rows name := by
  rw [taken_enroll, decide_eq_false different, Bool.false_and, Bool.or_false]

/-- **The order of candidates of different names does not matter for the verdicts on them.** -/
theorem verdicts_perm {first second : List (Path × String)} (perm : first.Perm second)
    (once : OneEach first) (rows : List Registration) :
    (loader.verdicts types fs rows first).Perm (loader.verdicts types fs rows second) := by
  induction perm generalizing rows with
  | nil => exact .refl _
  | cons c _ ih => exact (ih once.tail _).cons _
  | swap c d rest =>
    by_cases same : d.2 = c.2
    · obtain rfl := once d List.mem_cons_self c (List.mem_cons_of_mem d List.mem_cons_self) same
      exact .refl _
    · have later : loader.refusal? types fs (enroll loader types fs rows d) c =
          loader.refusal? types fs rows c := refusal?_congr (taken_enroll_of_ne same)
      have sooner : loader.refusal? types fs (enroll loader types fs rows c) d =
          loader.refusal? types fs rows d := refusal?_congr (taken_enroll_of_ne (Ne.symm same))
      have after : loader.verdicts types fs
            (enroll loader types fs (enroll loader types fs rows d) c) rest =
          loader.verdicts types fs
            (enroll loader types fs (enroll loader types fs rows c) d) rest :=
        verdicts_congr rest fun e _ => by
          simp only [taken_enroll, Bool.or_assoc]
          rw [Bool.or_comm (decide (d.2 = e.2) && _)]
      simp only [Loader.verdicts, later, sooner, after]
      exact .swap _ _ _
  | trans perm _ ih ih' => exact (ih once rows).trans (ih' (once.permute perm) rows)

/-! ## 2. Candidates that share names -/

/-- The names that candidates add to the registered ones: those that were free, and that the file of
    some candidate is good for. -/
def Loader.newNames (loader : Loader) (types : TypeRegistry) (fs : FileSystem)
    (rows : List Registration) (candidates : List (Path × String)) : Finset String :=
  ((candidates.filter (loader.isGood types fs)).map Prod.snd).toFinset.filter
    fun name => taken rows name = false

theorem mem_newNames_iff {rows : List Registration} {candidates : List (Path × String)}
    {name : String} :
    name ∈ loader.newNames types fs rows candidates ↔ taken rows name = false ∧
      ∃ c ∈ candidates, c.2 = name ∧ loader.isGood types fs c = true := by
  simp only [Loader.newNames, Finset.mem_filter, List.mem_toFinset, List.mem_map, List.mem_filter]
  constructor
  · rintro ⟨⟨c, ⟨hc, good⟩, same⟩, free⟩
    exact ⟨free, c, hc, same, good⟩
  · rintro ⟨free, c, hc, same, good⟩
    exact ⟨⟨c, ⟨hc, good⟩, same⟩, free⟩

/-- The new names do not depend on the order of the candidates. -/
theorem newNames_perm {first second : List (Path × String)} (perm : first.Perm second)
    (rows : List Registration) :
    loader.newNames types fs rows first = loader.newNames types fs rows second := by
  ext name
  simp only [mem_newNames_iff, perm.mem_iff]

/-- An accepted candidate adds its name. -/
theorem newNames_of_accepted {rows : List Registration} {c : Path × String}
    (accepted : (!taken rows c.2 && loader.isGood types fs c) = true) (rest : List (Path × String)) :
    c.2 ∉ loader.newNames types fs (enroll loader types fs rows c) rest ∧
      loader.newNames types fs rows (c :: rest) =
        insert c.2 (loader.newNames types fs (enroll loader types fs rows c) rest) := by
  obtain ⟨free, good⟩ := Bool.and_eq_true_iff.mp accepted
  rw [Bool.not_eq_true'] at free
  constructor
  · rw [mem_newNames_iff, taken_enroll, good]
    simp
  · ext name
    rw [Finset.mem_insert, mem_newNames_iff, mem_newNames_iff, taken_enroll]
    by_cases same : c.2 = name
    · subst same
      simp [free, good]
    · simp [same, Ne.symm same]

/-- A refused candidate is not good, or its name is taken: it adds no name. -/
theorem newNames_of_refused {rows : List Registration} {c : Path × String}
    (refused : (!taken rows c.2 && loader.isGood types fs c) = false)
    (rest : List (Path × String)) :
    loader.newNames types fs rows (c :: rest) = loader.newNames types fs rows rest := by
  ext name
  rw [mem_newNames_iff, mem_newNames_iff]
  refine and_congr_right fun free => ?_
  have other : ¬(c.2 = name ∧ loader.isGood types fs c = true) := by
    rintro ⟨rfl, good⟩
    rw [free, good] at refused
    cases refused
  simp only [List.exists_mem_cons_iff, or_iff_right other]

/-- **As many candidates are accepted as there are new names.** -/
theorem countP_accepts_verdicts (candidates : List (Path × String)) (rows : List Registration) :
    (loader.verdicts types fs rows candidates).countP Verdict.accepts =
      (loader.newNames types fs rows candidates).card := by
  induction candidates generalizing rows with
  | nil => rfl
  | cons c rest ih =>
    rw [Loader.verdicts, List.countP_cons, ih, Verdict.accepts, isNone_refusal?]
    cases decision : !taken rows c.2 && loader.isGood types fs c with
    | true =>
      obtain ⟨apart, split⟩ := newNames_of_accepted decision rest
      rw [split, Finset.card_insert_of_notMem apart]
      rfl
    | false =>
      obtain ⟨e, refused⟩ : ∃ e, loader.refusal? types fs rows c = some e := by
        rw [← isNone_refusal?, Option.isNone_eq_false_iff] at decision
        exact Option.isSome_iff_exists.mp decision
      rw [enroll_of_refusal? refused, newNames_of_refused decision]
      rfl

end Candidates

/-! ## 3. Directories one after the other -/

namespace Context

/-- The registered names of a context that verdicts led to. -/
theorem Judged.has {start ctx : Context} {fs : FileSystem} {mode : FailureMode}
    {past : List (Path × String)} (h : start.Judged fs mode past ctx) (name : String) :
    ctx.plugins.has name = (start.plugins.has name || past.any fun c =>
      decide (c.2 = name) && start.settings.loader.isGood start.types fs c) := by
  have rows := congrArg (taken · name) h.tells.shows.rows
  simp only [taken_foldl_enroll] at rows
  rwa [taken, taken, any_registration, any_registration] at rows

/-- The verdicts on the later directories are those after the scan of the first. -/
theorem verdicts_cons (ctx : Context) (fs : FileSystem) (mode : FailureMode) (directory : Path)
    (rest : List Path) :
    ctx.verdicts fs (directory :: rest) = ctx.verdicts fs [directory] ++
      (ctx.scan fs directory mode).2.verdicts fs rest := by
  obtain ⟨settings, types, rows⟩ := (ctx.judged_scan fs mode directory).tells.shows
  rw [verdicts, verdicts, verdicts, verdictsOn, verdictsOn, verdictsOn, settings, types, rows,
    ← verdicts_append, Settings.candidatesOf, Settings.candidatesOf, Settings.candidatesOf,
    List.flatMap_cons, List.flatMap_singleton]

/-- The counters of scans taken together count the verdicts on all candidates. -/
theorem sums_visitsAlong (fs : FileSystem) (mode : FailureMode) (directories : List Path)
    (ctx : Context) :
    ((ctx.visitsAlong fs mode directories).map fun visit => visit.2.registered).sum =
      (ctx.verdicts fs directories).countP Verdict.accepts ∧
    ((ctx.visitsAlong fs mode directories).map fun visit => visit.2.rejected).sum =
      ((ctx.verdicts fs directories).filterMap Verdict.refusal).length := by
  induction directories generalizing ctx with
  | nil => exact ⟨rfl, rfl⟩
  | cons directory rest ih =>
    obtain ⟨registered, rejected⟩ := ih (ctx.scan fs directory mode).2
    rw [visitsAlong, List.map_cons, List.map_cons, List.sum_cons, List.sum_cons, registered,
      rejected, ctx.verdicts_cons fs mode directory rest, scan_fst_eq_counts, List.countP_append,
      List.filterMap_append, List.length_append]
    exact ⟨rfl, rfl⟩

/-! ## 4. A directory as if it were scanned alone -/

/-- Contexts that decide alike about the candidates of a directory. -/
structure AgreeOn (fs : FileSystem) (directory : Path) (a b : Context) : Prop where
  settings : a.settings = b.settings
  types : a.types = b.types
  names : ∀ name, a.settings.Holds fs directory name → a.plugins.has name = b.plugins.has name

theorem AgreeOn.refl (fs : FileSystem) (directory : Path) (ctx : Context) :
    AgreeOn fs directory ctx ctx :=
  ⟨rfl, rfl, fun _ _ => rfl⟩

/-- They count the same in a scan of it. -/
theorem AgreeOn.scan_fst {fs : FileSystem} {directory : Path} {a b : Context}
    (h : AgreeOn fs directory a b) (mode : FailureMode) :
    (a.scan fs directory mode).1 = (b.scan fs directory mode).1 := by
  have same : a.verdicts fs [directory] = b.verdicts fs [directory] := by
    rw [verdicts, verdicts, verdictsOn, verdictsOn, h.settings, h.types]
    refine verdicts_congr _ fun c hc => ?_
    obtain ⟨d, hd, held, -⟩ := Settings.mem_candidatesOf_iff.mp hc
    obtain rfl := List.mem_singleton.mp hd
    rw [taken, taken, any_registration, any_registration]
    exact h.names c.2 (h.settings ▸ held)
  rw [scan_fst_eq_counts, scan_fst_eq_counts, same]

/-- A scan of it leads both to contexts that decide alike again. -/
theorem AgreeOn.scan {fs : FileSystem} {directory : Path} {a b : Context}
    (h : AgreeOn fs directory a b) (mode : FailureMode) :
    AgreeOn fs directory (a.scan fs directory mode).2 (b.scan fs directory mode).2 := by
  have judged := a.judged_scan fs mode directory
  have judged' := b.judged_scan fs mode directory
  refine ⟨?_, ?_, fun name held => ?_⟩
  · rw [judged.tells.shows.settings, judged'.tells.shows.settings, h.settings]
  · rw [judged.tells.shows.types, judged'.tells.shows.types, h.types]
  · rw [judged.tells.shows.settings] at held
    rw [judged.has, judged'.has, h.names name held, h.settings, h.types]

/-- A scan of another directory changes nothing for the candidates of this one, if they have no name
    in common. -/
theorem AgreeOn.scan_other {fs : FileSystem} {directory other : Path} {a b : Context}
    (h : AgreeOn fs directory a b) (mode : FailureMode)
    (apart : ∀ name, a.settings.Holds fs directory name → ¬a.settings.Holds fs other name) :
    AgreeOn fs directory (a.scan fs other mode).2 b := by
  have judged := a.judged_scan fs mode other
  refine ⟨judged.tells.shows.settings.trans h.settings, judged.tells.shows.types.trans h.types,
    fun name held => ?_⟩
  rw [judged.tells.shows.settings] at held
  have none : ((a.settings.candidatesOf fs [other]).any fun c =>
      decide (c.2 = name) && a.settings.loader.isGood a.types fs c) = false := by
    rw [List.any_eq_false]
    intro c hc both
    obtain ⟨d, hd, held', -⟩ := Settings.mem_candidatesOf_iff.mp hc
    obtain rfl := List.mem_singleton.mp hd
    have same : c.2 = name := of_decide_eq_true (Bool.and_eq_true_iff.mp both).1
    exact apart name held (same ▸ held')
  rw [judged.has, none, Bool.or_false, h.names name held]

/-- **Scans of a directory count as if no other were scanned**, if no other has a candidate of a name
    that it has. -/
theorem visitsAlong_filter {fs : FileSystem} {directory : Path} (mode : FailureMode)
    (directories : List Path) {a b : Context} (h : AgreeOn fs directory a b)
    (apart : ∀ other ∈ directories, other ≠ directory →
      ∀ name, a.settings.Holds fs directory name → ¬a.settings.Holds fs other name) :
    (a.visitsAlong fs mode directories).filter (fun visit => visit.1 = directory) =
      b.visitsAlong fs mode (directories.filter fun d => d = directory) := by
  induction directories generalizing a b with
  | nil => rfl
  | cons d rest ih =>
    have later : ∀ other ∈ rest, other ≠ directory → ∀ name,
        (a.scan fs d mode).2.settings.Holds fs directory name →
          ¬(a.scan fs d mode).2.settings.Holds fs other name := by
      rw [(a.judged_scan fs mode d).tells.shows.settings]
      exact fun other ho => apart other (List.mem_cons_of_mem d ho)
    by_cases same : d = directory
    · subst same
      rw [visitsAlong, List.filter_cons_of_pos (by simp), List.filter_cons_of_pos (by simp),
        visitsAlong, h.scan_fst, ih (h.scan mode) later]
    · rw [visitsAlong, List.filter_cons_of_neg (by simpa using same),
        List.filter_cons_of_neg (by simpa using same)]
      exact ih (h.scan_other mode (apart d List.mem_cons_self same)) later

theorem visitsAlong_filter_of_notMem {directory : Path} {directories : List Path}
    (absent : directory ∉ directories) (ctx : Context) (fs : FileSystem) (mode : FailureMode) :
    (ctx.visitsAlong fs mode directories).filter (fun visit => visit.1 = directory) = [] := by
  rw [List.filter_eq_nil_iff]
  intro visit made same
  have scanned := List.mem_map_of_mem (f := Prod.fst) made
  rw [visitsAlong_fst, of_decide_eq_true same] at scanned
  exact absent scanned

end Context

/-! ## 5. Permuted directories -/

/-- No two of the directories have a candidate of one name. -/
def Settings.Apart (s : Settings) (fs : FileSystem) (directories : List Path) : Prop :=
  ∀ a ∈ directories, ∀ b ∈ directories, a ≠ b → ∀ name, s.Holds fs a name → ¬s.Holds fs b name

theorem Settings.Apart.permute {s : Settings} {fs : FileSystem} {first second : List Path}
    (h : s.Apart fs first) (perm : first.Perm second) : s.Apart fs second :=
  fun a ha b hb => h a (perm.mem_iff.mpr ha) b (perm.mem_iff.mpr hb)

/-- Then a name has one path. -/
theorem Settings.Apart.oneEach {s : Settings} {fs : FileSystem} {directories : List Path}
    (h : s.Apart fs directories) : OneEach (s.candidatesOf fs directories) := by
  intro c hc d hd same
  obtain ⟨a, ha, held, path⟩ := mem_candidatesOf_iff.mp hc
  obtain ⟨b, hb, held', path'⟩ := mem_candidatesOf_iff.mp hd
  by_cases directory : a = b
  · subst directory
    exact Prod.ext (path.trans (same ▸ path'.symm)) same
  · exact absurd (same ▸ held') (h a ha b hb directory c.2 held)

/-- Permuted directories have permuted candidates. -/
theorem candidatesOf_perm (s : Settings) (fs : FileSystem) {first second : List Path}
    (perm : first.Perm second) :
    (s.candidatesOf fs first).Perm (s.candidatesOf fs second) :=
  perm.flatMap_right _

theorem told_perm (mode : FailureMode) {first second : List PluginError}
    (perm : first.Perm second) : (mode.told first).Perm (mode.told second) := by
  unfold FailureMode.told
  split
  · exact perm.map _
  · exact .refl _

namespace Context

variable {ctx : Context} {fs : FileSystem} {first second : List Path}

/-- As many candidates are accepted and refused in one order as in the other. -/
theorem counts_permute (ctx : Context) (fs : FileSystem) (perm : first.Perm second) :
    (ctx.verdicts fs first).countP Verdict.accepts =
      (ctx.verdicts fs second).countP Verdict.accepts ∧
    ((ctx.verdicts fs first).filterMap Verdict.refusal).length =
      ((ctx.verdicts fs second).filterMap Verdict.refusal).length := by
  have candidates := candidatesOf_perm ctx.settings fs perm
  have accepted : (ctx.verdicts fs first).countP Verdict.accepts =
      (ctx.verdicts fs second).countP Verdict.accepts := by
    rw [verdicts, verdicts, verdictsOn, verdictsOn, countP_accepts_verdicts,
      countP_accepts_verdicts, newNames_perm candidates]
  have sizes : (ctx.verdicts fs first).length = (ctx.verdicts fs second).length := by
    rw [verdicts, verdicts, verdictsOn, verdictsOn, length_verdicts, length_verdicts,
      candidates.length_eq]
  have decided := Verdict.countP_accepts_add (ctx.verdicts fs first)
  have decided' := Verdict.countP_accepts_add (ctx.verdicts fs second)
  exact ⟨accepted, by omega⟩

/-- Directories without common names get the same verdicts in both orders. -/
theorem verdicts_permute (apart : ctx.settings.Apart fs first) (perm : first.Perm second) :
    (ctx.verdicts fs first).Perm (ctx.verdicts fs second) :=
  verdicts_perm (candidatesOf_perm ctx.settings fs perm) apart.oneEach _

/-- Their scans count the same in both orders. -/
theorem visits_permute (mode : FailureMode) (apart : ctx.settings.Apart fs first)
    (perm : first.Perm second) (directory : Path) :
    (ctx.visitsAlong fs mode first).filter (fun visit => visit.1 = directory) =
      (ctx.visitsAlong fs mode second).filter (fun visit => visit.1 = directory) := by
  have alone : ∀ directories, ctx.settings.Apart fs directories → directory ∈ directories →
      (ctx.visitsAlong fs mode directories).filter (fun visit => visit.1 = directory) =
        ctx.visitsAlong fs mode (directories.filter fun d => d = directory) :=
    fun directories h planned => visitsAlong_filter mode directories (AgreeOn.refl fs directory ctx)
      fun other ho different => h directory planned other ho (Ne.symm different)
  by_cases planned : directory ∈ first
  · rw [alone first apart planned, alone second (apart.permute perm) (perm.mem_iff.mp planned),
      List.filter_eq, List.filter_eq, perm.count_eq]
  · rw [visitsAlong_filter_of_notMem planned,
      visitsAlong_filter_of_notMem fun h => planned (perm.mem_iff.mpr h)]

end Context

/-- **The order of directories that share no candidate name does not matter**: each scan of a
    directory counts the same in both orders, and plugins, reports and opened files are the same up to
    their order. Of directories that share some it decides neither which names are registered nor how
    many candidates are registered, refused and left open. By the type of loaders, what a file opens
    as depends on the files and its path, and so not on what was opened before it: this is assumed. -/
theorem scans_commute (ctx : Context) (fs : FileSystem) (mode : FailureMode)
    (first second : List Path) (perm : first.Perm second) :
    (ctx.settings.Apart fs first →
      (∀ directory,
        (ctx.visitsAlong fs mode first).filter (fun visit => visit.1 = directory) =
          (ctx.visitsAlong fs mode second).filter (fun visit => visit.1 = directory)) ∧
      (ctx.scanAll fs mode first).2.plugins.plugins.Perm
        (ctx.scanAll fs mode second).2.plugins.plugins ∧
      (ctx.scanAll fs mode first).2.received.Perm (ctx.scanAll fs mode second).2.received ∧
      (ctx.scanAll fs mode first).2.opened.Perm (ctx.scanAll fs mode second).2.opened) ∧
    (∀ name, (ctx.scanAll fs mode first).2.plugins.has name =
      (ctx.scanAll fs mode second).2.plugins.has name) ∧
    ((ctx.visitsAlong fs mode first).map fun visit => visit.2.registered).sum =
      ((ctx.visitsAlong fs mode second).map fun visit => visit.2.registered).sum ∧
    ((ctx.visitsAlong fs mode first).map fun visit => visit.2.rejected).sum =
      ((ctx.visitsAlong fs mode second).map fun visit => visit.2.rejected).sum ∧
    (ctx.scanAll fs mode first).2.live = (ctx.scanAll fs mode second).2.live := by
  have judged := ctx.judged_scanAll fs mode first
  have judged' := ctx.judged_scanAll fs mode second
  obtain ⟨registered, rejected⟩ := Context.sums_visitsAlong fs mode first ctx
  obtain ⟨registered', rejected'⟩ := Context.sums_visitsAlong fs mode second ctx
  obtain ⟨accepted, refused⟩ := ctx.counts_permute fs perm
  refine ⟨fun apart => ?_, fun name => ?_, ?_, ?_, ?_⟩
  · have decided : (ctx.verdictsOn fs _).Perm (ctx.verdictsOn fs _) :=
      Context.verdicts_permute apart perm
    refine ⟨Context.visits_permute mode apart perm, ?_, ?_, ?_⟩
    · rw [judged.plugins, judged'.plugins]
      exact (decided.filterMap _).append_left _
    · rw [judged.refuses.received, judged'.refuses.received]
      exact (told_perm mode (decided.filterMap _)).append_left _
    · rw [judged.opened, judged'.opened]
      refine .append_left _ ?_
      split
      · exact (decided.filter _).map _
      · exact .refl _
  · rw [judged.has, judged'.has, (candidatesOf_perm ctx.settings fs perm).any_eq]
  · rw [registered, registered', accepted]
  · rw [rejected, rejected', refused]
  · have net : HandleMove.net _ = HandleMove.net _ :=
      judged.net.trans ((congrArg (fun n : Nat => _ + (n : Int)) accepted).trans judged'.net.symm)
    rw [Context.live, Context.live, net, judged.tells.shows.settings, judged'.tells.shows.settings]

/-! ### Two directories with different names -/

/-- The directory `a` with a bad file `x.mod`, and `b` with a good file `y.mod`. -/
def twoNames : FileSystem :=
  ⟨.directory
    [(Utf8.encode "a", .directory
      [(Utf8.encode "x.mod", .file (Manifest.ofLines ["fail=bad"]))]),
     (Utf8.encode "b", .directory
      [(Utf8.encode "y.mod", .file (Manifest.ofLines ["version=1", "symbol=plugin_register"]))])],
    [], []⟩

/-- The two directories share no candidate name. -/
theorem apart_twoNames :
    dissectorContext.settings.Apart twoNames [Path.ofString "/a", Path.ofString "/b"] := by
  have bad : dissectorContext.settings.candidatesIn twoNames (Path.ofString "/a") = ["x.mod"] := by
    cbv
  have good : dissectorContext.settings.candidatesIn twoNames (Path.ofString "/b") = ["y.mod"] := by
    cbv
  intro a ha b hb different name
  rw [← Settings.mem_candidatesIn_iff, ← Settings.mem_candidatesIn_iff]
  simp only [List.mem_cons, List.not_mem_nil, or_false] at ha hb
  rcases ha with rfl | rfl <;> rcases hb with rfl | rfl
  · exact absurd rfl different
  · rw [bad, good, List.mem_singleton, List.mem_singleton]
    rintro rfl
    decide
  · rw [bad, good, List.mem_singleton, List.mem_singleton]
    rintro rfl
    decide
  · exact absurd rfl different

/-- The good file is counted after the bad one as it is before it. -/
theorem scans_commute_twoNames :
    (dissectorContext.visitsAlong twoNames .report [Path.ofString "/a", Path.ofString "/b"]).filter
      (fun visit => visit.1 = Path.ofString "/b") = [(Path.ofString "/b", ⟨1, 0⟩)] := by
  have listed : dissectorContext.settings.candidatesOf twoNames [Path.ofString "/b"] =
      [(Path.ofString "/b/y.mod", "y.mod")] := by cbv
  have counted : (dissectorContext.scan twoNames (Path.ofString "/b") .report).1 = ⟨1, 0⟩ := by
    rw [Context.scan_fst_eq_counts, verdicts_goodText listed (by cbv)]
    rfl
  have other : Path.ofString "/a" ≠ Path.ofString "/b" := by decide
  obtain ⟨disjoint, -⟩ := scans_commute dissectorContext twoNames .report
    [Path.ofString "/a", Path.ofString "/b"] [Path.ofString "/b", Path.ofString "/a"]
    (.swap _ _ [])
  rw [(disjoint apart_twoNames).1, Context.visitsAlong, counted, Context.visitsAlong]
  simp [Context.visitsAlong, other]

end PluginDiscovery
