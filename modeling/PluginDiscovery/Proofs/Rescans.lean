import PluginDiscovery.Proofs.Verdicts

/-!
# Scanning a directory again

A second scan of a directory finds every candidate decided. What the first one registered is refused
for its name, and what it refused is refused for the same reason.

* `Verdict.again`: what the second scan decides about a candidate;
* `verdicts_settled`: the verdicts when the list has taken what there is to take;
* `Context.verdicts_after_scan`, `Context.scan_of_again`: the second scan and what it leads to;
* `rescan_repeats`: what the second scan counts, changes, opens and reports.
-/

namespace PluginDiscovery

/-! ## 1. The verdicts of the second scan -/

namespace Verdict

/-- The reason to refuse the candidate when it comes again. -/
def refusalAgain (v : Verdict) : PluginError :=
  v.refusal.getD (.duplicateName v.name)

/-- The verdict on the candidate when it comes again. -/
def again (v : Verdict) : Verdict :=
  { v with refusal := some v.refusalAgain }

/-- The loader is asked again for the files that were at fault. -/
theorem asks_again (v : Verdict) : v.again.asks = v.faults := by
  unfold again refusalAgain faults
  cases v.refusal <;> rfl

theorem countP_accepts_again (verdicts : List Verdict) :
    (verdicts.map again).countP accepts = 0 := by
  rw [List.countP_map, List.countP_eq_zero]
  exact fun _ _ => Bool.false_ne_true

theorem filterMap_refusal_again (verdicts : List Verdict) :
    (verdicts.map again).filterMap refusal = verdicts.map refusalAgain := by
  rw [List.filterMap_map, show refusal ∘ again = some ∘ refusalAgain from rfl,
    List.filterMap_eq_map]

/-- Nothing is registered again. -/
theorem filterMap_plugin?_again (loader : Loader) (types : TypeRegistry) (fs : FileSystem)
    (verdicts : List Verdict) :
    (verdicts.map again).filterMap (plugin? loader types fs) = [] := by
  rw [List.filterMap_map, List.filterMap_eq_nil_iff]
  exact fun _ _ => rfl

/-- What is refused again is what was refused, and the accepted ones for their names. -/
theorem perm_refusalAgain (verdicts : List Verdict) :
    (verdicts.map refusalAgain).Perm (verdicts.filterMap refusal ++
      (verdicts.filter accepts).map fun v => .duplicateName v.name) := by
  induction verdicts with
  | nil => exact .refl _
  | cons v rest ih =>
    cases hrefusal : v.refusal with
    | some e => simpa [refusalAgain, accepts, hrefusal] using ih
    | none =>
      simpa [refusalAgain, accepts, hrefusal] using
        (ih.cons (PluginError.duplicateName v.name)).trans List.perm_middle.symm

end Verdict

section Settled

variable {loader : Loader} {types : TypeRegistry} {fs : FileSystem}
  {candidates : List (Path × String)}

/-- A list that has the name of a candidate if it had it before or the file is good refuses the
    candidate: for the reason of before, or for its name. -/
theorem refusal?_settled {rows settled : List Registration} {c : Path × String}
    (took : taken settled c.2 = (taken rows c.2 || loader.isGood types fs c)) :
    loader.refusal? types fs settled c =
      some ((loader.refusal? types fs rows c).getD (.duplicateName c.2)) := by
  cases htaken : taken rows c.2 with
  | true =>
    rw [htaken, Bool.true_or] at took
    rw [refusal?_of_taken took, refusal?_of_taken htaken]
    rfl
  | false =>
    rcases refusal?_of_free loader types fs htaken with ⟨good, accepted⟩ | ⟨bad, e, refused, -⟩
    · rw [good, Bool.or_true] at took
      rw [refusal?_of_taken took, accepted]
      rfl
    · rw [bad, Bool.or_false] at took
      rw [refusal?_congr took, refused]
      rfl

/-- **A list that has taken what there is to take refuses every candidate**, those that were accepted
    before for their names, and the others for the reason of before. -/
theorem verdicts_settled {rows settled : List Registration}
    (alike : ∀ c ∈ candidates, ∀ d ∈ candidates, c.2 = d.2 →
      loader.isGood types fs c = loader.isGood types fs d)
    (took : ∀ c ∈ candidates, taken settled c.2 = (taken rows c.2 || loader.isGood types fs c)) :
    loader.verdicts types fs settled candidates =
      (loader.verdicts types fs rows candidates).map Verdict.again := by
  induction candidates generalizing rows with
  | nil => rfl
  | cons c rest ih =>
    have head := refusal?_settled (took c List.mem_cons_self)
    have tail : loader.verdicts types fs settled rest =
        (loader.verdicts types fs (enroll loader types fs rows c) rest).map Verdict.again := by
      refine ih (fun a ha b hb => alike a (List.mem_cons_of_mem c ha) b (List.mem_cons_of_mem c hb))
        fun d hd => ?_
      rw [took d (List.mem_cons_of_mem c hd), taken_enroll]
      by_cases same : c.2 = d.2
      · rw [alike c List.mem_cons_self d (List.mem_cons_of_mem c hd) same]
        simp [same]
      · simp [same]
    rw [Loader.verdicts, Loader.verdicts, List.map_cons, enroll_of_refusal? head, head, tail]
    rfl

/-- The candidates of one name are as good as each other, so one of them is good if the other is. -/
theorem any_isGood {c : Path × String} (hc : c ∈ candidates)
    (alike : ∀ c ∈ candidates, ∀ d ∈ candidates, c.2 = d.2 →
      loader.isGood types fs c = loader.isGood types fs d) :
    (candidates.any fun d => decide (d.2 = c.2) && loader.isGood types fs d) =
      loader.isGood types fs c := by
  rw [Bool.eq_iff_iff, List.any_eq_true]
  constructor
  · rintro ⟨d, hd, both⟩
    obtain ⟨same, good⟩ := Bool.and_eq_true_iff.mp both
    rw [← alike d hd c hc (of_decide_eq_true same)]
    exact good
  · intro good
    exact ⟨c, hc, by simp [good]⟩

end Settled

/-! ## 2. The second scan -/

namespace Context

/-- The verdicts on a directory are in the byte order of the names. -/
theorem verdicts_pairwise (ctx : Context) (fs : FileSystem) (directory : Path) :
    (ctx.verdicts fs [directory]).Pairwise fun v w =>
      Utf8.encode v.name ≤ Utf8.encode w.name := by
  have names : (ctx.verdicts fs [directory]).map Verdict.name =
      ctx.settings.candidatesIn fs directory := by
    rw [show Verdict.name = Prod.snd ∘ Verdict.candidate from rfl, ← List.map_map,
      verdicts, verdictsOn, candidates_verdicts, Settings.candidatesOf,
      List.flatMap_singleton, List.map_map]
    exact List.map_id _
  have sorted : (ctx.settings.candidatesIn fs directory).Pairwise fun a b =>
      byteOrder a b = true := by
    unfold Settings.candidatesIn
    split
    · split
      · exact .nil
      · exact List.pairwise_mergeSort byteOrder_trans byteOrder_total _
    · exact .nil
  rw [← names, List.pairwise_map] at sorted
  exact sorted.imp of_decide_eq_true

/-- The second scan decides about each candidate for the second time. -/
theorem verdicts_after_scan (ctx : Context) (fs : FileSystem) (directory : Path)
    (mode : FailureMode) :
    (ctx.scan fs directory mode).2.verdicts fs [directory] =
      (ctx.verdicts fs [directory]).map Verdict.again := by
  obtain ⟨settings, types, rows⟩ := (ctx.judged_scan fs mode directory).tells.shows
  -- in one directory a name has one path
  have alike : ∀ c ∈ ctx.settings.candidatesOf fs [directory],
      ∀ d ∈ ctx.settings.candidatesOf fs [directory], c.2 = d.2 →
        ctx.settings.loader.isGood ctx.types fs c = ctx.settings.loader.isGood ctx.types fs d := by
    intro c hc d hd same
    obtain ⟨_, hdir, -, path⟩ := Settings.mem_candidatesOf_iff.mp hc
    obtain ⟨_, hdir', -, path'⟩ := Settings.mem_candidatesOf_iff.mp hd
    obtain rfl := List.mem_singleton.mp hdir
    obtain rfl := List.mem_singleton.mp hdir'
    rw [Prod.ext (path.trans (same ▸ path'.symm)) same]
  rw [verdicts, verdictsOn, settings, types, rows]
  exact verdicts_settled alike fun c hc => by rw [taken_foldl_enroll, any_isGood hc alike]

/-- A scan that refuses every candidate, those of before again, changes no plugin. -/
theorem scan_of_again {ctx : Context} {fs : FileSystem} {directory : Path}
    {verdicts : List Verdict}
    (decided : ctx.verdicts fs [directory] = verdicts.map Verdict.again) (mode : FailureMode) :
    (ctx.scan fs directory mode).1 = ⟨0, verdicts.length⟩ ∧
    (ctx.scan fs directory mode).2.plugins = ctx.plugins ∧
    (ctx.scan fs directory mode).2.live = ctx.live ∧
    (ctx.scan fs directory mode).2.opened = ctx.opened ++
      (if ctx.settings.loader.counts then
        (verdicts.filter Verdict.faults).map Verdict.path else []) ∧
    (ctx.scan fs directory mode).2.received =
      ctx.received ++ mode.told (verdicts.map Verdict.refusalAgain) := by
  have carried := ctx.judged_scan fs mode directory
  have counted := ctx.scan_fst_eq_counts fs mode directory
  have plugins := carried.plugins
  have opened := carried.opened
  have net := carried.net
  have received := carried.refuses.received
  rw [decided] at counted
  rw [show ctx.verdictsOn fs (ctx.settings.candidatesOf fs [directory]) = _ from decided]
    at plugins opened net received
  rw [Verdict.filterMap_plugin?_again, List.append_nil] at plugins
  rw [Verdict.countP_accepts_again] at net
  rw [Verdict.filterMap_refusal_again] at received
  refine ⟨?_, ?_, ?_, ?_, received⟩
  · rw [counted, Verdict.countP_accepts_again, Verdict.filterMap_refusal_again, List.length_map]
  · exact congrArg PluginRegistry.mk plugins
  · rw [live, live, net, carried.tells.shows.settings]
    simp
  · rw [opened, List.filter_map, List.map_map]
    simp only [Function.comp_def, Verdict.asks_again]
    rfl

end Context

/-! ## 3. All of it -/

/-- **A second scan of a directory changes nothing.** Of a directory that was scanned once it
    registers nothing and refuses every candidate, so that plugins, types and open modules stay as
    they are. The files it opens are those that the first scan refused for another reason than their
    names. In the order of the names it reports what the first scan reported, and for each plugin that
    the first scan registered one warning more, that its name is taken. All this rests on the
    assumption that the type of loaders makes: a file that is opened again opens as it did before. -/
theorem rescan_repeats (ctx : Context) (fs : FileSystem) (directory : Path)
    (mode again : FailureMode) (first second : ScanStats × Context)
    (scanned : ctx.scan fs directory mode = first)
    (rescanned : first.2.scan fs directory again = second) :
    second.1 = ⟨0, first.1.registered + first.1.rejected⟩ ∧
    second.2.plugins = first.2.plugins ∧ second.2.types = first.2.types ∧
    second.2.discovered = first.2.discovered ∧ second.2.live = first.2.live ∧
    ∃ (verdicts : List Verdict) (new : List Plugin),
      verdicts.map Verdict.candidate = ctx.settings.candidatesOf fs [directory] ∧
      verdicts.Pairwise (fun v w => Utf8.encode v.name ≤ Utf8.encode w.name) ∧
      (first.2.plugins.plugins = ctx.plugins.plugins ++ new ∧
        new.length = first.1.registered ∧
        new.map Plugin.name = (verdicts.filter Verdict.accepts).map Verdict.name ∧
        first.2.rejections = ctx.rejections ++ verdicts.filterMap Verdict.refusal ∧
        first.2.received = ctx.received ++ mode.told (verdicts.filterMap Verdict.refusal)) ∧
      second.2.opened = first.2.opened ++ (if ctx.settings.loader.counts then
        (verdicts.filter Verdict.faults).map Verdict.path else []) ∧
      second.2.received = first.2.received ++ again.told (verdicts.map Verdict.refusalAgain) ∧
      (verdicts.map Verdict.refusalAgain).Perm
        (verdicts.filterMap Verdict.refusal ++ new.map fun p => .duplicateName p.name) := by
  subst scanned rescanned
  have carried := ctx.judged_scan fs mode directory
  have counted := ctx.scan_fst_eq_counts fs mode directory
  have decided := ctx.verdicts_after_scan fs directory mode
  have carried' := (ctx.scan fs directory mode).2.judged_scan fs again directory
  obtain ⟨stats, plugins, live, opened, received⟩ := Context.scan_of_again decided again
  rw [carried.tells.shows.settings] at opened
  have names : ((ctx.verdicts fs [directory]).filterMap
      (Verdict.plugin? ctx.settings.loader ctx.types fs)).map Plugin.name =
        ((ctx.verdicts fs [directory]).filter Verdict.accepts).map Verdict.name :=
    names_plugin? _ _
  refine ⟨?_, plugins, carried'.tells.shows.types, carried'.discovered, live,
    ctx.verdicts fs [directory], (ctx.verdicts fs [directory]).filterMap
      (Verdict.plugin? ctx.settings.loader ctx.types fs), candidates_verdicts _ _, ?_,
    ⟨carried.plugins, ?_, names, carried.refuses.rejections, carried.refuses.received⟩,
    opened, received, ?_⟩
  · rw [stats, counted, Verdict.countP_accepts_add]
  · exact ctx.verdicts_pairwise fs directory
  · rw [counted, List.countP_eq_length_filter, ← List.length_map Plugin.name, names, List.length_map]
  · have warnings := congrArg (List.map PluginError.duplicateName) names
    rw [List.map_map, List.map_map] at warnings
    exact warnings ▸ Verdict.perm_refusalAgain (ctx.verdicts fs [directory])

theorem goodCopy_listed :
    dissectorContext.settings.candidatesOf twoCopies [Path.ofString "/b"] =
      [(Path.ofString "/b/x.mod", "x.mod")] := by
  cbv

/-- The directory with the good copy is scanned twice. The second time the host hears that the name
    is taken. -/
theorem rescan_repeats_twoCopies :
    (dissectorContext.scan twoCopies (Path.ofString "/b") .report).1 = ⟨1, 0⟩ ∧
    ((dissectorContext.scan twoCopies (Path.ofString "/b") .report).2.scan twoCopies
      (Path.ofString "/b") .report).1 = ⟨0, 1⟩ ∧
    ((dissectorContext.scan twoCopies (Path.ofString "/b") .report).2.scan twoCopies
      (Path.ofString "/b") .report).2.received =
        [⟨.warning, "The plugin 'x.mod' was found in multiple directories."⟩] := by
  have registered : (dissectorContext.scan twoCopies (Path.ofString "/b") .report).1 = ⟨1, 0⟩ := by
    rw [Context.scan_fst_eq_counts, verdicts_goodText goodCopy_listed (by cbv)]
    rfl
  obtain ⟨stats, _, _, _, _, verdicts, new, candidates, _, ⟨_, one, names, _, received⟩, _, again,
    _⟩ := rescan_repeats dissectorContext twoCopies (Path.ofString "/b") .report .report _ _ rfl rfl
  rw [registered] at stats one
  rw [goodCopy_listed] at candidates
  obtain ⟨v, rfl, candidate⟩ := List.map_eq_singleton_iff.mp candidates
  have accepted : v.accepts = true := by
    by_contra refused
    have none := congrArg List.length names
    rw [List.length_map, one, List.filter_cons_of_neg refused] at none
    cases none
  have name : v.name = "x.mod" := congrArg Prod.snd candidate
  have taken : v.refusalAgain = .duplicateName "x.mod" := by
    rw [Verdict.refusalAgain, Option.isNone_iff_eq_none.mp accepted, name]
    rfl
  refine ⟨registered, stats, ?_⟩
  rw [again, received, List.map_singleton, taken,
    List.filterMap_cons_none (Option.isNone_iff_eq_none.mp accepted)]
  decide

end PluginDiscovery
