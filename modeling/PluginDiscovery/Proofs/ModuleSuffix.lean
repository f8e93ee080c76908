import PluginDiscovery.Proofs.Verdicts

/-!
# The suffix of module files

The builder takes the dots off the beginning of a suffix, and keeps those within it. The scan cuts a
name at its last dot, so what it compares with the suffix has no dot. Names that end in a dot and the
suffix are modules if the suffix has no dot, and with a suffix that has one there are no modules.

* `Settings.suffix_build`: the suffix that counts is the last that was given, without its dots;
* `hasExtension_iff`: what the scan compares;
* `Context.scan_of_dotted`: with a dot in the suffix a scan passes everything by;
* `modules_end_in_suffix`: all of it.
-/

namespace PluginDiscovery

/-! ## 1. The suffix that counts -/

/-- The suffix that a call of the builder sets, if it sets one. -/
def BuilderCall.suffix? : BuilderCall → Option String
  | .suffix given => some (Settings.bareSuffix given)
  | .exclude _ | .excludeNames _ => none

namespace Settings

/-- The suffix of settings is the last that was given, without the dots it begins with. -/
theorem suffix_build (s : Settings) (calls : List BuilderCall) :
    (s.build calls).suffix = ((calls.filterMap BuilderCall.suffix?).getLast?).getD s.suffix := by
  refine field_build (fun s call => ?_) s calls
  cases call with
  | suffix given => rfl
  | exclude test => rfl
  | excludeNames names =>
    simp only [apply, BuilderCall.suffix?]
    split <;> rfl

/-- A suffix is some dots and what is left without them, which does not begin with a dot. -/
theorem dots_bareSuffix (given : String) :
    (∃ dots, given.toList = List.replicate dots '.' ++ (bareSuffix given).toList) ∧
      (bareSuffix given).toList.head? ≠ some '.' := by
  rw [bareSuffix, String.toList_ofList]
  refine ⟨⟨(given.toList.takeWhile (· = '.')).length, ?_⟩, fun dot => ?_⟩
  · have dots : given.toList.takeWhile (· = '.') =
        List.replicate (given.toList.takeWhile (· = '.')).length '.' :=
      List.eq_replicate_of_mem fun c hc => by simpa using List.mem_takeWhile_imp hc
    rw [← dots, List.takeWhile_append_dropWhile]
  · have none := List.head?_dropWhile_not (fun c : Char => decide (c = '.')) given.toList
    rw [dot] at none
    cases none

end Settings

/-! ## 2. What the scan compares -/

/-- A name has an extension if it ends in a dot and the extension, and the extension has no dot. -/
theorem hasExtension_iff {name ext : List Char} :
    HasExtension name ext ↔ ('.' :: ext) <:+ name ∧ '.' ∉ ext := by
  constructor
  · rintro ⟨stem, rfl, dotless⟩
    exact ⟨List.suffix_append stem _, dotless⟩
  · rintro ⟨⟨stem, rfl⟩, dotless⟩
    exact ⟨stem, rfl, dotless⟩

/-- **With a dot in the suffix a scan finds no module**, whatever the directory has. -/
theorem Context.scan_of_dotted (ctx : Context) (dotted : '.' ∈ ctx.settings.suffix.toList)
    (fs : FileSystem) (directory : Path) (mode : FailureMode) :
    (ctx.scan fs directory mode).1 = ⟨0, 0⟩ ∧
    (ctx.scan fs directory mode).2.plugins.plugins = ctx.plugins.plugins ∧
    (ctx.scan fs directory mode).2.opened = ctx.opened ∧
    (ctx.scan fs directory mode).2.received = ctx.received := by
  have nothing : ctx.settings.candidatesOf fs [directory] = [] := by
    rw [List.eq_nil_iff_forall_not_mem]
    intro c hc
    obtain ⟨_, -, ⟨e, -, -, ends, -⟩, -⟩ := Settings.mem_candidatesOf_iff.mp hc
    exact (hasExtension_iff.mp ends).2 dotted
  have undecided : ctx.verdictsOn fs (ctx.settings.candidatesOf fs [directory]) = [] := by
    rw [nothing]
    rfl
  have judged := ctx.judged_scan fs mode directory
  have plugins := judged.plugins
  have opened := judged.opened
  have received := judged.refuses.received
  rw [undecided] at plugins opened received
  refine ⟨?_, ?_, ?_, ?_⟩
  · rw [scan_fst_eq_counts, verdicts, undecided]
    rfl
  · rw [plugins, List.filterMap_nil, List.append_nil]
  · rw [opened, List.filter_nil, List.map_nil, ite_self, List.append_nil]
  · rw [received, List.filterMap_nil, FailureMode.told_nil, List.append_nil]

/-! ## 3. All of it -/

/-- **A name is that of a module if it ends in a dot and the suffix, and the suffix has no dot.** The
    suffix is the last one that the builder was given without the dots it began with, or that of
    shared libraries. An entry that is no directory and not left out is a candidate if its name is that
    of a module. With a dot in the suffix no name is, also if it ends in it, and a scan finds
    nothing. -/
theorem modules_end_in_suffix (loader : Loader) (reporter : Reporter) (calls : List BuilderCall)
    (settings : Settings) (built : settings = (Settings.initial loader reporter).build calls) :
    settings.suffix =
      ((calls.filterMap BuilderCall.suffix?).getLast?).getD Settings.librarySuffix ∧
    (∀ given, (∃ dots, given.toList =
        List.replicate dots '.' ++ (Settings.bareSuffix given).toList) ∧
      (Settings.bareSuffix given).toList.head? ≠ some '.') ∧
    (∀ name, settings.hasSuffix name = true ↔
      ('.' :: settings.suffix.toList) <:+ name.toList ∧ '.' ∉ settings.suffix.toList) ∧
    (∀ (e : FileSystem.Entry) (name : String), Utf8.decode? e.name = some name →
      e.isDirectory = false → settings.Admits name →
      (settings.standing e = .candidate name ↔ settings.hasSuffix name = true)) ∧
    ('.' ∉ settings.suffix.toList → ∀ name, settings.hasSuffix name = true ↔
      ('.' :: settings.suffix.toList) <:+ name.toList) ∧
    ('.' ∈ settings.suffix.toList →
      (∀ name, settings.hasSuffix name = false) ∧
      ∀ (ctx : Context), ctx.settings = settings → ∀ fs directory mode,
        (ctx.scan fs directory mode).1 = ⟨0, 0⟩ ∧
        (ctx.scan fs directory mode).2.plugins.plugins = ctx.plugins.plugins ∧
        (ctx.scan fs directory mode).2.opened = ctx.opened ∧
        (ctx.scan fs directory mode).2.received = ctx.received) := by
  have ends : ∀ name, settings.hasSuffix name = true ↔
      ('.' :: settings.suffix.toList) <:+ name.toList ∧ '.' ∉ settings.suffix.toList :=
    fun name => Settings.hasSuffix_iff.trans hasExtension_iff
  refine ⟨?_, Settings.dots_bareSuffix, ends, fun e name text file kept => ?_,
    fun dotless name => ?_, fun dotted => ⟨fun name => ?_, ?_⟩⟩
  · rw [built, Settings.suffix_build]
    rfl
  · rw [Settings.standing_eq_candidate_iff, Settings.hasSuffix_iff]
    exact ⟨fun h => h.2.1, fun h => ⟨text, h, file, kept⟩⟩
  · rw [ends]
    exact and_iff_left dotless
  · rw [← Bool.not_eq_true, ends]
    exact fun h => h.2 dotted
  · rintro ctx rfl fs directory mode
    exact ctx.scan_of_dotted dotted fs directory mode

/-- The suffix `so.1` is kept as it is given, and `libx.so.1`, which ends in it, is no module. -/
theorem modules_end_in_suffix_dotted :
    ((Settings.initial Manifest.loader .memory).build [.suffix ".so.1"]).suffix = "so.1" ∧
    '.' :: "so.1".toList <:+ "libx.so.1".toList ∧
    ((Settings.initial Manifest.loader .memory).build [.suffix ".so.1"]).hasSuffix "libx.so.1" =
      false := by
  obtain ⟨suffix, -, -, -, -, dotted⟩ := modules_end_in_suffix Manifest.loader .memory
    [.suffix ".so.1"] _ rfl
  have bare : Settings.bareSuffix ".so.1" = "so.1" := by decide
  have kept : ((Settings.initial Manifest.loader .memory).build [.suffix ".so.1"]).suffix = "so.1" :=
    suffix.trans bare
  refine ⟨kept, by decide, (dotted ?_).1 "libx.so.1"⟩
  rw [kept]
  decide

end PluginDiscovery
