import PluginDiscovery.Cli.Program
import PluginDiscovery.Proofs.Accounting
import PluginDiscovery.Proofs.EnumerationOrder
import PluginDiscovery.Proofs.ListingText
import PluginDiscovery.Proofs.Privileges

/-!
# The plan of directories

Which directories a layout plans is said by rules, one for each kind of layout, that neither sort nor
filter anything: the subdirectories of a build tree come strictly in the byte order of their names,
and their names are those that lead to directories. A plan is what the rules allow and nothing else;
a discovery scans it, and a user who asks for the directories is shown it.

* `Layout.Plans`: the rules, `plans_iff`: they allow the plan alone;
* `Context.visits_discover`: a discovery scans the plan and nothing else;
* `PluginConfig.visits_discover`: so does the discovery of a command;
* `directory_plan`: all of it, with the text that shows the directories.
-/

namespace PluginDiscovery

/-! ## 1. The rules -/

namespace Layout

/-- Which lists of directories a layout plans. -/
inductive Plans (layout : Layout) (fs : FileSystem) (privileged : Bool) : List Path → Prop where
  /-- Without a primary directory there is nothing to plan. -/
  | unconfigured (primary : layout.primary = none) : Plans layout fs privileged []
  /-- A build tree that cannot be listed is passed over. -/
  | unlisted {primary : Path} {cause : IoError} (configured : layout.primary = some primary)
      (built : layout.buildTree = true) (unreadable : fs.list primary = .error cause) :
      Plans layout fs privileged (layout.ownedBy privileged)
  /-- A build tree is planned with its subdirectories, in place of each its directory of built
      modules if it has one. -/
  | build {primary : Path} {entries : List FileSystem.Entry} {names : List Bytes}
      (configured : layout.primary = some primary) (built : layout.buildTree = true)
      (listed : fs.list primary = .ok entries) (sorted : names.Pairwise (· < ·))
      (subdirectories : ∀ name, name ∈ names ↔
        (∃ e ∈ entries, e.name = name) ∧ fs.isDirectory (primary.join name) = true) :
      Plans layout fs privileged
        (primary :: names.map (fun name =>
            if fs.isDirectory ((primary.join name).join layout.buildOutput)
            then (primary.join name).join layout.buildOutput else primary.join name) ++
          layout.ownedBy privileged)
  /-- Of an installation the directory of the version is planned, whether or not it exists. -/
  | installed {primary : Path} (configured : layout.primary = some primary)
      (installed : layout.buildTree = false) :
      Plans layout fs privileged (layout.versioned.toList ++ layout.ownedBy privileged)

section Plans

variable {layout : Layout} {fs : FileSystem} {privileged : Bool} {directories : List Path}

/-- The rules allow no other list than the plan. -/
theorem Plans.eq_plan (named : fs.WellNamed) (h : layout.Plans fs privileged directories) :
    (layout.plan fs privileged).1 = directories := by
  cases h with
  | unconfigured primary => exact layout.plan_of_primary_none fs privileged primary
  | unlisted configured built unreadable =>
    simp [plan, configured, built, unreadable, personalOnly_fst]
  | build configured built listed sorted subdirectories =>
    obtain ⟨names, sorted', mem, planned⟩ := named.reordered.plan_names configured built listed
    obtain rfl := eq_of_pairwise_lt (k := id) sorted sorted' fun name =>
      (subdirectories name).trans (mem name).symm
    rw [planned, personalOnly_fst]
    rfl
  | installed configured installed =>
    simp [plan, configured, installed, personalOnly_fst]

/-- The rules allow the plan. -/
theorem plans_plan (named : fs.WellNamed) :
    layout.Plans fs privileged (layout.plan fs privileged).1 := by
  cases primary : layout.primary with
  | none =>
    rw [layout.plan_of_primary_none fs privileged primary]
    exact .unconfigured primary
  | some directory =>
    cases built : layout.buildTree with
    | false =>
      have rule : layout.Plans fs privileged _ := .installed primary built
      rwa [← rule.eq_plan named] at rule
    | true =>
      cases listed : fs.list directory with
      | error cause =>
        have rule : layout.Plans fs privileged _ := .unlisted primary built listed
        rwa [← rule.eq_plan named] at rule
      | ok entries =>
        obtain ⟨names, sorted, mem, -⟩ := named.reordered.plan_names primary built listed
        have rule : layout.Plans fs privileged _ := .build primary built listed sorted mem
        rwa [← rule.eq_plan named] at rule

/-- **The rules allow the plan alone.** -/
theorem plans_iff (named : fs.WellNamed) :
    layout.Plans fs privileged directories ↔ (layout.plan fs privileged).1 = directories :=
  ⟨Plans.eq_plan named, fun planned => planned ▸ plans_plan named⟩

end Plans

end Layout

/-! ## 2. What is scanned -/

/-- The directories that the events tell were scanned, in their order. -/
def Event.visited (events : List Event) : List Path :=
  (events.filterMap visit?).map Prod.fst

theorem Event.visited_append (before after : List Event) :
    visited (before ++ after) = visited before ++ visited after := by
  simp [visited]

/-- **A discovery scans the directories of its plan** in their order, and no others. -/
theorem Context.visits_discover (ctx : Context) (fs : FileSystem) (layout : Layout)
    (privileged : Bool) (mode : FailureMode) (unspent : ctx.spent = false) :
    ∃ events, (ctx.discover fs layout privileged mode).2.log = ctx.log ++ events ∧
      Event.visited events = (layout.plan fs privileged).1 := by
  have uncounted := layout.uncounted_of_mem_plan fs privileged
  rw [discover_eq, if_neg (by simp [unspent])]
  split
  · rename_i planned
    obtain ⟨events, hlog, tells, -⟩ := ctx.accounts_noteAll uncounted
    refine ⟨events, hlog, ?_⟩
    rw [Event.visited, tells.visits, planned]
    rfl
  · obtain ⟨_, -, accounts, -⟩ := ctx.accounts_pass fs mode uncounted
    obtain ⟨events, hlog, tells, -⟩ := accounts
    refine ⟨events, hlog, ?_⟩
    rw [Event.visited, tells.visits, visitsAlong_fst]

/-! ## 3. Commands -/

namespace PluginConfig

variable (c : PluginConfig)

/-- A configured context has scanned nothing, and a discovery can begin in it. -/
theorem engine_unspent (platform : DynamicLoader) :
    (c.engine platform).spent = false ∧ Event.visited (c.engine platform).log = [] := by
  refine Context.registerEntries_kept
    (P := fun ctx => ctx.spent = false ∧ Event.visited ctx.log = []) ?_ c.types ⟨rfl, rfl⟩
  rintro ctx name accepts ⟨unspent, unvisited⟩
  obtain ⟨-, plugins, discovered, -⟩ := ctx.registerType_frame name accepts
  refine ⟨by simpa only [Context.spent, plugins, discovered] using unspent, ?_⟩
  unfold Context.registerType Context.report
  split
  · simpa [Context.note, Event.visited, Event.visit?] using unvisited
  · cases ctx.settings.reporter with
    | memory => exact unvisited
    | log => simpa [Context.note, Event.visited, Event.visit?] using unvisited

/-- **The discovery of a command scans the plan of the configuration.** -/
theorem visits_discover (p : Surroundings) (silent : Bool) :
    Event.visited (c.discover p silent).log =
      ((c.layout p.environment).plan p.files p.ids.privileged).1 := by
  obtain ⟨unspent, unvisited⟩ := c.engine_unspent p.platform
  obtain ⟨events, hlog, visited⟩ := (c.engine p.platform).visits_discover p.files
    (c.layout p.environment) p.ids.privileged (c.mode silent) unspent
  have logged : (c.discover p silent).log = ((c.engine p.platform).log ++ events) ++
      [.discoveryFinished ((c.engine p.platform).discover p.files (c.layout p.environment)
        p.ids.privileged (c.mode silent)).1.length] := by
    rw [← hlog]
    rfl
  rw [logged, Event.visited_append, Event.visited_append, unvisited, visited]
  exact List.append_nil _

end PluginConfig

/-! ## 4. What the user is shown -/

namespace Listing

variable (fs : FileSystem) (directories : List Path)

theorem ofDirectories_full : (ofDirectories fs directories).Full where
  columns := List.cons_ne_nil _ _
  cells row h := by
    obtain ⟨k, bound, rfl⟩ := List.mem_mapIdx.mp h
    rfl

/-- Directories as data: an object for each, with its number, which counts from one. -/
theorem write_ofDirectories_json :
    (ofDirectories fs directories).write .json = dataText (directories.mapIdx fun k d =>
      [("\"order\"", toString (k + 1)), ("\"path\"", Json.quote d.shown),
        ("\"exists\"", toString (fs.isDirectory d))]) := by
  have order : Json.quote "order" = "\"order\"" := by decide
  have path : Json.quote "path" = "\"path\"" := by decide
  have existing : Json.quote "exists" = "\"exists\"" := by decide
  rw [(ofDirectories_full fs directories).write_json, ← order, ← path, ← existing]
  refine congrArg dataText (List.ext_getElem? fun k => ?_)
  rw [List.getElem?_map, ofDirectories, List.getElem?_mapIdx, List.getElem?_mapIdx, Option.map_map]
  rfl

/-- Directories in a frame: a row for each. -/
theorem write_ofDirectories_table :
    (ofDirectories fs directories).write .table =
      if directories = [] then "No results found.\n"
      else frameText ["#", "Directory", "Exists"] (directories.mapIdx fun k d =>
        [toString (k + 1), d.shown, toString (fs.isDirectory d)]) := by
  split
  · next none =>
    subst none
    rfl
  · next some =>
    have rows : (ofDirectories fs directories).rows ≠ [] := by
      simpa [ofDirectories, List.mapIdx_eq_nil_iff] using some
    rw [(ofDirectories_full fs directories).write_table rows]
    refine congrArg (frameText _) (List.ext_getElem? fun k => ?_)
    rw [List.getElem?_map, ofDirectories, List.getElem?_mapIdx, List.getElem?_mapIdx,
      Option.map_map]
    rfl

end Listing

/-! ## 5. All of it -/

/-- **The plan is what the rules allow, what a discovery scans and what the user is shown.** In every
    file system the rules for layouts allow the plan and no other list. A discovery that starts with
    no plugin and has not run gives this list and scans it. The command for directories prints, with
    numbers from one on, the directories that commands for plugins scan with the same configuration
    in the same surroundings: as data an object for each, in a frame a row for each, and behind a
    frame the warnings. -/
theorem directory_plan (fs : NamedFiles) :
    (∀ (layout : Layout) privileged directories,
      layout.Plans fs privileged directories ↔ (layout.plan fs privileged).1 = directories) ∧
    (∀ (ctx : Context) (layout : Layout) privileged mode directories after,
      ctx.plugins = .empty → ctx.discovered = false →
      ctx.discover fs layout privileged mode = (directories, after) →
      layout.Plans fs privileged directories ∧
      ∃ events, after.log = ctx.log ++ events ∧ Event.visited events = directories) ∧
    ∀ (p : Surroundings) (c : AppConfig) (i j : Invocation) silent, p.files = fs →
      i.command = .directories → (j.command = .list silent ∨ j.command = .dump silent) →
      ∃ directories, (c.plugins.layout p.environment).Plans fs p.ids.privileged directories ∧
        Event.visited (Command.run p j c).events = directories ∧
        (i.format = .json → (Command.run p i c).written = dataText (directories.mapIdx fun k d =>
          [("\"order\"", toString (k + 1)), ("\"path\"", Json.quote d.shown),
            ("\"exists\"", toString (fs.isDirectory d))])) ∧
        (i.format = .table → (Command.run p i c).written =
          (if directories = [] then "No results found.\n"
            else frameText ["#", "Directory", "Exists"] (directories.mapIdx fun k d =>
              [toString (k + 1), d.shown, toString (fs.isDirectory d)])) ++
            directoryWarnings c.plugins p.ids.privileged) := by
  obtain ⟨fs, named⟩ := fs
  refine ⟨fun layout privileged directories => Layout.plans_iff named, ?_, ?_⟩
  · intro ctx layout privileged mode directories after empty fresh hdiscover
    have unspent : ctx.spent = false := by
      rw [Context.spent, empty, fresh]
      rfl
    have gives := ctx.discover_fst fs mode layout privileged unspent
    have visits := ctx.visits_discover fs layout privileged mode unspent
    rw [← gives] at visits
    rw [hdiscover] at gives visits
    exact ⟨(Layout.plans_iff named).mpr gives.symm, visits⟩
  · rintro p c i j silent rfl asked scans
    refine ⟨_, Layout.plans_plan named, ?_, fun format => ?_, fun format => ?_⟩
    · rw [← c.plugins.visits_discover p silent]
      rcases scans with list | dump
      · simp only [Command.run, list, Result.ok]
      · simp only [Command.run, dump, Result.ok]
    · rw [← Listing.write_ofDirectories_json]
      simp [Command.run, asked, format, Result.ok]
    · rw [← Listing.write_ofDirectories_table]
      simp [Command.run, asked, format, Result.ok]

/-! ### The two copies as a build tree -/

theorem twoCopies_wellNamed : twoCopies.WellNamed :=
  FileSystem.copies_wellNamed _ _

/-- A user who finds the two copies, on a platform that opens no library. -/
def copiesSurroundings : Surroundings :=
  ⟨twoCopies, Path.ofString "/", [], ⟨1000, 1000, 1000, 1000⟩, "", ⟨fun _ _ => .error ""⟩⟩

/-- The configuration that takes the root for a build tree. -/
def copiesConfig : AppConfig :=
  ⟨{ PluginConfig.standard with directory := some "/", buildLayout := true }, .standard⟩

/-- The root and the directories of both copies are planned, scanned and shown. -/
theorem directory_plan_twoCopies :
    twoCopies.WellNamed ∧
    buildTreeLayout.Plans twoCopies false
      [Path.ofString "/", Path.ofString "/a", Path.ofString "/b"] ∧
    (∃ events, (dissectorContext.discover twoCopies buildTreeLayout false .silent).2.log =
        dissectorContext.log ++ events ∧
      Event.visited events = [Path.ofString "/", Path.ofString "/a", Path.ofString "/b"]) ∧
    Event.visited (Command.run copiesSurroundings ⟨"", "", .json, .list true⟩ copiesConfig).events =
      [Path.ofString "/", Path.ofString "/a", Path.ofString "/b"] ∧
    (Command.run copiesSurroundings ⟨"", "", .json, .directories⟩ copiesConfig).written =
      "[\n  \x7b\n    \"order\": 1,\n    \"path\": \"/\",\n    \"exists\": true\n  \x7d,\n" ++
      "  \x7b\n    \"order\": 2,\n    \"path\": \"/a\",\n    \"exists\": true\n  \x7d,\n" ++
      "  \x7b\n    \"order\": 3,\n    \"path\": \"/b\",\n    \"exists\": true\n  \x7d\n]\n" ∧
    (Command.run copiesSurroundings ⟨"", "", .table, .directories⟩ copiesConfig).written =
      "+---+-----------+--------+\n| # | Directory | Exists |\n+---+-----------+--------+\n" ++
      "| 1 | /         | true   |\n+---+-----------+--------+\n" ++
      "| 2 | /a        | true   |\n+---+-----------+--------+\n" ++
      "| 3 | /b        | true   |\n+---+-----------+--------+\n" := by
  obtain ⟨rules, discovery, commands⟩ := directory_plan ⟨twoCopies, twoCopies_wellNamed⟩
  have planned : (buildTreeLayout.plan twoCopies false).1 =
      [Path.ofString "/", Path.ofString "/a", Path.ofString "/b"] := by cbv
  have configured : ((copiesConfig.plugins.layout copiesSurroundings.environment).plan twoCopies
      copiesSurroundings.ids.privileged).1 =
        [Path.ofString "/", Path.ofString "/a", Path.ofString "/b"] := by cbv
  have gives := dissectorContext.discover_fst twoCopies .silent buildTreeLayout false rfl
  cases hdiscover : dissectorContext.discover twoCopies buildTreeLayout false .silent with
  | mk directories after =>
    rw [hdiscover, planned] at gives
    obtain rfl := gives
    obtain ⟨allowed, visits⟩ := discovery _ _ _ _ _ _ rfl rfl hdiscover
    have shows (format : OutputFormat) := commands copiesSurroundings copiesConfig
      ⟨"", "", format, .directories⟩ ⟨"", "", .json, .list true⟩ true rfl rfl (Or.inl rfl)
    obtain ⟨_, allows, scanned, data, -⟩ := shows .json
    obtain rfl := configured.symm.trans ((rules _ _ _).mp allows)
    obtain ⟨_, allows, -, -, frame⟩ := shows .table
    obtain rfl := configured.symm.trans ((rules _ _ _).mp allows)
    have objects : [Path.ofString "/", Path.ofString "/a", Path.ofString "/b"].mapIdx (fun k d =>
        [("\"order\"", toString (k + 1)), ("\"path\"", Json.quote d.shown),
          ("\"exists\"", toString (twoCopies.isDirectory d))]) =
        [[("\"order\"", "1"), ("\"path\"", "\"/\""), ("\"exists\"", "true")],
         [("\"order\"", "2"), ("\"path\"", "\"/a\""), ("\"exists\"", "true")],
         [("\"order\"", "3"), ("\"path\"", "\"/b\""), ("\"exists\"", "true")]] := by cbv
    have rows : [Path.ofString "/", Path.ofString "/a", Path.ofString "/b"].mapIdx (fun k d =>
        [toString (k + 1), d.shown, toString (twoCopies.isDirectory d)]) =
          [["1", "/", "true"], ["2", "/a", "true"], ["3", "/b", "true"]] := by cbv
    have quiet : directoryWarnings copiesConfig.plugins copiesSurroundings.ids.privileged = "" := rfl
    rw [objects] at data
    rw [rows, quiet] at frame
    refine ⟨twoCopies_wellNamed, allowed, visits, scanned, (data rfl).trans ?_, (frame rfl).trans ?_⟩
    · decide +kernel
    · decide +kernel

end PluginDiscovery
