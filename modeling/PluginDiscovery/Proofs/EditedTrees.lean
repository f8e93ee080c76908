import PluginDiscovery.Cli.Program
import PluginDiscovery.Proofs.ConfigFields
import PluginDiscovery.Proofs.WellNamedTrees

/-!
# Edits keep trees well named

A walk ends at a place whose way up is made of names, an edit puts a well-named node there, and a
name that is new is one component of the path it comes from. So a tree of files stays well named
whatever is made, written, linked or removed in it, and whatever the program does.

* `Node.WellNamed.setEntry`, `dropEntry`, `rebuild`: changes of entries, carried up to the root;
* `walk_keeps`: what holds along a walk; `Place.WellNamed`, `wellNamed_of_walk`: the places that walks
  end at;
* `WellNamed.makeDirectory`, `write`, `makeLink`, `remove`: the edits;
* `Program.files_wellNamed`: a run of the program. Where it finds `NamedFiles` it leaves such files
  behind.
-/

namespace PluginDiscovery

/-! ## 1. Entries -/

namespace Node

variable {es : List (Bytes × Node)} {name : Bytes} {node : Node}

theorem names_setEntry (name : Bytes) (node : Node) (es : List (Bytes × Node)) :
    (setEntry name node es).map Prod.fst =
      if name ∈ es.map Prod.fst then es.map Prod.fst else es.map Prod.fst ++ [name] := by
  induction es with
  | nil => rfl
  | cons e rest ih =>
    obtain ⟨n, old⟩ := e
    by_cases same : n = name
    · simp [setEntry, same]
    · have other : name ≠ n := Ne.symm same
      simp only [setEntry, if_neg same, List.map_cons, ih, List.mem_cons, other, false_or]
      split <;> simp

theorem mem_setEntry {e : Bytes × Node} (h : e ∈ setEntry name node es) :
    e = (name, node) ∨ e ∈ es := by
  induction es with
  | nil => exact Or.inl (List.mem_singleton.mp h)
  | cons head rest ih =>
    obtain ⟨n, old⟩ := head
    rw [setEntry] at h
    split at h
    · rcases List.mem_cons.mp h with rfl | later
      · exact Or.inl rfl
      · exact Or.inr (List.mem_cons_of_mem _ later)
    · rcases List.mem_cons.mp h with rfl | later
      · exact Or.inr List.mem_cons_self
      · exact (ih later).imp id (List.mem_cons_of_mem _)

namespace WellNamed

/-- What a directory has under a name is well named, and so is the name. -/
theorem lookup (h : (Node.directory es).WellNamed) (found : es.lookup name = some node) :
    Path.IsEntryName name ∧ node.WellNamed := by
  cases h with
  | directory distinct proper children =>
    obtain ⟨before, after, rfl, _⟩ := List.lookup_eq_some_iff.mp found
    have member : (name, node) ∈ before ++ (name, node) :: after := by simp
    exact ⟨proper name (List.mem_map_of_mem member), children _ member⟩

theorem setEntry (h : (Node.directory es).WellNamed) (new : Path.IsEntryName name)
    (child : node.WellNamed) : (Node.directory (Node.setEntry name node es)).WellNamed := by
  cases h with
  | directory distinct proper children =>
    refine .directory ?_ ?_ fun e he => ?_
    · rw [names_setEntry]
      split
      · exact distinct
      · rename_i absent
        exact List.nodup_append.mpr ⟨distinct, List.nodup_singleton _, fun a ha b hb => by
          rw [List.mem_singleton.mp hb]
          exact fun same => absent (same ▸ ha)⟩
    · rw [names_setEntry]
      split
      · exact proper
      · exact fun n hn => (List.mem_append.mp hn).elim (proper n) fun last =>
          List.mem_singleton.mp last ▸ new
    · rcases mem_setEntry he with rfl | old
      · exact child
      · exact children e old

theorem dropEntry (h : (Node.directory es).WellNamed) (name : Bytes) :
    (Node.directory (Node.dropEntry name es)).WellNamed := by
  cases h with
  | directory distinct proper children =>
    have kept : (Node.dropEntry name es).Sublist es := List.filter_sublist
    exact .directory (distinct.sublist (kept.map _)) (fun n hn => proper n ((kept.map _).subset hn))
      fun e he => children e (kept.subset he)

theorem entries (h : node.WellNamed) : (Node.directory node.entries).WellNamed := by
  cases h with
  | file content => exact emptyDirectory
  | link target => exact emptyDirectory
  | directory distinct proper children => exact .directory distinct proper children

/-- A node that is put in place below well-named directories makes a well-named root. -/
theorem rebuild {above : List (Bytes × Node)} (h : node.WellNamed)
    (up : ∀ x ∈ above, Path.IsEntryName x.1 ∧ x.2.WellNamed) : (node.rebuild above).WellNamed := by
  induction above generalizing node with
  | nil => exact h
  | cons x rest ih =>
    obtain ⟨proper, parent⟩ := up x List.mem_cons_self
    exact ih (parent.entries.setEntry proper h) fun y hy => up y (List.mem_cons_of_mem x hy)

end WellNamed

end Node

/-! ## 2. Places -/

/-- The node at the place is well named, and the way up leads along names through well-named
    directories. -/
structure Place.WellNamed (here : Place) : Prop where
  node : here.node.WellNamed
  above : ∀ x ∈ here.above, Path.IsEntryName x.1 ∧ x.2.WellNamed

namespace Place.WellNamed

variable {here : Place}

theorem down (h : here.WellNamed) {es : List (Bytes × Node)} (node : here.node = .directory es)
    {step : Bytes} {child : Node} (found : es.lookup step = some child) :
    (here.down step child).WellNamed := by
  have directory : (Node.directory es).WellNamed := node ▸ h.node
  obtain ⟨proper, below⟩ := directory.lookup found
  exact ⟨below, List.forall_mem_cons.mpr ⟨⟨proper, h.node⟩, h.above⟩⟩

theorem up (h : here.WellNamed) : here.up.WellNamed := by
  obtain ⟨node, above⟩ := here
  cases above with
  | nil => exact h
  | cons x rest =>
    obtain ⟨⟨_, parent⟩, before⟩ := List.forall_mem_cons.mp h.above
    exact ⟨parent, before⟩

end Place.WellNamed

namespace FileSystem

variable {fs changed : FileSystem} {p : Path}

/-- **What holds at the root, and further down and up from where it holds, holds where a walk
    ends.** -/
theorem walk_keeps {P : Place → Prop} {root here there : Place} {follow : Bool} {links : Nat}
    {way : List Bytes}
    (down : ∀ {here : Place} {es : List (Bytes × Node)} {step : Bytes} {child : Node}, P here →
      here.node = .directory es → es.lookup step = some child → P (here.down step child))
    (up : ∀ {here : Place}, P here → P here.up) (base : P root) (h : P here)
    (walked : walk root follow links here way = .ok there) : P there := by
  fun_induction walk root follow links here way with
  | case1 links here =>
    cases walked
    exact h
  | case2 links here rest es node ih => exact ih h walked
  | case3 links here rest es node notSelf ih => exact ih (up h) walked
  | case4 => cases walked
  | case5 => cases walked
  | case6 links here step rest es node notSelf notParent short target link last =>
    cases walked
    exact down h node link
  | case7 => cases walked
  | case8 => cases walked
  | case9 here step rest es node notSelf notParent short target link followed links full ih =>
    refine ih ?_ walked
    split
    · exact base
    · exact h
  | case10 links here step rest es node notSelf notParent short child noLink found ih =>
    exact ih (down h node found) walked
  | case11 => cases walked

/-- A walk through a well-named tree ends at a well-named place. -/
theorem wellNamed_of_walk {root here there : Place} {follow : Bool} {links : Nat}
    {way : List Bytes} (base : root.WellNamed) (h : here.WellNamed)
    (walked : walk root follow links here way = .ok there) : there.WellNamed :=
  walk_keeps (fun h node found => h.down node found) Place.WellNamed.up base h walked

theorem WellNamed.root (h : fs.WellNamed) : fs.root.WellNamed :=
  ⟨h, fun _ hx => absurd hx List.not_mem_nil⟩

theorem WellNamed.start (h : fs.WellNamed) {here : Place} (started : fs.start = .ok here) :
    here.WellNamed :=
  wellNamed_of_walk h.root h.root started

/-- The tree stays well named when a place gets another well-named node. -/
theorem WellNamed.put {here : Place} (place : here.WellNamed) {node : Node}
    (h : node.WellNamed) (fs : FileSystem) : (fs.put here node).WellNamed :=
  h.rebuild place.above

/-! ## 3. Edits -/

theorem noSlash_of_mem_pieces {p piece : Bytes} (h : piece ∈ Path.pieces p) :
    Path.slash ∉ piece := by
  fun_induction Path.pieces p generalizing piece with
  | case1 => simpa using List.mem_singleton.mp h ▸ List.not_mem_nil
  | case2 bs ih =>
    rcases List.mem_cons.mp h with rfl | later
    · exact List.not_mem_nil
    · exact ih later
  | case3 b bs other none ih =>
    rw [List.mem_singleton.mp h]
    simpa using Ne.symm other
  | case4 b bs other first rest pieces ih =>
    rcases List.mem_cons.mp h with rfl | later
    · have inner : Path.slash ∉ first := ih (pieces ▸ List.mem_cons_self)
      simpa using ⟨Ne.symm other, inner⟩
    · exact ih (pieces ▸ List.mem_cons_of_mem first later)

/-- The last step of a path is the name of an entry, unless it is a dot or two. -/
theorem isEntryName_of_last {p name : Bytes}
    (last : ((Path.pieces p).filter (· ≠ [])).getLast? = some name) (notSelf : name ≠ self)
    (notParent : name ≠ parent) : Path.IsEntryName name := by
  obtain ⟨piece, full⟩ := List.mem_filter.mp (List.mem_of_getLast? last)
  exact ⟨by simpa using full, noSlash_of_mem_pieces piece, notSelf, notParent⟩

theorem WellNamed.holder (h : fs.WellNamed) {here : Place} {name : Bytes}
    (held : fs.holder p = .ok (here, name)) :
    here.WellNamed ∧ (name ≠ self → name ≠ parent → Path.IsEntryName name) := by
  unfold FileSystem.holder at held
  split at held
  · cases held
  split at held
  · cases held
  split at held
  · cases held
  extract_lets way ending at held
  have ended {start : Place} (begun : start.WellNamed) (held : ending start = .ok (here, name)) :
      here.WellNamed ∧ (name ≠ self → name ≠ parent → Path.IsEntryName name) := by
    simp only [ending] at held
    split at held
    · cases held
      exact ⟨begun, fun notSelf => absurd rfl notSelf⟩
    · rename_i last found
      obtain ⟨there, walked, held⟩ := Except.bind_eq_ok.mp held
      split at held
      · cases held
      · split at held
        · cases held
          exact ⟨wellNamed_of_walk h.root begun walked, isEntryName_of_last found⟩
        · cases held
  split at held
  · exact ended h.root held
  · obtain ⟨start, started, held⟩ := Except.bind_eq_ok.mp held
    exact ended (h.start started) held

/-- The tree stays well named when a directory in it gets a new entry. -/
theorem WellNamed.putEntry {here : Place} (place : here.WellNamed) {name : Bytes}
    (proper : Path.IsEntryName name) {node : Node} (child : node.WellNamed) (fs : FileSystem) :
    (fs.put here (.directory (Node.setEntry name node here.node.entries))).WellNamed :=
  .put place (place.node.entries.setEntry proper child) fs

/-- A new directory leaves the tree well named. -/
theorem WellNamed.makeDirectory (h : fs.WellNamed) (made : fs.makeDirectory p = .ok changed) :
    changed.WellNamed := by
  obtain ⟨⟨here, name⟩, held, made⟩ := Except.bind_eq_ok.mp made
  obtain ⟨place, proper⟩ := h.holder held
  simp only at made
  split at made
  · cases made
  · rename_i named
    obtain ⟨notSelf, notParent⟩ := not_or.mp named
    split at made
    · cases made
    · cases made
      exact .putEntry place (proper notSelf notParent) Node.WellNamed.emptyDirectory fs

theorem WellNamed.makeDirectoriesFrom (h : fs.WellNamed) {fuel : Nat}
    (made : makeDirectoriesFrom fuel fs p = .ok changed) : changed.WellNamed := by
  induction fuel generalizing p changed with
  | zero => cases made
  | succ fuel ih =>
    rw [FileSystem.makeDirectoriesFrom] at made
    split at made
    · cases made
      exact h
    · extract_lets again at made
      have repeated {fs changed : FileSystem} (h : fs.WellNamed) (made : again fs = .ok changed) :
          changed.WellNamed := by
        simp only [again] at made
        split at made
        · rename_i once
          cases made
          exact h.makeDirectory once
        · split at made
          · cases made
            exact h
          · cases made
      split at made
      · rename_i once
        cases made
        exact h.makeDirectory once
      · split at made
        · split at made
          · obtain ⟨above, first, second⟩ := Except.bind_eq_ok.mp made
            exact repeated (ih first) second
          · cases made
        · split at made
          · cases made
            exact h
          · cases made

/-- New directories leave the tree well named. -/
theorem WellNamed.makeDirectories (h : fs.WellNamed) (made : fs.makeDirectories p = .ok changed) :
    changed.WellNamed :=
  h.makeDirectoriesFrom made

theorem WellNamed.writeFrom (h : fs.WellNamed) {content : Content} {links : Nat} {whole : Path}
    {here : Place} {name : Bytes} (place : here.WellNamed)
    (proper : name ≠ self → name ≠ parent → Path.IsEntryName name)
    (written : writeFrom fs content links whole here name = .ok changed) : changed.WellNamed := by
  fun_induction FileSystem.writeFrom fs content links whole here name with
  | case1 => cases written
  | case2 => cases written
  | case3 => cases written
  | case4 => cases written
  | case5 => cases written
  | case6 whole here name named short target link links way start last found ih =>
    obtain ⟨next, walked, written⟩ := Except.bind_eq_ok.mp written
    have begun : start.WellNamed := by
      simp only [start]
      split
      · exact h.root
      · exact place
    split at written
    · exact ih next (wellNamed_of_walk h.root begun walked) (isEntryName_of_last found) written
    · cases written
  | case7 links whole here name named short noDirectory noLink =>
    obtain ⟨notSelf, rest⟩ := not_or.mp named
    obtain ⟨notParent, -⟩ := not_or.mp rest
    cases written
    exact .putEntry place (proper notSelf notParent) (.file content) fs

/-- A new file leaves the tree well named. -/
theorem WellNamed.write (h : fs.WellNamed) {content : Content}
    (written : fs.write p content = .ok changed) : changed.WellNamed := by
  obtain ⟨⟨here, name⟩, held, written⟩ := Except.bind_eq_ok.mp written
  obtain ⟨put, once, written⟩ := Except.bind_eq_ok.mp written
  obtain ⟨place, proper⟩ := h.holder held
  split at written
  · cases written
  · cases written
    exact h.writeFrom place proper once

/-- A new link leaves the tree well named. -/
theorem WellNamed.makeLink (h : fs.WellNamed) {target : Path}
    (made : fs.makeLink p target = .ok changed) : changed.WellNamed := by
  obtain ⟨⟨here, name⟩, held, made⟩ := Except.bind_eq_ok.mp made
  obtain ⟨place, proper⟩ := h.holder held
  simp only at made
  split at made
  · cases made
  · rename_i named
    obtain ⟨notSelf, notParent⟩ := not_or.mp named
    split at made
    · cases made
    · split at made
      · cases made
      · cases made
        exact .putEntry place (proper notSelf notParent) (.link target) fs

/-- A tree from which something is removed stays well named. -/
theorem WellNamed.remove (h : fs.WellNamed) (removed : fs.remove p = .ok changed) :
    changed.WellNamed := by
  obtain ⟨⟨here, name⟩, held, removed⟩ := Except.bind_eq_ok.mp removed
  obtain ⟨place, -⟩ := h.holder held
  simp only at removed
  split at removed
  · cases removed
  · cases removed
    exact .put place (place.node.entries.dropEntry name) _

end FileSystem

/-! ## 4. The program -/

theorem writeTemplate_wellNamed {p : Surroundings} (h : p.files.WellNamed) (output : String) :
    (writeTemplate p output).files.WellNamed := by
  unfold writeTemplate
  extract_lets path internal prepared
  have ready {files : FileSystem} (made : prepared = .ok files) : files.WellNamed := by
    simp only [prepared] at made
    split at made
    · exact h.makeDirectories made
    · cases made
      exact h
  cases made : prepared with
  | error cause => exact h
  | ok files =>
    simp only
    cases wrote : files.write path (.bytes (Utf8.encode Template.text)) with
    | error cause => exact ready made
    | ok written => exact (ready made).write wrote

theorem Command.run_wellNamed {p : Surroundings} (h : p.files.WellNamed) (i : Invocation)
    (c : AppConfig) : (Command.run p i c).files.WellNamed := by
  unfold Command.run
  cases i.command with
  | generateConfig output => exact writeTemplate_wellNamed h output
  | _ => exact h

/-- **Whatever the program is asked to do, it leaves a well-named tree behind.** -/
theorem Program.files_wellNamed {p : Surroundings} (h : p.files.WellNamed) (words : List String) :
    (Program.run p words).files.WellNamed := by
  unfold Program.run
  split
  · rename_i i parsed
    unfold Program.invoke
    split
    · exact h
    · rename_i c loaded
      have kept := Command.run_wellNamed h i c
      simp only
      split
      · exact kept
      · exact kept
  · exact h
  · exact h
  · exact h

end PluginDiscovery
