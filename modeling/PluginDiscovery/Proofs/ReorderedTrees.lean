import Mathlib
import PluginDiscovery.Engine.Manifest
import PluginDiscovery.Proofs.PathOrder

/-!
# Trees that differ in the order of entries

In which order listing a directory yields its entries is up to the file system. Two trees that
differ in these orders alone lead every path to the same place, and everything asked of it has the
same answer, except that a listing is the same one rearranged.

* `Node.Reordered`, `FileSystem.Reordered`: trees, and file systems, that differ in orders alone;
* `walk_alike`, `Reordered.locate_alike`: a path leads to the same place in both;
* `Reordered.isDirectory_eq`, `read_eq`, `list_alike`: the questions about a path;
* `Loader.IgnoresOrder`: the loader opens the same in both, which both loaders do.
-/

namespace PluginDiscovery

/-! ## 1. Trees -/

/-- The trees differ in the order of entries alone: below each directory there are the same names,
    each of them once, and the same below each of them. -/
inductive Node.Reordered : Node → Node → Prop where
  | file (content : Content) : Reordered (.file content) (.file content)
  | link (target : Path) : Reordered (.link target) (.link target)
  | directory {es es' : List (Bytes × Node)}
      (names : (es.map Prod.fst).Perm (es'.map Prod.fst))
      (distinct : (es.map Prod.fst).Nodup)
      (proper : ∀ name ∈ es.map Prod.fst, Path.IsEntryName name)
      (children : ∀ name a b, es.lookup name = some a → es'.lookup name = some b →
        Reordered a b) :
      Reordered (.directory es) (.directory es')

/-- The places are the same, in trees that differ in the order of entries. -/
structure Place.Reordered (a b : Place) : Prop where
  node : a.node.Reordered b.node
  above : List.Forall₂ (fun x y => x.1 = y.1 ∧ x.2.Reordered y.2) a.above b.above

/-- The file systems differ in the order of entries alone. -/
structure FileSystem.Reordered (a b : FileSystem) : Prop where
  tree : a.tree.Reordered b.tree
  working : a.working = b.working
  unlistable : a.unlistable = b.unlistable

/-! ## 2. Entries -/

namespace Node

variable {es es' : List (Bytes × Node)}

theorem Reordered.isDirectory_eq {a b : Node} (h : a.Reordered b) :
    a.isDirectory = b.isDirectory := by
  cases h <;> rfl

/-- A name is looked up in an entry that has it. -/
theorem lookup_isSome_iff_mem {name : Bytes} :
    (es.lookup name).isSome = true ↔ name ∈ es.map Prod.fst := by
  rw [List.lookup_isSome_iff, List.mem_map]
  refine exists_congr fun e => and_congr_right fun _ => ?_
  rw [beq_iff_eq, eq_comm]

/-- Among distinct names a lookup finds the very entry. -/
theorem lookup_of_mem (distinct : (es.map Prod.fst).Nodup) {name : Bytes} {node : Node}
    (h : (name, node) ∈ es) : es.lookup name = some node := by
  obtain ⟨before, after, rfl⟩ := List.append_of_mem h
  refine List.lookup_eq_some_iff.mpr ⟨before, after, rfl, fun e he => bne_iff_ne.mpr fun same => ?_⟩
  rw [List.map_append, List.map_cons, List.nodup_middle, List.nodup_cons] at distinct
  exact distinct.1 (List.mem_append_left _ (List.mem_map.mpr ⟨e, he, same.symm⟩))

/-- Rearranged entries lack the same names. -/
theorem Reordered.lookup_none (h : Reordered (.directory es) (.directory es')) {name : Bytes}
    (absent : es.lookup name = none) : es'.lookup name = none := by
  cases h with
  | directory names _ _ _ =>
    have missing : name ∉ es.map Prod.fst := by
      rw [← lookup_isSome_iff_mem, absent]
      simp
    rwa [names.mem_iff, ← lookup_isSome_iff_mem, Option.not_isSome_iff_eq_none] at missing

/-- Rearranged entries have the same under a name. -/
theorem Reordered.lookup_some (h : Reordered (.directory es) (.directory es')) {name : Bytes}
    {child : Node} (found : es.lookup name = some child) :
    ∃ child', es'.lookup name = some child' ∧ child.Reordered child' := by
  cases h with
  | directory names _ _ children =>
    have present : name ∈ es.map Prod.fst := by
      rw [← lookup_isSome_iff_mem, found]
      rfl
    rw [names.mem_iff, ← lookup_isSome_iff_mem] at present
    obtain ⟨child', found'⟩ := Option.isSome_iff_exists.mp present
    exact ⟨child', found', children name child child' found found'⟩

theorem Reordered.lookup_link (h : Reordered (.directory es) (.directory es')) {name : Bytes}
    {target : Path} (link : es.lookup name = some (.link target)) :
    es'.lookup name = some (.link target) := by
  obtain ⟨child, found, related⟩ := h.lookup_some link
  cases related
  exact found

/-- Directories whose entries are the same in another order, with children that differ in the order
    of entries from themselves alone. -/
theorem reordered_of_perm (perm : es.Perm es') (distinct : (es.map Prod.fst).Nodup)
    (proper : ∀ name ∈ es.map Prod.fst, Path.IsEntryName name)
    (children : ∀ e ∈ es, Reordered e.2 e.2) : Reordered (.directory es) (.directory es') := by
  refine .directory (perm.map Prod.fst) distinct proper fun name a b ha hb => ?_
  have member : ∀ {l : List (Bytes × Node)} {child : Node}, l.lookup name = some child →
      (name, child) ∈ l := fun {l child} found => by
    obtain ⟨before, after, rfl, _⟩ := List.lookup_eq_some_iff.mp found
    simp
  have same : es.lookup name = some b := lookup_of_mem distinct (perm.mem_iff.mpr (member hb))
  rw [ha] at same
  cases same
  exact children _ (member ha)

/-- What listing yields of an entry. -/
def entryOf (e : Bytes × Node) : FileSystem.Entry :=
  ⟨e.1, e.2.isDirectory⟩

/-- The listing of entries with distinct names, read off the names. -/
theorem map_entryOf (distinct : (es.map Prod.fst).Nodup) :
    es.map entryOf = (es.map Prod.fst).map fun name =>
      ⟨name, ((es.lookup name).map Node.isDirectory).getD false⟩ := by
  rw [List.map_map]
  refine List.map_congr_left fun e he => ?_
  simp [entryOf, lookup_of_mem distinct he]

/-- Rearranged entries are listed in another order. -/
theorem Reordered.map_entryOf_perm (h : Reordered (.directory es) (.directory es')) :
    (es.map entryOf).Perm (es'.map entryOf) := by
  have related := h
  cases h with
  | directory names distinct _ _ =>
    rw [map_entryOf distinct, map_entryOf (names.nodup_iff.mp distinct)]
    have same : ∀ name, (es.lookup name).map Node.isDirectory =
        (es'.lookup name).map Node.isDirectory := fun name => by
      cases found : es.lookup name with
      | none => rw [related.lookup_none found]
      | some child =>
        obtain ⟨child', found', same⟩ := related.lookup_some found
        rw [found', Option.map_some, Option.map_some, same.isDirectory_eq]
    simp only [same]
    exact names.map _

end Node

/-! ## 3. Walks -/

namespace Place

variable {a b : Place}

theorem Reordered.down (h : a.Reordered b) (name : Bytes) {x y : Node} (node : x.Reordered y) :
    (a.down name x).Reordered (b.down name y) :=
  ⟨node, .cons ⟨rfl, h.node⟩ h.above⟩

theorem Reordered.up (h : a.Reordered b) : a.up.Reordered b.up := by
  obtain ⟨node, above⟩ := a
  obtain ⟨node', above'⟩ := b
  have placed := h.above
  unfold Place.up
  cases placed with
  | nil => exact h
  | cons parent rest => exact ⟨parent.2, rest⟩

/-- The same names lead to places that are the same. -/
theorem Reordered.names_eq (h : a.Reordered b) : a.names = b.names := by
  obtain ⟨node, above⟩ := a
  obtain ⟨node', above'⟩ := b
  have placed := h.above
  unfold names
  dsimp only at placed ⊢
  congr 1
  induction placed with
  | nil => rfl
  | cons parent rest ih => rw [List.map_cons, List.map_cons, parent.1, ih ⟨h.node, rest⟩]

/-- At the place of a directory is the same directory, rearranged. -/
theorem Reordered.directory (h : a.Reordered b) {es : List (Bytes × Node)}
    (node : a.node = .directory es) :
    ∃ es', b.node = .directory es' ∧ (Node.directory es).Reordered (.directory es') := by
  have related := h.node
  rw [node] at related
  generalize b.node = other at related
  cases related with
  | @directory _ es' names distinct proper children =>
    exact ⟨es', rfl, .directory names distinct proper children⟩

/-- At the place of something else is no directory. -/
theorem Reordered.no_directory (h : a.Reordered b)
    (node : ∀ es, a.node = .directory es → False) : ∀ es, b.node = .directory es → False := by
  intro es' hb
  have same := h.node.isDirectory_eq
  rw [hb] at same
  cases ha : a.node with
  | directory es => exact node es ha
  | file content =>
    rw [ha] at same
    cases same
  | link target =>
    rw [ha] at same
    cases same

end Place

namespace FileSystem

/-- The walks end alike: with the same error, or at the same place. -/
inductive Alike : Except IoError Place → Except IoError Place → Prop where
  | error (cause : IoError) : Alike (.error cause) (.error cause)
  | ok {a b : Place} (place : a.Reordered b) : Alike (.ok a) (.ok b)

/-- **A walk ends alike in trees that differ in the order of entries.** -/
theorem walk_alike {root root' here here' : Place} (base : root.Reordered root') (follow : Bool)
    (links : Nat) (way : List Bytes) (h : here.Reordered here') :
    Alike (walk root follow links here way) (walk root' follow links here' way) := by
  fun_induction walk root follow links here way generalizing here' with
  | case1 links here =>
    rw [walk]
    exact .ok h
  | case2 links here rest es node ih =>
    obtain ⟨es', node', _⟩ := h.directory node
    rw [walk, node']
    simp only [if_true]
    exact ih h
  | case3 links here rest es node notSelf ih =>
    obtain ⟨es', node', _⟩ := h.directory node
    rw [walk, node']
    simp only [notSelf, if_false, if_true]
    exact ih h.up
  | case4 links here step rest es node notSelf notParent long =>
    obtain ⟨es', node', _⟩ := h.directory node
    rw [walk, node']
    simp only [notSelf, notParent, long, if_false, if_true]
    exact .error _
  | case5 links here step rest es node notSelf notParent short absent =>
    obtain ⟨es', node', related⟩ := h.directory node
    rw [walk, node']
    simp only [notSelf, notParent, short, related.lookup_none absent, if_false]
    exact .error _
  | case6 links here step rest es node notSelf notParent short target link last =>
    obtain ⟨es', node', related⟩ := h.directory node
    rw [walk, node']
    simp only [notSelf, notParent, short, related.lookup_link link, last, if_false, if_true]
    exact .ok (h.down step (.link target))
  | case7 here step rest es node notSelf notParent short target link followed =>
    obtain ⟨es', node', related⟩ := h.directory node
    rw [walk, node']
    simp only [notSelf, notParent, short, related.lookup_link link, followed, if_false]
    exact .error _
  | case8 here step rest es node notSelf notParent short target link followed links empty =>
    obtain ⟨es', node', related⟩ := h.directory node
    rw [walk, node']
    simp only [notSelf, notParent, short, related.lookup_link link, followed, empty, if_false,
      if_true]
    exact .error _
  | case9 here step rest es node notSelf notParent short target link followed links full ih =>
    obtain ⟨es', node', related⟩ := h.directory node
    rw [walk, node']
    simp only [notSelf, notParent, short, related.lookup_link link, followed, full, if_false]
    refine ih ?_
    split
    · exact base
    · exact h
  | case10 links here step rest es node notSelf notParent short child noLink found ih =>
    obtain ⟨es', node', related⟩ := h.directory node
    obtain ⟨child', found', same⟩ := related.lookup_some found
    have noLink' : ∀ target, child' = .link target → False := by
      rintro target rfl
      cases same
      exact noLink target rfl
    rw [walk, node']
    simp only [notSelf, notParent, short, found', if_false]
    exact ih (h.down step same)
  | case11 links here step rest other =>
    rw [walk]
    split
    · rename_i es' node'
      exact (h.no_directory other es' node').elim
    · exact .error _

/-! ## 4. Questions about a path -/

variable {a b : FileSystem}

theorem Reordered.root (h : a.Reordered b) : a.root.Reordered b.root :=
  ⟨h.tree, .nil⟩

theorem Reordered.start_alike (h : a.Reordered b) : Alike a.start b.start := by
  unfold start
  rw [← h.working]
  exact walk_alike h.root true maxLinks a.working h.root

/-- **A path leads to the same place in both file systems.** -/
theorem Reordered.locate_alike (h : a.Reordered b) (follow : Bool) (p : Path) :
    Alike (a.locate follow p) (b.locate follow p) := by
  unfold locate
  split
  · exact .error _
  · split
    · exact .error _
    · split
      · exact .error _
      · split
        · exact walk_alike h.root follow maxLinks (steps p) h.root
        · have start := h.start_alike
          generalize a.start = x, b.start = y at start
          cases start with
          | error cause => exact .error _
          | ok place => exact walk_alike h.root follow maxLinks (steps p) place

theorem Reordered.isDirectory_eq (h : a.Reordered b) (p : Path) :
    a.isDirectory p = b.isDirectory p := by
  have located := h.locate_alike true p
  unfold FileSystem.isDirectory
  generalize a.locate true p = x, b.locate true p = y at located
  cases located with
  | error cause => rfl
  | ok place => exact place.node.isDirectory_eq

/-- The listings are the same up to their order. -/
inductive ListsAlike : Except IoError (List Entry) → Except IoError (List Entry) → Prop where
  | error (cause : IoError) : ListsAlike (.error cause) (.error cause)
  | ok {xs ys : List Entry} (perm : xs.Perm ys) (distinct : (xs.map Entry.name).Nodup)
      (proper : ∀ e ∈ xs, Path.IsEntryName e.name) : ListsAlike (.ok xs) (.ok ys)

/-- **A listing is the same up to its order**, and its names are distinct names of entries. -/
theorem Reordered.list_alike (h : a.Reordered b) (p : Path) :
    ListsAlike (a.list p) (b.list p) := by
  have located := h.locate_alike true p
  unfold list
  generalize a.locate true p = x, b.locate true p = y at located
  cases located with
  | error cause => exact .error cause
  | @ok here here' place =>
    obtain ⟨node, above⟩ := here
    obtain ⟨node', above'⟩ := here'
    have related : node.Reordered node' := place.node
    have allowed : a.unlistable.contains (⟨node, above⟩ : Place).names =
        b.unlistable.contains (⟨node', above'⟩ : Place).names := by
      rw [h.unlistable, place.names_eq]
    cases related with
    | file content => exact .error _
    | link target => exact .error _
    | @directory es es' names distinct proper children =>
      have listed : (es.map Node.entryOf).map Entry.name = es.map Prod.fst := by
        rw [List.map_map]
        rfl
      simp only [bind, Except.bind, allowed]
      split
      · exact .error _
      · refine .ok (Node.Reordered.map_entryOf_perm place.node) (listed ▸ distinct) fun e he => ?_
        exact proper e.name (listed ▸ List.mem_map_of_mem he)

/-- The content of a file is the same. -/
theorem Reordered.read_eq (h : a.Reordered b) (p : Path) : a.read p = b.read p := by
  have located := h.locate_alike true p
  unfold read
  generalize a.locate true p = x, b.locate true p = y at located
  cases located with
  | error cause => rfl
  | @ok here here' place =>
    obtain ⟨node, above⟩ := here
    obtain ⟨node', above'⟩ := here'
    have related : node.Reordered node' := place.node
    cases related <;> rfl

end FileSystem

/-! ## 5. Loaders -/

/-- The loader opens the same in file systems that differ in the order of entries. -/
def Loader.IgnoresOrder (loader : Loader) : Prop :=
  ∀ a b : FileSystem, a.Reordered b → loader.load a = loader.load b

theorem Manifest.loader_ignoresOrder : Manifest.loader.IgnoresOrder := by
  intro a b h
  funext path
  simp only [Manifest.loader, Manifest.load, FileSystem.readText, h.read_eq]

end PluginDiscovery
