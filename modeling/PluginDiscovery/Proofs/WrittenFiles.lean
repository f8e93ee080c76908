import PluginDiscovery.Proofs.EditedTrees
import PluginDiscovery.Proofs.EntryPlaces

/-!
# A file that was written is read back

Writing a file changes one directory of the tree, and in it one entry. A walk in the changed tree
takes the same steps as before, through the same links, and the place where the tree was changed is
known from the names that lead to it. So what the path leads to is the file that was written.

* `Place.Lies`, `Lies.eq_of_names`: a place of a tree, known from the names on the way to it;
* `Node.Grown`: a tree in which files are new or have another content, `Lies.rebuild`: such a change
  at one place;
* `walk_grown`: the walk in a tree that has grown, also with other links left to follow;
* `EndsIn`, `Reaches`: the last step of a path, and the last step that links there lead to;
* `reaches_of_writeFrom`: what writing changes, `read_write`: the file after it was written.
-/

namespace PluginDiscovery

/-! ## 1. Places of a tree -/

/-- The place is one of a tree: it is the root, or below another one by the entry of a name. -/
inductive Place.Lies (tree : Node) : Place → Prop where
  | root : Lies tree ⟨tree, []⟩
  | down {here : Place} {es : List (Bytes × Node)} {name : Bytes} {child : Node}
      (h : Lies tree here) (node : here.node = .directory es)
      (found : es.lookup name = some child) : Lies tree (here.down name child)

namespace Place.Lies

variable {tree : Node} {here there : Place}

theorem up (h : here.Lies tree) : here.up.Lies tree := by
  cases h with
  | root => exact .root
  | down h => exact h

/-- **A place is known from the names that lead to it.** -/
theorem eq_of_names (h : here.Lies tree) (h' : there.Lies tree)
    (names : here.above.map Prod.fst = there.above.map Prod.fst) : here = there := by
  induction h generalizing there with
  | root =>
    cases h' with
    | root => rfl
    | down => cases names
  | down _ node found ih =>
    cases h' with
    | root => cases names
    | down h' node' found' =>
      simp only [Place.down, List.map_cons, List.cons.injEq] at names
      obtain ⟨rfl, names⟩ := names
      obtain rfl := ih h' names
      obtain rfl := Node.directory.inj (node.symm.trans node')
      obtain rfl := Option.some.inj (found.symm.trans found')
      rfl

end Place.Lies

theorem FileSystem.lies_of_walk {root here there : Place} {follow : Bool} {links : Nat}
    {way : List Bytes} {tree : Node} (base : root.Lies tree) (h : here.Lies tree)
    (walked : walk root follow links here way = .ok there) : there.Lies tree :=
  walk_keeps (fun h node found => h.down node found) Place.Lies.up base h walked

/-! ## 2. Trees that have grown -/

/-- The second tree has the directories and links of the first one and no others; its files may be
    new, or have another content. -/
inductive Node.Grown : Node → Node → Prop where
  | same (node : Node) : Grown node node
  | file (old new : Content) : Grown (.file old) (.file new)
  | directory {es es' : List (Bytes × Node)}
      (kept : ∀ name a, es.lookup name = some a → ∃ b, es'.lookup name = some b)
      (new : ∀ name b, es.lookup name = none → es'.lookup name = some b →
        ∃ content, b = .file content)
      (children : ∀ name a b, es.lookup name = some a → es'.lookup name = some b → Grown a b) :
      Grown (.directory es) (.directory es')

namespace Node

theorem lookup_setEntry (name : Bytes) (node : Node) (es : List (Bytes × Node)) (key : Bytes) :
    (setEntry name node es).lookup key = if key = name then some node else es.lookup key := by
  induction es with
  | nil =>
    rw [setEntry, List.lookup_cons]
    by_cases same : key = name <;> simp [same, beq_eq_false_iff_ne.mpr]
  | cons e rest ih =>
    obtain ⟨n, old⟩ := e
    by_cases at_n : n = name
    · subst at_n
      rw [setEntry, if_pos rfl, List.lookup_cons, List.lookup_cons]
      by_cases same : key = n <;> simp [same, beq_eq_false_iff_ne.mpr]
    · rw [setEntry, if_neg at_n, List.lookup_cons, List.lookup_cons, ih]
      by_cases same : key = n
      · subst same
        simp [at_n]
      · simp [beq_eq_false_iff_ne.mpr same]

/-- A directory in which a name gets another node has grown, if what it had under the name has
    grown, or if it had nothing there and gets a file. -/
theorem grown_setEntry {name : Bytes} {node : Node} {es : List (Bytes × Node)}
    (new : es.lookup name = none → ∃ content, node = .file content)
    (old : ∀ a, es.lookup name = some a → a.Grown node) :
    (Node.directory es).Grown (.directory (setEntry name node es)) := by
  refine .directory (fun key a found => ?_) (fun key b absent found => ?_)
    fun key a b found found' => ?_
  · rw [lookup_setEntry]
    split
    · exact ⟨node, rfl⟩
    · exact ⟨a, found⟩
  · rw [lookup_setEntry] at found
    split at found
    · rename_i at_name
      cases found
      exact new (at_name ▸ absent)
    · cases absent.symm.trans found
  · rw [lookup_setEntry] at found'
    split at found'
    · rename_i at_name
      cases found'
      exact old a (at_name ▸ found)
    · cases found.symm.trans found'
      exact .same a

theorem isDirectory_iff {node : Node} : node.isDirectory = true ↔ ∃ es, node = .directory es := by
  cases node <;> simp [isDirectory]

end Node

namespace Place

/-- The places are led to by the same names, in trees of which the second has grown. -/
structure Grown (a b : Place) : Prop where
  node : a.node.Grown b.node
  above : List.Forall₂ (fun x y => x.1 = y.1 ∧ x.2.Grown y.2) a.above b.above

namespace Grown

variable {a b : Place}

theorem down (h : a.Grown b) (name : Bytes) {x y : Node} (node : x.Grown y) :
    (a.down name x).Grown (b.down name y) :=
  ⟨node, .cons ⟨rfl, h.node⟩ h.above⟩

theorem up (h : a.Grown b) : a.up.Grown b.up := by
  obtain ⟨node, above⟩ := a
  obtain ⟨node', above'⟩ := b
  have placed := h.above
  unfold Place.up
  cases placed with
  | nil => exact h
  | cons parent rest => exact ⟨parent.2, rest⟩

theorem names (h : a.Grown b) : a.above.map Prod.fst = b.above.map Prod.fst := by
  have placed := h.above
  generalize a.above = above, b.above = above' at placed
  induction placed with
  | nil => rfl
  | cons parent _ ih => rw [List.map_cons, List.map_cons, parent.1, ih]

/-- In a directory that has grown, what was in it has grown, and what is new is a file. -/
theorem entries (h : a.Grown b) {es : List (Bytes × Node)} (node : a.node = .directory es) :
    ∃ es', b.node = .directory es' ∧
      (∀ name x, es.lookup name = some x → ∃ y, es'.lookup name = some y ∧ x.Grown y) ∧
      ∀ name y, es.lookup name = none → es'.lookup name = some y →
        ∃ content, y = .file content := by
  have grown := h.node
  rw [node] at grown
  generalize b.node = other at grown
  cases grown with
  | same =>
    exact ⟨es, rfl, fun name x found => ⟨x, found, .same x⟩, fun name y absent found => by
      cases absent.symm.trans found⟩
  | @directory _ es' kept new children =>
    refine ⟨es', rfl, fun name x found => ?_, new⟩
    obtain ⟨y, found'⟩ := kept name x found
    exact ⟨y, found', children name x y found found'⟩

/-- A link is the same in a directory that has grown. -/
theorem link (h : a.Grown b) {es : List (Bytes × Node)} {name : Bytes} {target : Path}
    (node : a.node = .directory es) (found : es.lookup name = some (.link target)) :
    ∃ es', b.node = .directory es' ∧ es'.lookup name = some (.link target) := by
  obtain ⟨es', node', kept, -⟩ := h.entries node
  obtain ⟨y, found', grown⟩ := kept name _ found
  cases grown
  exact ⟨es', node', found'⟩

/-- What is no directory does not become one. -/
theorem node_ne_directory (h : a.Grown b) (other : ∀ es, a.node ≠ .directory es)
    (es' : List (Bytes × Node)) : b.node ≠ .directory es' := by
  intro node'
  have grown := h.node
  rw [node'] at grown
  generalize node : a.node = old at grown
  cases grown with
  | same => exact other es' node
  | directory => exact other _ node

end Grown

/-- The place at which a tree is changed is a place of the changed tree, and the tree has grown if
    the node at the place has. -/
theorem Lies.rebuild {tree : Node} {here : Place} (h : here.Lies tree) (node : Node) :
    (∃ above, above.map Prod.fst = here.above.map Prod.fst ∧
      Lies (node.rebuild here.above) ⟨node, above⟩) ∧
    (here.node.Grown node → tree.Grown (node.rebuild here.above)) := by
  induction h generalizing node with
  | root => exact ⟨⟨[], rfl, .root⟩, id⟩
  | @down here es name child _ directory found ih =>
    have entries : here.node.entries = es := by rw [directory, Node.entries]
    obtain ⟨⟨above, names, lies⟩, grows⟩ := ih (.directory (Node.setEntry name node es))
    have rebuilt : node.rebuild (here.down name child).above =
        (Node.directory (Node.setEntry name node es)).rebuild here.above := by
      rw [← entries]
      rfl
    rw [rebuilt]
    refine ⟨⟨(name, .directory (Node.setEntry name node es)) :: above, ?_, ?_⟩, fun grown => ?_⟩
    · exact congrArg (name :: ·) names
    · exact lies.down rfl (by rw [Node.lookup_setEntry, if_pos rfl])
    · refine grows (directory ▸ Node.grown_setEntry (fun absent => ?_) fun a found' => ?_)
      · cases absent.symm.trans found
      · cases found.symm.trans found'
        exact grown

end Place

namespace FileSystem

/-! ## 3. Walks in a tree that has grown -/

/-- What a walk comes to in a tree and in one that has grown: it ends at the same names, fails
    alike, or finds nothing before and then something new. With other links left to follow it may
    give up in one of the trees. -/
inductive Tracks (otherLinks : Prop) : Except IoError Place → Except IoError Place → Prop where
  | ok {a b : Place} (h : a.Grown b) : Tracks otherLinks (.ok a) (.ok b)
  | error (cause : IoError) : Tracks otherLinks (.error cause) (.error cause)
  | new {result : Except IoError Place} (h : result ≠ .error .tooManyLinks) :
      Tracks otherLinks (.error .notFound) result
  | fewer {result : Except IoError Place} (h : otherLinks) :
      Tracks otherLinks result (.error .tooManyLinks)
  | more {result : Except IoError Place} (h : otherLinks) :
      Tracks otherLinks (.error .tooManyLinks) result

theorem Tracks.imp {p q : Prop} {a b : Except IoError Place} (h : Tracks p a b) (imp : p → q) :
    Tracks q a b := by
  cases h with
  | ok h => exact .ok h
  | error cause => exact .error cause
  | new h => exact .new h
  | fewer h => exact .fewer (imp h)
  | more h => exact .more (imp h)

/-- Past a file there are no links. -/
theorem walk_past_file_ne {root here : Place} {follow : Bool} {links : Nat} {content : Content}
    (node : here.node = .file content) (way : List Bytes) :
    walk root follow links here way ≠ .error .tooManyLinks := by
  intro gaveUp
  cases way with
  | nil =>
    rw [walk] at gaveUp
    cases gaveUp
  | cons step rest =>
    rw [walk, node] at gaveUp
    cases gaveUp

/-- **A walk goes by the same names in a tree that has grown.** -/
theorem walk_grown {root root' here here' : Place} (base : root.Grown root') (h : here.Grown here')
    (links left : Nat) (way : List Bytes) :
    Tracks (links ≠ left) (walk root true links here way) (walk root' true left here' way) := by
  generalize hfollow : true = follow
  fun_induction walk root follow links here way generalizing here' left with
  | case1 links here =>
    rw [walk]
    exact .ok h
  | case2 links here rest es node ih =>
    obtain ⟨es', node', -⟩ := h.entries node
    rw [walk, node']
    simp only [if_true]
    exact ih h left
  | case3 links here rest es node notSelf ih =>
    obtain ⟨es', node', -⟩ := h.entries node
    rw [walk, node']
    simp only [notSelf, if_false, if_true]
    exact ih h.up left
  | case4 links here step rest es node notSelf notParent long =>
    obtain ⟨es', node', -⟩ := h.entries node
    rw [walk, node']
    simp only [notSelf, notParent, long, if_false, if_true]
    exact .error _
  | case5 links here step rest es node notSelf notParent short absent =>
    obtain ⟨es', node', -, new⟩ := h.entries node
    rw [walk, node']
    simp only [notSelf, notParent, short, if_false]
    cases found : es'.lookup step with
    | none => exact .error _
    | some y =>
      obtain ⟨content, rfl⟩ := new step y absent found
      exact .new (walk_past_file_ne rfl rest)
  | case6 links here step rest es node notSelf notParent short target link last =>
    simp [← hfollow] at last
  | case7 here step rest es node notSelf notParent short target link followed =>
    obtain ⟨es', node', link'⟩ := h.link node link
    rw [walk, node']
    simp only [notSelf, notParent, short, link', followed, if_false]
    cases left with
    | zero => exact .error _
    | succ left => exact .more (Nat.succ_ne_zero left).symm
  | case8 here step rest es node notSelf notParent short target link followed links empty =>
    obtain ⟨es', node', link'⟩ := h.link node link
    rw [walk, node']
    simp only [notSelf, notParent, short, link', followed, empty, if_false, if_true]
    cases left with
    | zero => exact .fewer (Nat.succ_ne_zero links)
    | succ left => exact .error _
  | case9 here step rest es node notSelf notParent short target link followed links full ih =>
    obtain ⟨es', node', link'⟩ := h.link node link
    rw [walk, node']
    simp only [notSelf, notParent, short, link', followed, full, if_false]
    cases left with
    | zero => exact .fewer (Nat.succ_ne_zero links)
    | succ left =>
      refine (ih ?_ left).imp fun other same => other (Nat.succ.inj same)
      split
      · exact base
      · exact h
  | case10 links here step rest es node notSelf notParent short child noLink found ih =>
    obtain ⟨es', node', kept, -⟩ := h.entries node
    obtain ⟨y, found', grown⟩ := kept step child found
    have noLink' : ∀ target, y = .link target → False := by
      rintro target rfl
      cases grown
      exact noLink target rfl
    rw [walk, node']
    simp only [notSelf, notParent, short, found', if_false]
    exact ih (h.down step grown) left
  | case11 links here step rest other =>
    rw [walk]
    split
    · rename_i es' node'
      exact (h.node_ne_directory other es' node').elim
    · exact .error _

variable {fs changed : FileSystem} {p : Path} {here here' : Place} {name : Bytes}

theorem root_grown (tree : fs.tree.Grown changed.tree) : fs.root.Grown changed.root :=
  ⟨tree, .nil⟩

/-- A walk to a place goes by the same names to one that has grown. -/
theorem walk_grown_ok {root root' there : Place} {links : Nat} {way : List Bytes}
    (base : root.Grown root') (h : here.Grown here')
    (walked : walk root true links here way = .ok there) :
    ∃ there', walk root' true links here' way = .ok there' ∧ there.Grown there' := by
  have tracks := walk_grown base h links links way
  rw [walked] at tracks
  generalize walk root' true links here' way = result at tracks ⊢
  cases tracks with
  | ok grown => exact ⟨_, rfl, grown⟩
  | fewer other => exact (other rfl).elim

/-! ## 4. The last step of a path -/

theorem root_lies (fs : FileSystem) : fs.root.Lies fs.tree :=
  .root

/-- The place at which the walk along a path begins is one of the tree. -/
theorem lies_of_base {start : Place} (begun : fs.base p = .ok start) : start.Lies fs.tree := by
  unfold base at begun
  split at begun
  · cases begun
    exact fs.root_lies
  · exact lies_of_walk fs.root_lies fs.root_lies begun

/-- In a tree that has grown the walk along a path begins at the same names. -/
theorem base_grown {start : Place} (tree : fs.tree.Grown changed.tree)
    (working : changed.working = fs.working) (begun : fs.base p = .ok start) :
    ∃ start', changed.base p = .ok start' ∧ start.Grown start' := by
  unfold base at begun ⊢
  split at begun
  · rename_i absolute
    cases begun
    exact ⟨changed.root, if_pos absolute, root_grown tree⟩
  · rename_i relative
    rw [if_neg relative, FileSystem.start, working]
    exact walk_grown_ok (root_grown tree) (root_grown tree) begun

theorem steps_of_noSlash (noSlash : endsInSlash p = false) : steps p = namedSteps p := by
  rw [steps, if_neg (by simpa [endsInSlash] using noSlash), namedSteps]

/-- The path ends in a step of this name, and in no separator; the steps before it lead to this
    place. -/
structure EndsIn (fs : FileSystem) (p : Path) (here : Place) (name : Bytes) : Prop where
  allowed : refused p = none
  noSlash : endsInSlash p = false
  walked : ∃ start before, fs.base p = .ok start ∧ namedSteps p = before ++ [name] ∧
    walk fs.root true maxLinks start before = .ok here

theorem endsIn_of_holder (held : fs.holder p = .ok (here, name)) (notSelf : name ≠ self)
    (noSlash : endsInSlash p = false) :
    fs.EndsIn p here name ∧ here.node.isDirectory = true := by
  unfold holder at held
  split at held
  · cases held
  rename_i full
  split at held
  · cases held
  rename_i noZero
  split at held
  · cases held
  rename_i bounded
  have allowed : refused p = none := by
    rw [refused, if_neg full, if_neg noZero, if_neg bounded]
  extract_lets way ending at held
  have ended {start : Place} (begun : fs.base p = .ok start)
      (held : ending start = .ok (here, name)) :
      fs.EndsIn p here name ∧ here.node.isDirectory = true := by
    simp only [ending] at held
    split at held
    · cases held
      exact absurd rfl notSelf
    · rename_i last found
      obtain ⟨there, walked, held⟩ := Except.bind_eq_ok.mp held
      split at held
      · cases held
      · split at held
        · rename_i directory
          cases held
          exact ⟨⟨allowed, noSlash, start, _, begun, (List.dropLast_append_getLast? _ found).symm,
            walked⟩, directory⟩
        · cases held
  split at held
  · rename_i absolute
    exact ended (if_pos absolute) held
  · rename_i relative
    obtain ⟨start, begun, held⟩ := Except.bind_eq_ok.mp held
    exact ended ((if_neg relative).trans begun) held

namespace EndsIn

theorem lies (h : fs.EndsIn p here name) : here.Lies fs.tree := by
  obtain ⟨start, before, begun, -, walked⟩ := h.walked
  exact lies_of_walk fs.root_lies (lies_of_base begun) walked

/-- From the directory that holds the last step of a path the walk takes that step. -/
theorem locate (h : fs.EndsIn p here name) :
    ∃ left, ∀ follow, fs.locate follow p = walk fs.root follow left here [name] := by
  obtain ⟨start, before, begun, named, walked⟩ := h.walked
  have steps : FileSystem.steps p = before ++ [name] := (steps_of_noSlash h.noSlash).trans named
  have leads := walk_leads fs.root maxLinks start before
  rw [walked] at leads
  cases leads with
  | @ok left _ onward =>
    refine ⟨left, fun follow => ?_⟩
    rw [locate_eq, h.allowed, begun, steps]
    exact onward follow [name] (List.cons_ne_nil _ _)

/-- In a tree that has grown the path leads to its last step from a directory that has grown. -/
theorem grown (h : fs.EndsIn p here name) (tree : fs.tree.Grown changed.tree)
    (working : changed.working = fs.working) :
    ∃ here', changed.EndsIn p here' name ∧ here.Grown here' := by
  obtain ⟨start, before, begun, named, walked⟩ := h.walked
  obtain ⟨start', begun', started⟩ := base_grown tree working begun
  obtain ⟨here', walked', grown⟩ := walk_grown_ok (root_grown tree) started walked
  exact ⟨here', ⟨h.allowed, h.noSlash, start', before, begun', named, walked'⟩, grown⟩

end EndsIn

/-- A walk does not give up in a tree that has grown where it did not before. -/
theorem givesUp_grown (tree : fs.tree.Grown changed.tree) (working : changed.working = fs.working)
    {start : Place} (begun : fs.base p = .ok start) (allowed : refused p = none)
    (reached : fs.givesUp p = false) : changed.givesUp p = false := by
  obtain ⟨start', begun', grown⟩ := base_grown tree working begun
  have tracks := walk_grown (root_grown tree) grown maxLinks maxLinks (steps p)
  unfold givesUp at reached ⊢
  rw [locate_eq, allowed, begun] at reached
  rw [locate_eq, allowed, begun']
  simp only [bind, Except.bind] at reached ⊢
  generalize walk fs.root true maxLinks start (steps p) = before at tracks reached
  generalize walk changed.root true maxLinks start' (steps p) = after at tracks ⊢
  cases tracks with
  | ok => rfl
  | error cause => exact reached
  | new h =>
    split
    · rfl
    · rename_i cause
      simpa using fun same => h (congrArg Except.error same)
  | fewer other => exact (other rfl).elim
  | more other => exact (other rfl).elim

/-! ## 5. Writing -/

/-- The links at a last step lead to another last step, that of the target of the last of them. -/
inductive Reaches (fs : FileSystem) : Place → Bytes → Place → Bytes → Prop where
  | refl (here : Place) (name : Bytes) : Reaches fs here name here name
  | link {here next there : Place} {es : List (Bytes × Node)} {name last final : Bytes}
      {target : Path} {way : List Bytes} (proper : Path.IsEntryName name)
      (short : ¬maxName < name.length) (node : here.node = .directory es)
      (found : es.lookup name = some (.link target)) (steps : steps target = way ++ [last])
      (walked : walk fs.root true maxLinks (if target.isAbsolute then fs.root else here) way =
        .ok next)
      (onward : Reaches fs next last there final) : Reaches fs here name there final

/-- The directory takes a file under the name: it has none there, or another file. -/
structure Takes (fs : FileSystem) (here : Place) (name : Bytes) (es : List (Bytes × Node)) :
    Prop where
  lies : here.Lies fs.tree
  node : here.node = .directory es
  proper : Path.IsEntryName name
  short : ¬maxName < name.length
  old : ∀ a, es.lookup name = some a → ∃ content, a = .file content

theorem plain_of_writeFrom {content : Content} {links : Nat} {whole : Path}
    (written : writeFrom fs content links whole here name = .ok changed) :
    name ≠ self ∧ name ≠ parent ∧ endsInSlash whole = false := by
  rw [writeFrom] at written
  split at written
  · cases written
  · rename_i plain
    simpa only [not_or, Bool.not_eq_true] using plain

/-- **What is written is a file** at the last step that links lead to, in the place of another file
    or of nothing. -/
theorem reaches_of_writeFrom {content : Content} {links : Nat} {whole : Path}
    (lies : here.Lies fs.tree) (directory : here.node.isDirectory = true)
    (proper : name ≠ self → name ≠ parent → Path.IsEntryName name)
    (written : writeFrom fs content links whole here name = .ok changed) :
    ∃ there last es, fs.Reaches here name there last ∧ fs.Takes there last es ∧
      changed = fs.put there (.directory (Node.setEntry last (.file content) es)) := by
  fun_induction writeFrom fs content links whole here name with
  | case1 => cases written
  | case2 => cases written
  | case3 => cases written
  | case4 => cases written
  | case5 => cases written
  | case6 whole here name plain short target link links way start last found ih =>
    obtain ⟨next, walked, written⟩ := Except.bind_eq_ok.mp written
    split at written
    · rename_i next_directory
      obtain ⟨es, node⟩ := Node.isDirectory_iff.mp directory
      simp only [not_or] at plain
      obtain ⟨-, -, noSlash⟩ := plain_of_writeFrom written
      have begun : start.Lies fs.tree := by
        simp only [start]
        split
        · exact .root
        · exact lies
      have steps : FileSystem.steps target = way.dropLast ++ [last] :=
        (steps_of_noSlash noSlash).trans (List.dropLast_append_getLast? _ found).symm
      obtain ⟨there, final, es', onward, takes, put⟩ :=
        ih next (lies_of_walk fs.root_lies begun walked) next_directory
          (isEntryName_of_last found) written
      rw [node, Node.entries] at link
      exact ⟨there, final, es',
        .link (proper plain.1 plain.2.1) short node link steps walked onward, takes, put⟩
    · cases written
  | case7 links whole here name plain short noDirectory noLink =>
    obtain ⟨es, node⟩ := Node.isDirectory_iff.mp directory
    rw [node, Node.entries] at noDirectory noLink written
    simp only [not_or] at plain
    cases written
    refine ⟨here, name, es, .refl here name, ⟨lies, node, proper plain.1 plain.2.1, short, ?_⟩, rfl⟩
    intro a found
    cases a with
    | file old => exact ⟨old, rfl⟩
    | directory es => exact (noDirectory es found).elim
    | link target => exact (noLink target found).elim

/-- In a tree that has grown the links at a last step lead to the same last step, unless there are
    too many. -/
theorem Reaches.grown {there : Place} {last : Bytes} (h : fs.Reaches here name there last)
    (tree : fs.tree.Grown changed.tree) (grown : here.Grown here') (lies : here'.Lies changed.tree)
    (left : Nat) :
    (∃ there' left', there.Grown there' ∧ there'.Lies changed.tree ∧
      walk changed.root true left here' [name] = walk changed.root true left' there' [last]) ∨
    walk changed.root true left here' [name] = .error .tooManyLinks := by
  induction h generalizing here' left with
  | refl here name => exact .inl ⟨here', left, grown, lies, rfl⟩
  | @link here next there es name last final target way proper short node found steps walked _ ih =>
    obtain ⟨es', node', found'⟩ := grown.link node found
    have full : target.isEmpty = false := by
      cases target with
      | nil =>
        rw [FileSystem.steps] at steps
        simp [Path.pieces] at steps
      | cons => rfl
    rw [walk, node']
    simp only [self, parent, proper.ne_self, proper.ne_parent, short, found', List.isEmpty_nil,
      Bool.not_true, Bool.and_false, Bool.false_eq_true, if_false, full, List.append_nil, steps]
    cases left with
    | zero => exact .inr rfl
    | succ left =>
      simp only
      generalize hstart : (if target.isAbsolute then changed.root else here') = start'
      have begun : (if target.isAbsolute then fs.root else here).Grown start' := by
        rw [← hstart]
        split
        · exact root_grown tree
        · exact grown
      have start_lies : start'.Lies changed.tree := by
        rw [← hstart]
        split
        · exact .root
        · exact lies
      have tracks := walk_grown (root_grown tree) begun maxLinks left way
      rw [walked] at tracks
      have leads := walk_leads changed.root left start' way
      generalize reached : walk changed.root true left start' way = result at tracks leads
      cases tracks with
      | @ok _ next' next_grown =>
        cases leads with
        | @ok left' _ onward =>
          rw [onward true [last] (List.cons_ne_nil _ _)]
          exact ih next_grown (lies_of_walk changed.root_lies start_lies reached) left'
      | fewer =>
        cases leads with
        | error onward => exact .inr (onward true [last] (List.cons_ne_nil _ _))

/-- From its directory the walk to a file takes one step. -/
theorem walk_file {root : Place} {follow : Bool} {left : Nat} {es : List (Bytes × Node)}
    {content : Content} (node : here.node = .directory es) (proper : Path.IsEntryName name)
    (short : ¬maxName < name.length) (found : es.lookup name = some (.file content)) :
    walk root follow left here [name] = .ok (here.down name (.file content)) := by
  rw [walk, node]
  simp only [self, parent, proper.ne_self, proper.ne_parent, short, found, if_false]
  rw [walk]

/-- **A file is read back after it was written.** -/
theorem read_write {content : Content} (written : fs.write p content = .ok changed) :
    changed.read p = .ok content := by
  obtain ⟨⟨here, name⟩, held, written⟩ := Except.bind_eq_ok.mp written
  obtain ⟨_, once, written⟩ := Except.bind_eq_ok.mp written
  split at written
  · cases written
  rename_i reached
  cases written
  obtain ⟨notSelf, notParent, noSlash⟩ := plain_of_writeFrom once
  obtain ⟨ends, directory⟩ := endsIn_of_holder held notSelf noSlash
  obtain ⟨start, before, begun, named, -⟩ := ends.walked
  obtain ⟨there, last, es, reaches, takes, put⟩ :=
    reaches_of_writeFrom ends.lies directory
      (isEntryName_of_last (by rw [← namedSteps, named, List.getLast?_concat])) once
  -- the place at which the tree was changed, in the changed tree
  obtain ⟨⟨above, names, place⟩, grows⟩ :=
    takes.lies.rebuild (.directory (Node.setEntry last (.file content) es))
  have tree : fs.tree.Grown changed.tree := by
    rw [put]
    refine grows (takes.node ▸ Node.grown_setEntry (fun _ => ⟨content, rfl⟩) fun a found => ?_)
    obtain ⟨old, rfl⟩ := takes.old a found
    exact .file old content
  have working : changed.working = fs.working := by rw [put, FileSystem.put]
  -- the walk in the changed tree ends there, as the names are the same
  obtain ⟨here', ends', grown⟩ := ends.grown tree working
  obtain ⟨left, leads⟩ := ends'.locate
  rcases reaches.grown tree grown ends'.lies left with
    ⟨there', left', grown', lies', onward⟩ | tooMany
  · have same : there' = ⟨.directory (Node.setEntry last (.file content) es), above⟩ :=
      lies'.eq_of_names (put ▸ place) (grown'.names.symm.trans names.symm)
    have found : (Node.setEntry last (.file content) es).lookup last = some (.file content) := by
      rw [Node.lookup_setEntry, if_pos rfl]
    rw [read, leads, onward, walk_file (same ▸ rfl) takes.proper takes.short found]
    rfl
  · have goes := givesUp_grown tree working begun ends.allowed (Bool.eq_false_iff.mpr reached)
    rw [givesUp, leads, tooMany] at goes
    cases goes

end FileSystem

end PluginDiscovery
