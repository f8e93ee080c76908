import PluginDiscovery.Proofs.ConfigFields
import PluginDiscovery.Proofs.WellNamedTrees

/-!
# Where the path of an entry leads

The path of an entry is that of its directory with the name of the entry at the end. A walk along it
goes as far as the walk to the directory, and takes one step more there. So what the path leads to is
known from the entry: to the entry itself, or, if the entry is a link that is followed, to where that
leads.

* `FileSystem.isLink`: whether a path leads to a link, which is not followed;
* `Leads`, `walk_leads`: a walk along more steps goes on where the first of them lead;
* `steps_join`: the steps of the path of an entry, `locate_join`: the walk along them;
* `WellNamed.isLink_iff`: an entry whose path leads to a directory is one itself, or a link.
-/

namespace PluginDiscovery.FileSystem

/-- Whether a path leads to a link, which is not followed. -/
def isLink (fs : FileSystem) (p : Path) : Bool :=
  match fs.locate false p with
  | .ok ⟨.link _, _⟩ => true
  | _ => false

/-! ## 1. Walks that go on -/

/-- What the walk along these steps comes to, whatever steps follow: it goes on from the place that
    the steps lead to, with the links that are left, or fails as it did. -/
inductive Leads (root : Place) (links : Nat) (here : Place) (way : List Bytes) :
    Except IoError Place → Prop where
  | ok {left : Nat} {place : Place}
      (onward : ∀ follow (rest : List Bytes), rest ≠ [] →
        walk root follow links here (way ++ rest) = walk root follow left place rest) :
      Leads root links here way (.ok place)
  | error {cause : IoError}
      (onward : ∀ follow (rest : List Bytes), rest ≠ [] →
        walk root follow links here (way ++ rest) = .error cause) :
      Leads root links here way (.error cause)

/-- Steps after which a walk goes on like another one lead where that one leads. -/
theorem Leads.of_eq {root here here' : Place} {links links' : Nat} {way way' : List Bytes}
    {result : Except IoError Place} (h : Leads root links' here' way' result)
    (same : ∀ follow (rest : List Bytes), rest ≠ [] →
      walk root follow links here (way ++ rest) = walk root follow links' here' (way' ++ rest)) :
    Leads root links here way result := by
  cases h with
  | ok onward =>
    exact .ok fun follow rest more => (same follow rest more).trans (onward follow rest more)
  | error onward =>
    exact .error fun follow rest more => (same follow rest more).trans (onward follow rest more)

/-- **A walk along more steps goes on where the first of them lead.** Links before the last step are
    followed in either case. -/
theorem walk_leads (root : Place) (links : Nat) (here : Place) (way : List Bytes) :
    Leads root links here way (walk root true links here way) := by
  have inside (rest more : List Bytes) (h : more ≠ []) (follow : Bool) :
      ((rest ++ more).isEmpty && !follow) = false := by
    simp [h]
  -- links are followed, so the first steps never end at one
  generalize hfollow : true = follow
  fun_induction walk root follow links here way with
  | case1 links here => exact .ok fun follow rest _ => rfl
  | case2 links here rest es node ih =>
    refine ih.of_eq fun follow more _ => ?_
    rw [List.cons_append, walk, node]
    simp only [if_true]
  | case3 links here rest es node notSelf ih =>
    refine ih.of_eq fun follow more _ => ?_
    rw [List.cons_append, walk, node]
    simp only [notSelf, if_false, if_true]
  | case4 links here step rest es node notSelf notParent long =>
    refine .error fun follow more _ => ?_
    rw [List.cons_append, walk, node]
    simp only [notSelf, notParent, long, if_false, if_true]
  | case5 links here step rest es node notSelf notParent short absent =>
    refine .error fun follow more _ => ?_
    rw [List.cons_append, walk, node]
    simp only [notSelf, notParent, short, absent, if_false]
  | case6 links here step rest es node notSelf notParent short target link last =>
    simp [← hfollow] at last
  | case7 here step rest es node notSelf notParent short target link followed =>
    refine .error fun follow more h => ?_
    rw [List.cons_append, walk, node]
    simp only [notSelf, notParent, short, link, inside rest more h, Bool.false_eq_true, if_false]
  | case8 here step rest es node notSelf notParent short target link followed links empty =>
    refine .error fun follow more h => ?_
    rw [List.cons_append, walk, node]
    simp only [notSelf, notParent, short, link, inside rest more h, empty, Bool.false_eq_true,
      if_false, if_true]
  | case9 here step rest es node notSelf notParent short target link followed links full ih =>
    refine ih.of_eq fun follow more h => ?_
    rw [List.cons_append, walk, node, List.append_assoc]
    simp only [notSelf, notParent, short, link, inside rest more h, full, Bool.false_eq_true,
      if_false, dite_eq_ite]
  | case10 links here step rest es node notSelf notParent short child noLink found ih =>
    refine ih.of_eq fun follow more _ => ?_
    rw [List.cons_append, walk, node]
    simp only [notSelf, notParent, short, found, if_false]
  | case11 links here step rest other =>
    refine .error fun follow more _ => ?_
    rw [List.cons_append, walk]
    split
    · rename_i es node
      exact (other es node).elim
    · rfl

/-! ## 2. The path of an entry -/

variable {fs : FileSystem} {p name : Path}

/-- The pieces of a path that are steps. -/
def namedSteps (p : Path) : List Bytes :=
  (Path.pieces p).filter (· ≠ [])

/-- The steps of the path of an entry are those of its directory and its name. -/
theorem steps_join (full : p ≠ []) (proper : Path.IsEntryName name) :
    steps (p.join name) = namedSteps p ++ [name] := by
  obtain ⟨q, joined, base⟩ := Path.join_eq_append full proper.isAbsolute_eq
  have ends : (q ++ Path.slash :: name).getLast? = name.getLast? := by
    rw [← List.singleton_append, ← List.append_assoc,
      List.getLast?_append_of_ne_nil _ proper.ne_nil]
  have inside : name.getLast? ≠ some Path.slash := fun last =>
    proper.noSlash (List.mem_of_getLast? last)
  have kept : (Path.pieces name).filter (· ≠ []) = [name] := by
    simp [Path.pieces_of_noSlash proper.noSlash, proper.ne_nil]
  have same : namedSteps p = namedSteps q := by
    rcases base with rfl | rfl
    · rfl
    · rw [namedSteps, Path.pieces_append_slash, List.filter_append]
      exact List.append_nil _
  rw [joined, steps, ends, if_neg inside, Path.pieces_append_slash, List.filter_append, kept, same,
    namedSteps]

/-- The step to the directory itself leads nowhere else. -/
theorem walk_self {root place here : Place} {links : Nat}
    (walked : walk root true links place [self] = .ok here) : place = here := by
  rw [walk] at walked
  split at walked
  · rw [if_pos rfl, walk] at walked
    exact Except.ok.inj walked
  · cases walked

/-- From where a path leads a walk goes on, whether or not the path has a separator at its end. -/
theorem walk_onward {root base here : Place} {links : Nat}
    (walked : walk root true links base (steps p) = .ok here) :
    ∃ left, ∀ follow (rest : List Bytes), rest ≠ [] →
      walk root follow links base (namedSteps p ++ rest) = walk root follow left here rest := by
  have leads := walk_leads root links base (namedSteps p)
  rw [steps, ← namedSteps] at walked
  split at walked
  · generalize walk root true links base (namedSteps p) = result at leads
    cases leads with
    | error onward =>
      rw [onward true [self] (List.cons_ne_nil _ _)] at walked
      cases walked
    | @ok left place onward =>
      rw [onward true [self] (List.cons_ne_nil _ _)] at walked
      exact ⟨left, walk_self walked ▸ onward⟩
  · rw [walked] at leads
    cases leads with
    | @ok left _ onward => exact ⟨left, onward⟩

theorem isAbsolute_join (full : p ≠ []) (proper : Path.IsEntryName name) :
    (p.join name).isAbsolute = p.isAbsolute := by
  obtain ⟨q, joined, rfl | rfl⟩ := Path.join_eq_append full proper.isAbsolute_eq
  · obtain ⟨b, bs, rfl⟩ := List.exists_cons_of_ne_nil full
    rw [joined]
    rfl
  · rw [joined]
    cases q <;> rfl

/-! ## 3. Places -/

/-- Why a path is refused before there is a walk. -/
def refused (p : Path) : Option IoError :=
  if p.isEmpty then some .notFound
  else if p.contains 0 then some .zeroByte
  else if maxPath ≤ p.length then some .nameTooLong
  else none

/-- The place at which the walk along a path begins. -/
def base (fs : FileSystem) (p : Path) : Except IoError Place :=
  if p.isAbsolute then .ok fs.root else fs.start

theorem locate_eq (fs : FileSystem) (follow : Bool) (p : Path) :
    fs.locate follow p =
      match refused p with
      | some cause => .error cause
      | none => fs.base p >>= fun base => walk fs.root follow maxLinks base (steps p) := by
  unfold locate refused base
  split_ifs <;> rfl

/-- **From a directory the walk to an entry takes one step more**, unless the path is refused. -/
theorem locate_join {here : Place} (located : fs.locate true p = .ok here)
    (proper : Path.IsEntryName name) :
    (∃ cause, ∀ follow, fs.locate follow (p.join name) = .error cause) ∨
    ∃ left, ∀ follow, fs.locate follow (p.join name) = walk fs.root follow left here [name] := by
  rw [locate_eq] at located
  have full : p ≠ [] := by
    rintro rfl
    cases located
  split at located
  · cases located
  obtain ⟨start, begun, walked⟩ := Except.bind_eq_ok.mp located
  cases hrefused : refused (p.join name) with
  | some cause => exact .inl ⟨cause, fun follow => by rw [locate_eq, hrefused]⟩
  | none =>
    obtain ⟨left, onward⟩ := walk_onward walked
    refine .inr ⟨left, fun follow => ?_⟩
    have base : fs.base (p.join name) = .ok start := by
      rwa [FileSystem.base, isAbsolute_join full proper]
    rw [locate_eq, hrefused, base, steps_join full proper]
    exact onward follow [name] (List.cons_ne_nil _ _)

/-- At its directory an entry is found, and a link that is not followed is the end of the walk. -/
theorem walk_entry {root here : Place} {left : Nat} {es : List (Bytes × Node)} {node : Node}
    (directory : here.node = .directory es) (proper : Path.IsEntryName name)
    (short : ¬maxName < name.length) (found : es.lookup name = some node) :
    walk root false left here [name] = .ok (here.down name node) := by
  rw [walk, directory]
  simp only [self, parent, proper.ne_self, proper.ne_parent, short, found, if_false]
  cases node with
  | link target => rfl
  | file content =>
    simp only
    rw [walk]
  | directory entries =>
    simp only
    rw [walk]

/-- A walk to an entry that ends in a directory has a short name and found a directory, or a link. -/
theorem node_of_walk {root here there : Place} {left : Nat} {es : List (Bytes × Node)} {node : Node}
    (directory : here.node = .directory es) (proper : Path.IsEntryName name)
    (found : es.lookup name = some node)
    (walked : walk root true left here [name] = .ok there) (leads : there.node.isDirectory = true) :
    ¬maxName < name.length ∧ (node.isDirectory = false ↔ ∃ target, node = .link target) := by
  rw [walk, directory] at walked
  simp only [self, parent, proper.ne_self, proper.ne_parent, found, if_false] at walked
  split at walked
  · cases walked
  · rename_i short
    refine ⟨short, ?_⟩
    cases node with
    | link target => simp [Node.isDirectory]
    | directory entries => simp [Node.isDirectory]
    | file content =>
      simp only at walked
      rw [walk] at walked
      cases walked
      cases leads

theorem isDirectory_iff_locate :
    fs.isDirectory p = true ↔ ∃ here, fs.locate true p = .ok here ∧ here.node.isDirectory = true := by
  unfold isDirectory
  cases fs.locate true p <;> simp

/-- A listing yields the entries of the directory at the place, where that is allowed. -/
theorem list_eq_ok_iff {es : List Entry} :
    fs.list p = .ok es ↔ ∃ here entries, fs.locate true p = .ok here ∧
      here.node = .directory entries ∧ here.names ∉ fs.unlistable ∧
      es = entries.map Node.entryOf := by
  unfold list
  cases fs.locate true p with
  | error cause => simp [bind, Except.bind]
  | ok here =>
    have yields : Node.entryOf = fun e => ⟨e.1, e.2.isDirectory⟩ := rfl
    obtain ⟨node, above⟩ := here
    cases node with
    | directory entries =>
      by_cases h : (⟨.directory entries, above⟩ : Place).names ∈ fs.unlistable <;>
        simp [bind, Except.bind, yields, eq_comm, h]
    | file content => simp [bind, Except.bind]
    | link target => simp [bind, Except.bind]

/-- **An entry whose path leads to a directory is a link, unless it is a directory itself.** -/
theorem WellNamed.isLink_iff (named : fs.WellNamed) {es : List Entry} (listed : fs.list p = .ok es)
    {e : Entry} (he : e ∈ es) (leads : fs.isDirectory (p.join e.name) = true) :
    fs.isLink (p.join e.name) = true ↔ e.isDirectory = false := by
  have proper := named.isEntryName listed e he
  have distinct := named.nodup_names listed
  obtain ⟨here, entries, located, directory, -, rfl⟩ := list_eq_ok_iff.mp listed
  obtain ⟨⟨name, node⟩, member, rfl⟩ := List.mem_map.mp he
  obtain ⟨there, reached, ends⟩ := isDirectory_iff_locate.mp leads
  have found : entries.lookup name = some node :=
    Node.lookup_of_mem (by simpa [Function.comp_def, Node.entryOf] using distinct) member
  rcases locate_join located proper with ⟨cause, fails⟩ | ⟨left, walks⟩
  · rw [fails] at reached
    cases reached
  · rw [walks] at reached
    obtain ⟨short, link⟩ := node_of_walk directory proper found reached ends
    have unfollowed : fs.locate false (p.join name) = .ok (here.down name node) :=
      (walks false).trans (walk_entry directory proper short found)
    refine Iff.trans ?_ link.symm
    change fs.isLink (p.join name) = true ↔ _
    rw [isLink, unfollowed]
    cases node <;> simp [Place.down]

end PluginDiscovery.FileSystem
