import PluginDiscovery.Proofs.ReorderedTrees

/-!
# Trees whose names are names

In a tree of files the entries of a directory have distinct names, and each is one component of a
path.

* `Node.WellNamed`, `FileSystem.WellNamed`: such trees, and file systems; `NamedFiles` carries the
  proof along;
* `WellNamed.reordered`: they are those that differ from themselves in the order of entries at most,
  so what holds between reordered trees holds of them;
* `WellNamed.nodup_names`, `WellNamed.isEntryName`: the names that a listing yields;
* `isDirectory_of_list`: only a directory can be listed;
* `FileSystem.copies`: a small tree of that kind, for examples.
-/

namespace PluginDiscovery

/-! ## 1. Trees -/

/-- Below each directory the names are distinct, and each is one component of a path. -/
inductive Node.WellNamed : Node → Prop where
  | file (content : Content) : WellNamed (.file content)
  | link (target : Path) : WellNamed (.link target)
  | directory {es : List (Bytes × Node)} (distinct : (es.map Prod.fst).Nodup)
      (proper : ∀ name ∈ es.map Prod.fst, Path.IsEntryName name)
      (children : ∀ e ∈ es, WellNamed e.2) : WellNamed (.directory es)

instance (name : Bytes) : Decidable (Path.IsEntryName name) :=
  decidable_of_iff (name ≠ [] ∧ Path.slash ∉ name ∧ name ≠ [Path.dot] ∧ name ≠ [Path.dot, Path.dot])
    ⟨fun ⟨h₁, h₂, h₃, h₄⟩ => ⟨h₁, h₂, h₃, h₄⟩, fun ⟨h₁, h₂, h₃, h₄⟩ => ⟨h₁, h₂, h₃, h₄⟩⟩

theorem Node.WellNamed.emptyDirectory : (Node.directory []).WellNamed :=
  .directory List.nodup_nil (fun _ h => absurd h List.not_mem_nil)
    fun _ h => absurd h List.not_mem_nil

/-- The names in the tree of the file system are names. -/
def FileSystem.WellNamed (fs : FileSystem) : Prop :=
  fs.tree.WellNamed

/-- Files whose names are names, as the system keeps them: making, writing and removing files gives
    such files again. -/
structure NamedFiles extends FileSystem where
  named : toFileSystem.WellNamed

instance : Coe NamedFiles FileSystem :=
  ⟨NamedFiles.toFileSystem⟩

theorem Node.WellNamed.reordered {node : Node} (h : node.WellNamed) : node.Reordered node := by
  induction h with
  | file content => exact .file content
  | link target => exact .link target
  | directory distinct proper _ ih => exact reordered_of_perm (.refl _) distinct proper ih

namespace FileSystem

variable {fs : FileSystem}

theorem WellNamed.reordered (h : fs.WellNamed) : fs.Reordered fs :=
  ⟨Node.WellNamed.reordered h, rfl, rfl⟩

/-! ## 2. Listings -/

/-- The names in a listing are distinct. -/
theorem WellNamed.nodup_names (h : fs.WellNamed) {p : Path} {es : List Entry}
    (listed : fs.list p = .ok es) : (es.map Entry.name).Nodup := by
  have alike := h.reordered.list_alike p
  rw [listed] at alike
  cases alike with
  | ok _ distinct _ => exact distinct

/-- The names in a listing are components of paths. -/
theorem WellNamed.isEntryName (h : fs.WellNamed) {p : Path} {es : List Entry}
    (listed : fs.list p = .ok es) : ∀ e ∈ es, Path.IsEntryName e.name := by
  have alike := h.reordered.list_alike p
  rw [listed] at alike
  cases alike with
  | ok _ _ proper => exact proper

/-- A path that can be listed leads to a directory. -/
theorem isDirectory_of_list {p : Path} {es : List Entry} (listed : fs.list p = .ok es) :
    fs.isDirectory p = true := by
  unfold list at listed
  unfold isDirectory
  cases located : fs.locate true p with
  | error cause =>
    rw [located] at listed
    cases listed
  | ok here =>
    obtain ⟨node, above⟩ := here
    rw [located] at listed
    cases node with
    | directory entries => rfl
    | file content => cases listed
    | link target => cases listed

/-! ### One file in each of two directories -/

/-- The directories `a` and `b`, each with a file `x.mod`. -/
def copies (first second : Content) : FileSystem :=
  ⟨.directory
    [(Utf8.encode "a", .directory [(Utf8.encode "x.mod", .file first)]),
     (Utf8.encode "b", .directory [(Utf8.encode "x.mod", .file second)])], [], []⟩

theorem copies_wellNamed (first second : Content) : (copies first second).WellNamed := by
  have file : ∀ name ∈ [Utf8.encode "x.mod"], Path.IsEntryName name := by decide
  have directories : ∀ name ∈ [Utf8.encode "a", Utf8.encode "b"], Path.IsEntryName name := by
    decide
  have distinct : [Utf8.encode "a", Utf8.encode "b"].Nodup := by decide
  have copy (content : Content) :
      (Node.directory [(Utf8.encode "x.mod", .file content)]).WellNamed :=
    .directory (List.nodup_singleton _) file (by simpa using Node.WellNamed.file content)
  refine .directory distinct directories ?_
  simp only [List.forall_mem_cons, List.not_mem_nil, false_imp_iff, implies_true, and_true]
  exact ⟨copy first, copy second⟩

end FileSystem

end PluginDiscovery
