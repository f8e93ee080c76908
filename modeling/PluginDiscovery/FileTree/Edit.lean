import PluginDiscovery.FileTree.Basic

/-!
# Changing a tree of files

The operations that put something into a tree: a directory, a file, a link; and the one that takes
something out. Each works on the place its path leads to and leaves the rest of the tree as it was.
-/

namespace PluginDiscovery

namespace Node

/-- Entries with one of them set; a new name goes to the end. -/
def setEntry (name : Bytes) (node : Node) : List (Bytes × Node) → List (Bytes × Node)
  | [] => [(name, node)]
  | (n, old) :: rest => if n = name then (name, node) :: rest else (n, old) :: setEntry name node rest

/-- Entries without one of them. -/
def dropEntry (name : Bytes) (entries : List (Bytes × Node)) : List (Bytes × Node) :=
  entries.filter fun e => e.1 ≠ name

/-- A node for the root of the tree, when `node` takes the place that the way up leads from. -/
def rebuild (node : Node) : List (Bytes × Node) → Node
  | [] => node
  | (name, parent) :: rest => rebuild (.directory (setEntry name node parent.entries)) rest

end Node

namespace FileSystem

/-- The tree with another node at a place. -/
def put (fs : FileSystem) (here : Place) (node : Node) : FileSystem :=
  { fs with tree := node.rebuild here.above }

/-- The directory that holds the last step of a path, and that step. -/
def holder (fs : FileSystem) (p : Path) : Except IoError (Place × Bytes) := do
  if p.isEmpty then .error .notFound
  else if p.contains 0 then .error .zeroByte
  else if maxPath ≤ p.length then .error .nameTooLong
  else
    let way := (Path.pieces p).filter (· ≠ [])
    let start ← if p.isAbsolute then .ok fs.root else fs.start
    match way.getLast? with
    | none => .ok (start, self)
    | some last =>
      let here ← walk fs.root true maxLinks start way.dropLast
      if maxName < last.length then .error .nameTooLong
      else if here.node.isDirectory then .ok (here, last)
      else .error .notDirectory

/-- The tree with a new empty directory. -/
def makeDirectory (fs : FileSystem) (p : Path) : Except IoError FileSystem := do
  let (here, name) ← fs.holder p
  if name = self ∨ name = parent then .error .alreadyExists
  else
    match here.node.entries.lookup name with
    | some _ => .error .alreadyExists
    | none => .ok (fs.put here (.directory (Node.setEntry name (.directory []) here.node.entries)))

/-- The tree with a directory and all that are missing above it. Each of the `fuel` steps goes one
    directory up. -/
def makeDirectoriesFrom : Nat → FileSystem → Path → Except IoError FileSystem
  | 0, _, _ => .error .notFound
  | fuel + 1, fs, p =>
    if p.components.isEmpty then .ok fs
    else
      let again (fs : FileSystem) : Except IoError FileSystem :=
        match fs.makeDirectory p with
        | .ok made => .ok made
        | .error e => if fs.isDirectory p then .ok fs else .error e
      match fs.makeDirectory p with
      | .ok made => .ok made
      | .error e =>
        if e = .notFound then
          match p.parent? with
          | some above => (makeDirectoriesFrom fuel fs above).bind again
          | none => .error e
        else if fs.isDirectory p then .ok fs
        else .error e

/-- The tree with a directory and all that are missing above it. -/
def makeDirectories (fs : FileSystem) (p : Path) : Except IoError FileSystem :=
  makeDirectoriesFrom (p.length + 2) fs p

/-- Whether a path ends in a separator, and so can only be that of a directory. -/
def endsInSlash (p : Path) : Bool :=
  p.getLast? = some Path.slash

/-- The tree with a file of the given content: an existing file is overwritten, and through a link
    to nothing its target is made. Each of the `links` steps follows one such link. -/
def writeFrom (fs : FileSystem) (content : Content) : Nat → Path → Place → Bytes →
    Except IoError FileSystem
  | links, whole, here, name =>
    if name = self ∨ name = parent ∨ endsInSlash whole then .error .isDirectory
    else if maxName < name.length then .error .nameTooLong
    else
      match here.node.entries.lookup name with
      | some (.directory _) => .error .isDirectory
      | some (.link target) =>
        match links with
        | 0 => .error .tooManyLinks
        | links + 1 => do
          let way := (Path.pieces target).filter (· ≠ [])
          let start := if target.isAbsolute then fs.root else here
          match way.getLast? with
          | none => .error .isDirectory
          | some last =>
            let next ← walk fs.root true maxLinks start way.dropLast
            if next.node.isDirectory then writeFrom fs content links target next last
            else .error .notDirectory
      | _ => .ok (fs.put here (.directory (Node.setEntry name (.file content) here.node.entries)))

/-- Whether there are more links on the way along a path than a walk follows. -/
def givesUp (fs : FileSystem) (p : Path) : Bool :=
  match fs.locate true p with
  | .ok _ => false
  | .error cause => cause = .tooManyLinks

/-- The tree with a file of the given content. The links on the whole way to the file count
    together. -/
def write (fs : FileSystem) (p : Path) (content : Content) : Except IoError FileSystem := do
  let (here, name) ← fs.holder p
  let written ← writeFrom fs content maxLinks p here name
  if fs.givesUp p then .error .tooManyLinks else .ok written

/-- The tree with a symbolic link. -/
def makeLink (fs : FileSystem) (p target : Path) : Except IoError FileSystem := do
  let (here, name) ← fs.holder p
  if name = self ∨ name = parent then .error .alreadyExists
  else
    match here.node.entries.lookup name with
    | some _ => .error .alreadyExists
    | none =>
      if endsInSlash p then .error .notFound
      else .ok (fs.put here (.directory (Node.setEntry name (.link target) here.node.entries)))

/-- The file system without what is known about a directory and all below it. -/
def forget (fs : FileSystem) (names : List Bytes) : FileSystem :=
  { fs with unlistable := fs.unlistable.filter fun known => !names.isPrefixOf known }

/-- The tree without a file, a link or a directory and all below it. -/
def remove (fs : FileSystem) (p : Path) : Except IoError FileSystem := do
  let (here, name) ← fs.holder p
  match here.node.entries.lookup name with
  | none => .error .notFound
  | some _ =>
    .ok ((fs.forget (here.names ++ [name])).put here
      (.directory (Node.dropEntry name here.node.entries)))

end FileSystem

end PluginDiscovery
