import PluginDiscovery.FileTree.Path
import PluginDiscovery.Library
import PluginDiscovery.OsError

/-!
# A tree of files

The state of the file system as a value: directories with their entries in the order in which
listing yields them, files with their content, and symbolic links with their target as written.

* `FileSystem.locate`: where a path leads. The walk goes component by component, follows links by
  putting the components of their target in front, and gives up after forty of them, which makes it
  end on every tree;
* `isDirectory`, `isFile`: tests that follow links;
* `list`: the entries of a directory with their own type, a link to a directory is none here. Some
  directories can be passed through, but not listed;
* `read`: the content of a file.

Of the permissions only these are there: every file can be read, every directory can be searched and
written, and there are no sockets, pipes and devices.
-/

namespace PluginDiscovery

/-- The content of a file: bytes, or a shared library, whose bytes are no text. -/
inductive Content where
  | bytes (data : Bytes)
  | library (library : Library)
  deriving DecidableEq, Repr

/-- A file, a directory or a symbolic link. -/
inductive Node where
  | file (content : Content)
  | directory (entries : List (Bytes × Node))
  | link (target : Path)

namespace Node

/-- Whether the node itself is a directory. -/
def isDirectory : Node → Bool
  | .directory _ => true
  | _ => false

/-- The entries of a directory; a node of another type has none. -/
def entries : Node → List (Bytes × Node)
  | .directory es => es
  | _ => []

end Node

/-- A place in a tree: the node there, and the way back to the root, as the name taken at each
    directory with the directory itself, the nearest first. -/
structure Place where
  node : Node
  above : List (Bytes × Node)

namespace Place

/-- The place of a child. -/
def down (here : Place) (name : Bytes) (child : Node) : Place :=
  ⟨child, (name, here.node) :: here.above⟩

/-- The place of the parent; the root is its own. -/
def up (here : Place) : Place :=
  match here.above with
  | [] => here
  | (_, parent) :: rest => ⟨parent, rest⟩

/-- The names that lead from the root to the place. -/
def names (here : Place) : List Bytes :=
  (here.above.map Prod.fst).reverse

end Place

/-- The file system: its tree, the names that lead to the working directory, and those that lead to
    the directories without the permission to list them. -/
structure FileSystem where
  tree : Node
  working : List Bytes
  unlistable : List (List Bytes)

namespace FileSystem

/-! ## 1. Where a path leads -/

/-- The name of the directory itself. -/
def self : Bytes := [Path.dot]

/-- The name of the parent directory. -/
def parent : Bytes := [Path.dot, Path.dot]

/-- The longest name of an entry. -/
def maxName : Nat := 255

/-- The length from which on a path is too long. -/
def maxPath : Nat := 4096

/-- How many links a walk follows. -/
def maxLinks : Nat := 40

/-- The steps of a path. A separator at the end asks for a directory, as a dot does. -/
def steps (p : Path) : List Bytes :=
  let named := (Path.pieces p).filter (· ≠ [])
  if p.getLast? = some Path.slash then named ++ [self] else named

/-- The place where a walk along the steps ends. A link at the end is followed only when `follow`
    is set; `links` is how many links the walk may still follow. -/
def walk (root : Place) (follow : Bool) (links : Nat) (here : Place) (way : List Bytes) :
    Except IoError Place :=
  match way with
  | [] => .ok here
  | step :: rest =>
    match here.node with
    | .directory entries =>
      if step = self then walk root follow links here rest
      else if step = parent then walk root follow links here.up rest
      else if maxName < step.length then .error .nameTooLong
      else
        match entries.lookup step with
        | none => .error .notFound
        | some (.link target) =>
          if rest.isEmpty && !follow then .ok (here.down step (.link target))
          else
            match links with
            | 0 => .error .tooManyLinks
            | links + 1 =>
              if target.isEmpty then .error .notFound
              else
                walk root follow links (if target.isAbsolute then root else here)
                  (steps target ++ rest)
        | some child => walk root follow links (here.down step child) rest
    | _ => .error .notDirectory
termination_by (links, way.length)

/-- The root of the tree. -/
def root (fs : FileSystem) : Place :=
  ⟨fs.tree, []⟩

/-- The place of the working directory. -/
def start (fs : FileSystem) : Except IoError Place :=
  walk fs.root true maxLinks fs.root fs.working

/-- The place a path leads to; a link at its end is followed when `follow` is set. -/
def locate (fs : FileSystem) (follow : Bool) (p : Path) : Except IoError Place :=
  if p.isEmpty then .error .notFound
  else if p.contains 0 then .error .zeroByte
  else if maxPath ≤ p.length then .error .nameTooLong
  else if p.isAbsolute then walk fs.root follow maxLinks fs.root (steps p)
  else do walk fs.root follow maxLinks (← fs.start) (steps p)

/-! ## 2. Questions about a path -/

/-- Whether a path leads to a directory. -/
def isDirectory (fs : FileSystem) (p : Path) : Bool :=
  match fs.locate true p with
  | .ok here => here.node.isDirectory
  | .error _ => false

/-- Whether a path leads to a file. -/
def isFile (fs : FileSystem) (p : Path) : Bool :=
  match fs.locate true p with
  | .ok ⟨.file _, _⟩ => true
  | _ => false

/-- An entry of a directory: its name, and whether the entry itself is a directory. -/
structure Entry where
  name : Bytes
  isDirectory : Bool
  deriving DecidableEq, Repr

/-- The entries of a directory, in the order of the tree. -/
def list (fs : FileSystem) (p : Path) : Except IoError (List Entry) := do
  let here ← fs.locate true p
  match here.node with
  | .directory entries =>
    if fs.unlistable.contains here.names then .error .accessDenied
    else .ok (entries.map fun (name, node) => ⟨name, node.isDirectory⟩)
  | _ => .error .notDirectory

/-- The content of a file. -/
def read (fs : FileSystem) (p : Path) : Except IoError Content := do
  let here ← fs.locate true p
  match here.node with
  | .file content => .ok content
  | _ => .error .isDirectory

/-- The text of a file, which has to be valid UTF-8. -/
def readText (fs : FileSystem) (p : Path) : Except IoError String := do
  match ← fs.read p with
  | .bytes data => (Utf8.decode? data).elim (.error .notText) .ok
  | .library _ => .error .notText

end FileSystem

end PluginDiscovery
