import PluginDiscovery.Text.Utf8

/-!
# Paths

A path is a string of bytes; nothing about it is normalised when it is joined or shown.

* `join`: a path under another, an absolute one replaces it;
* `components`: what a path is made of once repeated separators and inner dots are dropped.
  `components` decides the order of paths (`le`), the parent, the file name and the extension;
* `within`: one path lies under another, component by component;
* `relativeTo`: how a path is written seen from a directory.
-/

namespace PluginDiscovery

/-- A path of a file or directory. -/
abbrev Path := Bytes

namespace Path

/-- The byte that separates components. -/
def slash : UInt8 := 0x2F

/-- The byte that separates a name from its extension. -/
def dot : UInt8 := 0x2E

/-- A path spelled by a text. -/
def ofString (s : String) : Path :=
  Utf8.encode s

/-- The text a path is shown as. -/
def shown (p : Path) : String :=
  Utf8.lossy p

/-- Whether a path starts at the root. -/
def isAbsolute (p : Path) : Bool :=
  p.head? == some slash

/-! ## 1. Joining -/

/-- The path `b` seen from `a`: `b` itself when it is absolute or `a` is empty, and otherwise
    both with one separator between them, none added where `a` ends in one. -/
def join (a b : Path) : Path :=
  if b.isAbsolute then b
  else if a.isEmpty then b
  else if a.getLast? = some slash then a ++ b
  else a ++ slash :: b

/-! ## 2. Components -/

/-- The pieces between separators; there is always one, and joined by separators they give the
    bytes back. -/
def pieces : Bytes → List Bytes
  | [] => [[]]
  | b :: bs =>
    if b = slash then [] :: pieces bs
    else
      match pieces bs with
      | [] => [[b]]
      | p :: ps => (b :: p) :: ps

/-- A component of a path. -/
inductive Component where
  | root
  | current
  | parent
  | name (bytes : Bytes)
  deriving DecidableEq, Repr

/-- The components that the pieces after the first one give: empty pieces and dots say nothing. -/
def inner (piece : Bytes) : Option Component :=
  if piece = [] ∨ piece = [dot] then none
  else if piece = [dot, dot] then some .parent
  else some (.name piece)

/-- The component of the first piece: an empty one is the root of an absolute path, and a dot
    at the beginning is kept. -/
def leading (p : Path) (piece : Bytes) : Option Component :=
  if piece = [] then (if p.isAbsolute then some .root else none)
  else if piece = [dot] then some .current
  else inner piece

/-- The components of a path. -/
def components (p : Path) : List Component :=
  match pieces p with
  | [] => []
  | first :: rest => (leading p first).toList ++ rest.filterMap inner

/-- A component as a key of the order: the root, the dot and the double dot come before names,
    and names follow their bytes. -/
def Component.key : Component → List Nat
  | .root => [0]
  | .current => [1]
  | .parent => [2]
  | .name bs => 3 :: bs.map UInt8.toNat

/-- The order of lists by their first difference, where the elements are ordered by `le`; a list
    comes after its beginnings. -/
def lexLe {α : Type} (le : α → α → Bool) : List α → List α → Bool
  | [], _ => true
  | _ :: _, [] => false
  | a :: as, b :: bs => le a b && (!le b a || lexLe le as bs)

/-- The order of paths: component by component. -/
def le (p q : Path) : Bool :=
  lexLe (lexLe fun m n => decide (m ≤ n)) (p.components.map Component.key)
    (q.components.map Component.key)

/-- Whether the components of `p` begin with those of `q`. -/
def within (p q : Path) : Bool :=
  q.components.isPrefixOf p.components

/-! ## 3. File name, parent and extension -/

/-- Whether a piece is one that the components of its path keep, for the piece at index `i`. -/
def counts (i : Nat) (piece : Bytes) : Bool :=
  piece != [] && (piece != [dot] || i == 0)

/-- The pieces up to the last one that counts. -/
def trimmed (ps : List Bytes) : List Bytes :=
  ps.take (((List.range ps.length).filter fun i => counts i (ps[i]?.getD [])).getLast?.elim 0 (· + 1))

/-- Pieces joined by separators. -/
def ofPieces : List Bytes → Path
  | [] => []
  | [p] => p
  | p :: ps => p ++ slash :: ofPieces ps

/-- The last component, if it is a name. -/
def fileName? (p : Path) : Option Bytes :=
  match p.components.getLast? with
  | some (.name n) => some n
  | _ => none

/-- The path without its last component; the root and the empty path have none. -/
def parent? (p : Path) : Option Path :=
  match trimmed (pieces p) with
  | [] => none
  | kept =>
    match trimmed kept.dropLast with
    | [] => some (if p.isAbsolute then [slash] else [])
    | rest => some (ofPieces rest)

/-- The path with its file name replaced; a path without one gets the name added. -/
def withFileName (p : Path) (name : Path) : Path :=
  match p.fileName? with
  | some _ => join (p.parent?.getD []) name
  | none => join p name

/-- What follows the last dot of a name, unless that dot begins the name or there is none. -/
def extensionOf (name : Bytes) : Option Bytes :=
  let tail := name.reverse.takeWhile (· != dot)
  if tail.length + 1 < name.length then some tail.reverse else none

/-- The extension of the file name. -/
def extension? (p : Path) : Option Bytes :=
  p.fileName?.bind extensionOf

/-- The path up to the end of its file name, with another extension there; a path without a file
    name stays as it is. -/
def withExtension (p : Path) (extension : Bytes) : Path :=
  match p.fileName? with
  | some name =>
    let kept := ofPieces (trimmed (pieces p))
    let old := (extensionOf name).elim 0 (·.length + 1)
    kept.take (kept.length - old) ++ dot :: extension
  | none => p

/-! ## 4. Seen from a directory -/

/-- Components written as a path. -/
def Component.bytes : Component → Bytes
  | .root => [slash]
  | .current => [dot]
  | .parent => [dot, dot]
  | .name bs => bs

/-- The components that lead from the directory with the components `base` to `target`. -/
def relativeComponents : List Component → List Component → List Component
  | t :: target, b :: base =>
    if t = b then relativeComponents target base
    else .parent :: (base.map fun _ => .parent) ++ t :: target
  | target, base => (base.map fun _ => .parent) ++ target

/-- An absolute path as it is written seen from an absolute directory. -/
def relativeTo (p base : Path) : Path :=
  (relativeComponents p.components base.components).foldl (fun path c => join path c.bytes) []

end Path

end PluginDiscovery
