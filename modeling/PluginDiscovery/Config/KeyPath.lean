import PluginDiscovery.Config.Setting

/-!
# Key paths

A key path leads to a value inside nested tables and lists: `plugins.types[0].name`. A name is made
of letters, digits, underscores and dashes of ASCII, and an index may count from the end.

* `KeyPath.parse?`: the path a text spells, if it spells one;
* `Setting.updateAt`: changes the value a path leads to. What is missing on the way is made: a
  setting that is no table where a name is asked for becomes an empty one, likewise a list, and a
  list is filled up with nothings until it has the index.
-/

namespace PluginDiscovery

/-- A step of a path: into a table by a key, or into a list by an index. -/
inductive KeyStep where
  | key (name : String)
  | index (i : Int)
  deriving DecidableEq, Repr

/-- A path from a key of the outermost table on. -/
structure KeyPath where
  root : String
  steps : List KeyStep
  deriving DecidableEq, Repr

namespace KeyPath

/-! ## 1. Reading -/

/-- Whether a character may be part of a name. -/
def isNameChar (c : Char) : Bool :=
  (decide ('a' ≤ c) && decide (c ≤ 'z')) || (decide ('A' ≤ c) && decide (c ≤ 'Z'))
    || (decide ('0' ≤ c) && decide (c ≤ '9')) || c = '_' || c = '-'

/-- Whether a character is a decimal digit. -/
def isDigit (c : Char) : Bool :=
  decide ('0' ≤ c) && decide (c ≤ '9')

/-- Whether a character may stand around an index. -/
def isBlank (c : Char) : Bool :=
  c = ' ' || c = '\t'

/-- The name at the beginning of a text, and the text after it. -/
def name? (cs : List Char) : Option (String × List Char) :=
  let name := cs.takeWhile isNameChar
  if name.isEmpty then none else some (String.ofList name, cs.dropWhile isNameChar)

/-- The index in brackets whose opening one is read, and the text after the closing one. -/
def index? (cs : List Char) : Option (Int × List Char) :=
  let cs := cs.dropWhile isBlank
  let (negative, cs) :=
    match cs with
    | '-' :: rest => (true, rest)
    | _ => (false, cs)
  let digits := cs.takeWhile isDigit
  let n : Nat := digits.foldl (fun v c => v * 10 + (c.toNat - 48)) 0
  let i : Int := if negative then -(n : Int) else n
  match (cs.dropWhile isDigit).dropWhile isBlank with
  | ']' :: rest =>
    if digits.isEmpty ∨ i < -(Int.pow 2 63) ∨ Int.pow 2 63 ≤ i then none else some (i, rest)
  | _ => none

/-- The steps that a text spells to its end. Each takes more than one character of it. -/
def steps? : Nat → List Char → Option (List KeyStep)
  | _, [] => some []
  | 0, _ => none
  | fuel + 1, '.' :: cs => do
    let (name, rest) ← name? cs
    return .key name :: (← steps? fuel rest)
  | fuel + 1, '[' :: cs => do
    let (i, rest) ← index? cs
    return .index i :: (← steps? fuel rest)
  | _, _ => none

/-- The path a text spells. -/
def parse? (s : String) : Option KeyPath := do
  let (root, rest) ← name? s.toList
  return ⟨root, ← steps? rest.length rest⟩

/-- The path for a text: the one it spells, or else the whole text as a single key. -/
def ofText (s : String) : KeyPath :=
  (parse? s).getD ⟨s, []⟩

end KeyPath

/-! ## 2. Writing -/

namespace KeyStep

/-- A path as errors show it: a dot joins a key to a key after it, and nothing else is joined. -/
def shown : List KeyStep → String
  | [] => ""
  | .key name :: rest =>
    let tail := shown rest
    if tail.isEmpty || tail.startsWith "[" then name ++ tail else name ++ "." ++ tail
  | .index i :: rest => "[" ++ toString i ++ "]" ++ shown rest

end KeyStep

namespace Setting

/-! ## 3. Following -/

/-- A list that has the index, filled up with nothings, and the position of the index in it. A
    positive index past the end fills up at the end, a negative one before the beginning there. -/
def reach (items : List Setting) (i : Int) : List Setting × Nat :=
  if 0 ≤ i then
    (items ++ List.replicate (i.toNat + 1 - items.length) nothing, i.toNat)
  else if i.natAbs ≤ items.length then (items, items.length - i.natAbs)
  else (List.replicate (i.natAbs - items.length) nothing ++ items, 0)

/-- The setting with the value at the end of the steps changed. -/
def updateAt (change : Setting → Setting) : List KeyStep → Setting → Setting
  | [], s => change s
  | .key name :: rest, s =>
    let (origin, entries) := s.asTable
    .table origin (setEntry name (updateAt change rest (entry name entries)) entries)
  | .index i :: rest, s =>
    let (origin, items) := s.asList
    let (items, position) := reach items i
    .list origin (items.set position (updateAt change rest ((items[position]?).getD nothing)))

end Setting

end PluginDiscovery
