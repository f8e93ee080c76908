import PluginDiscovery.Json.Basic

/-!
# Tables of TOML documents

A document fills its tables line by line. Which line may add to which table depends on how the table
came about: by a header of its own, as a step of a longer header, or as a step of a dotted key. A
value once given is closed, arrays and inline tables included; only the last table of an array of
tables is still open.
-/

namespace PluginDiscovery.Toml

/-- How a table came about. -/
inductive Origin where
  /-- By a header of its own. -/
  | header
  /-- As a step of a longer header. -/
  | passed
  /-- As a step of a dotted key. -/
  | dotted
  deriving DecidableEq, Repr

/-- What a key stands for while the document is read: a closed value, an open table, or an array of
    tables, the last one first. -/
inductive Item where
  | value (j : Json)
  | table (origin : Origin) (entries : List (String × Item))
  | tables (last : List (String × Item)) (before : List Json)

/-- The entries of an open table. -/
abbrev Entries := List (String × Item)

/-- Entries with one of them set; a new key goes to the end. -/
def setItem (key : String) (item : Item) : Entries → Entries
  | [] => [(key, item)]
  | (k, old) :: rest => if k = key then (key, item) :: rest else (k, old) :: setItem key item rest

mutual

/-- The value of an item. -/
def Item.toJson : Item → Json
  | .value j => j
  | .table _ entries => .object (fieldsOf entries)
  | .tables last before => .array (before.reverse ++ [.object (fieldsOf last)])

/-- The fields of an open table. -/
def fieldsOf : Entries → List (String × Json)
  | [] => []
  | (key, item) :: rest => (key, item.toJson) :: fieldsOf rest

end

/-- A dotted key with its value added to a table. Every step but the last opens a table or goes
    through one without a header of its own, which no header may open from then on; the last step
    has to be new. -/
def addKey (value : Json) (entries : Entries) : List String → Option Entries
  | [] => none
  | [key] =>
    match entries.lookup key with
    | none => some (entries ++ [(key, .value value)])
    | some _ => none
  | key :: rest =>
    match entries.lookup key with
    | none => (addKey value [] rest).map fun inner => entries ++ [(key, .table .dotted inner)]
    | some (.table .header _) => none
    | some (.table _ inner) =>
      (addKey value inner rest).map fun inner => setItem key (.table .dotted inner) entries
    | some _ => none

/-- The table of a header opened. -/
def openTable (entries : Entries) : List String → Option Entries
  | [] => none
  | [key] =>
    match entries.lookup key with
    | none => some (entries ++ [(key, .table .header [])])
    | some (.table .passed inner) => some (setItem key (.table .header inner) entries)
    | some _ => none
  | key :: rest =>
    match entries.lookup key with
    | none => (openTable [] rest).map fun inner => entries ++ [(key, .table .passed inner)]
    | some (.table origin inner) =>
      (openTable inner rest).map fun inner => setItem key (.table origin inner) entries
    | some (.tables last before) =>
      (openTable last rest).map fun last => setItem key (.tables last before) entries
    | some (.value _) => none

/-- A table added to the array of tables of a header. -/
def openElement (entries : Entries) : List String → Option Entries
  | [] => none
  | [key] =>
    match entries.lookup key with
    | none => some (entries ++ [(key, .tables [] [])])
    | some (.tables last before) =>
      some (setItem key (.tables [] (.object (fieldsOf last) :: before)) entries)
    | some _ => none
  | key :: rest =>
    match entries.lookup key with
    | none => (openElement [] rest).map fun inner => entries ++ [(key, .table .passed inner)]
    | some (.table origin inner) =>
      (openElement inner rest).map fun inner => setItem key (.table origin inner) entries
    | some (.tables last before) =>
      (openElement last rest).map fun last => setItem key (.tables last before) entries
    | some (.value _) => none

/-- A key with its value added to the table of the header with the given path. -/
def addBelow (key : List String) (value : Json) (entries : Entries) : List String → Option Entries
  | [] => addKey value entries key
  | step :: rest =>
    match entries.lookup step with
    | some (.table origin inner) =>
      (addBelow key value inner rest).map fun inner => setItem step (.table origin inner) entries
    | some (.tables last before) =>
      (addBelow key value last rest).map fun last => setItem step (.tables last before) entries
    | _ => none

end PluginDiscovery.Toml
