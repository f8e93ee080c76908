import PluginDiscovery.Config.KeyPath

/-!
# Merging sources

The configuration is put together from sources, a later one over an earlier one. Tables merge key by
key; anything else, lists too, takes the place of what was there, and a table takes the place of
anything that is no table. In a source the keys of the outermost table are read as paths, so that
one of them can reach into the settings of an earlier source; the keys of an inner table are plain.
-/

namespace PluginDiscovery

/-- What a source gives: its outermost keys with their values. -/
abbrev Source := List (String × Setting)

namespace Setting

mutual

/-- A setting put over another one. -/
def mergeOver : Setting → Setting → Setting
  | .table _ incoming, below =>
    match below with
    | .table origin entries => .table origin (mergeEntries incoming entries)
    | _ => .table none (mergeEntries incoming [])
  | .scalar origin s, _ => .scalar origin s
  | .list origin items, _ => .list origin items

/-- The entries of a table put over entries. -/
def mergeEntries : List (String × Setting) → List (String × Setting) → List (String × Setting)
  | [], entries => entries
  | (key, s) :: rest, entries =>
    mergeEntries rest (setEntry key (mergeOver s (entry key entries)) entries)

end

/-- A value put over what a path leads to. -/
def assign (root : Setting) (key : String) (s : Setting) : Setting :=
  let path := KeyPath.ofText key
  updateAt s.mergeOver (.key path.root :: path.steps) root

/-- A source put over the settings so far. -/
def addSource (root : Setting) (source : Source) : Setting :=
  source.foldl (fun root (key, s) => assign root key s) root

/-- Sources put together, the first one at the bottom. -/
def ofSources (sources : List Source) : Setting :=
  sources.foldl addSource emptyTable

end Setting

end PluginDiscovery
