import PluginDiscovery.Json.Basic

/-!
# Settings

A setting is a value that a source of the configuration gives: a scalar, a list or a table. It
remembers where it came from, a file or the environment, so that an error can name the place; what
merging itself makes has no origin.
-/

namespace PluginDiscovery

/-- A setting that is neither a list nor a table. -/
inductive Scalar where
  | nothing
  | boolean (b : Bool)
  | integer (i : Int)
  | float (x : Binary64)
  | text (s : String)
  deriving DecidableEq, Repr

/-- A value of the configuration, with its origin. -/
inductive Setting where
  | scalar (origin : Option String) (s : Scalar)
  | list (origin : Option String) (items : List Setting)
  | table (origin : Option String) (entries : List (String × Setting))
  deriving Repr

namespace Setting

/-- Where a setting came from. -/
def origin : Setting → Option String
  | .scalar origin _ => origin
  | .list origin _ => origin
  | .table origin _ => origin

/-- The setting that stands where nothing was given. -/
def nothing : Setting := .scalar none .nothing

/-- Whether nothing was given. -/
def isNothing : Setting → Bool
  | .scalar _ .nothing => true
  | _ => false

/-- The table without an entry. -/
def emptyTable : Setting := .table none []

/-- A setting as a table: anything else counts as the empty one. -/
def asTable : Setting → Option String × List (String × Setting)
  | .table origin entries => (origin, entries)
  | _ => (none, [])

/-- A setting as a list: anything else counts as the empty one. -/
def asList : Setting → Option String × List Setting
  | .list origin items => (origin, items)
  | _ => (none, [])

/-- Entries with one of them set; a new key goes to the end. -/
def setEntry (key : String) (s : Setting) : List (String × Setting) → List (String × Setting)
  | [] => [(key, s)]
  | (k, old) :: rest => if k = key then (key, s) :: rest else (k, old) :: setEntry key s rest

/-- The entry of a key, or nothing. -/
def entry (key : String) (entries : List (String × Setting)) : Setting :=
  (entries.lookup key).getD nothing

mutual

/-- The value of a document as a setting. -/
def ofJson (origin : Option String) : Json → Setting
  | .null => .scalar origin .nothing
  | .boolean b => .scalar origin (.boolean b)
  | .integer i => .scalar origin (.integer i)
  | .float x => .scalar origin (.float x)
  | .text s => .scalar origin (.text s)
  | .array items => .list origin (ofItems origin items)
  | .object fields => .table origin (ofFields origin fields)

/-- The items of an array as settings. -/
def ofItems (origin : Option String) : List Json → List Setting
  | [] => []
  | j :: rest => ofJson origin j :: ofItems origin rest

/-- The fields of an object as entries. -/
def ofFields (origin : Option String) : List (String × Json) → List (String × Setting)
  | [] => []
  | (key, j) :: rest => (key, ofJson origin j) :: ofFields origin rest

end

end Setting

end PluginDiscovery
