import PluginDiscovery.Cli.Invocation
import PluginDiscovery.Json.Printer
import PluginDiscovery.Text.Columns
import PluginDiscovery.Text.Lines

/-!
# Listings

A listing is a list of rows under named columns. As data it is an array of objects, a key for each
column; as a table it has a frame of dashes, bars and plus signs, a rule after every row, and every
column as wide as its widest line.

* `Listing.toJson`: a listing as data;
* `Listing.table`: a listing as a table. A cell with line feeds takes several lines, and the lines
  that a shorter cell of the row lacks stay blank.
-/

namespace PluginDiscovery

/-- The value of a cell. -/
inductive Cell where
  | text (s : String)
  | number (n : Nat)
  | truth (b : Bool)
  deriving DecidableEq, Repr

namespace Cell

/-- The text of a cell in a table. -/
def shown : Cell → String
  | .text s => s
  | .number n => toString n
  | .truth b => toString b

/-- A cell as data. -/
def toJson : Cell → Json
  | .text s => .text s
  | .number n => .integer n
  | .truth b => .boolean b

end Cell

/-- A column: its key in data, and its title in a table. -/
structure Column where
  key : String
  title : String
  deriving DecidableEq, Repr

/-- Rows of cells under columns. -/
structure Listing where
  columns : List Column
  rows : List (List Cell)
  deriving DecidableEq, Repr

namespace Listing

/-! ## 1. As data -/

/-- A row as an object. -/
def rowToJson (columns : List Column) (row : List Cell) : Json :=
  .object (columns.zipWith (fun column cell => (column.key, cell.toJson)) row)

/-- A listing as an array. -/
def toJson (l : Listing) : Json :=
  .array (l.rows.map (rowToJson l.columns))

/-! ## 2. As a table -/

/-- A row of a table: the lines of each of its cells. -/
abbrev TextRow := List (List String)

/-- The width of a cell, which is that of its widest line. -/
def widthOf (cell : List String) : Nat :=
  (cell.map Columns.width).foldl max 0

/-- The widths of the columns of a table. -/
def widths (columns : Nat) (rows : List TextRow) : List Nat :=
  (List.range columns).map fun i =>
    (rows.map fun row => widthOf (row[i]?.getD [])).foldl max 0

/-- A line of a cell, with blanks up to the width of the column and one more on both sides. -/
def padded (width : Nat) (line : String) : String :=
  " " ++ line ++ String.ofList (List.replicate (width - Columns.width line + 1) ' ')

/-- The rule between two rows. -/
def rule (widths : List Nat) : String :=
  "+" ++ String.join (widths.map fun w => String.ofList (List.replicate (w + 2) '-') ++ "+")

/-- One line of a row. -/
def rowLine (widths : List Nat) (row : TextRow) (i : Nat) : String :=
  "|" ++ String.join (row.zipWith (fun cell w => padded w (cell[i]?.getD "") ++ "|") widths)

/-- The lines of a row. -/
def rowLines (widths : List Nat) (row : TextRow) : List String :=
  (List.range ((row.map List.length).foldl max 1)).map (rowLine widths row)

/-- The lines of a table. -/
def tableLines (l : Listing) : List String :=
  let head : TextRow := l.columns.map fun c => Lines.ofString c.title
  let body : List TextRow := l.rows.map fun row => row.map fun cell => Lines.ofString cell.shown
  let ws := widths l.columns.length (head :: body)
  rule ws :: (head :: body).flatMap fun row => rowLines ws row ++ [rule ws]

/-- A listing as a table. -/
def table (l : Listing) : String :=
  "\n".intercalate l.tableLines

/-! ## 3. As the user asks for it -/

/-- What a table without a row says instead. -/
def nothingFound : String := "No results found."

/-- A listing in a format, as lines of text. -/
def write (l : Listing) (format : OutputFormat) : String :=
  match format with
  | .table => (if l.rows.isEmpty then nothingFound else l.table) ++ "\n"
  | .json => l.toJson.pretty ++ "\n"

end Listing

end PluginDiscovery
