import PluginDiscovery.Cli.Listing

/-!
# The text of a listing

What a listing looks like, drawn from its rows. As data it is an array with an object for each row
and a line for each field. As a table it has a frame in which every line of a cell stands in its
column, with blanks up to the width of the widest one.

* `dataText`: rows of fields as they look in data, and `Listing.write_json`: listings look so;
* `frameText`: rows of cells as they look in a frame, and `Listing.write_table`: tables look so;
* `Listing.Full`: all rows have a cell for each column, which both take for granted.
-/

namespace PluginDiscovery

/-! ## 1. Joined texts -/

/-- Texts between two others, one after the other. -/
theorem join_between (before after : String) (texts : List String) (some : texts ≠ []) :
    String.join (texts.map fun t => before ++ t ++ after) =
      before ++ (after ++ before).intercalate texts ++ after := by
  induction texts with
  | nil => contradiction
  | cons t rest ih =>
    cases rest with
    | nil => simp
    | cons u rest =>
      rw [List.map_cons, String.join_cons, ih (List.cons_ne_nil _ _),
        String.intercalate_cons_of_ne_nil (List.cons_ne_nil _ _)]
      simp only [String.append_assoc]

/-- Lines that are joined, each with its end. -/
theorem join_lines (lines : List String) (some : lines ≠ []) :
    String.join (lines.map (· ++ "\n")) = "\n".intercalate lines ++ "\n" := by
  simpa using join_between "" "\n" lines some

theorem join_flatMap {α : Type} (f : α → List String) (l : List α) :
    String.join (l.flatMap f) = String.join (l.map fun a => String.join (f a)) := by
  induction l with
  | nil => rfl
  | cons a rest ih => rw [List.flatMap_cons, String.join_append, ih, List.map_cons, String.join_cons]

/-! ## 2. Listings -/

/-- All rows have a cell for each of the columns, of which there are some. -/
structure Listing.Full (l : Listing) : Prop where
  columns : l.columns ≠ []
  cells : ∀ row ∈ l.rows, row.length = l.columns.length

/-! ## 3. Data -/

/-- An object of an array: a line for each field, given the keys and values as they are written. -/
def objectText (fields : List (String × String)) : String :=
  "\x7b\n" ++ ",\n".intercalate (fields.map fun (key, value) => "    " ++ key ++ ": " ++ value) ++
    "\n  \x7d"

/-- An array of objects. -/
def dataText (rows : List (List (String × String))) : String :=
  if rows.isEmpty then "[]\n"
  else "[\n" ++ ",\n".intercalate (rows.map fun fields => "  " ++ objectText fields) ++ "\n]\n"

/-- A cell as it is written in data. -/
def Cell.coded : Cell → String
  | .text s => Json.quote s
  | .number n => toString n
  | .truth b => toString b

namespace Json

theorem prettyItems_eq (level : Nat) (items : List Json) :
    prettyItems level items = ",\n".intercalate (items.map fun j => indent level ++ prettyAt level j) := by
  induction items with
  | nil => simp [prettyItems]
  | cons j rest ih =>
    cases rest with
    | nil => simp [prettyItems]
    | cons k rest =>
      rw [prettyItems, ih]
      · simp only [List.map_cons, String.intercalate_cons_cons]
      · exact List.cons_ne_nil k rest

theorem prettyFields_eq (level : Nat) (fields : List (String × Json)) :
    prettyFields level fields = ",\n".intercalate (fields.map fun (key, j) =>
      indent level ++ quote key ++ ": " ++ prettyAt level j) := by
  induction fields with
  | nil => simp [prettyFields]
  | cons field rest ih =>
    cases rest with
    | nil => simp [prettyFields]
    | cons next rest =>
      rw [prettyFields, ih]
      · simp only [List.map_cons, String.intercalate_cons_cons]
      · exact List.cons_ne_nil next rest

end Json

/-- A cell in data has no parts. -/
theorem Cell.prettyAt_toJson (level : Nat) (cell : Cell) :
    Json.prettyAt level cell.toJson = cell.coded := by
  cases cell with
  | text s => simp [toJson, coded, Json.prettyAt, Json.scalar]
  | number n =>
    simp only [toJson, coded, Json.prettyAt, Json.scalar]
    rfl
  | truth b =>
    simp only [toJson, coded, Json.prettyAt]
    cases b <;> rfl

namespace Listing

/-- A row as data: the fields of an object. -/
def fieldsOf (l : Listing) (row : List Cell) : List (String × String) :=
  l.columns.zipWith (fun column cell => (Json.quote column.key, cell.coded)) row

theorem Full.pretty_rowToJson {l : Listing} (full : l.Full) {row : List Cell} (h : row ∈ l.rows) :
    Json.prettyAt 1 (rowToJson l.columns row) = objectText (l.fieldsOf row) := by
  have some : l.columns.zipWith (fun column cell => (column.key, Cell.toJson cell)) row ≠ [] := by
    rw [← List.length_pos_iff, List.length_zipWith, full.cells row h, Nat.min_self]
    exact List.length_pos_iff.mpr full.columns
  have indented : Json.indent 2 = "    " := by decide
  have closed : Json.indent 1 = "  " := by decide
  rw [rowToJson, Json.prettyAt, Json.prettyFields_eq, List.map_zipWith, objectText, fieldsOf,
    List.map_zipWith]
  · simp only [Cell.prettyAt_toJson, indented, closed]
    simp [String.append_assoc]
  · exact some

/-- **A listing as data has an object for each row**, with a line for each of its cells. -/
theorem Full.write_json {l : Listing} (full : l.Full) :
    l.write .json = dataText (l.rows.map l.fieldsOf) := by
  have indented : Json.indent 1 = "  " := by decide
  have closed : Json.indent 0 = "" := by decide
  have objects : ((l.rows.map (rowToJson l.columns)).map fun j =>
      Json.indent 1 ++ Json.prettyAt 1 j) =
        (l.rows.map l.fieldsOf).map fun fields => "  " ++ objectText fields := by
    rw [List.map_map, List.map_map]
    refine List.map_congr_left fun row h => ?_
    rw [Function.comp_apply, Function.comp_apply, full.pretty_rowToJson h, indented]
  unfold dataText
  cases rows : l.rows with
  | nil => simp [write, toJson, Json.pretty, Json.prettyAt, rows]
  | cons row rest =>
    rw [rows] at objects
    rw [write, toJson, Json.pretty, rows, List.map_cons, Json.prettyAt, Json.prettyItems_eq,
      ← List.map_cons, objects, closed]
    · simp [String.append_assoc]
    · simp

end Listing

/-! ## 4. Tables -/

/-- A text with blanks up to a width. -/
def filled (text : String) (width : Nat) : String :=
  text ++ String.ofList (List.replicate (width - Columns.width text) ' ')

/-- A line of a frame, with a text in each column. -/
def frameLine (widths : List Nat) (texts : List String) : String :=
  "| " ++ " | ".intercalate (texts.zipWith filled widths) ++ " |\n"

/-- A line of dashes between two rows of a frame. -/
def frameRule (widths : List Nat) : String :=
  "+-" ++ "-+-".intercalate (widths.map fun w => String.ofList (List.replicate w '-')) ++ "-+\n"

/-- A row of a frame has as many lines as the longest of its cells. -/
def frameRow (widths : List Nat) (cells : List String) : String :=
  let lines := cells.map Lines.ofString
  String.join ((List.range ((lines.map List.length).foldl max 1)).map fun i =>
    frameLine widths (lines.map fun column => column[i]?.getD ""))

/-- A column is as wide as the widest line in it. -/
def columnWidth (rows : List (List String)) (i : Nat) : Nat :=
  (rows.flatMap fun cells => (Lines.ofString (cells[i]?.getD "")).map Columns.width).foldl max 0

/-- A frame with a row of titles and rows of cells. -/
def frameText (titles : List String) (rows : List (List String)) : String :=
  let widths := (List.range titles.length).map (columnWidth (titles :: rows))
  frameRule widths ++
    String.join ((titles :: rows).map fun cells => frameRow widths cells ++ frameRule widths)

/-- The greatest of some numbers that are each the greatest of others. -/
theorem foldl_max_flatMap {α : Type} (f : α → List Nat) (rows : List α) (most : Nat) :
    (rows.map fun row => (f row).foldl max 0).foldl max most = (rows.flatMap f).foldl max most := by
  induction rows generalizing most with
  | nil => rfl
  | cons row rest ih =>
    have greatest : (f row).foldl max (max most 0) = max most ((f row).foldl max 0) :=
      List.foldl_assoc
    rw [Nat.max_zero] at greatest
    rw [List.map_cons, List.foldl_cons, ih, List.flatMap_cons, List.foldl_append, greatest]

namespace Listing

theorem rule_eq {widths : List Nat} (some : widths ≠ []) :
    rule widths ++ "\n" = frameRule widths := by
  have dashes (w : Nat) : String.ofList (List.replicate (w + 2) '-') ++ "+" =
      "-" ++ String.ofList (List.replicate w '-') ++ "-+" := by
    rw [List.replicate_succ, List.replicate_succ', ← String.toList_inj]
    simp
  have joined := join_between "-" "-+" (widths.map fun w => String.ofList (List.replicate w '-'))
    (by simpa using some)
  rw [List.map_map] at joined
  simp only [rule, dashes, frameRule]
  refine (congrArg (fun t => "+" ++ t ++ "\n") joined).trans ?_
  rw [← String.toList_inj]
  simp

theorem rowLine_eq {widths : List Nat} {row : TextRow} (some : widths ≠ [])
    (square : row.length = widths.length) (i : Nat) :
    rowLine widths row i ++ "\n" = frameLine widths (row.map fun lines => lines[i]?.getD "") := by
  have cell (text : String) (w : Nat) : padded w text ++ "|" = " " ++ filled text w ++ " |" := by
    rw [padded, filled, List.replicate_succ', ← String.toList_inj]
    simp
  have filledTexts : (row.map fun lines => lines[i]?.getD "").zipWith filled widths ≠ [] := by
    rw [← List.length_pos_iff, List.length_zipWith, List.length_map, square, Nat.min_self]
    exact List.length_pos_iff.mpr some
  have joined := join_between " " " |" _ filledTexts
  rw [List.map_zipWith, List.zipWith_map_left] at joined
  simp only [rowLine, cell, frameLine]
  refine (congrArg (fun t => "|" ++ t ++ "\n") joined).trans ?_
  rw [← String.toList_inj]
  simp [List.zipWith_map_left]

/-- The lines of a cell for each cell of a row. -/
def textRow (cells : List String) : TextRow :=
  cells.map Lines.ofString

theorem rowLines_eq {widths : List Nat} {cells : List String} (some : widths ≠ [])
    (square : cells.length = widths.length) :
    String.join ((rowLines widths (textRow cells)).map (· ++ "\n")) = frameRow widths cells := by
  rw [rowLines, frameRow, List.map_map]
  refine congrArg String.join (List.map_congr_left fun i _ => ?_)
  exact rowLine_eq some (by rw [textRow, List.length_map, square]) i

theorem widths_eq {columns : Nat} {rows : List (List String)}
    (square : ∀ row ∈ rows, row.length = columns) :
    widths columns (rows.map textRow) = (List.range columns).map (columnWidth rows) := by
  refine List.map_congr_left fun i h => ?_
  rw [columnWidth, ← foldl_max_flatMap, List.map_map]
  refine congrArg (List.foldl max 0) (List.map_congr_left fun row mem => ?_)
  have here : i < row.length := (square row mem).symm ▸ List.mem_range.mp h
  rw [Function.comp_apply, textRow, List.getElem?_map, List.getElem?_eq_getElem here, widthOf]
  rfl

/-- **A table is a frame** around the titles and the cells. -/
theorem Full.write_table {l : Listing} (full : l.Full) (some : l.rows ≠ []) :
    l.write .table =
      frameText (l.columns.map Column.title) (l.rows.map fun row => row.map Cell.shown) := by
  let cells : List (List String) :=
    l.columns.map Column.title :: l.rows.map fun row => row.map Cell.shown
  have square : ∀ row ∈ cells, row.length = l.columns.length := by
    intro row h
    rcases List.mem_cons.mp h with rfl | h
    · exact List.length_map _
    · obtain ⟨row, mem, rfl⟩ := List.mem_map.mp h
      rw [List.length_map, full.cells row mem]
  have texts : (l.columns.map fun c => Lines.ofString c.title) ::
      (l.rows.map fun row => row.map fun cell => Lines.ofString cell.shown) = cells.map textRow := by
    simp [cells, textRow, Function.comp_def]
  let ws := (List.range l.columns.length).map (columnWidth cells)
  have count : ws.length = l.columns.length := by rw [List.length_map, List.length_range]
  have columns : ws ≠ [] := by
    rw [← List.length_pos_iff, count]
    exact List.length_pos_iff.mpr full.columns
  have lines : l.tableLines =
      rule ws :: (cells.map textRow).flatMap fun row => rowLines ws row ++ [rule ws] := by
    rw [tableLines, texts, widths_eq square]
  have written : l.write .table = "\n".intercalate l.tableLines ++ "\n" := by
    rw [write, List.isEmpty_eq_false_iff.mpr some, table]
    rfl
  have row (r : List String) (h : r ∈ cells) :
      String.join ((rowLines ws (textRow r) ++ [rule ws]).map (· ++ "\n")) =
        frameRow ws r ++ frameRule ws := by
    rw [List.map_append, String.join_append, rowLines_eq columns ((square r h).trans count.symm),
      List.map_singleton, String.join_cons, String.join_nil, String.append_empty, rule_eq columns]
  rw [written, lines, ← join_lines _ (List.cons_ne_nil _ _), List.map_cons, String.join_cons,
    rule_eq columns, List.map_flatMap, join_flatMap, List.map_map, frameText, List.length_map]
  exact congrArg (frameRule ws ++ String.join ·) (List.map_congr_left row)

end Listing

/-! ### A frame with two columns -/

example : frameText ["#", "At"] [["1", "/a\nb"]] =
    "+---+----+\n| # | At |\n+---+----+\n| 1 | /a |\n|   | b  |\n+---+----+\n" := by
  decide +kernel

end PluginDiscovery
